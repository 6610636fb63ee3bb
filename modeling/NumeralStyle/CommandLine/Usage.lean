import NumeralStyle.CommandLine.Misuse

/-! What the command line says about itself: its name and version, its usage, the help on it, and the
message on its misuse. -/
namespace NumeralStyle.CommandLine

/-- The name of the program in its messages. -/
def program : String := "numlit"

/-- The version of the program. -/
def version : String := "0.1.0"

/-- Lines, each ended by a line feed. -/
def linesOf (rows : List String) : Text := rows.flatMap fun row => row.toList ++ ['\n']

/-- How the program is called. -/
def usage : Text :=
  linesOf
    ["usage: " ++ program ++ " [-h] [--config FILE] [--decimal-group-size N]",
     "              [--radix-group-size N] [-A LINT] [-W LINT] [-D LINT] [--debug]",
     "              FILE [FILE ...]"]

/-- The usage, what the program is for, and what each argument says. -/
def help : Text :=
  usage ++ linesOf
    ["",
     "Check the style of numeric literals in Rust-like source files",
     "",
     "positional arguments:",
     "  FILE                  Source files to check",
     "",
     "options:",
     "  -h, --help            show this help message and exit",
     "  --config FILE         Config file (default: auto-discover numlit.toml)",
     "  --decimal-group-size N",
     "                        Digits per group in decimal literals (default: 3)",
     "  --radix-group-size N  Digits per group in hex/octal/binary literals",
     "                        (default: 4)",
     "  -A LINT, --allow LINT",
     "                        Do not report LINT (repeatable)",
     "  -W LINT, --warn LINT  Report LINT as a warning (repeatable)",
     "  -D LINT, --deny LINT  Report LINT as an error and exit 1 (repeatable)",
     "  --debug               Dump decomposed literals to stderr"]

/-- The usage, and what is wrong with a command line. -/
def Misuse.shown (misuse : Misuse) : Text :=
  usage ++ linesOf [program ++ ": error: " ++ misuse.message]

end NumeralStyle.CommandLine
