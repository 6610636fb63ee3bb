import NumeralStyle.Files.Path
import NumeralStyle.Text.Utf8

/-! Addresses of documents. An address is a path below the working directory, in which a percent
sign with two digits in base sixteen stands for a byte, and which a question mark or a number sign
ends. The address of a document that was never saved has a scheme of its own, and its path need not
lie below the working directory. Two addresses are of the same document where they are the same text
with every percent sign decoded, even if their paths differ. -/
namespace NumeralStyle.Editor.Address

/-- The scheme of a document that was never saved. -/
def untitled : Text := "untitled:".toList

/-- The byte of two digits in base sixteen. -/
def byte? (high low : Char) : Option UInt8 := do
  return UInt8.ofNat (16 * (← Text.hexValue? high) + (← Text.hexValue? low))

/-- The bytes of a text in which percent signs stand for bytes. -/
def bytes : Text → List UInt8
  | [] => []
  | '%' :: high :: low :: rest =>
    match byte? high low with
    | some byte => byte :: bytes rest
    | none => String.utf8EncodeChar '%' ++ bytes (high :: low :: rest)
  | c :: rest => String.utf8EncodeChar c ++ bytes rest

/-- A text in which percent signs stand for bytes, decoded. -/
def decoded (text : Text) : Text := Utf8.decodeLossy (bytes text)

/-- Whether an address is that of a document that was never saved. -/
def isUntitled (address : Text) : Bool := untitled.isPrefixOf address

/-- What the addresses of one document have in common. -/
def identity (address : Text) : Bool × Text := (isUntitled address, decoded address)

/-- The part of an address that is its path, still encoded. -/
def encodedPath (address : Text) : Text :=
  let plain := address.filter fun c => c != '\t' && c != '\r' && c != '\n'
  (plain.takeWhile (· != '#')).takeWhile (· != '?')

/-- A text without the authority that two slashes start. -/
def dropAuthority : Text → Text
  | '/' :: '/' :: rest => rest.dropWhile (· != '/')
  | text => text

/-- The path of the directory of a document. The directory that holds the working directory has a
document whose address has no names. -/
def directory (address : Text) : Path :=
  if isUntitled address then
    (Path.ofText (decoded (dropAuthority (encodedPath (address.drop untitled.length))))).parent
  else
    let file := Path.ofText ('.' :: '/' :: decoded (encodedPath address))
    if file.names = [] then file.child ['.', '.'] else file.parent

end NumeralStyle.Editor.Address
