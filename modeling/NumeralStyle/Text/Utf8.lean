import NumeralStyle.Text.Quoted

/-! UTF-8. Bytes are decoded strictly, and the first bytes that no text has are reported with the
reason: a byte that starts no character, a character that goes on wrongly, or bytes that end within
a character. -/
namespace NumeralStyle.Utf8

/-- Why bytes are not UTF-8. -/
inductive Reason
  | invalidStart
  | invalidContinuation
  | unexpectedEnd
  deriving DecidableEq, Repr

/-- The reason in words. -/
def Reason.message : Reason → String
  | .invalidStart => "invalid start byte"
  | .invalidContinuation => "invalid continuation byte"
  | .unexpectedEnd => "unexpected end of data"

/-- Bytes that are not UTF-8: the first of them, its index, and how many they are. -/
structure Fault where
  first : UInt8
  index : Nat
  count : Nat
  reason : Reason
  deriving DecidableEq, Repr

/-- The fault in words. -/
def Fault.message (fault : Fault) : String :=
  "'utf-8' codec can't decode " ++
    (if fault.count = 1 then
      "byte 0x" ++ String.ofList (Text.hexDigits 2 fault.first.toNat) ++ " in position " ++
        toString fault.index
    else
      "bytes in position " ++ toString fault.index ++ "-" ++
        toString (fault.index + fault.count - 1)) ++
    ": " ++ fault.reason.message

/-- Whether a byte continues a character. -/
def continues (byte : UInt8) : Bool := 0x80 ≤ byte && byte ≤ 0xBF

/-- Whether a second byte may follow the first byte of a character: after four of the first bytes
some continuations would make a character too long, a surrogate, or a number beyond Unicode. -/
def follows (first second : UInt8) : Bool :=
  continues second &&
    (if first = 0xE0 then 0xA0 ≤ second
     else if first = 0xED then second < 0xA0
     else if first = 0xF0 then 0x90 ≤ second
     else if first = 0xF4 then second < 0x90
     else true)

/-- The payload of a continuation byte. -/
def payload (byte : UInt8) : Nat := byte.toNat % 64

/-- The text that bytes encode. `index` is the index of the next byte, and `read` holds the
characters read so far, the last one first. -/
def decodeFrom (index : Nat) (read : Text) : List UInt8 → Except Fault Text
  | [] => .ok read.reverse
  | first :: rest =>
    let fault (count : Nat) (reason : Reason) : Except Fault Text :=
      .error ⟨first, index, count, reason⟩
    if first < 0x80 then decodeFrom (index + 1) (Char.ofNat first.toNat :: read) rest
    else if first < 0xC2 || 0xF4 < first then fault 1 .invalidStart
    else
      match rest with
      | [] => fault 1 .unexpectedEnd
      | second :: rest =>
        if !follows first second then fault 1 .invalidContinuation
        else if first < 0xE0 then
          let c := Char.ofNat (first.toNat % 32 * 64 + payload second)
          decodeFrom (index + 2) (c :: read) rest
        else
          match rest with
          | [] => fault 2 .unexpectedEnd
          | third :: rest =>
            if !continues third then fault 2 .invalidContinuation
            else if first < 0xF0 then
              let c := Char.ofNat
                ((first.toNat % 16 * 64 + payload second) * 64 + payload third)
              decodeFrom (index + 3) (c :: read) rest
            else
              match rest with
              | [] => fault 3 .unexpectedEnd
              | fourth :: rest =>
                if !continues fourth then fault 3 .invalidContinuation
                else
                  let c := Char.ofNat
                    (((first.toNat % 8 * 64 + payload second) * 64 + payload third) * 64 +
                      payload fourth)
                  decodeFrom (index + 4) (c :: read) rest

/-- The text that bytes encode. -/
def decode (bytes : List UInt8) : Except Fault Text := decodeFrom 0 [] bytes

/-- The text that bytes encode, where each stretch of bytes that no text has is replaced. Every
fault takes at least one byte, so one more than the number of bytes is fuel enough. -/
def decodeLossyFrom : (fuel : Nat) → List UInt8 → Text
  | 0, _ => []
  | fuel + 1, bytes =>
    match decode bytes with
    | .ok text => text
    | .error fault =>
      (decode (bytes.take fault.index)).toOption.getD [] ++
        '\uFFFD' :: decodeLossyFrom fuel (bytes.drop (fault.index + fault.count))

/-- The text that bytes encode, where each stretch of bytes that no text has is replaced. -/
def decodeLossy (bytes : List UInt8) : Text := decodeLossyFrom (bytes.length + 1) bytes

end NumeralStyle.Utf8
