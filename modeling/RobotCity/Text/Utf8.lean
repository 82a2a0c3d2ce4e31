/-!
# UTF-8

A character takes one to four bytes.  A sequence of bytes is refused at the first character that is
not written in the one way that UTF-8 has for it; the refusal tells which bytes are to blame.
-/

namespace RobotCity
namespace Utf8

/-- What can be wrong with a sequence of bytes. -/
inductive Defect where
  | invalidStart
  | invalidContinuation
  | unexpectedEnd
  deriving DecidableEq, Repr

/-- The wording of a defect. -/
def Defect.message : Defect → String
  | .invalidStart => "invalid start byte"
  | .invalidContinuation => "invalid continuation byte"
  | .unexpectedEnd => "unexpected end of data"

/-- A defect and the bytes to blame. -/
structure DecodeError where
  defect : Defect
  /-- How many bytes stand in front of the character. -/
  start : Nat
  /-- The first of the bytes to blame. -/
  byte : UInt8
  /-- How many bytes are to blame. -/
  count : Nat
  deriving DecidableEq, Repr

/-- Whether a byte continues a character. -/
def isContinuation (byte : UInt8) : Bool :=
  0x80 ≤ byte && byte ≤ 0xbf

/-- Whether a second byte may follow a first one: it must give neither a character that needs fewer
bytes, nor a surrogate, nor one beyond the last code point. -/
def maySecond (first second : UInt8) : Bool :=
  isContinuation second &&
    (if first = 0xe0 then 0xa0 ≤ second
    else if first = 0xed then second < 0xa0
    else if first = 0xf0 then 0x90 ≤ second
    else if first = 0xf4 then second < 0x90
    else true)

/-- The low six bits of a continuation byte. -/
def payload (byte : UInt8) : Nat := byte.toNat % 0x40

/-- Put a character in front of those decoded behind it. -/
def prepend (code : Nat) (decoded : Except DecodeError (List Char)) :
    Except DecodeError (List Char) :=
  decoded.map (Char.ofNat code :: ·)

/-- Decode bytes that stand at a position. -/
def decodeFrom (position : Nat) : List UInt8 → Except DecodeError (List Char)
  | [] => .ok []
  | first :: rest =>
    if first < 0x80 then prepend first.toNat (decodeFrom (position + 1) rest)
    else if first < 0xc2 || 0xf5 ≤ first then .error ⟨.invalidStart, position, first, 1⟩
    else
      match rest with
      | [] => .error ⟨.unexpectedEnd, position, first, 1⟩
      | second :: rest =>
        if !maySecond first second then .error ⟨.invalidContinuation, position, first, 1⟩
        else if first < 0xe0 then
          prepend (first.toNat % 0x20 * 0x40 + payload second) (decodeFrom (position + 2) rest)
        else
          match rest with
          | [] => .error ⟨.unexpectedEnd, position, first, 2⟩
          | third :: rest =>
            if !isContinuation third then .error ⟨.invalidContinuation, position, first, 2⟩
            else if first < 0xf0 then
              prepend ((first.toNat % 0x10 * 0x40 + payload second) * 0x40 + payload third)
                (decodeFrom (position + 3) rest)
            else
              match rest with
              | [] => .error ⟨.unexpectedEnd, position, first, 3⟩
              | fourth :: rest =>
                if !isContinuation fourth then .error ⟨.invalidContinuation, position, first, 3⟩
                else
                  prepend
                    (((first.toNat % 0x08 * 0x40 + payload second) * 0x40 + payload third) * 0x40 +
                      payload fourth)
                    (decodeFrom (position + 4) rest)

/-- Decode bytes. -/
def decode (bytes : List UInt8) : Except DecodeError (List Char) :=
  decodeFrom 0 bytes

/-- A continuation byte with a payload. -/
def continuation (payload : Nat) : UInt8 :=
  (0x80 + payload % 0x40).toUInt8

/-- The bytes of a character. -/
def encodeChar (c : Char) : List UInt8 :=
  let code := c.toNat
  if code < 0x80 then [code.toUInt8]
  else if code < 0x800 then [(0xc0 + code / 0x40).toUInt8, continuation code]
  else if code < 0x10000 then
    [(0xe0 + code / 0x1000).toUInt8, continuation (code / 0x40), continuation code]
  else
    [ (0xf0 + code / 0x40000).toUInt8, continuation (code / 0x1000)
    , continuation (code / 0x40), continuation code ]

/-- Encode characters. -/
def encode (text : List Char) : List UInt8 :=
  text.flatMap encodeChar

end Utf8
end RobotCity
