/-
Reading bytes as UTF-8.

`decode` gives the text of a byte sequence, or the first fault with the reason and the bytes that it
spans: a byte that cannot start a character, a byte that cannot continue one, or an end of the data
inside a character.
-/
import SpecifierLint.Text.Basic

namespace SpecifierLint.Text

/-- Why bytes are not UTF-8. -/
inductive DecodeReason where
  | startByte
  | continuationByte
  | endOfData
  deriving DecidableEq, Repr

/-- The first fault of a byte sequence: its reason, the byte where it starts, that byte's position,
and the number of bytes that it spans. -/
structure DecodeFault where
  reason : DecodeReason
  byte : UInt8
  position : Nat
  size : Nat
  deriving DecidableEq, Repr

/-- The wording of a reason. -/
def DecodeReason.message : DecodeReason → Text
  | .startByte => "invalid start byte"
  | .continuationByte => "invalid continuation byte"
  | .endOfData => "unexpected end of data"

/-- The wording of a fault; several bytes are named by their positions. -/
def DecodeFault.message (f : DecodeFault) : Text :=
  let span : Text :=
    if f.size ≤ 1 then
      "byte 0x" ++ hex 2 f.byte.toNat ++ " in position " ++ ofNat f.position
    else
      "bytes in position " ++ ofNat f.position ++ "-" ++ ofNat (f.position + f.size - 1)
  "'utf-8' codec can't decode " ++ span ++ ": " ++ f.reason.message

/-- A byte of the form `10xxxxxx`. -/
def isContinuation (b : UInt8) : Bool := 0x80 ≤ b && b < 0xc0

/-- The second byte can follow the first: it continues it, and the character is neither written too
long, nor a surrogate, nor above U+10FFFF. -/
def canFollow (first second : UInt8) : Bool :=
  isContinuation second &&
    !(first == 0xe0 && second < 0xa0) && !(first == 0xed && 0xa0 ≤ second) &&
    !(first == 0xf0 && second < 0x90) && !(first == 0xf4 && 0x90 ≤ second)

/-- The six low bits of a continuation byte. -/
def payload (b : UInt8) : Nat := b.toNat % 0x40

/-- Decodes the bytes from a position on. -/
def decodeFrom (position : Nat) : List UInt8 → Except DecodeFault Text
  | [] => .ok []
  | a :: afterA =>
    if a < 0x80 then
      (decodeFrom (position + 1) afterA).map (Char.ofNat a.toNat :: ·)
    else if a < 0xc2 || 0xf4 < a then .error ⟨.startByte, a, position, 1⟩
    else
      match afterA with
      | [] => .error ⟨.endOfData, a, position, 1⟩
      | b :: afterB =>
        if !canFollow a b then .error ⟨.continuationByte, a, position, 1⟩
        else if a < 0xe0 then
          (decodeFrom (position + 2) afterB).map
            (Char.ofNat (a.toNat % 0x20 * 0x40 + payload b) :: ·)
        else
          match afterB with
          | [] => .error ⟨.endOfData, a, position, 2⟩
          | c :: afterC =>
            if !isContinuation c then .error ⟨.continuationByte, a, position, 2⟩
            else if a < 0xf0 then
              (decodeFrom (position + 3) afterC).map
                (Char.ofNat (a.toNat % 0x10 * 0x1000 + payload b * 0x40 + payload c) :: ·)
            else
              match afterC with
              | [] => .error ⟨.endOfData, a, position, 3⟩
              | d :: afterD =>
                if !isContinuation d then .error ⟨.continuationByte, a, position, 3⟩
                else
                  (decodeFrom (position + 4) afterD).map
                    (Char.ofNat (a.toNat % 0x08 * 0x40000 + payload b * 0x1000 + payload c * 0x40
                      + payload d) :: ·)

/-- The text of a byte sequence, or its first fault. -/
def decode (bytes : List UInt8) : Except DecodeFault Text := decodeFrom 0 bytes

end SpecifierLint.Text
