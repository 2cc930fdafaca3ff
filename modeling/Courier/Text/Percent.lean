import Courier.Text.Utf8

/-!
# Percent-encoding

`Percent.encode keep` writes every character that `keep` refuses as the escapes `%XX` of its UTF-8
bytes, in upper-case digits; `Percent.decode` replaces well-formed escapes by their bytes and
leaves everything else as it is.
-/

namespace Courier.Percent

/-- The upper-case hexadecimal digit of a number below 16. -/
def hexDigit (n : Nat) : Char :=
  Char.ofNat (if n < 10 then 0x30 + n else 0x37 + n)

def hexValue? (c : Char) : Option Nat :=
  if '0' ≤ c ∧ c ≤ '9' then some (c.toNat - 0x30)
  else if 'A' ≤ c ∧ c ≤ 'F' then some (c.toNat - 0x37)
  else if 'a' ≤ c ∧ c ≤ 'f' then some (c.toNat - 0x57)
  else none

def escape (b : UInt8) : Text :=
  ['%', hexDigit (b.toNat / 16), hexDigit (b.toNat % 16)]

/-- A character as it is, if `keep` admits it, and otherwise the escapes of its bytes. -/
def encodeChar (keep : Char → Bool) (c : Char) : Text :=
  if keep c then [c] else (String.utf8EncodeChar c).flatMap escape

/-- Escapes every character that `keep` refuses. -/
def encode (keep : Char → Bool) (t : Text) : Text :=
  t.flatMap (encodeChar keep)

@[simp] theorem encode_nil (keep : Char → Bool) : encode keep [] = [] := rfl

@[simp] theorem encode_cons (keep : Char → Bool) (c : Char) (t : Text) :
    encode keep (c :: t) = encodeChar keep c ++ encode keep t := rfl

@[simp] theorem encode_append (keep : Char → Bool) (s t : Text) :
    encode keep (s ++ t) = encode keep s ++ encode keep t := List.flatMap_append

/-- The byte of the escape that starts with a percent sign before this text. -/
def escaped? : Text → Option UInt8
  | h :: l :: _ => do
    let high ← hexValue? h
    let low ← hexValue? l
    return UInt8.ofNat (high * 16 + low)
  | _ => none

/-- The bytes of a text whose escapes are replaced by the bytes they stand for; a percent sign
that starts no escape stands for itself. -/
def decode : Text → Bytes
  | [] => []
  | c :: rest =>
    if c = '%' then
      match escaped? rest with
      | some b => b :: decode (rest.drop 2)
      | none => String.utf8EncodeChar c ++ decode rest
    else String.utf8EncodeChar c ++ decode rest
termination_by t => t.length
decreasing_by all_goals simp only [List.length_drop, List.length_cons]; omega

/-- Characters that are plain ASCII: neither controls nor beyond U+007E. -/
def isPlain (c : Char) : Bool := ' ' ≤ c && c ≤ '~'

end Courier.Percent
