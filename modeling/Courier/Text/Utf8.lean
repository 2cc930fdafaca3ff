/-!
# Text and its UTF-8 bytes

A `Text` is a sequence of characters, the form in which the library scans and encodes; `String`
is used where text is only stored and shown. `Text.utf8` writes a text as bytes,
`Utf8.decode` reads any bytes back, with U+FFFD in the place of each malformed sequence, and
`Utf8.decode?` reads well-formed bytes only.
-/

namespace Courier

abbrev Text := List Char

abbrev Bytes := List UInt8

def Text.utf8 (t : Text) : Bytes :=
  t.flatMap String.utf8EncodeChar

@[simp] theorem Text.utf8_nil : Text.utf8 [] = [] := rfl

@[simp] theorem Text.utf8_cons (c : Char) (t : Text) :
    Text.utf8 (c :: t) = String.utf8EncodeChar c ++ Text.utf8 t := rfl

@[simp] theorem Text.utf8_append (s t : Text) :
    Text.utf8 (s ++ t) = Text.utf8 s ++ Text.utf8 t := List.flatMap_append

namespace Utf8

/-- The character that stands for a malformed sequence of bytes. -/
def replacement : Char := Char.ofNat 0xFFFD

/-- The range of a continuation byte. -/
def isTail (b : UInt8) : Bool := 0x80 ≤ b && b ≤ 0xBF

/-- The payload of a continuation byte. -/
def tailBits (b : UInt8) : Nat := b.toNat % 0x40

/-- The range of the second byte, given the first one: it excludes overlong forms, surrogates and
numbers above U+10FFFF. -/
def isSecond (first b : UInt8) : Bool :=
  if first = 0xE0 then 0xA0 ≤ b && b ≤ 0xBF
  else if first = 0xED then 0x80 ≤ b && b ≤ 0x9F
  else if first = 0xF0 then 0x90 ≤ b && b ≤ 0xBF
  else if first = 0xF4 then 0x80 ≤ b && b ≤ 0x8F
  else isTail b

/-- The number of bytes a sequence with this first byte announces; `0` for a byte that starts
none. -/
def announced (first : UInt8) : Nat :=
  if first < 0x80 then 1
  else if first < 0xC2 then 0
  else if first < 0xE0 then 2
  else if first < 0xF0 then 3
  else if first < 0xF5 then 4
  else 0

/-- Reads one sequence: its character, or `none` if it is malformed, and how many of the bytes
after the first one it takes. A malformed sequence is as long as the longest start of a
well-formed one, and at least one byte. -/
def sequence (first : UInt8) (rest : Bytes) : Option Char × Nat :=
  match announced first, rest with
  | 1, _ => (some (Char.ofNat first.toNat), 0)
  | 2, b :: _ =>
    if isSecond first b then
      (some (Char.ofNat (first.toNat % 0x20 * 0x40 + tailBits b)), 1)
    else (none, 0)
  | 3, b :: c :: _ =>
    if !isSecond first b then (none, 0)
    else if !isTail c then (none, 1)
    else (some (Char.ofNat ((first.toNat % 0x10 * 0x40 + tailBits b) * 0x40 + tailBits c)), 2)
  | 3, [b] => (none, if isSecond first b then 1 else 0)
  | 4, b :: c :: d :: _ =>
    if !isSecond first b then (none, 0)
    else if !isTail c then (none, 1)
    else if !isTail d then (none, 2)
    else
      (some (Char.ofNat
        (((first.toNat % 0x08 * 0x40 + tailBits b) * 0x40 + tailBits c) * 0x40 + tailBits d)), 3)
  | 4, [b, c] => (none, if !isSecond first b then 0 else if isTail c then 2 else 1)
  | 4, [b] => (none, if isSecond first b then 1 else 0)
  | _, _ => (none, 0)

/-- Splits bytes into characters, with `none` for each malformed sequence. -/
def sequences : Bytes → List (Option Char)
  | [] => []
  | b :: rest =>
    (sequence b rest).1 :: sequences (rest.drop (sequence b rest).2)
termination_by bytes => bytes.length
decreasing_by simp only [List.length_drop, List.length_cons]; omega

/-- Reads bytes as text; each malformed sequence becomes the replacement character. -/
def decode (bytes : Bytes) : Text :=
  (sequences bytes).map (·.getD replacement)

/-- Reads bytes as text, if they are well-formed. -/
def decode? (bytes : Bytes) : Option Text :=
  (sequences bytes).mapM id

end Utf8

end Courier
