import Courier.Text.Composite
import Courier.Text.Mark

/-!
# Canonical composition

One spelling for texts that look the same: composite characters are taken apart, the marks on each
base are put into the order of their classes, and then each base takes up the marks that it can.
-/

namespace Courier.Canonical

/-! ### Syllables -/

/-- The first syllable of Hangul. -/
def syllables : Nat := 0xAC00

/-- The code points before the first leading consonant, vowel and trailing consonant of Hangul. The
syllables go through 19 of the first and 21 of the second, with 27 of the third or none. -/
def leading : Nat := 0x1100

/-- The first vowel of Hangul. -/
def vowels : Nat := 0x1161

/-- The code point before the first trailing consonant of Hangul. -/
def trailing : Nat := 0x11A7

/-- The number of a syllable. -/
def syllable? (c : Char) : Option Nat :=
  if syllables ≤ c.toNat ∧ c.toNat < syllables + 19 * 21 * 28 then some (c.toNat - syllables) else none

/-- The letters of a syllable. -/
def letters (n : Nat) : Text :=
  let front := [Char.ofNat (leading + n / (21 * 28)), Char.ofNat (vowels + n / 28 % 21)]
  if n % 28 = 0 then front else front ++ [Char.ofNat (trailing + n % 28)]

/-- The syllable that a consonant and a vowel, or a syllable and a trailing consonant, make. -/
def syllableOf? (a b : Char) : Option Char :=
  if leading ≤ a.toNat ∧ a.toNat < leading + 19 ∧ vowels ≤ b.toNat ∧ b.toNat < vowels + 21 then
    some (Char.ofNat (syllables + ((a.toNat - leading) * 21 + (b.toNat - vowels)) * 28))
  else
    match syllable? a with
    | some n =>
      if n % 28 = 0 ∧ trailing < b.toNat ∧ b.toNat < trailing + 28 then
        some (Char.ofNat (a.toNat + (b.toNat - trailing)))
      else none
    | none => none

/-! ### Taking apart and putting together -/

/-- The two parts of a composite character; in ASCII there is none. -/
def parts? (c : Char) : Option (Char × Char) :=
  if c.toNat < 0x80 then none
  else
    match Composite.table.find? (·.covers c) with
    | some ⟨_, _, [a, b]⟩ => some (Char.ofNat a, Char.ofNat b)
    | _ => none

/-- The composite character of two parts, of which the second is beyond ASCII. -/
def composite? (a b : Char) : Option Char :=
  if b.toNat < 0x80 then none
  else
    (syllableOf? a b).or
      ((Composite.table.find? (·.points = [a.toNat, b.toNat])).map (Char.ofNat ·.low))

/-- Takes a character apart; `depth` bounds how often its base is composite again. -/
def takeApart : Nat → Char → Text
  | 0, c => [c]
  | depth + 1, c =>
    match syllable? c with
    | some n => letters n
    | none =>
      match parts? c with
      | some (a, b) => takeApart depth a ++ [b]
      | none => [c]

/-- Puts a character behind the marks of lower classes, if it is a mark with a class. -/
def insert (c : Char) : Text → Text
  | [] => [c]
  | d :: t =>
    if 0 < Mark.combiningClass d ∧ Mark.combiningClass d < Mark.combiningClass c then d :: insert c t
    else c :: d :: t

/-- The text with composite characters taken apart and marks in order. -/
def decompose (t : Text) : Text :=
  (t.flatMap (takeApart 4)).foldr insert []

/-- Whether a character can reach its base across the marks between them. -/
def reaches (c : Char) (marks : Text) : Bool :=
  match marks.getLast? with
  | some d => Mark.combiningClass d < Mark.combiningClass c
  | none => true

/-- Lets a base take up marks; those that it cannot take up stay behind it. -/
def absorb (base : Char) (marks : Text) : Text → Text
  | [] => base :: marks
  | c :: t =>
    match if reaches c marks then composite? base c else none with
    | some d => absorb d marks t
    | none =>
      if Mark.combiningClass c = 0 then (base :: marks) ++ absorb c [] t
      else absorb base (marks ++ [c]) t

/-- The one spelling of a text. -/
def compose (t : Text) : Text :=
  match decompose t with
  | [] => []
  | c :: rest => absorb c [] rest

end Courier.Canonical
