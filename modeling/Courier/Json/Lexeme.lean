import Courier.Json.Basic
import Courier.Json.Fault
import Courier.Number.Notation
import Courier.Text.Percent

/-!
# The leaves of a JSON text

Blanks, words, strings and numbers. Every reader takes a text and returns what it has read with
the rest of the text, or the fault at which it stops.

Numbers are read with the accuracy of 64-bit arithmetic: at most the digits that fit an unsigned
word are collected, the others only move the point, and the result is brought to its power of ten by
one rounded product or quotient.
-/

namespace Courier.Json

/-- The four blank characters of JSON. -/
def isBlank (c : Char) : Bool := c = ' ' || c = '\n' || c = '\t' || c = '\r'

def skipBlanks (t : Text) : Text := t.dropWhile isBlank

def readWord : Text → Text → Except Fault Text
  | [], t => .ok t
  | _ :: _, [] => .error .endInValue
  | w :: word, c :: t => if c = w then readWord word t else .error .expectedWord

/-! ### Strings -/

/-- The value of four hexadecimal digits at the start of a text. Fewer than four bytes before the
end of the text are an unfinished string. -/
def readHex (t : Text) : Except Fault Nat :=
  match (t.take 4).mapM Percent.hexValue? with
  | some [a, b, c, d] => .ok (((a * 16 + b) * 16 + c) * 16 + d)
  | _ => .error (if (Text.utf8 (t.take 4)).length < 4 then .endInString else .invalidEscape)

/-- Reads an escape with a number after its letter: the character, and how many characters are
taken. A number of the first surrogate range needs an escape of the second one behind it. -/
def readUnicode (t : Text) : Except Fault (Char × Nat) := do
  let first ← readHex t
  if 0xDC00 ≤ first ∧ first ≤ 0xDFFF then .error .loneSurrogate
  else if first < 0xD800 ∨ 0xDBFF < first then return (Char.ofNat first, 4)
  else
    match t.drop 4 with
    | [] => .error .endInString
    | '\\' :: [] => .error .endInString
    | '\\' :: 'u' :: r =>
      let second ← readHex r
      if second < 0xDC00 ∨ 0xDFFF < second then .error .loneSurrogate
      else return (Char.ofNat ((first - 0xD800) * 0x400 + (second - 0xDC00) + 0x10000), 10)
    | _ => .error .brokenSurrogatePair

/-- Reads what stands after a backslash: the character, and how many characters are taken. -/
def readEscape : Text → Except Fault (Char × Nat)
  | [] => .error .endInString
  | 'u' :: t => do
    let (c, n) ← readUnicode t
    return (c, n + 1)
  | c :: _ =>
    match c with
    | '"' => .ok ('"', 1)
    | '\\' => .ok ('\\', 1)
    | '/' => .ok ('/', 1)
    | 'b' => .ok ('\x08', 1)
    | 'f' => .ok ('\x0c', 1)
    | 'n' => .ok ('\n', 1)
    | 'r' => .ok ('\r', 1)
    | 't' => .ok ('\t', 1)
    | _ => .error .invalidEscape

/-- Reads the characters of a string and the quote that ends it. -/
def readChars (t : Text) : Except Fault (Text × Text) :=
  match t with
  | [] => .error .endInString
  | c :: r =>
    if c = '"' then .ok ([], r)
    else if c = '\\' then
      match readEscape r with
      | .error f => .error f
      | .ok (d, n) => do
        let (chars, rest) ← readChars (r.drop n)
        return (d :: chars, rest)
    else if c < ' ' then .error .controlCharacter
    else do
      let (chars, rest) ← readChars r
      return (c :: chars, rest)
termination_by t.length
decreasing_by all_goals simp only [List.length_drop, List.length_cons]; omega

/-- Reads a string after its first quote. -/
def readString (t : Text) : Except Fault (String × Text) := do
  let (chars, rest) ← readChars t
  return (String.ofList chars, rest)

/-- Passes over a string after its first quote. The numbers of its escapes may be of any
range. -/
def skipString (t : Text) : Except Fault Text :=
  match t with
  | [] => .error .endInString
  | c :: r =>
    if c = '"' then .ok r
    else if c = '\\' then
      match r with
      | [] => .error .endInString
      | e :: r' =>
        if e = 'u' then
          match readHex r' with
          | .error f => .error f
          | .ok _ => skipString (r'.drop 4)
        else if e ∈ ['"', '\\', '/', 'b', 'f', 'n', 'r', 't'] then skipString r'
        else .error .invalidEscape
    else if c < ' ' then .error .controlCharacter
    else skipString r
termination_by t.length
decreasing_by all_goals simp only [List.length_drop, List.length_cons]; omega

/-! ### Numbers -/

def maxWord : Nat := Nat.pow 2 64 - 1

/-- Appends digits to a word as long as it stays a word: the word, and how many digits are
appended. -/
def absorb (word : Nat) : Text → Nat × Nat
  | [] => (word, 0)
  | c :: digits =>
    let next := word * 10 + (c.toNat - 0x30)
    if next ≤ maxWord then
      let (w, n) := absorb next digits
      (w, n + 1)
    else (word, 0)

/-- Brings a number to its power of ten. Powers beyond the 308th are reached in several quotients,
until the number vanishes. -/
def scale (x : Finite) (exponent : Int) : Except Fault Finite :=
  go 4 x exponent
where
  power (n : Nat) : Finite := (Format.double.ofNat (Nat.pow 10 n)).getD (.zero false)
  go : Nat → Finite → Int → Except Fault Finite
    | 0, x, _ => .ok x
    | fuel + 1, x, exponent =>
      if exponent.natAbs ≤ 308 then
        if 0 ≤ exponent then
          match Format.double.mul x (power exponent.natAbs) with
          | some y => .ok y
          | none => .error .numberOutOfRange
        else .ok ((Format.double.div x (power exponent.natAbs)).getD x)
      else if x.isZero then .ok x
      else if 0 ≤ exponent then .error .numberOutOfRange
      else go fuel ((Format.double.div x (power 308)).getD x) (exponent + 308)

/-- The double `± word · 10 ^ exponent`. -/
def assemble (negative : Bool) (word : Nat) (exponent : Int) : Except Fault Number := do
  let x ← scale ((Format.double.ofNat word).getD (.zero false)) exponent
  return .float (x.withSign negative)

/-- The greatest number that an exponent may have. -/
def maxExponent : Nat := Nat.pow 2 31 - 1

/-- Reads what stands after the letter of an exponent. -/
def readExponent (negative : Bool) (word : Nat) (point : Int) (t : Text) :
    Except Fault (Number × Text) :=
  let (below, t) :=
    match t with
    | '+' :: r => (false, r)
    | '-' :: r => (true, r)
    | r => (false, r)
  match t with
  | [] => .error .endInValue
  | c :: _ =>
    if !c.isDigit then .error .invalidNumber
    else
      let digits := t.takeWhile Char.isDigit
      let rest := t.dropWhile Char.isDigit
      let n := digitsValue digits
      if maxExponent < n then
        if word ≠ 0 && !below then .error .numberOutOfRange
        else .ok (.float (.zero negative), rest)
      else do
        let number ← assemble negative word (if below then point - n else point + n)
        return (number, rest)

/-- Whether a text goes on with the letter of an exponent. -/
def startsExponent : Text → Bool
  | c :: _ => c = 'e' || c = 'E'
  | [] => false

/-- Reads what stands after the point of a number. -/
def readFraction (negative : Bool) (word : Nat) (point : Int) (t : Text) :
    Except Fault (Number × Text) :=
  let digits := t.takeWhile Char.isDigit
  let rest := t.dropWhile Char.isDigit
  if digits.isEmpty then .error (if rest.isEmpty then .endInValue else .invalidNumber)
  else
    let (word, n) := absorb word digits
    if startsExponent rest then readExponent negative word (point - n) (rest.drop 1)
    else do
      let number ← assemble negative word (point - n)
      return (number, rest)

/-- The number of a word without point and exponent. A negative number below the signed range, and
negative zero, are doubles. -/
def whole (negative : Bool) (word : Nat) : Number :=
  if !negative then .integer word
  else if word = 0 ∨ Nat.pow 2 63 < word then
    .float (((Format.double.ofNat word).getD (.zero false)).withSign true)
  else .integer (-(word : Int))

/-- Reads a number after its sign. -/
def readNumber (negative : Bool) (t : Text) : Except Fault (Number × Text) :=
  match t with
  | [] => .error .endInValue
  | c :: r =>
    if !c.isDigit then .error .invalidNumber
    else if c = '0' ∧ (r.head?.any Char.isDigit) then .error .invalidNumber
    else
      let digits := t.takeWhile Char.isDigit
      let rest := t.dropWhile Char.isDigit
      let (word, n) := absorb 0 digits
      let point : Int := digits.length - n
      match rest with
      | '.' :: r => readFraction negative word point r
      | _ =>
        if startsExponent rest then readExponent negative word point (rest.drop 1)
        else if n = digits.length then .ok (whole negative word, rest)
        else do
          let number ← assemble negative word point
          return (number, rest)

/-- Passes over an exponent after its letter. -/
def skipExponent (t : Text) : Except Fault Text :=
  let t :=
    match t with
    | '+' :: r => r
    | '-' :: r => r
    | r => r
  if t.head?.any Char.isDigit then .ok (t.dropWhile Char.isDigit) else .error .invalidNumber

/-- Passes over a number after its sign. -/
def skipNumber (t : Text) : Except Fault Text :=
  match t with
  | [] => .error .invalidNumber
  | c :: r =>
    if !c.isDigit then .error .invalidNumber
    else if c = '0' ∧ (r.head?.any Char.isDigit) then .error .invalidNumber
    else
      match t.dropWhile Char.isDigit with
      | '.' :: r =>
        let rest := r.dropWhile Char.isDigit
        if !(r.head?.any Char.isDigit) then .error .invalidNumber
        else if startsExponent rest then skipExponent (rest.drop 1)
        else .ok rest
      | rest => if startsExponent rest then skipExponent (rest.drop 1) else .ok rest

end Courier.Json
