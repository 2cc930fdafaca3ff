import Courier.Json.Parser

/-!
# JSON documents

The grammar of JSON texts, said without a reader. A `Document` is what a text says: numbers by their digits, strings
by their signs, and the members of an object in the order of the text, repeated names included. `IsText` tells which
texts spell a document. What a document stands for is its `value?`; it has none if one of its numbers is out of range
or if one of its strings holds a surrogate that is not one of a pair. In range is what `Numeral.number` does not take
beyond the doubles. It rounds the digits before it scales them, so a few numbers just below the greatest double, like
`17976931348623157081e289`, are out of range as well.
-/

namespace Courier.Json

/-! ### Strings -/

/-- The letters of the short escapes, with the characters that they stand for. -/
def shortEscapes : List (Char × Char) :=
  [('"', '"'), ('\\', '\\'), ('/', '/'), ('b', '\x08'), ('f', '\x0c'), ('n', '\n'), ('r', '\r'), ('t', '\t')]

/-- Texts of four hexadecimal digits. -/
def IsHex (t : Text) : Prop := t.length = 4 ∧ ∀ d ∈ t, (Percent.hexValue? d).isSome

/-- The parts of a string. -/
inductive Sign
  /-- A character that stands for itself. -/
  | plain (c : Char) (h : ¬ c < ' ' ∧ c ≠ '"' ∧ c ≠ '\\')
  /-- A letter behind a backslash. -/
  | short (letter c : Char) (h : (letter, c) ∈ shortEscapes)
  /-- Four hexadecimal digits behind a backslash and a letter. -/
  | unicode (digits : Text) (h : IsHex digits)

/-- A part of a string as it is written. -/
def Sign.text : Sign → Text
  | plain c _ => [c]
  | short letter _ _ => ['\\', letter]
  | unicode digits _ => '\\' :: 'u' :: digits

/-- A string as it is written, between quotes. -/
def quoted (signs : List Sign) : Text := '"' :: (signs.flatMap Sign.text ++ ['"'])

def hexNumber (digits : Text) : Nat :=
  digits.foldl (fun n d => n * 16 + (Percent.hexValue? d).getD 0) 0

/-- The surrogates that stand first in a pair. -/
def IsHigh (n : Nat) : Prop := 0xD800 ≤ n ∧ n ≤ 0xDBFF

/-- The surrogates that stand second in a pair. -/
def IsLow (n : Nat) : Prop := 0xDC00 ≤ n ∧ n ≤ 0xDFFF

instance : DecidablePred IsHigh := fun _ => inferInstanceAs (Decidable (_ ∧ _))

instance : DecidablePred IsLow := fun _ => inferInstanceAs (Decidable (_ ∧ _))

def pairChar (high low : Nat) : Char := Char.ofNat ((high - 0xD800) * 0x400 + (low - 0xDC00) + 0x10000)

/-- The text that a string stands for, unless it holds a surrogate that is not one of a pair. -/
def textOf? : List Sign → Option Text
  | [] => some []
  | .plain c _ :: rest => (textOf? rest).map (c :: ·)
  | .short _ c _ :: rest => (textOf? rest).map (c :: ·)
  | .unicode digits _ :: rest =>
    if IsLow (hexNumber digits) then none
    else if IsHigh (hexNumber digits) then
      match rest with
      | .unicode low _ :: rest =>
        if IsLow (hexNumber low) then (textOf? rest).map (pairChar (hexNumber digits) (hexNumber low) :: ·)
        else none
      | _ => none
    else (textOf? rest).map (Char.ofNat (hexNumber digits) :: ·)

/-! ### Numbers -/

/-- Texts of one digit or more. -/
def IsDigits (t : Text) : Prop := t ≠ [] ∧ ∀ c ∈ t, c.isDigit = true

structure Exponent where
  letter : Char
  sign : Option Char
  digits : Text
  isLetter : letter = 'e' ∨ letter = 'E'
  isSign : ∀ c ∈ sign, c = '+' ∨ c = '-'
  isDigits : IsDigits digits

/-- A number by its parts. -/
structure Numeral where
  negative : Bool
  integer : Text
  fraction : Option Text
  exponent : Option Exponent
  isDigits : IsDigits integer
  noLeadingZero : integer.head? = some '0' → integer = ['0']
  isFraction : ∀ t ∈ fraction, IsDigits t

def Exponent.text (e : Exponent) : Text := e.letter :: (e.sign.toList ++ e.digits)

/-- What stands behind the integer of a number. -/
def Numeral.tail (n : Numeral) : Text :=
  n.fraction.elim [] ('.' :: ·) ++ n.exponent.elim [] Exponent.text

/-- A number as it is written, without its sign. -/
def Numeral.unsigned (n : Numeral) : Text := n.integer ++ n.tail

def Numeral.text (n : Numeral) : Text := if n.negative then '-' :: n.unsigned else n.unsigned

/-- The number `± word · 10 ^ point` with an exponent behind it. -/
def Exponent.number (e : Exponent) (negative : Bool) (word : Nat) (point : Int) : Except Fault Number :=
  if maxExponent < digitsValue e.digits then
    if word ≠ 0 && e.sign ≠ some '-' then .error .numberOutOfRange else .ok (.float (.zero negative))
  else
    assemble negative word
      (if e.sign = some '-' then point - digitsValue e.digits else point + digitsValue e.digits)

/-- The number that a numeral stands for, with the accuracy of a reader. -/
def Numeral.number (n : Numeral) : Except Fault Number :=
  let (word, taken) := absorb 0 n.integer
  let point : Int := n.integer.length - taken
  match n.fraction with
  | some digits =>
    let (word, more) := absorb word digits
    match n.exponent with
    | some e => e.number n.negative word (point - more)
    | none => assemble n.negative word (point - more)
  | none =>
    match n.exponent with
    | some e => e.number n.negative word point
    | none => if taken = n.integer.length then .ok (whole n.negative word) else assemble n.negative word point

/-! ### Documents -/

inductive Document
  | null
  | bool (value : Bool)
  | number (numeral : Numeral)
  | string (signs : List Sign)
  | array (items : List Document)
  | object (members : List (List Sign × Document))

def IsBlankText (t : Text) : Prop := ∀ c ∈ t, isBlank c = true

section Lists

variable {α : Type} (P : α → Text → Prop)

/-- Texts of further elements, a comma before each and blanks around them. -/
inductive More : List α → Text → Prop
  | nil : More [] []
  | cons {x : α} {xs : List α} {before s behind t : Text} (hbefore : IsBlankText before) (hs : P x s)
      (hbehind : IsBlankText behind) (ht : More xs t) :
      More (x :: xs) (',' :: (before ++ (s ++ (behind ++ t))))

/-- Texts of elements with commas between them and blanks around them. -/
inductive Listed : List α → Text → Prop
  | nil {blanks : Text} (h : IsBlankText blanks) : Listed [] blanks
  | cons {x : α} {xs : List α} {before s behind t : Text} (hbefore : IsBlankText before) (hs : P x s)
      (hbehind : IsBlankText behind) (ht : More P xs t) :
      Listed (x :: xs) (before ++ (s ++ (behind ++ t)))

end Lists

/-- Texts of a member: its name, a colon and its value. -/
inductive IsMember (P : Document → Text → Prop) : List Sign × Document → Text → Prop
  | mk {name : List Sign} {d : Document} {before behind s : Text} (hbefore : IsBlankText before)
      (hbehind : IsBlankText behind) (hs : P d s) :
      IsMember P (name, d) (quoted name ++ (before ++ ':' :: (behind ++ s)))

namespace Document

/-- Texts that spell a document, from its first to its last sign. -/
inductive IsSpelling : Document → Text → Prop
  | null : IsSpelling null "null".toList
  | bool (b : Bool) : IsSpelling (bool b) (if b then "true".toList else "false".toList)
  | number (n : Numeral) : IsSpelling (number n) n.text
  | string (signs : List Sign) : IsSpelling (string signs) (quoted signs)
  | array {items : List Document} {t : Text} (h : Listed IsSpelling items t) :
      IsSpelling (array items) ('[' :: (t ++ [']']))
  | object {members : List (List Sign × Document)} {t : Text} (h : Listed (IsMember IsSpelling) members t) :
      IsSpelling (object members) ('{' :: (t ++ ['}']))

/-- JSON texts: spellings of a document with blanks around them. -/
inductive IsText (d : Document) : Text → Prop
  | mk {before s behind : Text} (hbefore : IsBlankText before) (hs : IsSpelling d s)
      (hbehind : IsBlankText behind) : IsText d (before ++ (s ++ behind))

mutual

/-- The value that a document stands for, if all its numbers are in range and all its surrogates are in pairs. Of
several members of one name the last one counts. -/
def value? : Document → Option Json
  | null => some .null
  | bool b => some (.bool b)
  | number n => n.number.toOption.map .number
  | string signs => (textOf? signs).map fun t => .string (String.ofList t)
  | array items => (itemsValue? items).map .array
  | object members => (membersValue? members).map ofMembers

def itemsValue? : List Document → Option (List Json)
  | [] => some []
  | d :: rest => do return (← value? d) :: (← itemsValue? rest)

def membersValue? : List (List Sign × Document) → Option (List (String × Json))
  | [] => some []
  | (name, d) :: rest => do
    return (String.ofList (← textOf? name), ← value? d) :: (← membersValue? rest)

end

mutual

/-- How deep arrays and objects nest in a document. -/
def depth : Document → Nat
  | array items => itemsDepth items + 1
  | object members => membersDepth members + 1
  | null | bool _ | number _ | string _ => 0

def itemsDepth : List Document → Nat
  | [] => 0
  | d :: rest => max (depth d) (itemsDepth rest)

def membersDepth : List (List Sign × Document) → Nat
  | [] => 0
  | (_, d) :: rest => max (depth d) (membersDepth rest)

end

/-- Documents whose numbers all are in the range of `Numeral.number`, and whose surrogates all stand in pairs. -/
inductive HasValue : Document → Prop
  | null : HasValue null
  | bool (b : Bool) : HasValue (bool b)
  | number {n : Numeral} (h : n.number ≠ .error .numberOutOfRange) : HasValue (number n)
  | string {signs : List Sign} (h : (textOf? signs).isSome) : HasValue (string signs)
  | array {items : List Document} (h : ∀ d ∈ items, HasValue d) : HasValue (array items)
  | object {members : List (List Sign × Document)} (hnames : ∀ m ∈ members, (textOf? m.1).isSome)
      (h : ∀ m ∈ members, HasValue m.2) : HasValue (object members)

/-- Whether a document keeps the limits of the reader: it nests at most 127 deep, its numbers are in the range of
`Numeral.number`, and its surrogates stand in pairs. -/
def IsReadable (d : Document) : Prop := d.depth ≤ depthLimit ∧ d.HasValue

end Document

end Courier.Json
