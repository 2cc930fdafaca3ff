import Courier.Url.Scheme

/-!
# Paths

A path is a list of segments, each in its encoded form. `parsePath` reads a whole path and `push` adds
one segment; both resolve the segments `.` and `..` and their escaped spellings. A drive letter, such
as `C:`, is never removed by `..`, and the path of a file never starts with empty segments.
-/

namespace Courier.Url

/-- The text of a list of segments: each after a slash. -/
def segmentsText (segments : List Text) : Text :=
  segments.flatMap ('/' :: ·)

/-! ### Special segments -/

/-- The segment that stands for its own place. -/
def isSingleDot (s : Text) : Bool :=
  s.map Char.toLower ∈ [".".toList, "%2e".toList]

/-- The segment that stands for the place above. -/
def isDoubleDot (s : Text) : Bool :=
  s.map Char.toLower ∈ ["..".toList, "%2e.".toList, ".%2e".toList, "%2e%2e".toList]

/-- Whether a segment is a letter and a colon or bar. -/
def isDrive : Text → Bool
  | [a, b] => a.isAlpha && (b = ':' || b = '|')
  | _ => false

/-- Whether a segment is a drive letter, or one with a backslash behind it. -/
def startsWithDrive (s : Text) : Bool :=
  isDrive (s.take 2) && (s.drop 2).head?.all (· = '\\')

/-! ### Adding segments -/

/-- The segments without the last one, unless that is a drive letter. -/
def shorten (segments : List Text) : List Text :=
  if (segments.getLast?.any startsWithDrive) then segments else segments.dropLast

/-- Adds one segment behind others. A dot segment at the end leaves the path open with an empty
segment. -/
def addSegment (k : Kind) (before : List Text) (s : Text) (last : Bool) : List Text :=
  let opened := if last then [[]] else []
  if isDoubleDot s then shorten before ++ opened
  else if isSingleDot s then before ++ opened
  else if k = .file ∧ before = [] ∧ isDrive s then [s.take 1 ++ [':']]
  else before ++ [s]

def addSegments (k : Kind) (before : List Text) : List Text → List Text
  | [] => before
  | [s] => addSegment k before s true
  | s :: t :: rest => addSegments k (addSegment k before s false) (t :: rest)

/-- Drops the empty segments at the start of the path of a file, all but the last one. -/
def settle (k : Kind) (segments : List Text) : List Text :=
  if k = .file then
    let rest := segments.dropWhile (·.isEmpty)
    if rest.isEmpty then [[]] else rest
  else segments

/-! ### Reading a path -/

/-- The pieces of a path between separators, encoded. -/
def splitPath (k : Kind) (t : Text) : List Text :=
  (t.splitOnP (isSeparator k)).map (Percent.encode pathKeep)

/-- The segments of a path before a file's empty ones are dropped. One separator at the start is
passed over; an empty path has no segments unless the scheme is special. -/
def rawPath (k : Kind) (t : Text) : List Text :=
  match clean t with
  | [] => if k.isSpecial then [[]] else []
  | c :: r => addSegments k [] (splitPath k (if isSeparator k c then r else c :: r))

def parsePath (k : Kind) (t : Text) : List Text :=
  settle k (rawPath k t)

/-! ### Growing a path -/

/-- Drops an empty segment at the end, unless it is the only one. -/
def popIfEmpty (segments : List Text) : List Text :=
  if 2 ≤ segments.length ∧ segments.getLast? = some [] then segments.dropLast else segments

/-- Adds a text as one segment. The texts `.` and `..` add nothing; an only segment that is empty is
replaced. -/
def push (k : Kind) (segments : List Text) (t : Text) : List Text :=
  if t = ['.'] ∨ t = ['.', '.'] then segments
  else
    let before := if segments = [[]] then [] else segments
    settle k (addSegment k before (Percent.encode (segmentKeep k) (clean t)) true)

end Courier.Url
