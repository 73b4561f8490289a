/-
Paths of connect strings.

A path is its segments, with a slash in front of each.  A segment of one dot
stands for nothing and a segment of two dots takes the segment before it back,
however the dots are written; where such a segment is the last one, the path ends
with a slash.  The name of a drive is never taken back.
-/
import Tablewright.Url.Percent

namespace Tablewright.Url

/-- Whether a character counts for something in a connect string. -/
def isKept (c : Char) : Bool :=
  !(c = '\t' || c = '\n' || c = '\r')

/-- The segments of a text, which slashes separate. -/
def segments : List Char → List (List Char)
  | [] => [[]]
  | c :: rest =>
    match segments rest with
    | [] => [[]]
    | first :: others => if c = '/' then [] :: first :: others else (c :: first) :: others

/-- A segment with its escaped dots written as dots. -/
def plainDots : List Char → List Char
  | '%' :: '2' :: 'e' :: rest | '%' :: '2' :: 'E' :: rest => '.' :: plainDots rest
  | c :: rest => c :: plainDots rest
  | [] => []

/-- Whether a segment names a drive. -/
def isDrive : List Char → Bool
  | [letter, sign] => letter.isAlpha && (sign = ':' || sign = '|')
  | _ => false

/-- Takes the last of the kept segments back, unless it names a drive. -/
def takeBack : List (List Char) → List (List Char)
  | last :: kept => if isDrive last then last :: kept else kept
  | [] => []

/-- Keeps the segments that dots leave; those kept so far are given in reverse. -/
def resolveDots (kept : List (List Char)) : List (List Char) → List (List Char)
  | [] => kept.reverse
  | segment :: rest =>
    let kept := match plainDots segment with
      | ['.'] => if rest.isEmpty then [] :: kept else kept
      | ['.', '.'] => if rest.isEmpty then [] :: takeBack kept else takeBack kept
      | _ => segment :: kept
    resolveDots kept rest

/-- The path of a text after its first slash, in which tabs and line breaks count for nothing. -/
def normalizedPath (cs : List Char) : List Char :=
  (resolveDots [] (segments (encode escapedInPath (cs.filter isKept)))).flatMap ('/' :: ·)

end Tablewright.Url
