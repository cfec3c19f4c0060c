import NewsAnalytics.Text.Percent
import NewsAnalytics.Text.Split
import NewsAnalytics.Url.Basic
import NewsAnalytics.Url.Clean
import NewsAnalytics.Url.Excluded

/-!
# Segments of a path

A path is read segment by segment. A segment `.` stays where it is and a
segment `..` takes one back, except that a drive letter is never taken
back; either may be written with escaped dots. As the last segment, both
leave the path ending with a slash.

Paths of files have rules of their own. A drive letter right behind the
root is written with a colon. Leading empty segments count while a path is
read and are dropped from what has been read. The texts of segments may
hold tabs and line ends, which do not count, with one exception: one behind
the colon of a drive letter divides it from what follows.

## Main definitions

* `split` — the text of each segment.
* `add` — one more segment, dots worked off.
* `resolve` — all segments of a text added to a path.
* `extend`, `extendBeside` — a text read behind a path, or in place of its
  last segment.
-/

namespace NewsAnalytics.Url.Segments

/-! ## Splitting -/

/-- Ends a segment. -/
def isSeparator (special : Bool) (c : Char) : Bool := c = '/' || (special && c = '\\')

/-- The texts between separators. -/
def split (special : Bool) (cs : List Char) : List (List Char) :=
  Text.splitAt (isSeparator special) cs

/-! ## Dots -/

/-- The text with escaped dots undone. -/
def undoDots : List Char → List Char
  | '%' :: '2' :: 'e' :: rest | '%' :: '2' :: 'E' :: rest => '.' :: undoDots rest
  | c :: rest => c :: undoDots rest
  | [] => []

/-- The segment stays where it is. -/
def isSingleDot (segment : List Char) : Bool := undoDots (clean segment) == ['.']

/-- The segment takes one back. -/
def isDoubleDot (segment : List Char) : Bool := undoDots (clean segment) == ['.', '.']

/-! ## Drive letters -/

/-- A letter with a colon or a bar. -/
def isDriveLetter : List Char → Bool
  | [letter, mark] => letter.isAlpha && (mark = ':' || mark = '|')
  | _ => false

/-- A letter with a colon. -/
def isWrittenDriveLetter (segment : String) : Bool :=
  isDriveLetter segment.toList && segment.toList.getLast? == some ':'

/-! ## Resolving -/

/-- The segment is a drive letter up to its first backslash. -/
def holdsDrive (segment : String) : Bool := isDriveLetter (segment.toList.takeWhile (· ≠ '\\'))

/-- The path without its last segment. A drive letter is never taken back. -/
def shorten (done : List String) : List String :=
  if done.getLast?.any holdsDrive then done else done.dropLast

/-- The written form of a segment. -/
def encode (segment : List Char) : String :=
  String.ofList (Text.Percent.encode Excluded.path (clean segment))

/-- A tab or a line end stands behind the first colon of a segment. -/
def breaksAtColon (segment : List Char) : Bool :=
  ((segment.dropWhile (· ≠ ':')).drop 1).head?.any isIgnored

/-- The written form of a segment right behind the root of a file. -/
def encodeAtRoot (segment : List Char) : List String :=
  match clean segment with
  | [letter, mark] =>
    if isDriveLetter [letter, mark] then [String.ofList [letter, ':']] else [encode segment]
  | letter :: ':' :: rest =>
    if letter.isAlpha && breaksAtColon segment then [String.ofList [letter, ':'], encode rest]
    else [encode segment]
  | _ => [encode segment]

/-- The path with one more segment, which is not dots. -/
def append (file : Bool) (done : List String) (segment : List Char) : List String :=
  if file && done.isEmpty then encodeAtRoot segment else done ++ [encode segment]

/-- The path with one more segment. -/
def add (file : Bool) (done : List String) (segment : List Char) : List String :=
  if isDoubleDot segment then shorten done
  else if isSingleDot segment then done
  else append file done segment

/-- The path with a last segment. Behind dots it is an empty one. -/
def addLast (file : Bool) (done : List String) (segment : List Char) : List String :=
  if isDoubleDot segment || isSingleDot segment then add file done segment ++ [""]
  else append file done segment

/-- The path with further segments. -/
def resolve (file : Bool) (done : List String) : List (List Char) → List String
  | [] => done
  | [last] => addLast file done last
  | segment :: more => resolve file (add file done segment) more

/-- Reading the segments of a file meets a drive letter right behind the
root. -/
def meetsDrive (done : List String) : List (List Char) → Bool
  | [] => false
  | segment :: more =>
    (done.isEmpty && isDriveLetter (clean segment)) || meetsDrive (add true done segment) more

/-- The path of a file with the segments of a reference in place of its last
one. A drive letter is not replaced: what is read goes behind it, as a
further segment if the drive letter is the whole path, or else as a part of
the same one. -/
def resolveBeside (base : List String) : List (List Char) → List String
  | [] => base
  | first :: more =>
    let last := base.getLast?.getD ""
    if !isWrittenDriveLetter last then resolve true base.dropLast (first :: more)
    else if base.length = 1 then resolve true base (first :: more)
    else if isDoubleDot first then resolve true base more
    else if isSingleDot first then resolve true base (if more.isEmpty then [[]] else more)
    else resolve true (base.dropLast ++ [last ++ encode first]) more

/-- The path without leading empty segments. The root stays. -/
def dropLeadingEmpty : List String → List String
  | "" :: a :: rest => dropLeadingEmpty (a :: rest)
  | list => list

/-- The path `done` with the text `cs` read behind it. -/
def extend (scheme : String) (done : List String) (cs : List Char) : List String :=
  let file := scheme = "file"
  let list := resolve file done (split (isSpecialScheme scheme) cs)
  if file then dropLeadingEmpty list else list

/-- The path of a file with the text `cs` read in place of its last segment. -/
def extendBeside (base : List String) (cs : List Char) : List String :=
  dropLeadingEmpty (resolveBeside base (split true cs))

end NewsAnalytics.Url.Segments
