/-
  WeblogDesk.Url.Path

  Paths as lists of segments.

  The path of a URL is the segments, each behind a slash.  `resolve` reads the
  segments of a text, in which a dot names the place and two dots its parent;
  `push` adds one segment that names an entity, so that its own slashes and
  percent signs are encoded.  Both are built from `enter`, one segment, and
  `shorten`, one step up, which never leaves a drive.
-/

import WeblogDesk.Url.Encoding

namespace WeblogDesk
namespace Url

/-- The segments of a path, in normal form. -/
abbrev Path := List (List Char)

namespace Path

/-- The text of a path. -/
def text (path : Path) : List Char :=
  path.flatMap ('/' :: ·)

/-! ## Drives -/

/-- A letter and a colon or a bar. -/
def isDrive : List Char → Bool
  | [letter, mark] => letter.isAlpha && (mark == ':' || mark == '|')
  | _ => false

/-- Whether a segment begins with a drive, so that the path above it is not left. -/
def holdsDrive (segment : List Char) : Bool :=
  isDrive (segment.take 2) &&
    match segment.drop 2 with
    | [] => true
    | c :: _ => c == '/' || c == '\\' || c == '?' || c == '#'

/-- The path one step up.  The root and a drive are their own parents. -/
def shorten (path : Path) : Path :=
  match path.getLast? with
  | none => []
  | some last => if holdsDrive last then path else path.dropLast

/-- The path with one more segment in normal form.  In a file path the first segment may
    write a drive with a bar. -/
def enter (file : Bool) (path : Path) (segment : List Char) : Path :=
  if file && path.isEmpty && isDrive segment then [segment.take 1 ++ [':']]
  else path ++ [segment]

/-! ## Paths of a text -/

/-- What a segment of a text does. -/
inductive Step where
  /-- A dot: the place itself. -/
  | stay
  /-- Two dots: the parent. -/
  | up
  /-- A name. -/
  | down (segment : List Char)
  deriving DecidableEq, Repr

/-- The text with its encoded dots decoded, for comparison. -/
def plainDots : List Char → List Char
  | '%' :: '2' :: 'e' :: rest => '.' :: plainDots rest
  | '%' :: '2' :: 'E' :: rest => '.' :: plainDots rest
  | c :: rest => c :: plainDots rest
  | [] => []

/-- What a segment of a text does; its dots may be encoded. -/
def Step.ofText (raw : List Char) : Step :=
  if plainDots raw = ['.'] then .stay
  else if plainDots raw = ['.', '.'] then .up
  else .down (encode pathSet raw)

/-- The path after the segments of a text.  A path that ends in dots ends in a slash. -/
def resolve (file : Bool) (path : Path) : List (List Char) → Path
  | [] => path
  | raw :: rest =>
    let path' :=
      match Step.ofText raw with
      | .stay => if rest.isEmpty then path ++ [[]] else path
      | .up => if rest.isEmpty then shorten path ++ [[]] else shorten path
      | .down segment => enter file path segment
    resolve file path' rest

/-- The path of a file without the empty segments in front. -/
def dropEmpty : Path → Path
  | [] :: next :: rest => dropEmpty (next :: rest)
  | path => path

/-! ## Naming an entity -/

/-- Tab, carriage return and line feed, which no URL holds. -/
def isDropped (c : Char) : Bool :=
  c == '\t' || c == '\n' || c == '\r'

/-- The path without one slash at the end; the root stays. -/
def dropSlash (path : Path) : Path :=
  if 1 < path.length && path.getLast? = some [] then path.dropLast else path

/-- Where the next segment goes: the root has none yet. -/
def base (path : Path) : Path :=
  if path = [[]] then [] else path

/-- The path with one segment that names an entity.  A name that is just dots adds
    nothing; one that is dots only without the characters that no URL holds is followed. -/
def push (file special : Bool) (path : Path) (name : List Char) : Path :=
  if name = ['.'] || name = ['.', '.'] then path
  else
    let kept := name.filter (!isDropped ·)
    if kept = ['.'] then base path ++ [[]]
    else if kept = ['.', '.'] then shorten (base path) ++ [[]]
    else enter file (base path) (encode (segmentSet special) kept)

/-- The path with the names behind it. -/
def extend (file special : Bool) (path : Path) (names : List (List Char)) : Path :=
  names.foldl (push file special) (dropSlash path)

end Path
end Url
end WeblogDesk
