/-
  WeblogDesk.Url.Parser

  URLs from their text.

  A text is read from the left: scheme, authority, path, query, fragment.  What
  stands in place of a path and does not begin with a slash is kept as text.
-/

import WeblogDesk.Url.Basic
import WeblogDesk.Url.Host

namespace WeblogDesk
namespace Url

/-! ## Scheme and authority -/

/-- The characters behind the first letter of a scheme. -/
def isSchemeChar (c : Char) : Bool :=
  c.isAlphanum || c == '+' || c == '-' || c == '.'

/-- The scheme in lower case and what follows its colon. -/
def scheme? (s : List Char) : Option (List Char × List Char) :=
  match s.head?, s.dropWhile isSchemeChar with
  | some letter, ':' :: rest =>
    if letter.isAlpha then some ((s.takeWhile isSchemeChar).map Char.toLower, rest) else none
  | _, _ => none

/-- Whether the character ends an authority. -/
def endsAuthority (special : Bool) (c : Char) : Bool :=
  c == '/' || c == '?' || c == '#' || (special && c == '\\')

/-- The text before the last `@` and the text behind it. -/
def splitAtLast (s : List Char) : Option (List Char × List Char) :=
  if s.contains '@' then
    some ((s.reverse.dropWhile (· != '@')).tail.reverse,
      (s.reverse.takeWhile (· != '@')).reverse)
  else none

/-- The credentials in normal form: a colon stands only before a password. -/
def userinfoText (raw : List Char) : List Char :=
  let name := raw.takeWhile (· != ':')
  let password := (raw.dropWhile (· != ':')).drop 1
  encode userinfoSet name ++
    if password.isEmpty then [] else ':' :: encode userinfoSet password

/-- The part of an authority up to the colon of its port, which is not one in brackets. -/
def splitHost (inBrackets : Bool) : List Char → List Char × List Char
  | [] => ([], [])
  | c :: rest =>
    if c == ':' && !inBrackets then ([], c :: rest)
    else
      let inBrackets := if c == '[' then true else if c == ']' then false else inBrackets
      let (host, port) := splitHost inBrackets rest
      (c :: host, port)

/-- The port that digits give. -/
def portOf (scheme digits : List Char) : Except Fault (Option Nat) :=
  if !digits.all Char.isDigit || 65535 < numberOf 10 digits then .error .badPort
  else if digits.isEmpty || defaultPorts.lookup scheme = some (numberOf 10 digits) then .ok none
  else .ok (some (numberOf 10 digits))

/-- The authority that the text behind two slashes begins with, and the rest. -/
def readAuthority (idna : Idna) (scheme s : List Char) :
    Except Fault (Authority × List Char) := do
  let special := isSpecialScheme scheme
  let raw := s.takeWhile (!endsAuthority special ·)
  let rest := s.dropWhile (!endsAuthority special ·)
  let (credentials, hostAndPort) := (splitAtLast raw).getD ([], raw)
  if raw.head? = some '@' && credentials.isEmpty && hostAndPort.isEmpty && !rest.isEmpty then
    throw .emptyHost
  let (host, port) := splitHost false hostAndPort
  if special && host.isEmpty then throw .emptyHost
  let host ← hostText idna special host
  if host.isEmpty && !port.isEmpty then throw .emptyHost
  -- A port ends at a backslash also where a host does not.
  let digits := (port.drop 1).takeWhile (· != '\\')
  let behind := (port.drop 1).dropWhile (· != '\\')
  let port ← portOf scheme digits
  let userinfo := userinfoText credentials
  if host.isEmpty && !userinfo.isEmpty then throw .emptyHost
  return (⟨userinfo, host, port⟩, behind ++ rest)

/-! ## Path, query and fragment -/

/-- The text before the first `?` or `#`, and the rest. -/
def splitPath (s : List Char) : List Char × List Char :=
  let ends (c : Char) : Bool := c == '?' || c == '#'
  (s.takeWhile (!ends ·), s.dropWhile (!ends ·))

/-- Query and fragment, from the character that begins them. -/
def readTail (special : Bool) (s : List Char) : Option (List Char) × Option (List Char) :=
  let fragment (s : List Char) : Option (List Char) :=
    match s with
    | '#' :: rest => some (encode fragmentSet rest)
    | _ => none
  match s with
  | '?' :: rest =>
    (some (encode (querySet special) (rest.takeWhile (· != '#'))),
      fragment (rest.dropWhile (· != '#')))
  | s => (none, fragment s)

/-- Whether the character separates segments. -/
def isSlash (special : Bool) (c : Char) : Bool :=
  c == '/' || (special && c == '\\')

/-- The path that a text writes; a slash in front is not part of the first segment. -/
def readPath (file special : Bool) (raw : List Char) : Path :=
  let body :=
    match raw with
    | c :: rest => if isSlash special c then rest else c :: rest
    | [] => []
  Path.resolve file [] (splitAtSeparator (isSlash special) body)

/-! ## Files -/

/-- Whether the path begins with a drive, which is no part of a host. -/
def beginsWithDrive : Path → Bool
  | first :: _ => Path.isDrive first
  | [] => false

/-- The host of a file and the text of its path, from behind the scheme.  A drive is no
    host, and this machine needs none. -/
def readFileHost (idna : Idna) (s : List Char) : Except Fault (List Char × List Char) :=
  match s with
  | a :: b :: rest =>
    if isSlash true a && isSlash true b then
      let raw := rest.takeWhile (!endsAuthority true ·)
      if Path.isDrive raw || raw.isEmpty then .ok ([], rest)
      else
        (hostText idna true raw).map fun host =>
          (if host = "localhost".toList then [] else host, rest.dropWhile (!endsAuthority true ·))
    else .ok ([], s)
  | s => .ok ([], s)

/-- Reads a file URL from behind its scheme. -/
def readFile (idna : Idna) (s : List Char) : Except Fault Url := do
  let (host, s) ← readFileHost idna s
  let (raw, tail) := splitPath s
  let (query, fragment) := readTail true tail
  let path := readPath true true raw
  return {
    scheme := fileScheme
    lead := .authority ⟨[], if beginsWithDrive path then [] else host, none⟩
    path := path.dropEmpty
    query
    fragment }

/-! ## Whole texts -/

/-- Reads a URL with an authority from behind the slashes of the authority. -/
def readHierarchical (idna : Idna) (scheme s : List Char) : Except Fault Url := do
  let special := isSpecialScheme scheme
  let (authority, s) ← readAuthority idna scheme s
  let (raw, tail) := splitPath s
  let (query, fragment) := readTail special tail
  return {
    scheme
    lead := .authority authority
    path := if raw.isEmpty && !special then [] else readPath false special raw
    query
    fragment }

/-- What stands before a path without an authority: a path that would be read as one is
    guarded. -/
def plainLead : Path → Lead
  | [] :: _ :: _ => .guarded
  | _ => .bare

/-- Reads a URL without an authority from behind its scheme. -/
def readPlain (scheme s : List Char) : Url :=
  let (raw, tail) := splitPath s
  let (query, fragment) := readTail false tail
  match raw with
  | '/' :: _ =>
    let path := readPath false false raw
    { scheme, lead := plainLead path, path, query, fragment }
  | _ => { scheme, lead := .rootless (encode (fun _ => false) raw), path := [], query, fragment }

/-- The text without blanks and controls around it, and without the characters that no
    URL holds. -/
def clean (s : List Char) : List Char :=
  let outside (c : Char) : Bool := c.toNat ≤ 0x20
  (((s.dropWhile outside).reverse.dropWhile outside).reverse).filter (!Path.isDropped ·)

/-- Reads a URL. -/
def parse (idna : Idna) (text : String) : Except Fault Url :=
  match scheme? (clean text.toList) with
  | none => .error .relative
  | some (scheme, s) =>
    if scheme = fileScheme then readFile idna s
    else if isSpecialScheme scheme then
      readHierarchical idna scheme (s.dropWhile (isSlash true))
    else
      match s with
      | '/' :: '/' :: rest => readHierarchical idna scheme rest
      | s => .ok (readPlain scheme s)

end Url
end WeblogDesk
