/-
  WeblogDesk.Settings.EnvValue

  The values of an env file.

  A value may be quoted: in single quotes everything stands for itself, in
  double quotes and outside a backslash escapes.  A dollar sign and a name stand
  for the value of a variable, except in single quotes.  A blank ends a value
  that is not quoted, and only a comment may follow.
-/

import WeblogDesk.Text.Alphanumeric

namespace WeblogDesk
namespace EnvFile

/-- Where in a value the reader is.  `inQuotes` tells double quotes from no quotes. -/
inductive Place where
  /-- Where every character is part of the value unless it is special. -/
  | open (inQuotes : Bool)
  /-- Between single quotes. -/
  | literal
  /-- Behind a backslash. -/
  | escaped (inQuotes : Bool)
  /-- Behind a dollar sign, and the name so far. -/
  | name (inQuotes : Bool) (soFar : List Char)
  /-- Behind a dollar sign and a brace, and the name so far. -/
  | braced (inQuotes : Bool) (soFar : List Char)
  /-- Behind the blank that ends the value. -/
  | ended
  /-- In a comment. -/
  | comment
  deriving DecidableEq, Repr

/-- One character where it may be part of the value. -/
def stepOpen (inQuotes : Bool) (c : Char) : List Char × Place :=
  if c == '$' then ([], .name inQuotes [])
  else if c == '\\' then ([], .escaped inQuotes)
  else if c == '"' then ([], .open !inQuotes)
  else if inQuotes then ([c], .open true)
  else if c == '\'' then ([], .literal)
  else if c == ' ' || c == '\t' then ([], .ended)
  else ([c], .open false)

/-- One character of a value: what it adds, and where the reader is next.  `value` gives
    the values of variables. -/
def stepValue (value : List Char → List Char) : Place → Char → Option (List Char × Place)
  | .open inQuotes, c => some (stepOpen inQuotes c)
  | .literal, c => some (if c == '\'' then ([], .open false) else ([c], .literal))
  | .escaped inQuotes, c =>
    if c == '\\' || c == '\'' || c == '"' || c == '$' || c == ' ' then some ([c], .open inQuotes)
    else if c == 'n' then some (['\n'], .open inQuotes)
    else none
  | .name inQuotes soFar, c =>
    if Text.isAlphanumeric c then some ([], .name inQuotes (soFar ++ [c]))
    else if c == '\x7b' && soFar.isEmpty then some ([], .braced inQuotes [])
    else if c == '$' then some (value soFar, .name inQuotes [])
    else some (value soFar ++ [c], .open inQuotes)
  | .braced inQuotes soFar, c =>
    if c == '\x7d' then some (value soFar, .open inQuotes)
    else some ([], .braced inQuotes (soFar ++ [c]))
  | .ended, c =>
    if c == ' ' || c == '\t' then some ([], .ended)
    else if c == '#' then some ([], .comment)
    else none
  | .comment, _ => some ([], .comment)

/-- What the end of the text adds; quotes and braces have to be closed. -/
def endValue (value : List Char → List Char) : Place → Option (List Char)
  | .open false => some []
  | .escaped false => some []
  | .name false soFar => some (value soFar)
  | .ended => some []
  | .comment => some []
  | _ => none

/-- Reads a value from a place in it. -/
def readValueFrom (value : List Char → List Char) : Place → List Char → Option (List Char)
  | place, [] => endValue value place
  | place, c :: rest => do
    let (added, place) ← stepValue value place c
    return added ++ (← readValueFrom value place rest)

/-- Reads a value; `value` gives the values of variables. -/
def readValue (value : List Char → List Char) (s : List Char) : Option (List Char) :=
  readValueFrom value (.open false) s

end EnvFile
end WeblogDesk
