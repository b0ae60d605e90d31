/-
  WeblogDesk.Settings.EnvFile

  Files that set variables, one in a line.

  A quote that is not closed, or a backslash before the line break, carries a
  line over the break.  `entries` gives the variables that a file sets, up to its
  first line that is malformed; `load` sets those that are unset.
-/

import WeblogDesk.Settings.EnvValue
import WeblogDesk.Settings.Environment
import WeblogDesk.Text.Blank
import WeblogDesk.Text.Decoding

namespace WeblogDesk
namespace EnvFile

/-! ## Lines -/

/-- The lines of a file, each with its line break. -/
def splitLines : List UInt8 → List (List UInt8)
  | [] => []
  | b :: rest =>
    if b == 0x0A then [b] :: splitLines rest
    else
      match splitLines rest with
      | [] => [[b]]
      | line :: lines => (b :: line) :: lines

/-- What a line is in the middle of. -/
inductive Mode where
  /-- Nothing: the line may end here. -/
  | complete
  /-- One blank, behind which a comment may begin. -/
  | blank
  /-- An escape outside quotes. -/
  | escape
  /-- Single quotes. -/
  | single
  /-- An escape in single quotes. -/
  | singleEscape
  /-- Double quotes. -/
  | double
  /-- An escape in double quotes. -/
  | doubleEscape
  deriving DecidableEq, Repr

/-- What the line is in the middle of after one more character outside quotes. -/
def Mode.begin (c : Char) : Mode :=
  if c == '\\' then .escape
  else if c == '"' then .double
  else if c == '\'' then .single
  else .complete

/-- What the line is in the middle of after one more character; none if a comment begins. -/
def Mode.next (mode : Mode) (c : Char) : Option Mode :=
  match mode with
  | .complete => some (if Text.isBlank c && c != '\n' && c != '\r' then .blank else .begin c)
  | .blank => if c == '#' then none else some (.begin c)
  | .escape => some .complete
  | .single => some (if c == '\\' then .singleEscape else if c == '\'' then .complete else .single)
  | .singleEscape => some .single
  | .double => some (if c == '\\' then .doubleEscape else if c == '"' then .complete else .double)
  | .doubleEscape => some .double

/-- The text up to a comment, and what it ends in the middle of; none if a comment ends it. -/
def scan : Mode → List Char → List Char × Option Mode
  | mode, [] => ([], some mode)
  | mode, c :: rest =>
    match mode.next c with
    | none => ([], none)
    | some mode =>
      let (front, last) := scan mode rest
      (c :: front, last)

/-- The text without the line break at its end. -/
def dropBreak (s : List Char) : List Char :=
  match s.reverse with
  | '\n' :: '\r' :: rest => rest.reverse
  | '\n' :: rest => rest.reverse
  | _ => s

/-- The lines with those joined that a quote or an escape carries on; a line that is not
    text, or is never finished, is none.  `held` is the unfinished line so far. -/
def joinLines : List Char → Mode → List (Option (List Char)) → List (Option (List Char))
  | _, .complete, [] => []
  | _, _, [] => [none]
  | _, _, none :: _ => [none]
  | held, mode, some line :: rest =>
    let whole := held ++ line
    if (Text.trimStart whole).head? = some '#' then some [] :: joinLines [] .complete rest
    else
      match scan mode line with
      | (front, none) => some (held ++ front) :: joinLines [] .complete rest
      | (_, some .complete) => some (dropBreak whole) :: joinLines [] .complete rest
      | (_, some mode) => joinLines whole mode rest

/-- The lines of a file. -/
def lines (file : ByteArray) : List (Option (List Char)) :=
  joinLines [] .complete
    ((splitLines (Text.dropMark file.data.toList)).map fun line =>
      (String.fromUTF8? ⟨line.toArray⟩).map String.toList)

/-! ## Entries -/

/-- What a line says. -/
inductive Line where
  | blank
  | entry (name value : String)
  | malformed
  deriving DecidableEq, Repr

/-- The characters behind the first one of a name. -/
def isNameChar (c : Char) : Bool :=
  c.isAlphanum || c == '_' || c == '.'

/-- Reads a name. -/
def readName (s : List Char) : Option (List Char × List Char) :=
  match s with
  | [] => none
  | c :: _ =>
    if c.isAlpha || c == '_' then some (s.takeWhile isNameChar, s.dropWhile isNameChar) else none

/-- Reads a name with the equals sign behind it. -/
def readAssignment (s : List Char) : Option (List Char × List Char) := do
  let (name, rest) ← readName s
  match Text.trimStart rest with
  | '=' :: rest => some (name, rest)
  | _ => none

/-- Reads the name of an entry up to the equals sign; the word `export` may stand before it. -/
def readTarget (s : List Char) : Option (List Char × List Char) :=
  match readAssignment s with
  | some target => some target
  | none => do
    let (name, rest) ← readName s
    if name = "export".toList then readAssignment (Text.trimStart rest) else none

/-- Whether a line, from its first character that is not blank, says nothing. -/
def saysNothing (s : List Char) : Bool :=
  s.isEmpty || s.head? == some '#'

/-- Reads a line; `value` gives the values of variables. -/
def readLine (value : List Char → List Char) (line : List Char) : Line :=
  let s := Text.trimStart (Text.trimEnd line)
  if saysNothing s then .blank
  else
    match readTarget s with
    | none => .malformed
    | some (name, rest) =>
      let rest := Text.trimStart rest
      if saysNothing rest then .entry (String.ofList name) ""
      else
        match readValue value rest with
        | none => .malformed
        | some text => .entry (String.ofList name) (String.ofList text)

/-- The value of a variable, empty if it is unset. -/
def valueIn (env : Environment) (name : List Char) : List Char :=
  ((env.find? (String.ofList name)).getD "").toList

/-- The entries of lines, up to the first that is malformed.  Entries set variables that
    are unset, for the entries behind them. -/
def entriesFrom (env : Environment) : List (Option (List Char)) → List (String × String)
  | some line :: rest =>
    match readLine (valueIn env) line with
    | .blank => entriesFrom env rest
    | .entry name value => (name, value) :: entriesFrom (env.setDefault name value) rest
    | .malformed => []
  | _ => []

/-- The entries of a file, up to the first line that is malformed. -/
def entries (env : Environment) (file : ByteArray) : List (String × String) :=
  entriesFrom env (lines file)

/-- The environment with the variables of a file set, where they are unset.  It is
    assumed that no value of the file holds a NUL, which no variable can be set to. -/
def load (env : Environment) (file : ByteArray) : Environment :=
  (entries env file).foldl (fun env entry => env.setDefault entry.1 entry.2) env

end EnvFile
end WeblogDesk
