/-
  WeblogDesk.Planet

  Planets: named bundles of feeds, as the server keeps them.

  A planet has four fields of its own; all other fields of its JSON object are
  kept in `extra` and written back.  `id` and `title` have to be there, and none
  of the four may be there twice.
-/

import WeblogDesk.Json.Reader

namespace WeblogDesk

/-- A planet as the server keeps it. -/
structure Planet where
  /-- The key of the planet. -/
  id : String
  /-- Its short name, empty if the server gives none. -/
  handle : String
  /-- Its name. -/
  title : String
  /-- What it is about. -/
  description : Option String
  /-- The fields this library does not interpret, in normal form. -/
  extra : Dict Json.Value

namespace Planet

open Json

/-- The fields of a planet read so far. -/
structure Draft where
  /-- The field `id`. -/
  id : Option String
  /-- The field `handle`. -/
  handle : Option String
  /-- The field `title`. -/
  title : Option String
  /-- The field `description`, which may be `null`. -/
  description : Option (Option String)
  /-- The other fields, the last one first. -/
  others : List (String × Value)

/-- No field read. -/
def Draft.empty : Draft := ⟨none, none, none, none, []⟩

/-- Reads a string or `null`. -/
def readOptional : Reader (Option String) := fun s =>
  match skipBlanks s with
  | 'n' :: rest => (readWord ['u', 'l', 'l'] rest).map (none, ·)
  | s => (readText s).map fun (t, tail) => (some t, tail)

/-- Reads the value of a field that may be there once. -/
def readOnce {α : Type} (field : String) (value : Reader α) (old : Option α) :
    Reader (Option α) :=
  fun s => do
    if old.isSome then throw (.mismatch (.repeated field))
    let (a, s) ← value (← readColon s)
    return (some a, s)

/-- How many arrays and objects may be opened in a field: the list and the planet are
    open already. -/
def fieldDepth : Nat := maxDepth - 2

/-- Reads what follows a key into the fields read so far. -/
def Draft.readField (d : Draft) (key : String) : Reader Draft := fun s =>
  if key == "id" then do
    let (v, s) ← readOnce key readText d.id s
    return ({ d with id := v }, s)
  else if key == "handle" then do
    let (v, s) ← readOnce key readText d.handle s
    return ({ d with handle := v }, s)
  else if key == "title" then do
    let (v, s) ← readOnce key readText d.title s
    return ({ d with title := v }, s)
  else if key == "description" then do
    let (v, s) ← readOnce key readOptional d.description s
    return ({ d with description := v }, s)
  else do
    let (v, s) ← readValue fieldDepth (← readColon s)
    return ({ d with others := (key, v) :: d.others }, s)

/-- The planet with the fields read, if those that have to be there are. -/
def Draft.finish (d : Draft) : Except Fault Planet :=
  match d.id, d.title with
  | none, _ => .error (.mismatch (.missing "id"))
  | _, none => .error (.mismatch (.missing "title"))
  | some id, some title =>
    .ok {
      id
      handle := d.handle.getD ""
      title
      description := d.description.join
      extra := Dict.ofEntries (Value.normalizeEntries d.others.reverse) }

/-- Reads a planet. -/
def read : Reader Planet := fun s =>
  match skipBlanks s with
  | '\x7b' :: rest => do
    let (draft, s) ← readEntries Draft.readField Draft.empty rest
    return (← draft.finish, s)
  | s => .error (mismatchAt "struct Planet" s)

/-- Reads a list of planets. -/
def readList : Reader (List Planet) := fun s =>
  match skipBlanks s with
  | '[' :: rest => readItems read rest
  | s => .error (mismatchAt "a sequence" s)

/-- The planets that a JSON text lists. -/
def listOfJson (text : String) : Except Fault (List Planet) :=
  readWhole readList text

/-- The planet as a JSON object: its own fields, then the others by key. -/
def toJson (p : Planet) : Value :=
  .object
    ([("id", .string p.id), ("handle", .string p.handle), ("title", .string p.title)] ++
      (p.description.map fun d => ("description", Value.string d)).toList ++ p.extra.entries)

end Planet
end WeblogDesk
