/-
  WeblogDesk.Role

  The role a user holds on a weblog, and its two spellings.

  The server writes a role as its wire name; on the command line the case of
  ASCII letters does not matter.  In JSON a role is its wire name in quotes, or
  an object with the wire name as its one key and `null` behind it.
-/

import WeblogDesk.Json.Reader

namespace WeblogDesk

/-- The role a user holds on a weblog, the most powerful first. -/
inductive Role where
  | owner
  | post
  | editDraft
  /-- Sent in a bulk update to drop the member from the weblog. -/
  | noBlogNeeded
  deriving DecidableEq, Repr

namespace Role

/-- All roles, in order. -/
def all : List Role := [owner, post, editDraft, noBlogNeeded]

/-- The name of the role on the wire. -/
def wireName : Role → String
  | owner => "OWNER"
  | post => "POST"
  | editDraft => "EDIT_DRAFT"
  | noBlogNeeded => "NOBLOGNEEDED"

/-- The place of the role in the order. -/
def rank : Role → Nat
  | owner => 0
  | post => 1
  | editDraft => 2
  | noBlogNeeded => 3

instance : Ord Role := ⟨fun a b => compare a.rank b.rank⟩

/-- The role with exactly this wire name. -/
def ofWireName? (name : String) : Option Role :=
  all.find? fun r => r.wireName == name

/-- The text with ASCII letters in upper case. -/
def upper (s : String) : String :=
  String.ofList (s.toList.map Char.toUpper)

/-- The role that a word names, whatever the case of its ASCII letters. -/
def parse? (word : String) : Option Role :=
  ofWireName? (upper word)

theorem ofWireName?_wireName (r : Role) : ofWireName? r.wireName = some r := by
  cases r <;> decide

/-- A role has no other wire name than its own. -/
theorem ofWireName?_eq_some_iff {name : String} {r : Role} :
    ofWireName? name = some r ↔ name = r.wireName := by
  constructor
  · intro h
    have := List.find?_some h
    exact (beq_iff_eq.1 this).symm
  · rintro rfl
    exact ofWireName?_wireName r

theorem parse?_wireName (r : Role) : parse? r.wireName = some r := by
  cases r <;> decide

/-! ## JSON -/

open Json

/-- The role that a name in a JSON text stands for. -/
def ofJsonName (name : String) : Except Fault Role :=
  match ofWireName? name with
  | some r => .ok r
  | none => .error (.mismatch (.unknown name (all.map wireName)))

/-- Reads the `null` behind the one key of a role that is written as an object. -/
def readUnit (s : List Char) : Except Fault (List Char) :=
  match skipBlanks s with
  | 'n' :: rest => readWord ['u', 'l', 'l'] rest
  | s => .error (mismatchAt "unit" s)

/-- Reads the inside of a role that is written as an object. -/
def readTagged : Reader Role := fun s =>
  match skipBlanks s with
  | '"' :: rest => do
    let (name, s) ← readString rest
    let role ← ofJsonName name
    let s ← readUnit (← readColon s)
    match skipBlanks s with
    | [] => .error .cutShort
    | '\x7d' :: rest => .ok (role, rest)
    | _ => .error .malformed
  | s => .error (mismatchAt "variant identifier" s)

/-- Reads a role. -/
def read : Reader Role := fun s =>
  match skipBlanks s with
  | [] => .error .cutShort
  | '"' :: rest => do
    let (name, s) ← readString rest
    return (← ofJsonName name, s)
  | '\x7b' :: rest => readTagged rest
  | _ => .error .malformed

/-- The role that a JSON text writes. -/
def ofJson (text : String) : Except Fault Role :=
  readWhole read text

/-- The role as a JSON value. -/
def toJson (r : Role) : Value :=
  .string r.wireName

end Role
end WeblogDesk
