/-
  WeblogDesk.Membership

  Who belongs to a weblog, and who may be added to it.

  Both are maps from user ids and come from the server as JSON objects.  Every
  value of the object has to be right, also one that a later entry with the same
  key replaces.
-/

import WeblogDesk.Role

namespace WeblogDesk

/-- The members of a weblog: user id to role. -/
abbrev RoleMap := Dict Role

/-- The users who may be added to a weblog: user id to label.  The least id is the one
    picked by default. -/
abbrev PotentialMembers := Dict String

open Json

/-- Reads what follows a key, the colon included, and takes the key to it in the map. -/
def readMember {α : Type} (value : Reader α) (d : Dict α) (key : String) : Reader (Dict α) :=
  fun s => do
    let (v, s) ← value (← readColon s)
    return (d.insert key v, s)

/-- Reads a JSON object into a map, each value by `value`. -/
def readDict {α : Type} (value : Reader α) : Reader (Dict α) := fun s =>
  match skipBlanks s with
  | '\x7b' :: rest => readEntries (readMember value) Dict.empty rest
  | s => .error (mismatchAt "a map" s)

namespace RoleMap

/-- The role map that a JSON text writes. -/
def ofJson (text : String) : Except Fault RoleMap :=
  readWhole (readDict Role.read) text

/-- The role map as a JSON object. -/
def toJson (roles : RoleMap) : Value :=
  .object (roles.entries.map fun (user, role) => (user, role.toJson))

end RoleMap

namespace PotentialMembers

/-- The potential members that a JSON text writes. -/
def ofJson (text : String) : Except Fault PotentialMembers :=
  readWhole (readDict readText) text

/-- The potential members as a JSON object. -/
def toJson (users : PotentialMembers) : Value :=
  .object (users.entries.map fun (user, label) => (user, .string label))

end PotentialMembers
end WeblogDesk
