/-
  WeblogDesk.Command

  The commands of the command line, and the words that give them.

  `words` writes a command and `parse` reads one back; a role may be given in any
  case of its letters.
-/

import WeblogDesk.Role

namespace WeblogDesk

/-- A command. -/
inductive Command where
  | planets
  | deletePlanet (id : String)
  | members
  | setRole (user : String) (role : Role)
  | removeMember (user : String)
  | addMember (user : String) (role : Role)
  | invite (user : String) (role : Role)
  deriving DecidableEq, Repr

namespace Command

/-- Why words give no command. -/
inductive UsageFault where
  /-- No command has this form. -/
  | unknownCommand
  /-- A role is needed, and the word names none. -/
  | unknownRole (word : String)
  deriving DecidableEq, Repr

/-- How the command line is used. -/
def usage : String :=
  "usage: tb-admin <command>\n\n" ++
  "commands:\n" ++
  "  planets                    list planets\n" ++
  "  delete-planet <id>         delete a planet after confirmation\n" ++
  "  members                    list weblog members and users who can be added\n" ++
  "  set-role <user> <role>     change a member's role\n" ++
  "  remove-member <user>       drop a member from the weblog\n" ++
  "  add-member <user> <role>   add a user to the weblog\n" ++
  "  invite <user> <role>       invite a user to the weblog\n\n" ++
  "roles: OWNER, POST, EDIT_DRAFT"

/-- The fault in words. -/
def UsageFault.text : UsageFault → String
  | .unknownCommand => usage
  | .unknownRole word => "unknown role " ++ word ++ "\n\n" ++ usage

/-- The words that give a command. -/
def words : Command → List String
  | .planets => ["planets"]
  | .deletePlanet id => ["delete-planet", id]
  | .members => ["members"]
  | .setRole user role => ["set-role", user, role.wireName]
  | .removeMember user => ["remove-member", user]
  | .addMember user role => ["add-member", user, role.wireName]
  | .invite user role => ["invite", user, role.wireName]

/-- The command with the role that a word names. -/
def withRole (make : Role → Command) (word : String) : Except UsageFault Command :=
  match Role.parse? word with
  | some role => .ok (make role)
  | none => .error (.unknownRole word)

/-- The command that words give. -/
def parse : List String → Except UsageFault Command
  | ["planets"] => .ok .planets
  | ["delete-planet", id] => .ok (.deletePlanet id)
  | ["members"] => .ok .members
  | ["set-role", user, role] => withRole (.setRole user) role
  | ["remove-member", user] => .ok (.removeMember user)
  | ["add-member", user, role] => withRole (.addMember user) role
  | ["invite", user, role] => withRole (.invite user) role
  | _ => .error .unknownCommand

theorem parse_words (c : Command) : parse c.words = .ok c := by
  cases c <;> simp [words, parse, withRole, Role.parse?_wireName]

end Command
end WeblogDesk
