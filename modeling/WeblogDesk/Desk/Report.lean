/-
  WeblogDesk.Desk.Report

  What a run of the desk writes, and how pages look on a terminal.
-/

import WeblogDesk.Page.Members
import WeblogDesk.Page.Planets

namespace WeblogDesk

/-- What a run writes and how it ends. -/
structure Report where
  /-- The exit code: 0 if it went well, 1 if not, 2 if the words gave no command. -/
  exit : Nat
  /-- Standard output. -/
  out : String
  /-- Standard error. -/
  err : String
  deriving DecidableEq, Repr

namespace Report

/-- A line. -/
def line (text : String) : String := text ++ "\n"

/-- A run that went well. -/
def success (out : String) : Report := ⟨0, out, ""⟩

/-- A run that did not go well, with a line that says why. -/
def failure (why : String) : Report := ⟨1, "", line why⟩

/-- The report of a failure. -/
def ofFailure (f : Failure) : Report := failure ("error: " ++ f.display)

/-- The report with a text before all that is on standard error. -/
def after (said : String) (report : Report) : Report :=
  { report with err := said ++ report.err }

/-! ## Tables -/

/-- The text with blanks behind it up to a width. -/
def pad (width : Nat) (text : String) : String :=
  text ++ String.ofList (List.replicate (width - text.length) ' ')

/-- A row of planets; a star marks the stripes. -/
def planetLine (row : Row) : String :=
  line ((if row.striped then "*" else " ") ++ " " ++ pad 24 row.id ++ " " ++ pad 16 row.handle ++
    " " ++ row.title)

/-- The table of planets. -/
def planetTable (page : PlanetPage) : String :=
  String.join (page.rows.map planetLine)

/-- A user with what is said of them. -/
def userLine (user said : String) : String :=
  line ("  " ++ pad 24 user ++ " " ++ said)

/-- The members and the users who may be added; the one who is picked is marked. -/
def memberListing (page : MembersPage) : String :=
  line ("members of " ++ page.weblog ++ ":") ++
    String.join (page.roles.entries.map fun (user, role) => userLine user role.wireName) ++
    line "can be added:" ++
    String.join (page.potential.entries.map fun (user, label) =>
      userLine user (label ++ if page.userToAdd = some user then " (default)" else ""))

/-- The report of a change. -/
def ofOutcome (page : MembersPage) : Outcome → Report
  | .saved _ =>
    success (page.successMessage.elim "" line ++ memberListing page)
  | .skipped => ⟨0, "", line "nothing to do"⟩
  | .sessionExpired =>
    failure ("session expired; log in again at " ++ (page.visited.getLast?).getD "")
  | .rejected _ => ⟨1, "", page.refusal.elim "" fun p => line ("rejected: " ++ p.display)⟩
  | .failed f => ofFailure f

end Report
end WeblogDesk
