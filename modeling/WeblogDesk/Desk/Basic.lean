/-
  WeblogDesk.Desk.Basic

  Runs of the desk: one command, one report.

  A deletion stops for a question before it goes on; `Turn` is where a run has
  got to, and `Turn.answer` goes on from there with what stands on standard
  input.
-/

import WeblogDesk.Command
import WeblogDesk.Desk.Report
import WeblogDesk.Settings.Basic

namespace WeblogDesk

open Http

/-- Where a run has got to. -/
inductive Turn where
  /-- To its end. -/
  | finished (report : Report)
  /-- To a question; the rest depends on whether the answer is yes. -/
  | question (prompt : String) (next : Bool → Conversation Report)

namespace Desk

/-! ## Consent -/

/-- The bytes of the first line. -/
def firstLine (input : List UInt8) : List UInt8 :=
  input.takeWhile (· != 0x0A)

/-- Whether the first line of the input says yes.  A line that is not text does not. -/
def consents (input : List UInt8) : Bool :=
  match String.fromUTF8? ⟨(firstLine input).toArray⟩ with
  | none => false
  | some line =>
    let answer := String.ofList (Text.trim line.toList)
    answer == "y" || answer == "Y" || answer == "yes"

/-- The question before a deletion. -/
def prompt (dialog : ConfirmDialog) : String :=
  "Delete \"" ++ dialog.title ++ "\"? [" ++ dialog.labels.confirm ++ " = y / " ++
    dialog.labels.cancel ++ " = n] "

/-! ## Planets -/

/-- Lists the planets. -/
def listPlanets (page : PlanetPage) : Conversation Report := do
  match ← page.load with
  | (page, .ok _) => return .success (Report.planetTable page)
  | (_, .error failure) => return .ofFailure failure

/-- What follows the answer to the question before a deletion. -/
def finishDelete (page : PlanetPage) (yes : Bool) : Conversation Report := do
  if yes then
    match ← page.confirmDelete with
    | (page, .ok ()) => return .success (Report.planetTable page)
    | (_, .error failure) => return .ofFailure failure
  else return .success ""

/-- Deletes a planet, after a question. -/
def deletePlanet (page : PlanetPage) (id : String) : Conversation Turn := do
  match ← page.load with
  | (_, .error failure) => return .finished (.ofFailure failure)
  | (page, .ok _) =>
    match page.requestDelete id with
    | (_, false) => return .finished (.failure ("no planet with id " ++ id))
    | (page, true) => return .question (prompt page.dialog) (finishDelete page)

/-! ## Members -/

/-- Lists the members. -/
def listMembers (page : MembersPage) : Conversation Report := do
  match ← page.load with
  | (page, .ok ()) => return .success (Report.memberListing page)
  | (_, .error failure) => return .ofFailure failure

/-- Changes the role of one member. -/
def changeRole (page : MembersPage) (user : String) (role : Role) : Conversation Report := do
  match ← page.load with
  | (_, .error failure) => return .ofFailure failure
  | (page, .ok ()) =>
    match page.setRole user role with
    | (_, false) => return .failure (user ++ " is not a member")
    | (page, true) =>
      let (page, outcome) ← page.updateRoles
      return .ofOutcome page outcome

/-- Adds a user. -/
def addMember (page : MembersPage) (user : String) (role : Role) : Conversation Report := do
  let (page, outcome) ← { page with userToAdd := some user, roleToAdd := some role }.addUser
  return .ofOutcome page outcome

/-- Invites a user. -/
def invite (page : MembersPage) (user : String) (role : Role) : Conversation Report := do
  let (page, outcome) ← { page with userToAdd := some user, roleToAdd := some role }.inviteUser
  return .ofOutcome page outcome

/-- The page of the weblog that the settings name. -/
def membersPage (settings : Settings) (client : Client) : Except Failure MembersPage :=
  match settings.weblog with
  | none => .error (.config .noWeblog)
  | some weblog => .ok (MembersPage.new client weblog settings.refreshUrl)

/-- A run that needs the members page and no question. -/
def onMembers (settings : Settings) (client : Client)
    (run : MembersPage → Conversation Report) : Conversation Turn :=
  match membersPage settings client with
  | .error failure => return .finished (.ofFailure failure)
  | .ok page => return .finished (← run page)

/-! ## Runs -/

/-- Carries out a command, up to the question if there is one. -/
def perform (settings : Settings) (client : Client) : Command → Conversation Turn
  | .planets => return .finished (← listPlanets (PlanetPage.new client settings.labels))
  | .deletePlanet id => deletePlanet (PlanetPage.new client settings.labels) id
  | .members => onMembers settings client listMembers
  | .setRole user role => onMembers settings client fun page => changeRole page user role
  | .removeMember user => onMembers settings client fun page => changeRole page user .noBlogNeeded
  | .addMember user role => onMembers settings client fun page => addMember page user role
  | .invite user role => onMembers settings client fun page => invite page user role

/-- Carries out the command that words give, up to the question if there is one. -/
def start (idna : Url.Idna) (settings : Settings) (words : List String) : Conversation Turn :=
  match Command.parse words with
  | .error fault => return .finished ⟨2, "", Report.line fault.text⟩
  | .ok command =>
    match settings.client idna with
    | .error failure => return .finished (.ofFailure failure)
    | .ok client => perform settings client command

end Desk

/-- The report of a run, with what stands on standard input. -/
def Turn.answer (input : List UInt8) : Turn → Conversation Report
  | .finished report => return report
  | .question prompt next => return (← next (Desk.consents input)).after prompt

/-- A whole run. -/
def Desk.run (idna : Url.Idna) (settings : Settings) (words : List String) (input : List UInt8) :
    Conversation Report := do
  (← Desk.start idna settings words).answer input

end WeblogDesk
