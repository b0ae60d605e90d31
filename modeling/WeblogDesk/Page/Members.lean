/-
  WeblogDesk.Page.Members

  The page of a weblog's members.

  The page holds the members with their roles, the users who may be added, the
  user and role picked in the form, and what the last changes came to.  Roles are
  changed on the page first and sent all at once.  Each change that the server
  makes is followed by a reload; a read that fails leaves its part of the page as
  it was.
-/

import WeblogDesk.Client
import WeblogDesk.Page.Outcome

namespace WeblogDesk

open Http

/-- The page of a weblog's members. -/
structure MembersPage where
  /-- How the server is asked. -/
  client : Client
  /-- The weblog whose members these are. -/
  weblog : String
  /-- Where to log in again. -/
  refreshUrl : String
  /-- The members and their roles. -/
  roles : RoleMap
  /-- The users who may be added. -/
  potential : PotentialMembers
  /-- The reason that the server gave last for refusing a change. -/
  refusal : Option Payload
  /-- What the server said of the last change that was made. -/
  successMessage : Option String
  /-- The message panels that are visible. -/
  panels : Panels
  /-- The addresses that the user was sent to, the first one first. -/
  visited : List String
  /-- The user picked in the form. -/
  userToAdd : Option String
  /-- The role picked in the form. -/
  roleToAdd : Option Role

namespace MembersPage

/-- The page before anything is read. -/
def new (client : Client) (weblog refreshUrl : String) : MembersPage where
  client
  weblog
  refreshUrl
  roles := Dict.empty
  potential := Dict.empty
  refusal := none
  successMessage := none
  panels := .hidden
  visited := []
  userToAdd := none
  roleToAdd := none

/-! ## Reading -/

/-- The page with the members that were read, if they were. -/
def takeRoles (page : MembersPage) : Except Failure RoleMap → MembersPage
  | .ok roles => { page with roles }
  | .error _ => page

/-- The page with the potential members that were read, if they were; the first is picked. -/
def takePotential (page : MembersPage) : Except Failure PotentialMembers → MembersPage
  | .ok users => { page with potential := users, userToAdd := users.leastKey? }
  | .error _ => page

/-- Reads members and potential members; of two failures the first counts. -/
def load (page : MembersPage) : Conversation (MembersPage × Except Failure Unit) := do
  let roles ← page.client.members page.weblog
  let potential ← page.client.potentialMembers page.weblog
  let page := ({ page with userToAdd := none }.takeRoles roles).takePotential potential
  return (page, roles.bind fun _ => potential.map fun _ => ())

/-- Reads the potential members. -/
def loadPotential (page : MembersPage) : Conversation (MembersPage × Except Failure Unit) := do
  let potential ← page.client.potentialMembers page.weblog
  return ({ page with userToAdd := none }.takePotential potential, potential.map fun _ => ())

/-! ## Changes on the page -/

/-- Changes the role of a member on the page; whether the user is a member. -/
def setRole (page : MembersPage) (user : String) (role : Role) : MembersPage × Bool :=
  if page.roles.contains user then ({ page with roles := page.roles.insert user role }, true)
  else (page, false)

/-- Marks a member for removal; whether the user is a member. -/
def removeMember (page : MembersPage) (user : String) : MembersPage × Bool :=
  page.setRole user .noBlogNeeded

/-! ## Changes on the server -/

/-- The page after the server has made a change, and reloads. -/
def saved (page : MembersPage) (message : String) : Conversation (MembersPage × Outcome) := do
  let page := { page with
    panels := page.panels.showSuccess
    successMessage := if message.isEmpty then none else some message }
  let (page, _) ← page.load
  return (page, .saved message)

/-- The page after a change was not made. -/
def failed (page : MembersPage) : Failure → MembersPage × Outcome
  | .sessionExpired => ({ page with visited := page.visited ++ [page.refreshUrl] }, .sessionExpired)
  | .rejected payload =>
    ({ page with refusal := some payload, panels := page.panels.showError }, .rejected payload)
  | failure => (page, .failed failure)

/-- Sends all roles. -/
def updateRoles (page : MembersPage) : Conversation (MembersPage × Outcome) := do
  match ← page.client.change (.updateMembers page.weblog page.roles) with
  | .ok message => page.saved message
  | .error failure => return page.failed failure

/-- The user and role to add, if both are picked. -/
def pending (page : MembersPage) : Option (String × Role) :=
  match page.userToAdd, page.roleToAdd with
  | some user, some role => if user.isEmpty then none else some (user, role)
  | _, _ => none

/-- The page with nothing picked. -/
def clearPending (page : MembersPage) : MembersPage :=
  { page with userToAdd := none, roleToAdd := none }

/-- Attaches the user who is picked, with the role that is picked. -/
def addUser (page : MembersPage) : Conversation (MembersPage × Outcome) := do
  match page.pending with
  | none => return (page, .skipped)
  | some (user, role) =>
    match ← page.client.change (.attachUser page.weblog user role) with
    | .ok message => page.clearPending.saved message
    | .error failure => return page.failed failure

/-- Invites the user who is picked, with the role that is picked. -/
def inviteUser (page : MembersPage) : Conversation (MembersPage × Outcome) := do
  match page.pending with
  | none => return (page, .skipped)
  | some (user, role) =>
    match ← page.client.change (.inviteUser page.weblog user role) with
    | .ok message => page.clearPending.saved message
    | .error failure => return page.failed failure

/-! ## Histories -/

/-- Something that a user does on the page. -/
inductive Action where
  | load
  | loadPotential
  | setRole (user : String) (role : Role)
  | removeMember (user : String)
  | pickUser (user : Option String)
  | pickRole (role : Option Role)
  | updateRoles
  | addUser
  | inviteUser
  deriving DecidableEq, Repr

/-- What an action answers. -/
inductive Result where
  /-- What reading came to. -/
  | read (result : Except Failure Unit)
  /-- Whether the user is a member. -/
  | isMember (answer : Bool)
  /-- Nothing. -/
  | done
  /-- What a change on the server came to. -/
  | outcome (outcome : Outcome)

/-- One action. -/
def act (page : MembersPage) : Action → Conversation (MembersPage × Result)
  | .load => do
    let (page, result) ← page.load
    return (page, .read result)
  | .loadPotential => do
    let (page, result) ← page.loadPotential
    return (page, .read result)
  | .setRole user role =>
    let (page, answer) := page.setRole user role
    return (page, .isMember answer)
  | .removeMember user =>
    let (page, answer) := page.removeMember user
    return (page, .isMember answer)
  | .pickUser user => return ({ page with userToAdd := user }, .done)
  | .pickRole role => return ({ page with roleToAdd := role }, .done)
  | .updateRoles => do
    let (page, outcome) ← page.updateRoles
    return (page, .outcome outcome)
  | .addUser => do
    let (page, outcome) ← page.addUser
    return (page, .outcome outcome)
  | .inviteUser => do
    let (page, outcome) ← page.inviteUser
    return (page, .outcome outcome)

/-- The actions one after the other, with what each answers. -/
def actAll (page : MembersPage) : List Action → Conversation (MembersPage × List Result)
  | [] => return (page, [])
  | action :: rest => do
    let (page, result) ← page.act action
    let (page, results) ← page.actAll rest
    return (page, result :: results)

end MembersPage
end WeblogDesk
