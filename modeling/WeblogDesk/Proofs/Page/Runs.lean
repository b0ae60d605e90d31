/-
  WeblogDesk.Proofs.Page.Runs

  What each action on the members page comes to in a run.

  Every operation that asks the server is a handful of calls, and the page that
  it ends with is a function of the answers.  The three changes have one shape,
  `submit`: a call, then a reload if the server has made the change.  `Acts`
  lists all that an action can do, and `acts_act` says that it does one of these;
  what holds of every action is a case analysis over `Acts`.
-/

import WeblogDesk.Page.Members
import WeblogDesk.Proofs.Http.Transcript

namespace WeblogDesk
namespace MembersPage

open Http Conversation

variable (server : Server) (past : List Exchange) (page : MembersPage)

/-! ## Reading -/

/-- The page with no user picked, which is how every read begins. -/
def unpicked : MembersPage := { page with userToAdd := none }

theorem run_load :
    run server past page.load =
      let members := run server past (page.client.members page.weblog)
      let users := run server members.2 (page.client.potentialMembers page.weblog)
      ((((page.unpicked).takeRoles members.1).takePotential users.1,
          members.1.bind fun _ => users.1.map fun _ => ()), users.2) := by
  simp [load, unpicked]

theorem exchanged_load :
    exchanged server past page.load =
      exchanged server past (page.client.members page.weblog) ++
        exchanged server (run server past (page.client.members page.weblog)).2
          (page.client.potentialMembers page.weblog) := by
  simp [load]

theorem run_loadPotential :
    run server past page.loadPotential =
      let users := run server past (page.client.potentialMembers page.weblog)
      (((page.unpicked).takePotential users.1, users.1.map fun _ => ()), users.2) := by
  simp [loadPotential, unpicked]

theorem exchanged_loadPotential :
    exchanged server past page.loadPotential =
      exchanged server past (page.client.potentialMembers page.weblog) := by
  simp [loadPotential]

@[simp] theorem potential_takeRoles (roles : Except Failure RoleMap) :
    (page.takeRoles roles).potential = page.potential := by
  cases roles <;> rfl

theorem potential_takePotential (users : Except Failure PotentialMembers) :
    (page.takePotential users).potential = users.toOption.getD page.potential := by
  cases users <;> rfl

/-! ## Changes on the server -/

/-- The page that tells of a change that was made. -/
def announce (message : String) : MembersPage :=
  { page with
    panels := page.panels.showSuccess
    successMessage := if message.isEmpty then none else some message }

theorem run_saved (message : String) :
    run server past (page.saved message) =
      let reload := run server past (page.announce message).load
      ((reload.1.1, .saved message), reload.2) := by
  simp [saved, announce]

theorem exchanged_saved (message : String) :
    exchanged server past (page.saved message) =
      exchanged server past (page.announce message).load := by
  simp [saved, announce]

/-- A change: the call, then a reload of `next` if the server has made the change. -/
def submit (call : Call) (next : MembersPage) : Conversation (MembersPage × Outcome) := do
  match ← page.client.change call with
  | .ok message => next.saved message
  | .error failure => return page.failed failure

theorem run_submit_of_ok {call : Call} {next : MembersPage} {message : String}
    (h : (run server past (page.client.change call)).1 = .ok message) :
    run server past (page.submit call next) =
      run server (run server past (page.client.change call)).2 (next.saved message) := by
  simp [submit, h]

theorem run_submit_of_error {call : Call} {next : MembersPage} {failure : Failure}
    (h : (run server past (page.client.change call)).1 = .error failure) :
    run server past (page.submit call next) =
      (page.failed failure, (run server past (page.client.change call)).2) := by
  simp [submit, h]

theorem exchanged_submit_of_ok {call : Call} {next : MembersPage} {message : String}
    (h : (run server past (page.client.change call)).1 = .ok message) :
    exchanged server past (page.submit call next) =
      exchanged server past (page.client.change call) ++
        exchanged server (run server past (page.client.change call)).2 (next.saved message) := by
  simp [submit, h]

theorem exchanged_submit_of_error {call : Call} {next : MembersPage} {failure : Failure}
    (h : (run server past (page.client.change call)).1 = .error failure) :
    exchanged server past (page.submit call next) =
      exchanged server past (page.client.change call) := by
  simp [submit, h]

/-! ## Actions -/

/-- The role that an action gives to a member on the page. -/
def Action.edit? : Action → Option (String × Role)
  | .setRole user role => some (user, role)
  | .removeMember user => some (user, .noBlogNeeded)
  | _ => none

/-- The call that an action sends to change something on the server, with the page that is
    reloaded after it.  Nothing is sent without a user and a role. -/
def submission? : Action → Option (Call × MembersPage)
  | .updateRoles => some (.updateMembers page.weblog page.roles, page)
  | .addUser => page.pending.map fun (user, role) =>
    (.attachUser page.weblog user role, page.clearPending)
  | .inviteUser => page.pending.map fun (user, role) =>
    (.inviteUser page.weblog user role, page.clearPending)
  | _ => none

/-- Whatever is sent to change something is about the weblog of the page, and all that the page
    forgets before the reload is what was picked, which is who is added. -/
theorem submission_cases {action : Action} {call : Call} {next : MembersPage}
    (h : page.submission? action = some (call, next)) :
    (call = .updateMembers page.weblog page.roles ∧ next = page) ∨
      ∃ user role, page.pending = some (user, role) ∧ next = page.clearPending ∧
        (call = .attachUser page.weblog user role ∨ call = .inviteUser page.weblog user role) := by
  cases action <;> simp only [submission?, Option.map_eq_some_iff, reduceCtorEq] at h
  case updateRoles =>
    cases h
    exact .inl ⟨rfl, rfl⟩
  case addUser =>
    obtain ⟨pick, hpick, h⟩ := h
    cases h
    exact .inr ⟨pick.1, pick.2, hpick, rfl, .inl rfl⟩
  case inviteUser =>
    obtain ⟨pick, hpick, h⟩ := h
    cases h
    exact .inr ⟨pick.1, pick.2, hpick, rfl, .inr rfl⟩

theorem submission_method {action : Action} {call : Call} {next : MembersPage}
    (h : page.submission? action = some (call, next)) : call.method = .post := by
  rcases submission_cases page h with ⟨rfl, -⟩ | ⟨_, _, -, -, rfl | rfl⟩ <;> rfl

/-- All that an action can do: the page after it, its answer, and what is exchanged. -/
inductive Acts : Action → MembersPage → Result → List Exchange → Prop
  | load {members users} (hm : members = run server past (page.client.members page.weblog))
      (hu : users = run server members.2 (page.client.potentialMembers page.weblog)) :
      Acts .load ((page.unpicked.takeRoles members.1).takePotential users.1)
        (.read (members.1.bind fun _ => users.1.map fun _ => ()))
        (exchanged server past page.load)
  | loadPotential {users}
      (hu : users = run server past (page.client.potentialMembers page.weblog)) :
      Acts .loadPotential (page.unpicked.takePotential users.1)
        (.read (users.1.map fun _ => ())) (exchanged server past page.loadPotential)
  | edit {action user role} (ha : action.edit? = some (user, role))
      (hm : page.roles.contains user = true) :
      Acts action { page with roles := page.roles.insert user role } (.isMember true) []
  | noMember {action user role} (ha : action.edit? = some (user, role))
      (hm : page.roles.contains user = false) :
      Acts action page (.isMember false) []
  | pickUser (user) : Acts (.pickUser user) { page with userToAdd := user } .done []
  | pickRole (role) : Acts (.pickRole role) { page with roleToAdd := role } .done []
  | skip {action} (ha : action = .addUser ∨ action = .inviteUser) (hp : page.pending = none) :
      Acts action page (.outcome .skipped) []
  | made {action call next message} (ha : page.submission? action = some (call, next))
      (hc : (run server past (page.client.change call)).1 = .ok message) :
      Acts action
        (run server (run server past (page.client.change call)).2 (next.announce message).load).1.1
        (.outcome (.saved message))
        (exchanged server past (page.client.change call) ++
          exchanged server (run server past (page.client.change call)).2
            (next.announce message).load)
  | notMade {action call next failure} (ha : page.submission? action = some (call, next))
      (hc : (run server past (page.client.change call)).1 = .error failure) :
      Acts action (page.failed failure).1 (.outcome (page.failed failure).2)
        (exchanged server past (page.client.change call))

theorem acts_setRole {action : Action} {user : String} {role : Role}
    (ha : action.edit? = some (user, role)) :
    Acts server past page action (page.setRole user role).1
      (.isMember (page.setRole user role).2) [] := by
  unfold setRole
  by_cases hm : page.roles.contains user = true
  · rw [if_pos hm]
    exact .edit ha hm
  · rw [if_neg hm]
    exact .noMember ha (eq_false_of_ne_true hm)

theorem acts_submit {action : Action} {call : Call} {next : MembersPage}
    (ha : page.submission? action = some (call, next)) :
    Acts server past page action (run server past (page.submit call next)).1.1
      (.outcome (run server past (page.submit call next)).1.2)
      (exchanged server past (page.submit call next)) := by
  -- the page reloads only if the server has made the change
  cases hc : (run server past (page.client.change call)).1 with
  | ok message =>
    rw [run_submit_of_ok server past page hc, exchanged_submit_of_ok server past page hc,
      run_saved, exchanged_saved]
    exact .made ha hc
  | error failure =>
    rw [run_submit_of_error server past page hc, exchanged_submit_of_error server past page hc]
    exact .notMade ha hc

/-- Every action does one of the things that an action can do. -/
theorem acts_act (action : Action) :
    Acts server past page action (run server past (page.act action)).1.1
      (run server past (page.act action)).1.2 (exchanged server past (page.act action)) := by
  cases action with
  | load =>
    simp only [act, run_bind, run_pure, exchanged_bind, exchanged_pure, List.append_nil, run_load]
    exact .load rfl rfl
  | loadPotential =>
    simp only [act, run_bind, run_pure, exchanged_bind, exchanged_pure, List.append_nil,
      run_loadPotential]
    exact .loadPotential rfl
  | setRole user role => exact acts_setRole server past page rfl
  | removeMember user => exact acts_setRole server past page rfl
  | pickUser user => exact .pickUser user
  | pickRole role => exact .pickRole role
  | updateRoles =>
    simp only [act, run_bind, run_pure, exchanged_bind, exchanged_pure, List.append_nil]
    exact acts_submit server past page rfl
  | addUser =>
    simp only [act, run_bind, run_pure, exchanged_bind, exchanged_pure, List.append_nil, addUser]
    cases hp : page.pending with
    | none => exact .skip (.inl rfl) hp
    | some pick => exact acts_submit server past page (by rw [submission?, hp]; rfl)
  | inviteUser =>
    simp only [act, run_bind, run_pure, exchanged_bind, exchanged_pure, List.append_nil,
      inviteUser]
    cases hp : page.pending with
    | none => exact .skip (.inr rfl) hp
    | some pick => exact acts_submit server past page (by rw [submission?, hp]; rfl)

theorem potential_failed (failure : Failure) :
    (page.failed failure).1.potential = page.potential := by
  cases failure <;> rfl

theorem failed_ne_saved (failure : Failure) (message : String) :
    (page.failed failure).2 ≠ .saved message := by
  cases failure <;> exact nofun

/-- A change that was made was a call with an answer, and then a reload. -/
theorem Acts.of_saved {page next : MembersPage} {action : Action} {message : String}
    {log : List Exchange} (h : Acts server past page action next (.outcome (.saved message)) log) :
    ∃ call following, page.submission? action = some (call, following) ∧
      let changed := run server past (page.client.change call)
      let reload := (following.announce message).load
      changed.1 = .ok message ∧ next = (run server changed.2 reload).1.1 ∧
        log = exchanged server past (page.client.change call) ++
          exchanged server changed.2 reload := by
  generalize hresult : Result.outcome (.saved message) = result at h
  cases h with
  | made ha hc =>
    cases hresult
    exact ⟨_, _, ha, hc, rfl, rfl⟩
  | notMade ha hc =>
    injection hresult with houtcome
    exact absurd houtcome.symm (failed_ne_saved page _ message)
  | _ => cases hresult

/-! ## What stays -/

/-- What a page is made for: how the server is asked, for which weblog, and where to log in. -/
def origin : Client × String × String := (page.client, page.weblog, page.refreshUrl)

@[simp] theorem origin_takeRoles (roles : Except Failure RoleMap) :
    (page.takeRoles roles).origin = page.origin := by
  cases roles <;> rfl

@[simp] theorem origin_takePotential (users : Except Failure PotentialMembers) :
    (page.takePotential users).origin = page.origin := by
  cases users <;> rfl

@[simp] theorem origin_failed (failure : Failure) :
    (page.failed failure).1.origin = page.origin := by
  cases failure <;> rfl

@[simp] theorem origin_announce (message : String) :
    (page.announce message).origin = page.origin := rfl

theorem origin_load : (run server past page.load).1.1.origin = page.origin := by
  rw [run_load, origin_takePotential, origin_takeRoles]
  rfl

theorem origin_submission {action : Action} {call : Call} {next : MembersPage}
    (h : page.submission? action = some (call, next)) : next.origin = page.origin := by
  rcases submission_cases page h with ⟨-, rfl⟩ | ⟨_, _, -, rfl, -⟩
  · rfl
  · rfl

/-- The page that reloads after a change is made for the same as the page before. -/
theorem origin_announce_submission {action : Action} {call : Call} {next : MembersPage}
    (h : page.submission? action = some (call, next)) (message : String) :
    (next.announce message).origin = page.origin :=
  (origin_announce next message).trans (origin_submission page h)

/-- No action changes what the page is made for. -/
theorem Acts.origin {page next : MembersPage} {action : Action} {result : Result}
    {log : List Exchange} (h : Acts server past page action next result log) :
    next.origin = page.origin := by
  cases h with
  | load hm hu => rw [origin_takePotential, origin_takeRoles]; rfl
  | loadPotential hu => rw [origin_takePotential]; rfl
  | edit ha hm => rfl
  | noMember ha hm => rfl
  | pickUser user => rfl
  | pickRole role => rfl
  | skip ha hp => rfl
  | made ha hc => rw [origin_load]; exact origin_announce_submission page ha _
  | notMade ha hc => exact origin_failed page _

end MembersPage
end WeblogDesk
