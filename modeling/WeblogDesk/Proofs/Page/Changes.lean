/-
  WeblogDesk.Proofs.Page.Changes

  What comes of a change on the server, from the answer to its one request.

  The three changes of a page differ in the call that they send.  What comes of it
  is `Outcome.ofAnswer`, which looks at nothing but the answer to that call; the
  two reads that follow a change that was made have no say in it, and tell
  nothing on the page.
-/

import WeblogDesk.Proofs.Endpoint.Requests
import WeblogDesk.Proofs.Page.Messages

namespace WeblogDesk

open Http Conversation

/-! ## Answers -/

namespace Http

/-- The status of an answer, if it is a reply. -/
def Answer.status? : Answer → Option Nat
  | .dropped => none
  | .reply r => some r.status

/-- Whether an answer tells that the request was carried out, and has arrived in full. -/
def Answer.Confirms : Answer → Prop
  | .dropped => False
  | .reply r => Http.isSuccess r.status = true ∧ r.complete = true

end Http

/-- A change is made if its answer confirms it. -/
theorem Client.run_change_eq_ok_iff (server : Server) (past : List Exchange) {client : Client}
    (h : client.base.isHttp = true) (call : Call) :
    (∃ message, (run server past (client.change call)).1 = .ok message) ↔
      (client.ask server past call).answer.Confirms := by
  rw [run_change server past h]
  cases (client.ask server past call).answer with
  | dropped => simp [check, Except.bind, Answer.Confirms]
  | reply r =>
    rw [check, Answer.Confirms]
    cases isSuccess r.status with
    | false => simp [Except.bind]
    | true => cases hcomplete : r.complete <;> simp [Except.bind, readMessage, hcomplete]

namespace Outcome

/-- What a change comes to by the answer to its request. -/
def ofAnswer (request : Request) : Answer → Outcome
  | .dropped => .failed (.transport (.noAnswer request.url))
  | .reply r =>
    if isSuccess r.status then
      if r.complete then .saved (Text.readText r.body) else .failed (.decode .body)
    else if r.status = 408 then .sessionExpired
    else if r.status = 400 then .rejected (Payload.ofBody (Client.refusalText r))
    else .failed (.status r.status (Client.refusalText r))

/-- A change is made if it is confirmed, and two statuses have a meaning of their own;
    everything else is a failure. -/
theorem ofAnswer_spec (request : Request) (answer : Answer) :
    ((∃ message, ofAnswer request answer = .saved message) ↔ answer.Confirms) ∧
      (ofAnswer request answer = .sessionExpired ↔ answer.status? = some 408) ∧
      ((∃ payload, ofAnswer request answer = .rejected payload) ↔ answer.status? = some 400) ∧
      ((∃ failure, ofAnswer request answer = .failed failure) ↔
        ¬answer.Confirms ∧ answer.status? ≠ some 408 ∧ answer.status? ≠ some 400) ∧
      ofAnswer request answer ≠ .skipped := by
  -- the two statuses are no successes
  have hexpired : isSuccess 408 = false := rfl
  have hrefused : isSuccess 400 = false := rfl
  cases answer with
  | dropped => simp [ofAnswer, Answer.Confirms, Answer.status?]
  | reply r =>
    by_cases h408 : r.status = 408
    · simp [ofAnswer, Answer.Confirms, Answer.status?, h408, hexpired]
    · by_cases h400 : r.status = 400
      · simp [ofAnswer, Answer.Confirms, Answer.status?, h400, hrefused]
      · cases hsuccess : isSuccess r.status <;> cases hcomplete : r.complete <;>
          simp [ofAnswer, Answer.Confirms, Answer.status?, h408, h400, hsuccess, hcomplete]

/-- What a change comes to that was not made. -/
def ofFailure : Failure → Outcome
  | .sessionExpired => .sessionExpired
  | .rejected payload => .rejected payload
  | failure => .failed failure

theorem ofFailure_ofStatus (code : Nat) (body : String) :
    ofFailure (.ofStatus code body) =
      if code = 408 then .sessionExpired
      else if code = 400 then .rejected (Payload.ofBody body)
      else .failed (.status code body) := by
  rw [Failure.ofStatus, requestTimeout, badRequest, apply_ite ofFailure, apply_ite ofFailure]
  rfl

/-- What a change comes to by its result. -/
def ofResult : Except Failure String → Outcome
  | .ok message => .saved message
  | .error failure => ofFailure failure

/-- The result that an answer means comes to what the answer does. -/
theorem ofResult_check (request : Request) (answer : Answer) :
    ofResult ((Client.check request answer).bind Client.readMessage) = ofAnswer request answer := by
  cases answer with
  | dropped => rfl
  | reply r =>
    rw [Client.check, ofAnswer]
    by_cases hsuccess : isSuccess r.status = true
    · rw [if_pos hsuccess, if_pos hsuccess]
      show ofResult (Client.readMessage r) = _
      unfold Client.readMessage
      split <;> rfl
    · rw [if_neg hsuccess, if_neg hsuccess]
      exact ofFailure_ofStatus r.status (Client.refusalText r)

end Outcome

namespace MembersPage

/-! ## Changes -/

/-- The changes on the server that the page offers. -/
inductive Change where
  | updateRoles
  | addUser
  | inviteUser
  deriving DecidableEq, Repr

/-- The action that asks for a change. -/
def Change.action : Change → Action
  | .updateRoles => .updateRoles
  | .addUser => .addUser
  | .inviteUser => .inviteUser

/-- Asks for a change. -/
def make (page : MembersPage) : Change → Conversation (MembersPage × Outcome)
  | .updateRoles => page.updateRoles
  | .addUser => page.addUser
  | .inviteUser => page.inviteUser

variable (server : Server) (past : List Exchange) (page : MembersPage)

/-- A change that has a call is that call with what follows it; otherwise it is nothing. -/
theorem make_cases (change : Change) :
    (page.submission? change.action = none ∧ page.make change = pure (page, .skipped)) ∨
      ∃ call next, page.submission? change.action = some (call, next) ∧
        page.make change = page.submit call next := by
  cases change with
  | updateRoles => exact .inr ⟨_, _, rfl, rfl⟩
  | addUser =>
    rw [make, addUser, Change.action, submission?]
    cases page.pending with
    | none => exact .inl ⟨rfl, rfl⟩
    | some pick => exact .inr ⟨_, _, rfl, rfl⟩
  | inviteUser =>
    rw [make, inviteUser, Change.action, submission?]
    cases page.pending with
    | none => exact .inl ⟨rfl, rfl⟩
    | some pick => exact .inr ⟨_, _, rfl, rfl⟩

variable {page} in
theorem make_eq_submit {change : Change} {call : Call} {next : MembersPage}
    (h : page.submission? change.action = some (call, next)) :
    page.make change = page.submit call next := by
  obtain ⟨hnone, -⟩ | ⟨_, _, hother, hmake⟩ := make_cases page change
  · rw [h] at hnone
    cases hnone
  · cases h.symm.trans hother
    exact hmake

theorem pending_eq_none_iff :
    page.pending = none ↔
      page.userToAdd = none ∨ page.userToAdd = some "" ∨ page.roleToAdd = none := by
  unfold pending
  cases page.userToAdd with
  | none => simp
  | some user =>
    cases page.roleToAdd with
    | none => simp
    | some role => simp

theorem pending_eq_some_iff {user : String} {role : Role} :
    page.pending = some (user, role) ↔
      page.userToAdd = some user ∧ page.roleToAdd = some role ∧ user ≠ "" := by
  unfold pending
  cases page.userToAdd with
  | none => simp
  | some picked =>
    cases page.roleToAdd with
    | none => simp
    | some role =>
      by_cases hempty : picked = ""
      · subst hempty
        refine iff_of_false nofun ?_
        rintro ⟨huser, -, hne⟩
        cases huser
        exact hne rfl
      · simp only [String.isEmpty_iff, hempty, if_false, Option.some.injEq, Prod.mk.injEq]
        constructor
        · rintro ⟨rfl, rfl⟩
          exact ⟨rfl, rfl, hempty⟩
        · rintro ⟨rfl, rfl, -⟩
          exact ⟨rfl, rfl⟩

/-- There is no call exactly if a user is to be added, and the user or the role is missing. -/
theorem submission_eq_none_iff (change : Change) :
    page.submission? change.action = none ↔
      change ≠ .updateRoles ∧
        (page.userToAdd = none ∨ page.userToAdd = some "" ∨ page.roleToAdd = none) := by
  rw [← pending_eq_none_iff]
  cases change <;> simp [Change.action, submission?]

/-! ## Outcomes -/

variable {page}

/-- What a change comes to, if there is a call. -/
theorem outcome_submit (h : page.client.base.isHttp = true) (call : Call) (next : MembersPage) :
    (run server past (page.submit call next)).1.2 =
      .ofAnswer (page.client.request call) (page.client.ask server past call).answer := by
  rw [← Outcome.ofResult_check, ← Client.run_change server past h]
  cases hchange : (run server past (page.client.change call)).1 with
  | ok message =>
    rw [run_submit_of_ok server past page hchange, run_saved]
    rfl
  | error failure =>
    rw [run_submit_of_error server past page hchange]
    cases failure <;> rfl

/-- A reload reads the members and the users who may be added, once each. -/
theorem requests_load (h : page.client.base.isHttp = true) :
    (exchanged server past page.load).map (·.request) =
      [page.client.request (.members page.weblog),
        page.client.request (.potentialMembers page.weblog)] := by
  rw [exchanged_load, Client.exchanged_members, Client.exchanged_perform, if_pos h,
    Client.exchanged_potentialMembers, Client.exchanged_perform, if_pos h]
  rfl

/-- Reading the page only asks. -/
theorem method_of_mem_load (page : MembersPage) {e : Exchange}
    (h : e ∈ exchanged server past page.load) :
    e.request.method = .get := by
  rw [exchanged_load, List.mem_append, Client.exchanged_members,
    Client.exchanged_potentialMembers] at h
  rcases h with h | h <;> rw [Client.request_of_mem_perform _ _ _ h] <;> rfl

/-- A change sends its own call, and reads behind it. -/
theorem mem_exchanged_submit {call : Call} {next : MembersPage} {e : Exchange}
    (h : e ∈ exchanged server past (page.submit call next)) :
    e ∈ exchanged server past (page.client.perform call) ∨ e.request.method = .get := by
  rw [← Client.exchanged_change]
  cases hchange : (run server past (page.client.change call)).1 with
  | ok message =>
    rw [exchanged_submit_of_ok server past page hchange, exchanged_saved] at h
    exact (List.mem_append.1 h).imp_right (method_of_mem_load server _ _)
  | error failure =>
    rw [exchanged_submit_of_error server past page hchange] at h
    exact .inl h

theorem ask_mem_submit (h : page.client.base.isHttp = true) (call : Call) (next : MembersPage) :
    page.client.ask server past call ∈ exchanged server past (page.submit call next) := by
  have hask : page.client.ask server past call ∈
      exchanged server past (page.client.change call) := by
    rw [Client.exchanged_change_of_isHttp server past h]
    exact List.mem_singleton_self _
  cases hchange : (run server past (page.client.change call)).1 with
  | ok message =>
    rw [exchanged_submit_of_ok server past page hchange]
    exact List.mem_append_left _ hask
  | error failure =>
    rw [exchanged_submit_of_error server past page hchange]
    exact hask

/-- What is exchanged for a change, if there is a call: the call, and a reload if the change was
    made. -/
theorem exchanged_submit (h : page.client.base.isHttp = true) {action : Action} {call : Call}
    {next : MembersPage} (hcall : page.submission? action = some (call, next)) :
    ∃ reload, exchanged server past (page.submit call next) =
        page.client.ask server past call :: reload ∧
      reload.map (·.request) =
        if (run server past (page.submit call next)).1.2.isSaved then
          [page.client.request (.members page.weblog),
            page.client.request (.potentialMembers page.weblog)]
        else [] := by
  have hask := Client.exchanged_change_of_isHttp server past h call
  cases hchange : (run server past (page.client.change call)).1 with
  | ok message =>
    rw [exchanged_submit_of_ok server past page hchange, hask, exchanged_saved,
      run_submit_of_ok server past page hchange, run_saved]
    refine ⟨_, rfl, ?_⟩
    -- the page that reloads is made for the same weblog
    have horigin : (next.announce message).origin = page.origin :=
      origin_announce_submission page hcall message
    have hclient : (next.announce message).client = page.client := congrArg (·.1) horigin
    have hweblog : (next.announce message).weblog = page.weblog := congrArg (·.2.1) horigin
    have hload := requests_load server
      (run server past (page.client.change call)).2 (hclient ▸ h)
    rw [hclient, hweblog] at hload
    exact hload
  | error failure =>
    rw [exchanged_submit_of_error server past page hchange, hask,
      run_submit_of_error server past page hchange]
    refine ⟨[], rfl, ?_⟩
    cases failure <;> rfl

/-- A change is skipped if there is nobody or no role to add, and then nothing is sent.  Any
    other change is one request, and its answer alone says what comes of it: the page reloads if
    and only if the change was made, whatever the reload comes to. -/
theorem change_settles (server : Server) (past : List Exchange) (page : MembersPage)
    (h : page.client.base.isHttp = true) (change : Change) :
    let ends := run server past (page.make change)
    let next := ends.1.1
    let outcome := ends.1.2
    let log := exchanged server past (page.make change)
    ends.2 = past ++ log ∧
      (outcome = .skipped ↔ change ≠ .updateRoles ∧
        (page.userToAdd = none ∨ page.userToAdd = some "" ∨ page.roleToAdd = none)) ∧
      (outcome = .skipped → log = [] ∧ next = page) ∧
      (outcome ≠ .skipped →
        ∃ call reload, (page.submission? change.action).map (·.1) = some call ∧
          call.method = .post ∧
          log = page.client.ask server past call :: reload ∧
          reload.map (·.request) =
            (if outcome.isSaved then
              [page.client.request (.members page.weblog),
                page.client.request (.potentialMembers page.weblog)]
            else []) ∧
          let answer := server past (page.client.request call)
          ((∃ message, outcome = .saved message) ↔ answer.Confirms) ∧
          (outcome = .sessionExpired ↔ answer.status? = some 408) ∧
          ((∃ payload, outcome = .rejected payload) ↔ answer.status? = some 400) ∧
          ((∃ failure, outcome = .failed failure) ↔
            ¬answer.Confirms ∧ answer.status? ≠ some 408 ∧ answer.status? ≠ some 400)) ∧
      ∀ message, outcome = .saved message →
        next.visited = page.visited ∧ next.refusal = page.refusal ∧
          next.panels = page.panels.showSuccess := by
  obtain ⟨hcall, hmake⟩ | ⟨call, following, hcall, hmake⟩ := make_cases page change
  · rw [hmake]
    intro ends next outcome log
    have hpick := (submission_eq_none_iff page change).1 hcall
    exact ⟨(List.append_nil past).symm, iff_of_true rfl hpick, fun _ => ⟨rfl, rfl⟩,
      fun hsent => absurd rfl hsent, nofun⟩
  · rw [hmake]
    intro ends next outcome log
    obtain ⟨reload, hlog, hreload⟩ := exchanged_submit server past h hcall
    -- the outcome is that of the answer, which is never skipped
    have houtcome : outcome = .ofAnswer (page.client.request call)
        (server past (page.client.request call)) := outcome_submit server past h call following
    obtain ⟨hsaved, hexpired, hrejected, hfailed, hsent⟩ :=
      Outcome.ofAnswer_spec (page.client.request call) (server past (page.client.request call))
    rw [← houtcome] at hsaved hexpired hrejected hfailed hsent
    have hpick := (submission_eq_none_iff page change).not.1 (by rw [hcall]; exact nofun)
    refine ⟨run_snd server past _, iff_of_false hsent hpick,
      fun hskipped => absurd hskipped hsent,
      fun _ => ⟨call, reload, by rw [hcall]; rfl, submission_method page hcall, hlog, hreload,
        hsaved, hexpired, hrejected, hfailed⟩, fun message hmessage => ?_⟩
    have hmessages : next.messages = page.messages.tell page.refreshUrl outcome :=
      (acts_submit server past page hcall).messages
    rw [hmessage] at hmessages
    exact ⟨congrArg Messages.visited hmessages, congrArg Messages.refusal hmessages,
      congrArg Messages.panels hmessages⟩

/-- The session is lost right after a user was attached: both reads are refused, and still
    nobody is sent to log in. -/
theorem change_settles_of_lost_session :
    let client := Client.onLocalhost
    let page := { new client "w" "/login" with userToAdd := some "u", roleToAdd := some .post }
    let server : Server := fun _ request =>
      .reply ⟨if request.method = .post then 200 else 408, ByteArray.empty, true⟩
    let ends := run server [] (page.make .addUser)
    Client.new .asciiOnly "http://localhost:8080/" none = .ok client ∧ client.base.isHttp = true ∧
      (∃ message, ends.1.2 = .saved message) ∧ ends.1.1.visited = [] ∧
        ends.2.map (·.request) = [client.request (.attachUser "w" "u" .post),
          client.request (.members "w"), client.request (.potentialMembers "w")] := by
  intro client page server ends
  have hhttp : client.base.isHttp = true := by rfl
  obtain ⟨hrecord, hskipped, -, hsent, hquiet⟩ := change_settles server [] page hhttp .addUser
  have hpick : ¬(Change.addUser ≠ .updateRoles ∧
      (page.userToAdd = none ∨ page.userToAdd = some "" ∨ page.roleToAdd = none)) := by
    simp [page]
  obtain ⟨call, reload, hcall, -, hlog, hreload, hsaved, -⟩ := hsent (hskipped.not.2 hpick)
  cases hcall
  have hconfirms : (server [] (client.request (.attachUser "w" "u" .post))).Confirms :=
    ⟨rfl, rfl⟩
  obtain ⟨message, hmessage⟩ := hsaved.2 hconfirms
  refine ⟨rfl, hhttp, ⟨message, hmessage⟩, (hquiet message hmessage).1, ?_⟩
  rw [hmessage, Outcome.isSaved, if_pos rfl] at hreload
  rw [hrecord, hlog, List.nil_append, List.map_cons, hreload]
  rfl

end MembersPage
end WeblogDesk
