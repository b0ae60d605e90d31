/-
  WeblogDesk.Proofs.Page.Frames

  What a change leaves of the page, if it was not made.

  The page is touched only where something has to be told: the user is sent to log
  in, or the reason of a refusal is shown (`settle`).  Everything else stays as it
  was, what is picked in the form included, and nothing is read again
  (`make_of_not_saved`).
-/

import WeblogDesk.Proofs.Page.Changes

namespace WeblogDesk

open Http Conversation

/-! ## Refusals -/

/-- A change is refused by its status, with the reason that stands in the body of the reply. -/
theorem Outcome.reply_of_rejected {request : Request} {answer : Answer} {payload : Payload}
    (h : ofAnswer request answer = .rejected payload) :
    ∃ reply, answer = .reply reply ∧ reply.status = 400 ∧
      payload = Payload.ofBody (Client.refusalText reply) := by
  obtain ⟨-, -, hrefused, -⟩ := ofAnswer_spec request answer
  have hstatus := hrefused.1 ⟨payload, h⟩
  cases answer with
  | dropped => cases hstatus
  | reply reply =>
    have h400 : reply.status = 400 := Option.some.inj hstatus
    rw [ofAnswer, h400] at h
    cases h
    exact ⟨reply, rfl, h400, rfl⟩

/-! ## The page after a change -/

namespace MembersPage

/-- The page after a change that was not made, by what came of it. -/
def settle (page : MembersPage) : Outcome → MembersPage
  | .sessionExpired => { page with visited := page.visited ++ [page.refreshUrl] }
  | .rejected payload =>
    { page with refusal := some payload, panels := { success := false, error := true } }
  | _ => page

variable (server : Server) (past : List Exchange) (page : MembersPage)

/-- A failure settles the page by what it comes to. -/
theorem failed_eq_settle (failure : Failure) :
    (page.failed failure).1 = page.settle (page.failed failure).2 := by
  cases failure <;> rfl

/-- A call that did not make its change comes to a failure, and nothing is read again. -/
theorem submit_of_not_saved {call : Call} {next : MembersPage}
    (h : (run server past (page.submit call next)).1.2.isSaved = false) :
    ∃ failure, (run server past (page.submit call next)).1 = page.failed failure ∧
      exchanged server past (page.submit call next) =
        exchanged server past (page.client.change call) := by
  cases hc : (run server past (page.client.change call)).1 with
  | ok message =>
    rw [run_submit_of_ok server past page hc, run_saved] at h
    cases h
  | error failure =>
    refine ⟨failure, ?_, exchanged_submit_of_error server past page hc⟩
    rw [run_submit_of_error server past page hc]

/-- A change that was not made settles the page, and at most its own request is sent. -/
theorem make_of_not_saved {change : Change}
    (h : (run server past (page.make change)).1.2.isSaved = false) :
    let ends := run server past (page.make change)
    let log := exchanged server past (page.make change)
    ends.1.1 = page.settle ends.1.2 ∧ log.length ≤ 1 ∧ ∀ e ∈ log, e.request.method = .post := by
  obtain ⟨-, hmake⟩ | ⟨call, next, hcall, hmake⟩ := make_cases page change
  · rw [hmake]
    exact ⟨rfl, Nat.zero_le 1, List.forall_mem_nil _⟩
  · rw [hmake] at h ⊢
    obtain ⟨failure, hends, hlog⟩ := submit_of_not_saved server past page h
    intro ends log
    have hperform : log = exchanged server past (page.client.perform call) :=
      hlog.trans (Client.exchanged_change server past page.client call)
    refine ⟨?_, ?_, fun e he => ?_⟩
    · rw [show ends.1 = page.failed failure from hends]
      exact failed_eq_settle page failure
    · rw [hperform]
      exact Client.length_exchanged_perform server past page.client call
    · rw [hperform] at he
      rw [Client.request_of_mem_perform server past page.client he]
      exact submission_method page hcall

/-- A refused change shows the reason that stands in the body of the reply. -/
theorem reply_of_rejected {change : Change} {payload : Payload}
    (h : (run server past (page.make change)).1.2 = .rejected payload) :
    ∃ call next reply, page.submission? change.action = some (call, next) ∧
      server past (page.client.request call) = .reply reply ∧ reply.status = 400 ∧
      payload = Payload.ofBody (Client.refusalText reply) := by
  obtain ⟨-, hmake⟩ | ⟨call, next, hcall, hmake⟩ := make_cases page change
  · rw [hmake] at h
    cases h
  · rw [hmake] at h
    cases hhttp : page.client.base.isHttp with
    | true =>
      rw [outcome_submit server past hhttp] at h
      obtain ⟨reply, hreply, hstatus, hpayload⟩ := Outcome.reply_of_rejected h
      exact ⟨call, next, reply, hcall, hreply, hstatus, hpayload⟩
    | false =>
      have hfailed := Client.run_change_of_not_isHttp server past hhttp call
      rw [run_submit_of_error server past page hfailed, Client.unsent] at h
      split at h <;> cases h

/-- A change whose reply breaks off has failed, and is the only thing that is exchanged. -/
theorem make_of_brokenOff (hhttp : page.client.base.isHttp = true) {change : Change} {call : Call}
    {next : MembersPage} (hcall : page.submission? change.action = some (call, next))
    {reply : Reply} (hreply : server past (page.client.request call) = .reply reply)
    (hsuccess : isSuccess reply.status = true) (hbroken : reply.complete = false) :
    (run server past (page.make change)).1.2 = .failed (.decode .body) ∧
      exchanged server past (page.make change) = [page.client.ask server past call] := by
  have houtcome : (run server past (page.submit call next)).1.2 = .failed (.decode .body) := by
    rw [outcome_submit server past hhttp]
    show Outcome.ofAnswer _ (server past (page.client.request call)) = _
    simp [hreply, Outcome.ofAnswer, hsuccess, hbroken]
  obtain ⟨reload, hlog, hreload⟩ := exchanged_submit server past hhttp hcall
  rw [houtcome] at hreload
  rw [make_eq_submit hcall, hlog, List.map_eq_nil_iff.1 hreload]
  exact ⟨houtcome, rfl⟩

/-- A change that is skipped or fails leaves the whole page as it was.  Where the session is gone
    the user is sent to log in, and where the server refuses the reason of its reply is shown in
    the error panel; nothing else changes.  No change that was not made reads anything again, and
    this includes one that the server confirms with a body that breaks off. -/
theorem frame_make (server : Server) (past : List Exchange) (page : MembersPage)
    (change : Change) :
    let ends := run server past (page.make change)
    let log := exchanged server past (page.make change)
    (ends.1.2 = .skipped → ends.1.1 = page) ∧
      (∀ failure, ends.1.2 = .failed failure → ends.1.1 = page) ∧
      (ends.1.2 = .sessionExpired →
        ends.1.1 = { page with visited := page.visited ++ [page.refreshUrl] }) ∧
      (∀ payload, ends.1.2 = .rejected payload →
        ends.1.1 =
            { page with refusal := some payload, panels := { success := false, error := true } } ∧
          ∃ call next reply, page.submission? change.action = some (call, next) ∧
            server past (page.client.request call) = .reply reply ∧ reply.status = 400 ∧
            payload = Payload.ofBody (Client.refusalText reply)) ∧
      (ends.1.2.isSaved = false → log.length ≤ 1 ∧ ∀ e ∈ log, e.request.method = .post) ∧
      ∀ call next reply, page.client.base.isHttp = true →
        page.submission? change.action = some (call, next) →
        server past (page.client.request call) = .reply reply →
        isSuccess reply.status = true → reply.complete = false →
          ends.1.2 = .failed (.decode .body) ∧ log = [page.client.ask server past call] := by
  intro ends log
  have hsettle {outcome : Outcome} (houtcome : ends.1.2 = outcome)
      (hnot : outcome.isSaved = false) : ends.1.1 = page.settle outcome := by
    subst houtcome
    exact (make_of_not_saved server past page hnot).1
  refine ⟨fun h => hsettle h rfl, fun failure h => hsettle h rfl, fun h => hsettle h rfl,
    fun payload h => ⟨hsettle h rfl, reply_of_rejected server past page h⟩,
    fun h => (make_of_not_saved server past page h).2, ?_⟩
  intro call next reply hhttp hcall hreply hsuccess hbroken
  exact make_of_brokenOff server past page hhttp hcall hreply hsuccess hbroken

/-- The server adds a user, and the connection breaks within its message: the page does not know of
    it, and does not look. -/
theorem frame_make_of_broken_body :
    let client := Client.onLocalhost
    let page := { new client "w" "/login" with userToAdd := some "u", roleToAdd := some .post }
    let server : Server := fun _ _ => .reply ⟨200, "User ad".toUTF8, false⟩
    let ends := run server [] (page.make .addUser)
    ends.1.2 = .failed (.decode .body) ∧ ends.1.1 = page ∧
      exchanged server [] (page.make .addUser) =
        [client.ask server [] (.attachUser "w" "u" .post)] := by
  intro client page server ends
  obtain ⟨-, hfailed, -, -, -, hbroken⟩ := frame_make server [] page .addUser
  obtain ⟨houtcome, hlog⟩ := hbroken _ page.clearPending _ rfl rfl rfl rfl rfl
  exact ⟨houtcome, hfailed _ houtcome, hlog⟩

end MembersPage
end WeblogDesk
