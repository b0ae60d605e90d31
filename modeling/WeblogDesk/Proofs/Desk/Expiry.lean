/-
  WeblogDesk.Proofs.Desk.Expiry

  Runs of the desk in which the login session is gone.

  Only a change that is refused in this way tells where to log in again.  A read
  or a deletion ends the run with the failure itself, whose words do not name a
  place (`Command.SaysExpired`).
-/

import WeblogDesk.Proofs.Desk.Exit

namespace WeblogDesk

open Http Conversation

/-- A place of two lists, one after the other, is a place of the first or of the second. -/
theorem append_eq_append_cons {α : Type} {front back before after : List α} {a : α}
    (h : front ++ back = before ++ a :: after) :
    (∃ rest, front = before ++ a :: rest) ∨
      ∃ rest, before = front ++ rest ∧ back = rest ++ a :: after := by
  rcases List.append_eq_append_iff.1 h with ⟨rest, hbefore, hback⟩ | ⟨rest, hfront, hrest⟩
  · exact .inr ⟨rest, hbefore, hback⟩
  · cases rest with
    | nil =>
      rw [List.append_nil] at hfront
      exact .inr ⟨[], by rw [hfront, List.append_nil], hrest.symm⟩
    | cons head rest =>
      cases hrest
      exact .inl ⟨rest, hfront⟩

/-! ## Calls -/

namespace Client

variable {server : Server} {past before after : List Exchange} {client : Client} {call : Call}
  {e : Exchange}

theorem check_of_expired (request : Request) {answer : Answer} (h : answer.status? = some 408) :
    check request answer = .error .sessionExpired := by
  cases answer with
  | dropped => cases h
  | reply reply =>
    have hstatus : reply.status = 408 := Option.some.inj h
    rw [check, hstatus]
    rfl

/-- All that is exchanged for a call is the call. -/
theorem exchanged_perform_eq_append_cons
    (h : exchanged server past (client.perform call) = before ++ e :: after) :
    before = [] ∧ e = client.ask server past call ∧ client.base.isHttp = true := by
  rw [exchanged_perform] at h
  split at h
  · next hhttp =>
    cases before with
    | nil =>
      cases h
      exact ⟨rfl, rfl, hhttp⟩
    | cons head rest => simp at h
  · simp at h

/-- A call that finds the session gone fails so, whatever its reply is read for. -/
theorem run_of_expired {α : Type} (read : Except Failure Reply → Except Failure α)
    (hread : read (.error .sessionExpired) = .error .sessionExpired)
    (he : e ∈ exchanged server past (client.perform call))
    (hexpired : e.answer.status? = some 408) :
    (run server past (do return read (← client.perform call))).1 = .error .sessionExpired := by
  obtain ⟨before, after, hlog⟩ := List.append_of_mem he
  obtain ⟨-, rfl, hhttp⟩ := exchanged_perform_eq_append_cons hlog
  rw [run_bind, run_pure, run_perform, if_pos hhttp, check_of_expired _ hexpired, hread]

theorem run_listPlanets_of_expired (he : e ∈ exchanged server past client.listPlanets)
    (hexpired : e.answer.status? = some 408) :
    (run server past client.listPlanets).1 = .error .sessionExpired := by
  rw [exchanged_listPlanets] at he
  exact run_of_expired (·.bind (readJson Planet.listOfJson)) rfl he hexpired

theorem run_deletePlanet_of_expired {id : String}
    (he : e ∈ exchanged server past (client.deletePlanet id))
    (hexpired : e.answer.status? = some 408) :
    (run server past (client.deletePlanet id)).1 = .error .sessionExpired := by
  rw [exchanged_deletePlanet] at he
  exact run_of_expired (·.map fun _ => ()) rfl he hexpired

theorem run_change_of_expired (he : e ∈ exchanged server past (client.change call))
    (hexpired : e.answer.status? = some 408) :
    (run server past (client.change call)).1 = .error .sessionExpired := by
  rw [exchanged_change] at he
  exact run_of_expired (·.bind readMessage) rfl he hexpired

/-- What an answer about members says. -/
def membersTold (e : Exchange) : Except Failure RoleMap :=
  (check e.request e.answer).bind (readJson RoleMap.ofJson)

theorem run_members (h : client.base.isHttp = true) (weblog : String) :
    (run server past (client.members weblog)).1 =
      membersTold (client.ask server past (.members weblog)) := by
  rw [members, run_bind, run_pure, run_perform, if_pos h]
  rfl

end Client

/-! ## Pages -/

namespace MembersPage

variable {server : Server} {past before after : List Exchange} {page : MembersPage} {e : Exchange}

/-- A page is not read if the session is gone.  Of two failures it tells that of the members. -/
theorem load_of_expired (h : exchanged server past page.load = before ++ e :: after)
    (hexpired : e.answer.status? = some 408) :
    e.request.method = .get ∧ ∃ failure, (run server past page.load).1.2 = .error failure ∧
      (∀ b ∈ before, ∀ other, Client.membersTold b = .error other → failure = other) ∧
      ((∀ b ∈ before, ∃ roles, Client.membersTold b = .ok roles) → failure = .sessionExpired) := by
  refine ⟨method_of_mem_load server past page (h ▸ List.mem_append_cons_self), ?_⟩
  have hresult : (run server past page.load).1.2 =
      (run server past (page.client.members page.weblog)).1.bind fun _ =>
        (run server (run server past (page.client.members page.weblog)).2
          (page.client.potentialMembers page.weblog)).1.map fun _ => () := by
    rw [run_load]
  rw [exchanged_load] at h
  rw [hresult]
  rcases append_eq_append_cons h with ⟨rest, hmembers⟩ | ⟨rest, hbefore, husers⟩
  · rw [Client.exchanged_members] at hmembers
    obtain ⟨rfl, -, -⟩ := Client.exchanged_perform_eq_append_cons hmembers
    have hfailed : (run server past (page.client.members page.weblog)).1 = .error .sessionExpired :=
      Client.run_of_expired (·.bind (Client.readJson RoleMap.ofJson)) rfl
        (hmembers ▸ List.mem_append_cons_self) hexpired
    exact ⟨.sessionExpired, by rw [hfailed]; rfl, List.forall_mem_nil _, fun _ => rfl⟩
  · rw [Client.exchanged_potentialMembers] at husers
    obtain ⟨rfl, -, hhttp⟩ := Client.exchanged_perform_eq_append_cons husers
    have hfailed : (run server (run server past (page.client.members page.weblog)).2
        (page.client.potentialMembers page.weblog)).1 = .error .sessionExpired :=
      Client.run_of_expired (·.bind (Client.readJson PotentialMembers.ofJson)) rfl
        (husers ▸ List.mem_append_cons_self) hexpired
    rw [List.append_nil, Client.exchanged_members, Client.exchanged_perform,
      if_pos hhttp] at hbefore
    subst hbefore
    simp only [List.forall_mem_singleton, ← Client.run_members hhttp]
    cases (run server past (page.client.members page.weblog)).1 with
    | error failure => exact ⟨failure, rfl, fun other hother => Except.error.inj hother, nofun⟩
    | ok roles =>
      rw [hfailed]
      exact ⟨.sessionExpired, rfl, nofun, fun _ => rfl⟩

/-- A change that finds the session gone sends the user to log in again. -/
theorem submit_of_expired {call : Call} {next : MembersPage} (hcall : call.method = .post)
    (h : exchanged server past (page.submit call next) = before ++ e :: after)
    (hexpired : e.answer.status? = some 408) (hbefore : ∀ b ∈ before, b.request.method ≠ .post) :
    e.request.method = .post ∧
      (run server past (page.submit call next)).1 = page.failed .sessionExpired := by
  have hpost {b : Exchange} (hb : b ∈ exchanged server past (page.client.change call)) :
      b.request.method = .post := by
    rw [Client.exchanged_change] at hb
    rw [Client.request_of_mem_perform _ _ _ hb]
    exact hcall
  cases hc : (run server past (page.client.change call)).1 with
  | error failure =>
    rw [exchanged_submit_of_error server past page hc] at h
    have he : e ∈ exchanged server past (page.client.change call) :=
      h ▸ List.mem_append_cons_self
    rw [run_submit_of_error server past page hc]
    cases hc.symm.trans (Client.run_change_of_expired he hexpired)
    exact ⟨hpost he, rfl⟩
  | ok message =>
    rw [exchanged_submit_of_ok server past page hc] at h
    rcases append_eq_append_cons h with ⟨rest, hchange⟩ | ⟨rest, rfl, -⟩
    · have he := hchange ▸ List.mem_append_cons_self
      cases hc.symm.trans (Client.run_change_of_expired he hexpired)
    · -- a change that was made was sent
      obtain ⟨hhttp, -⟩ :=
        (Client.exists_run_change_eq_ok_iff server past page.client call).1 ⟨message, hc⟩
      have hask : page.client.ask server past call ∈
          exchanged server past (page.client.change call) := by
        rw [Client.exchanged_change_of_isHttp server past hhttp]
        exact List.mem_singleton_self _
      exact absurd (hpost hask) (hbefore _ (List.mem_append_left _ hask))

end MembersPage

/-! ## Commands -/

namespace Command

/-- What a run reports of a session that is gone, by the method of the request that found it gone.
    `before` is what was exchanged before that request. -/
def SaysExpired (settings : Settings) (command : Command) (before : List Exchange)
    (report : Report) : Method → Prop
  | .post =>
    report = ⟨1, "", "session expired; log in again at " ++ settings.refreshUrl ++ "\n"⟩
  | .delete =>
    ∃ planet, command = .deletePlanet planet.id ∧
      report =
        ⟨1, "", promptFor settings planet.id planet ++ "error: SESSION_EXPIRED: Session expired\n"⟩
  | .get =>
    (∀ b ∈ before, ∀ failure, Client.membersTold b = .error failure →
        report = ⟨1, "", "error: " ++ failure.display ++ "\n"⟩) ∧
      ((∀ b ∈ before, ∃ roles, Client.membersTold b = .ok roles) →
        report = ⟨1, "", "error: SESSION_EXPIRED: Session expired\n"⟩)

variable {server : Server} {past : List Exchange} {settings : Settings} {client : Client}
  {input : List UInt8} {command : Command} {report : Report} {before after log : List Exchange}
  {e : Exchange}

/-- A list that was read did not find the session gone. -/
theorem not_expired_of_listed {planets : List Planet}
    (h : (run server past client.listPlanets).1 = .ok planets)
    (he : e ∈ exchanged server past client.listPlanets) : e.answer.status? ≠ some 408 := by
  intro hexpired
  cases h.symm.trans (Client.run_listPlanets_of_expired he hexpired)

/-- A page that was read did not find the session gone. -/
theorem not_expired_of_loads {weblog : String} {roles : RoleMap} {users : PotentialMembers}
    (h : Loads server past client weblog roles users)
    (he : e ∈ exchanged server past (blankPage settings client weblog).load) :
    e.answer.status? ≠ some 408 := by
  intro hexpired
  obtain ⟨before, after, hlog⟩ := List.append_of_mem he
  obtain ⟨-, failure, hfailed, -⟩ := MembersPage.load_of_expired hlog hexpired
  exact not_loads_of_error server past settings client hfailed roles users h

theorem SaysExpired.exit {method : Method}
    (h : SaysExpired settings command before report method) : report.exit = 1 := by
  cases method with
  | post => exact congrArg Report.exit h
  | delete =>
    obtain ⟨planet, -, hreport⟩ := h
    exact congrArg Report.exit hreport
  | get =>
    obtain ⟨hfirst, hsecond⟩ := h
    by_cases hroles : ∀ b ∈ before, ∃ roles, Client.membersTold b = .ok roles
    · exact congrArg Report.exit (hsecond hroles)
    · obtain ⟨b, hb, hnone⟩ : ∃ b ∈ before, ¬∃ roles, Client.membersTold b = .ok roles := by
        simpa using hroles
      cases htold : Client.membersTold b with
      | ok roles => exact absurd ⟨roles, htold⟩ hnone
      | error failure => exact congrArg Report.exit (hfirst b hb failure htold)

theorem method_additionCall (weblog user : String) (role : Role) (change : MembersPage.Change) :
    (additionCall weblog user role change).method = .post := by
  cases change <;> rfl

/-- The report of a change that finds the session gone. -/
theorem saysExpired_submit {page next : MembersPage} {call : Call} (hcall : call.method = .post)
    (hrefresh : page.refreshUrl = settings.refreshUrl)
    (h : exchanged server past (page.submit call next) = before ++ e :: after)
    (hexpired : e.answer.status? = some 408) (hbefore : ∀ b ∈ before, b.request.method ≠ .post)
    (earlier : List Exchange) :
    let ends := run server past (page.submit call next)
    SaysExpired settings command earlier (.ofOutcome ends.1.1 ends.1.2) e.request.method := by
  intro ends
  obtain ⟨hmethod, hends⟩ := MembersPage.submit_of_expired hcall h hexpired hbefore
  rw [hmethod, SaysExpired, show ends.1 = page.failed .sessionExpired from hends]
  simp only [MembersPage.failed, Report.ofOutcome, List.getLast?_concat, Option.getD_some, hrefresh]
  rfl

/-- A run in which the session is found gone before anything was changed reports it by the method
    of the request that found it gone. -/
theorem Does.saysExpired (h : Does server past settings client input command report log)
    (hlog : log = before ++ e :: after) (hexpired : e.answer.status? = some 408)
    (hbefore : ∀ b ∈ before, b.request.method ≠ .post) :
    SaysExpired settings command before report e.request.method := by
  have he : e ∈ log := hlog ▸ List.mem_append_cons_self
  cases h with
  | listed hread => exact absurd hexpired (not_expired_of_listed hread he)
  | noPlanet hread hid => exact absurd hexpired (not_expired_of_listed hread he)
  | declined hread hid hno => exact absurd hexpired (not_expired_of_listed hread he)
  | notListed hc hread =>
    cases hread.symm.trans (Client.run_listPlanets_of_expired he hexpired)
    rw [Client.exchanged_listPlanets] at hlog
    obtain ⟨rfl, rfl, -⟩ := Client.exchanged_perform_eq_append_cons hlog
    exact ⟨List.forall_mem_nil _, fun _ => rfl⟩
  | deleted hread hid hyes hd =>
    rcases List.mem_append.1 he with he | he
    · exact absurd hexpired (not_expired_of_listed hread he)
    · cases hd.symm.trans (Client.run_deletePlanet_of_expired he hexpired)
  | @notDeleted id planets planet failure hread hid hyes hd =>
    rcases List.mem_append.1 he with he | he
    · exact absurd hexpired (not_expired_of_listed hread he)
    · cases hd.symm.trans (Client.run_deletePlanet_of_expired he hexpired)
      rw [Client.exchanged_deletePlanet] at he
      have hplanet : planet.id = id := by
        have hfound := List.find?_some hid
        exact beq_iff_eq.1 hfound
      subst hplanet
      rw [Client.request_of_mem_perform _ _ _ he]
      exact ⟨planet, rfl, rfl⟩
  | noWeblog hc hw => cases he
  | membersListed hw hloads => exact absurd hexpired (not_expired_of_loads hloads he)
  | noMember hc hw hloads hm => exact absurd hexpired (not_expired_of_loads hloads he)
  | notRead hc hw hread =>
    obtain ⟨hmethod, failure, hfailed, hfirst, hsecond⟩ :=
      MembersPage.load_of_expired hlog hexpired
    cases hread.symm.trans hfailed
    rw [hmethod]
    refine ⟨fun b hb other hother => ?_, fun hroles => ?_⟩
    · rw [hfirst b hb other hother]
      rfl
    · rw [hsecond hroles]
      rfl
  | edited hc hw hloads hm hpage hreading hends =>
    subst hends hpage
    rcases append_eq_append_cons hlog with ⟨rest, hread⟩ | ⟨rest, rfl, hsent⟩
    · exact absurd hexpired (not_expired_of_loads hloads (hread ▸ List.mem_append_cons_self))
    · exact saysExpired_submit rfl rfl hsent hexpired
        (fun b hb => hbefore b (List.mem_append_right _ hb)) _
  | added hc hw hpage hends =>
    subst hends hpage
    rcases make_addition settings client hc _ with ⟨-, hmake⟩ | ⟨-, hmake⟩
    · rw [hmake] at he
      cases he
    · rw [hmake] at hlog ⊢
      exact saysExpired_submit (method_additionCall _ _ _ _) rfl hlog hexpired hbefore _

end Command

/-! ## Runs -/

/-- A run in which a request finds the session gone, before anything was changed, exits with 1.
    Only if this request is a change it says where to log in again.  Otherwise it says what the
    failure is, behind the question if there was one; if the members could not be read either, it
    says why. -/
theorem Desk.report_of_expired (server : Server) (past : List Exchange) (idna : Url.Idna)
    (settings : Settings) (words : List String) (input : List UInt8)
    {before after : List Exchange} {e : Exchange}
    (h : exchanged server past (Desk.run idna settings words input) = before ++ e :: after)
    (hexpired : e.answer.status? = some 408) (hbefore : ∀ b ∈ before, b.request.method ≠ .post) :
    let report := (Conversation.run server past (Desk.run idna settings words input)).1
    report.exit = 1 ∧
      ∃ command, Command.parse words = .ok command ∧
        Command.SaysExpired settings command before report e.request.method := by
  intro report
  have hsent : exchanged server past (Desk.run idna settings words input) ≠ [] := by
    rw [h]
    simp
  rcases log_cases server past idna settings words input with
    hlog | ⟨command, client, hparse, hdoes⟩
  · exact absurd hlog hsent
  · have hreport := hdoes.saysExpired h hexpired hbefore
    exact ⟨hreport.exit, command, hparse, hreport⟩

/-- A server that keeps no session. -/
def Http.forgetful : Server := fun _ _ => .reply ⟨408, ByteArray.empty, true⟩

/-- The planets are asked for, nothing is set, and the session is gone: what is said does not name
    the place to log in again. -/
theorem Desk.report_of_expired_list :
    let settings := Settings.load Dict.empty none
    settings.refreshUrl = "http://localhost:8080/tb-ui/app/login-redirect" ∧
      exchanged forgetful [] (Desk.run .asciiOnly settings ["planets"] []) =
        [] ++ Client.onLocalhost.ask forgetful [] .listPlanets :: [] ∧
      (Conversation.run forgetful [] (Desk.run .asciiOnly settings ["planets"] [])).1 =
        ⟨1, "", "error: SESSION_EXPIRED: Session expired\n"⟩ := by
  have hlog : exchanged forgetful []
      (Desk.run .asciiOnly (Settings.load Dict.empty none) ["planets"] []) =
      [] ++ Client.onLocalhost.ask forgetful [] .listPlanets :: [] := rfl
  obtain ⟨-, command, -, hreport⟩ := report_of_expired _ _ _ _ _ _ hlog rfl (List.forall_mem_nil _)
  exact ⟨rfl, hlog, hreport.2 (List.forall_mem_nil _)⟩

end WeblogDesk
