/-
  WeblogDesk.Proofs.Desk.Exit

  How runs of the desk end, and what they change on the server.

  `Command.GoesWell` says what it takes for a command to go well, by the answers of
  the server alone: each call is put after the exchanges that come before it.
  `Does.tells` says that the exit code tells exactly this.  A run sends one request
  at most that changes something (`Does.length_writes`), and what a reload is told
  afterwards has no say in how it ends (`goesWell_congr`).
-/

import WeblogDesk.Proofs.Desk.Runs
import WeblogDesk.Proofs.Endpoint.Results

namespace WeblogDesk

open Http Conversation

/-! ## What answers give -/

namespace Client

variable (server : Server) (past : List Exchange) (client : Client)

/-- What a call that is read as JSON gives by its answer; nothing if it is not sent. -/
def given {α : Type} (call : Call) (read : String → Except Json.Fault α) : Option α :=
  if client.base.isHttp then (client.ask server past call).answer.json? read else none

/-- Whether a change is sent and its answer confirms it. -/
def IsMade (call : Call) : Prop :=
  client.base.isHttp = true ∧ (client.ask server past call).answer.Confirms

/-- Whether a planet's deletion is sent and carried out. -/
def IsDeleted (id : String) : Prop :=
  client.base.isHttp = true ∧ (client.ask server past (.deletePlanet id)).answer.isSuccess = true

theorem isHttp_of_given {α : Type} {call : Call} {read : String → Except Json.Fault α} {a : α}
    (h : client.given server past call read = some a) : client.base.isHttp = true := by
  unfold given at h
  split at h
  · assumption
  · cases h

theorem given_eq_some_iff {α : Type} {call : Call} {read : String → Except Json.Fault α} {a : α} :
    client.given server past call read = some a ↔
      client.base.isHttp = true ∧ (client.ask server past call).answer.Gives read a := by
  unfold given
  split
  · next hhttp => rw [Answer.json?_eq_some_iff, and_iff_right hhttp]
  · next hhttp => exact iff_of_false nofun fun h => hhttp h.1

theorem eq_ok_iff_toOption {ε α : Type} {x : Except ε α} {a : α} :
    x = .ok a ↔ x.toOption = some a := by
  cases x <;> simp [Except.toOption]

theorem run_listPlanets_eq_ok_iff {planets : List Planet} :
    (run server past client.listPlanets).1 = .ok planets ↔
      client.given server past .listPlanets Planet.listOfJson = some planets := by
  rw [eq_ok_iff_toOption, toOption_run_listPlanets]
  rfl

theorem run_deletePlanet_eq_ok_iff {id : String} :
    (run server past (client.deletePlanet id)).1 = .ok () ↔ client.IsDeleted server past id := by
  rw [deletePlanet, run_bind, run_pure, run_perform, IsDeleted]
  cases client.base.isHttp with
  | false => simp [Except.map]
  | true =>
    cases (client.ask server past (.deletePlanet id)).answer with
    | dropped => simp [check, Except.map, Answer.isSuccess]
    | reply reply =>
      cases h : isSuccess reply.status <;> simp [check, Except.map, Answer.isSuccess, h]

/-- A change that is not sent is not made. -/
theorem exists_run_change_eq_ok_iff (call : Call) :
    (∃ message, (run server past (client.change call)).1 = .ok message) ↔
      client.IsMade server past call := by
  by_cases h : client.base.isHttp = true
  · rw [run_change_eq_ok_iff server past h call]
    exact (and_iff_right h).symm
  · refine iff_of_false ?_ fun hmade => h hmade.1
    rintro ⟨message, hok⟩
    rw [run_change_of_not_isHttp server past (eq_false_of_ne_true h)] at hok
    cases hok

/-- The record after a call that was read as JSON. -/
theorem run_snd_of_given {α : Type} {call : Call} {read : String → Except Json.Fault α} {a : α}
    {c : Conversation (Except Failure α)}
    (hc : exchanged server past c = exchanged server past (client.perform call))
    (h : client.given server past call read = some a) :
    (run server past c).2 = past ++ [client.ask server past call] := by
  rw [run_snd, hc, exchanged_perform, if_pos (isHttp_of_given server past client h)]

end Client

/-! ## Changing the members -/

namespace MembersPage

variable (server : Server) (past : List Exchange) (page : MembersPage)

/-- A change that is sent was made if its answer confirms it. -/
theorem isSaved_submit (call : Call) (next : MembersPage) :
    (run server past (page.submit call next)).1.2 ≠ .skipped ∧
      ((run server past (page.submit call next)).1.2.isSaved = true ↔
        page.client.IsMade server past call) := by
  rw [← Client.exists_run_change_eq_ok_iff]
  cases hc : (run server past (page.client.change call)).1 with
  | ok message =>
    rw [run_submit_of_ok server past page hc, run_saved]
    exact ⟨nofun, iff_of_true rfl ⟨message, rfl⟩⟩
  | error failure =>
    rw [run_submit_of_error server past page hc]
    refine ⟨?_, iff_of_false ?_ (by simp)⟩ <;> cases failure <;> exact nofun

end MembersPage

namespace Report

theorem exit_ofOutcome (page : MembersPage) {outcome : Outcome} (h : outcome ≠ .skipped) :
    (ofOutcome page outcome).exit = if outcome.isSaved then 0 else 1 := by
  cases outcome with
  | skipped => exact absurd rfl h
  | _ => rfl

/-- The exit code of a change that is sent. -/
theorem exit_submit (server : Server) (past : List Exchange) (page : MembersPage) (call : Call)
    (next : MembersPage) :
    let ends := run server past (page.submit call next)
    ((ofOutcome ends.1.1 ends.1.2).exit = 0 ↔ page.client.IsMade server past call) ∧
      (ofOutcome ends.1.1 ends.1.2).exit ≤ 1 := by
  intro ends
  obtain ⟨hsent, hsaved⟩ := MembersPage.isSaved_submit server past page call next
  rw [exit_ofOutcome ends.1.1 hsent, ← hsaved]
  cases ends.1.2.isSaved <;> simp

end Report

/-! ## Commands that go well -/

namespace Command

variable (server : Server) (past : List Exchange) (settings : Settings) (client : Client)
  (input : List UInt8)

/-- The record after the members of a weblog were asked for. -/
def afterMembers (weblog : String) : List Exchange :=
  past ++ [client.ask server past (.members weblog)]

/-- The record after both maps of a weblog were asked for. -/
def afterBoth (weblog : String) : List Exchange :=
  let members := afterMembers server past client weblog
  members ++ [client.ask server members (.potentialMembers weblog)]

/-- Whether the answers give both maps of a weblog. -/
def GivesBoth (weblog : String) (roles : RoleMap) (users : PotentialMembers) : Prop :=
  client.given server past (.members weblog) RoleMap.ofJson = some roles ∧
    client.given server (afterMembers server past client weblog) (.potentialMembers weblog)
      PotentialMembers.ofJson = some users

/-- Whether the role of a member is changed on the server: both maps of the weblog are given, the
    user is a member, and the roles with this change are accepted. -/
def ChangesRole (user : String) (role : Role) : Prop :=
  ∃ weblog roles users, settings.weblog = some weblog ∧
    GivesBoth server past client weblog roles users ∧ roles.contains user = true ∧
    client.IsMade server (afterBoth server past client weblog)
      (.updateMembers weblog (roles.insert user role))

/-- What it takes for a command to go well, by the answers of the server. -/
def GoesWell : Command → Prop
  | .planets => ∃ planets, client.given server past .listPlanets Planet.listOfJson = some planets
  | .deletePlanet id =>
    ∃ planets, client.given server past .listPlanets Planet.listOfJson = some planets ∧
      (∃ planet ∈ planets, planet.id = id) ∧
      (Desk.consents input = false ∨
        client.IsDeleted server (past ++ [client.ask server past .listPlanets]) id)
  | .members =>
    ∃ weblog roles users, settings.weblog = some weblog ∧
      GivesBoth server past client weblog roles users
  | .setRole user role => ChangesRole server past settings client user role
  | .removeMember user => ChangesRole server past settings client user .noBlogNeeded
  | .addMember user role =>
    ∃ weblog, settings.weblog = some weblog ∧
      (user = "" ∨ client.IsMade server past (.attachUser weblog user role))
  | .invite user role =>
    ∃ weblog, settings.weblog = some weblog ∧
      (user = "" ∨ client.IsMade server past (.inviteUser weblog user role))

/-! ### What the answers decide -/

theorem loads_iff {weblog : String} {roles : RoleMap} {users : PotentialMembers} :
    Loads server past client weblog roles users ↔
      GivesBoth server past client weblog roles users := by
  rw [Loads, GivesBoth, Client.eq_ok_iff_toOption, Client.toOption_run_members]
  refine and_congr_right fun hmembers => ?_
  rw [Client.eq_ok_iff_toOption, Client.toOption_run_potentialMembers,
    Client.run_snd_of_given server past client (client.exchanged_members ..) hmembers]
  rfl

/-- The record after a page that was read. -/
theorem run_snd_load {weblog : String} {roles : RoleMap} {users : PotentialMembers}
    (h : Loads server past client weblog roles users) :
    (run server past (blankPage settings client weblog).load).2 =
      afterBoth server past client weblog := by
  obtain ⟨hmembers, husers⟩ := (loads_iff server past client).1 h
  rw [MembersPage.run_load]
  show (run server (run server past (client.members weblog)).2
    (client.potentialMembers weblog)).2 = _
  rw [Client.run_snd_of_given server past client (client.exchanged_members ..) hmembers]
  exact Client.run_snd_of_given server _ client (client.exchanged_potentialMembers ..) husers

/-- A page that could not be read is not given by the answers. -/
theorem not_loads_of_error {weblog : String} {failure : Failure}
    (h : (run server past (blankPage settings client weblog).load).1.2 = .error failure)
    (roles : RoleMap) (users : PotentialMembers) :
    ¬Loads server past client weblog roles users := by
  intro hloads
  rw [run_load_of_loads server past settings client hloads] at h
  cases h

theorem goesWell_of_edit {command : Command} {user : String} {role : Role}
    (h : command.edit? = some (user, role)) :
    command.GoesWell server past settings client input ↔
      ChangesRole server past settings client user role := by
  cases command <;> cases h <;> rfl

/-- The call by which a user is added. -/
def additionCall (weblog user : String) (role : Role) : MembersPage.Change → Call
  | .inviteUser => .inviteUser weblog user role
  | _ => .attachUser weblog user role

theorem goesWell_of_addition {command : Command} {change : MembersPage.Change} {user : String}
    {role : Role} (h : command.addition? = some (change, user, role)) :
    command.GoesWell server past settings client input ↔
      ∃ weblog, settings.weblog = some weblog ∧
        (user = "" ∨ client.IsMade server past (additionCall weblog user role change)) := by
  cases command <;> cases h <;> rfl

/-- Filling in the form and sending it is nothing for a user without a name, and one change for all
    others. -/
theorem make_addition {command : Command} {change : MembersPage.Change} {user : String}
    {role : Role} (h : command.addition? = some (change, user, role)) (weblog : String) :
    let page : MembersPage :=
      { blankPage settings client weblog with userToAdd := some user, roleToAdd := some role }
    (user = "" ∧ page.make change = pure (page, .skipped)) ∨
      (user ≠ "" ∧
        page.make change =
          page.submit (additionCall weblog user role change) page.clearPending) := by
  intro page
  by_cases huser : user = ""
  · refine .inl ⟨huser, ?_⟩
    subst huser
    cases command <;> cases h <;> rfl
  · refine .inr ⟨huser, ?_⟩
    have hpending : page.pending = some (user, role) := by
      simp [page, MembersPage.pending, huser]
    cases command <;> cases h <;>
      simp only [MembersPage.make, MembersPage.addUser, MembersPage.inviteUser, hpending] <;> rfl

/-! ### Exit codes -/

variable {server past settings client input} {command : Command} {report : Report}
  {log : List Exchange}

/-- A run that ended with 0 or 1 ended with 0 exactly if it went well. -/
def Tells (report : Report) (well : Prop) : Prop :=
  (report.exit = 0 ↔ well) ∧ report.exit ≤ 1

theorem tells_of_well {well : Prop} (hexit : report.exit = 0) (h : well) : Tells report well :=
  ⟨iff_of_true hexit h, by omega⟩

theorem tells_of_not_well {well : Prop} (hexit : report.exit = 1) (h : ¬well) : Tells report well :=
  ⟨iff_of_false (by omega) h, by omega⟩

theorem Tells.exit_congr {other : Report} {well otherWell : Prop} (h : Tells report well)
    (h' : Tells other otherWell) (hiff : well ↔ otherWell) : report.exit = other.exit := by
  have hzero : report.exit = 0 ↔ other.exit = 0 := h.1.trans (hiff.trans h'.1.symm)
  have hle := h.2
  have hle' := h'.2
  omega

/-- The exit code of a command that sends a changed role. -/
theorem tells_of_edited {user : String} {role : Role} {weblog : String} {roles : RoleMap}
    {users : PotentialMembers} (hkind : command.edit? = some (user, role))
    (hw : settings.weblog = some weblog) (hloads : Loads server past client weblog roles users)
    (hm : roles.contains user = true) :
    let page : MembersPage :=
      { loadedPage settings client weblog roles users with roles := roles.insert user role }
    let reading := run server past (blankPage settings client weblog).load
    let ends := run server reading.2 (page.make .updateRoles)
    Tells (.ofOutcome ends.1.1 ends.1.2) (command.GoesWell server past settings client input) := by
  intro page reading ends
  have hgives := (loads_iff server past client).1 hloads
  have hexit := Report.exit_submit server reading.2 page
    (.updateMembers weblog (roles.insert user role)) page
  rw [Tells, goesWell_of_edit _ _ _ _ _ hkind]
  refine ⟨hexit.1.trans ?_, hexit.2⟩
  rw [show reading.2 = afterBoth server past client weblog from
    run_snd_load server past settings client hloads]
  constructor
  · exact fun hmade => ⟨weblog, roles, users, hw, hgives, hm, hmade⟩
  · rintro ⟨other, roles', users', hother, hgives', -, hmade⟩
    cases hw.symm.trans hother
    -- the answers give one map of members only
    cases hgives.1.symm.trans hgives'.1
    exact hmade

/-- The exit code of a command that sends a user to be added. -/
theorem tells_of_added {change : MembersPage.Change} {user : String} {role : Role}
    {weblog : String} (hkind : command.addition? = some (change, user, role))
    (hw : settings.weblog = some weblog) :
    let page : MembersPage :=
      { blankPage settings client weblog with userToAdd := some user, roleToAdd := some role }
    let ends := run server past (page.make change)
    Tells (.ofOutcome ends.1.1 ends.1.2) (command.GoesWell server past settings client input) := by
  intro page ends
  rw [Tells, goesWell_of_addition _ _ _ _ _ hkind]
  rcases make_addition settings client hkind weblog with ⟨huser, hmake⟩ | ⟨huser, hmake⟩
  · simp only [ends, page, hmake]
    exact tells_of_well rfl ⟨weblog, hw, .inl huser⟩
  · have hexit := Report.exit_submit server past page (additionCall weblog user role change)
      page.clearPending
    simp only [ends, page, hmake]
    refine ⟨hexit.1.trans ⟨fun hmade => ⟨weblog, hw, .inr hmade⟩, ?_⟩, hexit.2⟩
    rintro ⟨other, hother, hempty | hmade⟩
    · exact absurd hempty huser
    · cases hw.symm.trans hother
      exact hmade

theorem weblog_of_goesWell (hc : command.isAboutPlanets = false)
    (h : command.GoesWell server past settings client input) : settings.weblog.isSome = true := by
  cases command with
  | planets => cases hc
  | deletePlanet id => cases hc
  | members => obtain ⟨_, _, _, hw, _⟩ := h; rw [hw]; rfl
  | setRole user role => obtain ⟨_, _, _, hw, _⟩ := h; rw [hw]; rfl
  | removeMember user => obtain ⟨_, _, _, hw, _⟩ := h; rw [hw]; rfl
  | addMember user role => obtain ⟨_, hw, _⟩ := h; rw [hw]; rfl
  | invite user role => obtain ⟨_, hw, _⟩ := h; rw [hw]; rfl

/-- What begins with a page of members goes well only if the answers give it. -/
theorem loads_of_goesWell (hc : command = .members ∨ command.edit?.isSome = true)
    (h : command.GoesWell server past settings client input) :
    ∃ weblog roles users, settings.weblog = some weblog ∧
      Loads server past client weblog roles users := by
  rcases hc with rfl | hedit
  · obtain ⟨weblog, roles, users, hw, hgives⟩ := h
    exact ⟨weblog, roles, users, hw, (loads_iff server past client).2 hgives⟩
  · obtain ⟨⟨user, role⟩, hedit⟩ := Option.isSome_iff_exists.1 hedit
    obtain ⟨weblog, roles, users, hw, hgives, -⟩ := (goesWell_of_edit _ _ _ _ _ hedit).1 h
    exact ⟨weblog, roles, users, hw, (loads_iff server past client).2 hgives⟩

/-- What is about planets goes well only if the answer gives them. -/
theorem planets_of_goesWell (hc : command.isAboutPlanets = true)
    (h : command.GoesWell server past settings client input) :
    ∃ planets, (run server past client.listPlanets).1 = .ok planets := by
  cases command with
  | planets =>
    obtain ⟨planets, hgiven⟩ := h
    exact ⟨planets, (Client.run_listPlanets_eq_ok_iff server past client).2 hgiven⟩
  | deletePlanet id =>
    obtain ⟨planets, hgiven, -⟩ := h
    exact ⟨planets, (Client.run_listPlanets_eq_ok_iff server past client).2 hgiven⟩
  | _ => cases hc

/-- The exit code of a command tells whether it went well. -/
theorem Does.tells (h : Does server past settings client input command report log) :
    Tells report (command.GoesWell server past settings client input) := by
  have hgiven {planets : List Planet}
      (hread : (run server past client.listPlanets).1 = .ok planets) :
      client.given server past .listPlanets Planet.listOfJson = some planets :=
    (Client.run_listPlanets_eq_ok_iff server past client).1 hread
  have hrecord {planets : List Planet}
      (hread : (run server past client.listPlanets).1 = .ok planets) :
      (run server past client.listPlanets).2 = past ++ [client.ask server past .listPlanets] :=
    Client.run_snd_of_given server past client (client.exchanged_listPlanets ..) (hgiven hread)
  have hlisted {planets : List Planet} {id : String} {planet : Planet}
      (hid : planets.find? (·.id == id) = some planet) : ∃ planet ∈ planets, planet.id = id := by
    have hfound := List.find?_some hid
    exact ⟨planet, List.mem_of_find?_eq_some hid, beq_iff_eq.1 hfound⟩
  cases h with
  | listed hread => exact tells_of_well rfl ⟨_, hgiven hread⟩
  | notListed hc hread =>
    refine tells_of_not_well rfl fun hwell => ?_
    obtain ⟨planets, hok⟩ := planets_of_goesWell hc hwell
    rw [hread] at hok
    cases hok
  | noPlanet hread hid =>
    refine tells_of_not_well rfl ?_
    rintro ⟨planets, hsome, ⟨planet, hmem, rfl⟩, -⟩
    cases (hgiven hread).symm.trans hsome
    exact List.find?_eq_none.1 hid planet hmem (beq_self_eq_true planet.id)
  | declined hread hid hno => exact tells_of_well rfl ⟨_, hgiven hread, hlisted hid, .inl hno⟩
  | deleted hread hid hyes hd =>
    rw [Client.run_deletePlanet_eq_ok_iff, hrecord hread] at hd
    exact tells_of_well rfl ⟨_, hgiven hread, hlisted hid, .inr hd⟩
  | notDeleted hread hid hyes hd =>
    refine tells_of_not_well rfl ?_
    rintro ⟨planets, -, -, hno | hdeleted⟩
    · rw [hyes] at hno
      cases hno
    · rw [← hrecord hread, ← Client.run_deletePlanet_eq_ok_iff, hd] at hdeleted
      cases hdeleted
  | noWeblog hc hw =>
    refine tells_of_not_well rfl fun hwell => ?_
    have hsome := weblog_of_goesWell hc hwell
    rw [hw] at hsome
    cases hsome
  | membersListed hw hloads =>
    exact tells_of_well rfl ⟨_, _, _, hw, (loads_iff server past client).1 hloads⟩
  | notRead hc hw hread =>
    refine tells_of_not_well rfl fun hwell => ?_
    obtain ⟨other, roles, users, hother, hloads⟩ := loads_of_goesWell hc hwell
    cases hw.symm.trans hother
    exact not_loads_of_error server past settings client hread roles users hloads
  | noMember hc hw hloads hm =>
    refine tells_of_not_well rfl ?_
    rw [goesWell_of_edit _ _ _ _ _ hc]
    rintro ⟨weblog, roles, users, hother, hgives, hmember, -⟩
    cases hw.symm.trans hother
    cases hloads.1.symm.trans ((loads_iff server past client).2 hgives).1
    rw [hm] at hmember
    cases hmember
  | edited hc hw hloads hm hpage hreading hends =>
    subst hends hreading hpage
    exact tells_of_edited hc hw hloads hm
  | added hc hw hpage hends =>
    subst hends hpage
    exact tells_of_added hc hw

/-! ### Requests that change something -/

/-- The exchanges that ask for more than to be told something. -/
def writes (log : List Exchange) : List Exchange :=
  log.filter fun e => e.request.method ≠ .get

theorem writes_append (log later : List Exchange) :
    writes (log ++ later) = writes log ++ writes later :=
  List.filter_append log later

theorem writes_eq_nil {log : List Exchange} (h : ∀ e ∈ log, e.request.method = .get) :
    writes log = [] :=
  List.filter_eq_nil_iff.2 fun e he => by simp [h e he]

theorem length_writes_perform (server : Server) (past : List Exchange) (client : Client)
    (call : Call) : (writes (exchanged server past (client.perform call))).length ≤ 1 :=
  Nat.le_trans (List.length_filter_le _ _) (client.length_exchanged_perform server past call)

theorem method_of_mem_listPlanets {e : Exchange}
    (h : e ∈ exchanged server past client.listPlanets) : e.request.method = .get := by
  rw [Client.exchanged_listPlanets] at h
  rw [Client.request_of_mem_perform _ _ _ h]
  rfl

theorem writes_load (server : Server) (past : List Exchange) (page : MembersPage) :
    writes (exchanged server past page.load) = [] :=
  writes_eq_nil fun _ he => MembersPage.method_of_mem_load server past page he

/-- A change is one request, and the reload behind it only asks. -/
theorem length_writes_submit (server : Server) (past : List Exchange) (page : MembersPage)
    (call : Call) (next : MembersPage) :
    (writes (exchanged server past (page.submit call next))).length ≤ 1 := by
  have hchange : (writes (exchanged server past (page.client.change call))).length ≤ 1 := by
    rw [Client.exchanged_change]
    exact length_writes_perform server past page.client call
  cases hc : (run server past (page.client.change call)).1 with
  | ok message =>
    rw [MembersPage.exchanged_submit_of_ok server past page hc, MembersPage.exchanged_saved,
      writes_append, writes_load, List.append_nil]
    exact hchange
  | error failure =>
    rw [MembersPage.exchanged_submit_of_error server past page hc]
    exact hchange

/-- No command sends more than one request that changes something. -/
theorem Does.length_writes (h : Does server past settings client input command report log) :
    (writes log).length ≤ 1 := by
  have hlist : writes (exchanged server past client.listPlanets) = [] :=
    writes_eq_nil fun _ he => method_of_mem_listPlanets he
  have hdelete (record : List Exchange) (id : String) :
      (writes (exchanged server record (client.deletePlanet id))).length ≤ 1 := by
    rw [Client.exchanged_deletePlanet]
    exact length_writes_perform server record client _
  cases h with
  | deleted hread hid hyes hd =>
    rw [writes_append, hlist]
    exact hdelete _ _
  | notDeleted hread hid hyes hd =>
    rw [writes_append, hlist]
    exact hdelete _ _
  | noWeblog hc hw => exact Nat.zero_le 1
  | membersListed hw hloads => rw [writes_load]; exact Nat.zero_le 1
  | notRead hc hw hread => rw [writes_load]; exact Nat.zero_le 1
  | noMember hc hw hloads hm => rw [writes_load]; exact Nat.zero_le 1
  | edited hc hw hloads hm hpage hreading hends =>
    rw [writes_append, writes_load]
    exact length_writes_submit server _ _ _ _
  | added hc hw hpage hends =>
    subst hpage
    rcases make_addition settings client hc _ with ⟨-, hmake⟩ | ⟨-, hmake⟩
    · rw [hmake]
      exact Nat.zero_le 1
    · rw [hmake]
      exact length_writes_submit server past _ _ _
  | _ => rw [hlist]; exact Nat.zero_le 1

/-- The two commands that list something only ask. -/
theorem Does.method_of_listing (h : Does server past settings client input command report log)
    (hc : command = .planets ∨ command = .members) {e : Exchange} (he : e ∈ log) :
    e.request.method = .get := by
  rcases hc with rfl | rfl
  · cases h with
    | listed hread => exact method_of_mem_listPlanets he
    | notListed hc hread => exact method_of_mem_listPlanets he
    | noWeblog hc hw => cases he
    | notRead hc hw hread => exact MembersPage.method_of_mem_load server past _ he
    | noMember hc hw hloads hm => cases hc
    | edited hc hw hloads hm hpage hreading hends => cases hc
    | added hc hw hpage hends => cases hc
  · cases h with
    | notListed hc hread => cases hc
    | noWeblog hc hw => cases he
    | membersListed hw hloads => exact MembersPage.method_of_mem_load server past _ he
    | notRead hc hw hread => exact MembersPage.method_of_mem_load server past _ he
    | noMember hc hw hloads hm => cases hc
    | edited hc hw hloads hm hpage hreading hends => cases hc
    | added hc hw hpage hends => cases hc

/-- A command that adds a user sends one change, if there is a weblog and the user has a name. -/
theorem Does.of_addition {change : MembersPage.Change} {user : String} {role : Role}
    (h : Does server past settings client input command report log)
    (hc : command.addition? = some (change, user, role)) :
    (settings.weblog = none ∨ user = "") ∧ log = [] ∨
      user ≠ "" ∧ ∃ (weblog : String) (page next : MembersPage),
        settings.weblog = some weblog ∧ page.client = client ∧
        log = exchanged server past (page.submit (additionCall weblog user role change) next) := by
  -- what adds a user neither lists anything nor changes a role
  have hplanets := isAboutPlanets_of_addition? hc
  have hedit : command.edit? = none := by cases command <;> first | rfl | cases hc
  cases h with
  | noWeblog hother hw => exact .inl ⟨.inl hw, rfl⟩
  | added hkind hw hpage hends =>
    cases hc.symm.trans hkind
    subst hpage
    rcases make_addition settings client hc _ with ⟨hempty, hmake⟩ | ⟨hname, hmake⟩
    · rw [hmake]
      exact .inl ⟨.inr hempty, rfl⟩
    · rw [hmake]
      exact .inr ⟨hname, _, _, _, hw, rfl, rfl⟩
  | notListed hother hread =>
    rw [hplanets] at hother
    cases hother
  | notRead hkind hw hread =>
    rcases hkind with rfl | hsome
    · cases hc
    · rw [hedit] at hsome
      cases hsome
  | noMember hkind hw hloads hm =>
    rw [hedit] at hkind
    cases hkind
  | edited hkind hw hloads hm hpage hreading hends =>
    rw [hedit] at hkind
    cases hkind
  | _ => cases hc

/-- Nothing is sent for a user without a name. -/
theorem Does.log_of_noName {change : MembersPage.Change} {role : Role}
    (h : Does server past settings client input command report log)
    (hc : command.addition? = some (change, "", role)) : log = [] := by
  rcases h.of_addition hc with ⟨-, hlog⟩ | ⟨hname, -⟩
  · exact hlog
  · exact absurd rfl hname

/-! ### What has no say -/

/-- Whether another server answers alike until a change is sent. -/
def AgreesUntilChange (server other : Server) (past : List Exchange) : Prop :=
  ∀ before request, (∀ e ∈ before, e.request.method ≠ .post) →
    other (past ++ before) request = server (past ++ before) request

namespace AgreesUntilChange

variable {other : Server}

theorem ask (h : AgreesUntilChange server other past) (call : Call) :
    client.ask other past call = client.ask server past call := by
  have hanswer := h [] (client.request call) (List.forall_mem_nil _)
  rw [List.append_nil] at hanswer
  rw [Client.ask, Client.ask, hanswer]

/-- After a call that is no change, the servers still answer alike. -/
theorem concat (h : AgreesUntilChange server other past) {call : Call}
    (hcall : call.method ≠ .post) :
    AgreesUntilChange server other (past ++ [client.ask server past call]) := by
  intro before request hbefore
  rw [List.append_assoc, List.singleton_append]
  have hquiet : ∀ e ∈ client.ask server past call :: before, e.request.method ≠ .post :=
    List.forall_mem_cons.2 ⟨hcall, hbefore⟩
  exact h _ request hquiet

end AgreesUntilChange

section Congr

variable {other : Server} (h : AgreesUntilChange server other past)

include h

theorem given_congr {α : Type} (call : Call) (read : String → Except Json.Fault α) :
    client.given other past call read = client.given server past call read := by
  rw [Client.given, Client.given, h.ask]

theorem isMade_congr (call : Call) :
    client.IsMade other past call ↔ client.IsMade server past call := by
  rw [Client.IsMade, Client.IsMade, h.ask]

theorem agrees_afterMembers (client : Client) (weblog : String) :
    afterMembers other past client weblog = afterMembers server past client weblog ∧
      AgreesUntilChange server other (afterMembers server past client weblog) := by
  refine ⟨?_, h.concat nofun⟩
  rw [afterMembers, afterMembers, h.ask]

theorem agrees_afterBoth (client : Client) (weblog : String) :
    afterBoth other past client weblog = afterBoth server past client weblog ∧
      AgreesUntilChange server other (afterBoth server past client weblog) := by
  obtain ⟨hrecord, hmembers⟩ := agrees_afterMembers h client weblog
  refine ⟨?_, hmembers.concat nofun⟩
  simp only [afterBoth, hrecord, hmembers.ask]

theorem givesBoth_congr (weblog : String) (roles : RoleMap) (users : PotentialMembers) :
    GivesBoth other past client weblog roles users ↔
      GivesBoth server past client weblog roles users := by
  obtain ⟨hrecord, hmembers⟩ := agrees_afterMembers h client weblog
  rw [GivesBoth, GivesBoth, given_congr h, hrecord, given_congr hmembers]

theorem changesRole_congr (user : String) (role : Role) :
    ChangesRole other past settings client user role ↔
      ChangesRole server past settings client user role := by
  refine exists_congr fun weblog => exists_congr fun roles => exists_congr fun users =>
    and_congr_right fun _ => and_congr (givesBoth_congr h weblog roles users)
      (and_congr_right fun _ => ?_)
  obtain ⟨hrecord, hboth⟩ := agrees_afterBoth h client weblog
  rw [hrecord, isMade_congr hboth]

/-- Whether a command goes well does not depend on what is answered behind a change. -/
theorem goesWell_congr (command : Command) :
    command.GoesWell other past settings client input ↔
      command.GoesWell server past settings client input := by
  cases command with
  | planets => rw [GoesWell, GoesWell, given_congr h]
  | deletePlanet id =>
    have hlisted : AgreesUntilChange server other (past ++ [client.ask server past .listPlanets]) :=
      h.concat nofun
    rw [GoesWell, GoesWell, given_congr h, h.ask, Client.IsDeleted, Client.IsDeleted, hlisted.ask]
  | members => simp only [GoesWell, givesBoth_congr h]
  | setRole user role => exact changesRole_congr h user role
  | removeMember user => exact changesRole_congr h user .noBlogNeeded
  | addMember user role => simp only [GoesWell, isMade_congr h]
  | invite user role => simp only [GoesWell, isMade_congr h]

end Congr

end Command

/-! ## Runs -/

namespace Desk

variable (server : Server) (past : List Exchange) (idna : Url.Idna) (settings : Settings)
  (words : List String) (input : List UInt8)

theorem exit_of_noCommand {fault : Command.UsageFault} (h : Command.parse words = .error fault) :
    (Conversation.run server past (Desk.run idna settings words input)).1.exit = 2 ∧
      exchanged server past (Desk.run idna settings words input) = [] := by
  rcases run_cases server past idna settings words input with
    ⟨_, -, hlog, hreport⟩ | ⟨_, _, hparse, -⟩ | ⟨_, _, hparse, -⟩
  · exact ⟨congrArg Report.exit hreport, hlog⟩
  all_goals cases h.symm.trans hparse

/-- A run for words that give a command exits as the command goes. -/
theorem tells_run {command : Command} (h : Command.parse words = .ok command) :
    Command.Tells (Conversation.run server past (Desk.run idna settings words input)).1
      (∃ client, settings.client idna = .ok client ∧
        command.GoesWell server past settings client input) := by
  rcases run_cases server past idna settings words input with
    ⟨_, hparse, -⟩ | ⟨_, failure, -, hclient, -, hreport⟩ | ⟨_, client, hparse, hclient, hdoes⟩
  · cases h.symm.trans hparse
  · refine Command.tells_of_not_well (congrArg Report.exit hreport) ?_
    rintro ⟨client, hok, -⟩
    cases hclient.symm.trans hok
  · cases h.symm.trans hparse
    refine ⟨hdoes.tells.1.trans ⟨fun hwell => ⟨client, hclient, hwell⟩, ?_⟩, hdoes.tells.2⟩
    rintro ⟨other, hok, hwell⟩
    cases hclient.symm.trans hok
    exact hwell

/-- A run that exchanges something comes to what its command comes to. -/
theorem log_cases :
    exchanged server past (Desk.run idna settings words input) = [] ∨
      ∃ command client, Command.parse words = .ok command ∧
        Command.Does server past settings client input command
          (Conversation.run server past (Desk.run idna settings words input)).1
          (exchanged server past (Desk.run idna settings words input)) := by
  rcases run_cases server past idna settings words input with
    ⟨_, -, hlog, -⟩ | ⟨_, _, -, -, hlog, -⟩ | ⟨command, client, hparse, -, hdoes⟩
  · exact .inl hlog
  · exact .inl hlog
  · exact .inr ⟨command, client, hparse, hdoes⟩

theorem length_writes_run :
    (Command.writes (exchanged server past (Desk.run idna settings words input))).length ≤ 1 := by
  rcases log_cases server past idna settings words input with hlog | ⟨_, _, -, hdoes⟩
  · rw [hlog]
    exact Nat.zero_le 1
  · exact hdoes.length_writes

variable {server past} in
theorem exit_congr {other : Server} (hagree : Command.AgreesUntilChange server other past) :
    (Conversation.run other past (Desk.run idna settings words input)).1.exit =
      (Conversation.run server past (Desk.run idna settings words input)).1.exit := by
  cases hparse : Command.parse words with
  | error fault =>
    rw [(exit_of_noCommand other past idna settings words input hparse).1,
      (exit_of_noCommand server past idna settings words input hparse).1]
  | ok command =>
    refine (tells_run other past idna settings words input hparse).exit_congr
      (tells_run server past idna settings words input hparse) ?_
    exact exists_congr fun client => and_congr_right fun _ => Command.goesWell_congr hagree command

end Desk

/-- A run exits with 2, and sends nothing, exactly if its words give no command.  Otherwise it exits
    with 0 exactly if the settings make a client and the command goes well by the answers of the
    server, and else with 1.  What a reload is told has no say in this.  The two commands that list
    something only ask, a user without a name is not sent anywhere, and no run sends more than one
    request that changes something. -/
theorem Desk.exit_run (server : Server) (past : List Exchange) (idna : Url.Idna)
    (settings : Settings) (words : List String) (input : List UInt8) :
    let ends := Conversation.run server past (Desk.run idna settings words input)
    let log := exchanged server past (Desk.run idna settings words input)
    ends.2 = past ++ log ∧
      (ends.1.exit = 2 ↔ ∃ fault, Command.parse words = .error fault) ∧
      (ends.1.exit = 2 → log = []) ∧
      (∀ command, Command.parse words = .ok command →
        (ends.1.exit = 0 ↔ ∃ client, settings.client idna = .ok client ∧
          command.GoesWell server past settings client input) ∧
        (ends.1.exit ≠ 0 → ends.1.exit = 1) ∧
        (command = .planets ∨ command = .members → ∀ e ∈ log, e.request.method = .get) ∧
        ∀ role, command = .addMember "" role ∨ command = .invite "" role → log = []) ∧
      (log.filter fun e => e.request.method ≠ .get).length ≤ 1 ∧
      ∀ other : Server,
        (∀ before request, (∀ e ∈ before, e.request.method ≠ .post) →
          other (past ++ before) request = server (past ++ before) request) →
        (Conversation.run other past (Desk.run idna settings words input)).1.exit =
          ends.1.exit := by
  intro ends log
  refine ⟨run_snd server past _, ?_, fun htwo => ?_, fun command hparse => ?_,
    length_writes_run server past idna settings words input,
    fun other hagree => exit_congr idna settings words input hagree⟩
  · cases hparse : Command.parse words with
    | error fault =>
      exact iff_of_true (exit_of_noCommand server past idna settings words input hparse).1
        ⟨fault, rfl⟩
    | ok command =>
      have hle := (tells_run server past idna settings words input hparse).2
      exact iff_of_false (fun htwo => by rw [htwo] at hle; omega) (by simp)
  · cases hparse : Command.parse words with
    | error fault => exact (exit_of_noCommand server past idna settings words input hparse).2
    | ok command =>
      have hle := (tells_run server past idna settings words input hparse).2
      rw [htwo] at hle
      omega
  · obtain ⟨hwell, hle⟩ := tells_run server past idna settings words input hparse
    refine ⟨hwell, fun h => ?_, fun hc e he => ?_, fun role hc => ?_⟩
    · have : ends.1.exit ≤ 1 := hle
      omega
    · rcases log_cases server past idna settings words input with hlog | ⟨_, _, hparse', hdoes⟩
      · rw [show log = [] from hlog] at he
        cases he
      · cases hparse.symm.trans hparse'
        exact hdoes.method_of_listing hc he
    · rcases log_cases server past idna settings words input with hlog | ⟨_, _, hparse', hdoes⟩
      · exact hlog
      · cases hparse.symm.trans hparse'
        rcases hc with rfl | rfl <;> exact hdoes.log_of_noName rfl

end WeblogDesk
