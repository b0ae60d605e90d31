/-
  WeblogDesk.Proofs.Page.DefaultPick

  Whether the user whom the page picks by itself can be added.

  A read that comes through picks the least user, so that only a role is left to
  choose.  A change is skipped for a user without a name, and the empty name is
  the least of all.  So the pick of the page is added as it is, unless the server
  names such a user, or nobody: then the change is skipped whoever else could be
  added (`adds_default`).
-/

import WeblogDesk.Proofs.Page.UserChoice

namespace WeblogDesk

open Http Conversation

namespace MembersPage

/-! ## The page after a read -/

variable (server : Server) (past : List Exchange) {page : MembersPage}

/-- A read of the users who may be added leaves the default of the record, whatever came before
    it. -/
theorem leastKey?_run_potentialMembers {client : Client} (hhttp : client.base.isHttp = true)
    (weblog : String) (log : List Exchange) :
    (run server past (client.potentialMembers weblog)).1.toOption.bind Dict.leastKey? =
      defaultPick (log ++ exchanged server past (client.potentialMembers weblog)) := by
  have hoffers : Offers client log (latestUsers log) :=
    ⟨rfl, fun hsilent => absurd (hhttp.symm.trans hsilent) nofun⟩
  exact (hoffers.potentialMembers server past).2

/-- What a read says of the users who may be added is what the answer to its last request gives. -/
theorem latestRead_of_reads (hhttp : page.client.base.isHttp = true) {action : Action}
    (h : action.reads = true) :
    ∃ before, latestRead (exchanged server past (page.act action)) =
      some ((page.client.ask server before (.potentialMembers page.weblog)).answer.json?
        PotentialMembers.ofJson) := by
  have hasks : (page.client.request (.potentialMembers page.weblog)).Asks .get
      "potentialmembers" := (Client.request_asks_iff hhttp rfl _ _).2 ⟨rfl, rfl⟩
  have hlast (log before : List Exchange) : latestRead (log ++
      exchanged server before (page.client.potentialMembers page.weblog)) =
        some ((page.client.ask server before (.potentialMembers page.weblog)).answer.json?
          PotentialMembers.ofJson) := by
    have hread : usersRead? (page.client.ask server before (.potentialMembers page.weblog)) =
        some _ := if_pos hasks
    rw [Client.exchanged_potentialMembers, Client.exchanged_perform, if_pos hhttp,
      latestRead_concat, hread, Option.some_or]
  cases action with
  | load =>
    simp only [act, exchanged_bind, exchanged_pure, List.append_nil, exchanged_load]
    exact ⟨_, hlast _ _⟩
  | loadPotential =>
    simp only [act, exchanged_bind, exchanged_pure, List.append_nil, exchanged_loadPotential]
    exact ⟨past, hlast [] past⟩
  | _ => cases h

/-- A page that has just been read picks the default of what was read, whatever stood in the form
    before and whether the roles came through or not. -/
theorem userToAdd_of_reads (hhttp : page.client.base.isHttp = true) {action : Action}
    (h : action.reads = true) :
    (run server past (page.act action)).1.1.userToAdd =
      defaultPick (exchanged server past (page.act action)) := by
  cases action with
  | load =>
    simp only [act, run_bind, run_pure, exchanged_bind, exchanged_pure, List.append_nil, run_load,
      exchanged_load]
    rw [userToAdd_takePotential (userToAdd_takeRoles page.unpicked _)]
    exact leastKey?_run_potentialMembers server _ hhttp _ _
  | loadPotential =>
    simp only [act, run_bind, run_pure, exchanged_bind, exchanged_pure, List.append_nil,
      run_loadPotential, exchanged_loadPotential]
    rw [userToAdd_takePotential rfl]
    exact leastKey?_run_potentialMembers server past hhttp _ []
  | _ => cases h

theorem origin_of_act (action : Action) :
    (run server past (page.act action)).1.1.origin = page.origin :=
  (acts_act server past page action).origin

/-! ## Adding the pick -/

/-- What a change that adds a user sends is for the user and the role that are picked. -/
theorem addition_of_submission {change : Change} (hchange : change ≠ .updateRoles) {call : Call}
    {next : MembersPage} (h : page.submission? change.action = some (call, next)) :
    ∃ user role, page.pending = some (user, role) ∧
      (change = .addUser ∧ call = .attachUser page.weblog user role ∨
        change = .inviteUser ∧ call = .inviteUser page.weblog user role) := by
  cases change with
  | updateRoles => exact absurd rfl hchange
  | addUser =>
    obtain ⟨⟨user, role⟩, hpending, hcall⟩ := Option.map_eq_some_iff.1 h
    exact ⟨user, role, hpending, .inl ⟨rfl, (congrArg Prod.fst hcall).symm⟩⟩
  | inviteUser =>
    obtain ⟨⟨user, role⟩, hpending, hcall⟩ := Option.map_eq_some_iff.1 h
    exact ⟨user, role, hpending, .inr ⟨rfl, (congrArg Prod.fst hcall).symm⟩⟩

/-- With the least of some users and any role picked, a change that adds a user is skipped exactly
    if there are no users or one of them has no name. -/
theorem submission_of_least {users : PotentialMembers} {role : Role} {change : Change}
    (huser : page.userToAdd = users.leastKey?) (hrole : page.roleToAdd = some role)
    (hchange : change ≠ .updateRoles) :
    page.submission? change.action = none ↔ users.keys = [] ∨ "" ∈ users.keys := by
  rw [submission_eq_none_iff, and_iff_right hchange, huser, hrole, Dict.leastKey?_eq_none_iff,
    Dict.leastKey?_eq_empty_iff]
  simp only [reduceCtorEq, or_false]

/-- A change that has a call is not skipped.  Its call is sent, and all that is sent behind it are
    reads. -/
theorem make_of_submission (hhttp : page.client.base.isHttp = true) {change : Change} {call : Call}
    {next : MembersPage} (hcall : page.submission? change.action = some (call, next)) :
    (run server past (page.make change)).1.2 ≠ .skipped ∧
      ∃ reload, exchanged server past (page.make change) =
          page.client.ask server past call :: reload ∧
        ∀ e ∈ reload, e.request.method = .get := by
  have houtcome := outcome_submit server past hhttp call next
  obtain ⟨-, -, -, -, hsent⟩ := Outcome.ofAnswer_spec (page.client.request call)
    (page.client.ask server past call).answer
  obtain ⟨reload, hlog, hreload⟩ := exchanged_submit server past hhttp hcall
  rw [make_eq_submit hcall]
  refine ⟨houtcome ▸ hsent, reload, hlog, fun e he => ?_⟩
  have hrequest := List.mem_map_of_mem (f := (·.request)) he
  rw [hreload] at hrequest
  split at hrequest
  · rcases List.mem_pair.1 hrequest with h | h <;> rw [h] <;> rfl
  · cases hrequest

/-- If the users who may be added were read, and then a role is picked and a user is added, it is
    the least user of what was read.  The change is skipped exactly if there is nobody or if the
    server names a user by the empty name, and then nothing is sent; else the request is sent. -/
theorem adds_default (server : Server) (past : List Exchange) (page : MembersPage)
    (hhttp : page.client.base.isHttp = true) {action : Action} (hreads : action.reads = true)
    {users : PotentialMembers}
    (hread : latestRead (exchanged server past (page.act action)) = some (some users)) (role : Role)
    {change : Change} (hchange : change ≠ .updateRoles) :
    let reading := run server past (page.act action)
    let picking := run server reading.2 (reading.1.1.act (.pickRole (some role)))
    let ends := run server picking.2 (picking.1.1.make change)
    let log := exchanged server picking.2 (picking.1.1.make change)
    (ends.1.2 = .skipped ↔ users.keys = [] ∨ "" ∈ users.keys) ∧
      (ends.1.2 = .skipped → log = []) ∧
      (ends.1.2 ≠ .skipped → ∃ user call reload,
        user ∈ users.keys ∧ (∀ other ∈ users.keys, user ≤ other) ∧
        (change = .addUser ∧ call = .attachUser page.weblog user role ∨
          change = .inviteUser ∧ call = .inviteUser page.weblog user role) ∧
        log = page.client.ask server picking.2 call :: reload ∧
        ∀ e ∈ reload, e.request.method = .get) := by
  intro reading picking ends log
  have horigin : picking.1.1.origin = page.origin := origin_of_act server past action
  have hclient : picking.1.1.client = page.client := congrArg (·.1) horigin
  have hweblog : picking.1.1.weblog = page.weblog := congrArg (·.2.1) horigin
  have hrole : picking.1.1.roleToAdd = some role := rfl
  have huser : picking.1.1.userToAdd = users.leastKey? := by
    rw [show picking.1.1.userToAdd = _ from userToAdd_of_reads server past hhttp hreads,
      defaultPick, hread]
    rfl
  have hnone := submission_of_least huser hrole hchange
  obtain ⟨hcall, hmake⟩ | ⟨call, _, hcall, -⟩ := make_cases picking.1.1 change
  · have hskipped : ends = ((picking.1.1, .skipped), picking.2) := by
      simp only [ends, hmake, run_pure]
    have hlog : log = [] := by
      simp only [log, hmake, exchanged_pure]
    rw [hskipped]
    exact ⟨iff_of_true rfl (hnone.1 hcall), fun _ => hlog, fun hsent => absurd rfl hsent⟩
  · obtain ⟨user, picked, hpending, hadds⟩ := addition_of_submission hchange hcall
    obtain ⟨hleast, hrole', -⟩ := (pending_eq_some_iff _).1 hpending
    cases hrole.symm.trans hrole'
    rw [huser, Dict.leastKey?_eq_some_iff] at hleast
    obtain ⟨hsent, reload, hlog, hreload⟩ :=
      make_of_submission server picking.2 (hclient ▸ hhttp) hcall
    have husable := hnone.not.1 (by rw [hcall]; exact Option.some_ne_none _)
    rw [hclient] at hlog
    rw [hweblog] at hadds
    exact ⟨iff_of_false hsent husable, fun hskipped => absurd hskipped hsent,
      fun _ => ⟨user, call, reload, hleast.1, hleast.2, hadds, hlog, hreload⟩⟩

/-- Alice can be added, and is picked and added if she is the only one.  If there is a user without
    a name as well, adding is skipped. -/
theorem adds_default_of_noName :
    let client := Client.onLocalhost
    let page := new client "w" "/login"
    let serve (users : PotentialMembers) : Server := fun _ _ =>
      .reply ⟨200, users.toJson.compact.toUTF8, true⟩
    let picking (users : PotentialMembers) :=
      run (serve users) (run (serve users) [] (page.act .loadPotential)).2
        ((run (serve users) [] (page.act .loadPotential)).1.1.act (.pickRole (some .post)))
    let adding (users : PotentialMembers) :=
      run (serve users) (picking users).2 ((picking users).1.1.make .addUser)
    let alice : PotentialMembers := Dict.ofEntries [("u1", "Alice")]
    let both : PotentialMembers := Dict.ofEntries [("", "Nobody"), ("u1", "Alice")]
    (adding alice).1.2 ≠ .skipped ∧ "u1" ∈ both.keys ∧ (adding both).1.2 = .skipped := by
  intro client page serve picking adding alice both
  have hhttp : page.client.base.isHttp = true := by rfl
  have hread (users : PotentialMembers) :
      latestRead (exchanged (serve users) [] (page.act .loadPotential)) = some (some users) := by
    obtain ⟨before, hread⟩ := latestRead_of_reads (serve users) [] hhttp
      (show Action.reads .loadPotential = true from rfl)
    rw [hread]
    exact congrArg some (Answer.json?_toUTF8 (PotentialMembers.ofJson_compact users))
  have hadding (users : PotentialMembers) :
      (adding users).1.2 = .skipped ↔ users.keys = [] ∨ "" ∈ users.keys :=
    (adds_default (serve users) [] page hhttp rfl (hread users) .post
      (show Change.addUser ≠ .updateRoles from nofun)).1
  refine ⟨(hadding alice).not.2 ?_, ?_, (hadding both).2 (.inr ?_)⟩ <;> decide +kernel

end MembersPage
end WeblogDesk
