/-
  WeblogDesk.Proofs.Page.UserChoice

  Who is added, if nobody is picked by hand.

  Every read of the users who may be added clears the pick in the form, and if it
  comes through it picks the least user of what was read.  So a pick that was not
  made by hand is a function of the record: `defaultPick` is the least user of the
  last read, and none if that read failed, whatever list the page still shows.
  `Selects` says that the form holds this pick, or else the last one by hand since
  the last reload; it is kept by each action, so by every run, and what is sent to
  add a user is for the pick of its time.
-/

import WeblogDesk.Proofs.Dict
import WeblogDesk.Proofs.Page.RoleChoice
import WeblogDesk.Proofs.Page.Roles

namespace WeblogDesk
namespace MembersPage

open Http Conversation

/-! ## Reads of the users who may be added -/

/-- What an exchange says of the users who may be added, if it asks for them: these users, or
    nothing that can be read. -/
def usersRead? (e : Exchange) : Option (Option PotentialMembers) :=
  if e.request.Asks .get "potentialmembers" then some (e.answer.json? PotentialMembers.ofJson)
  else none

/-- What the last read of the users who may be added said, if there was one. -/
def latestRead (log : List Exchange) : Option (Option PotentialMembers) :=
  log.reverse.findSome? usersRead?

/-- The users of the last read that came through, none before the first one. -/
def latestUsers (log : List Exchange) : PotentialMembers :=
  (log.reverse.findSome? fun e => (usersRead? e).join).getD Dict.empty

/-- The least user of the last read, if it came through and gave any. -/
def defaultPick (log : List Exchange) : Option String :=
  (latestRead log).join.bind Dict.leastKey?

theorem latestRead_concat (log : List Exchange) (e : Exchange) :
    latestRead (log ++ [e]) = (usersRead? e).or (latestRead log) := by
  rw [latestRead, List.reverse_concat, List.findSome?_cons]
  cases usersRead? e <;> rfl

theorem latestUsers_concat (log : List Exchange) (e : Exchange) :
    latestUsers (log ++ [e]) = (usersRead? e).join.getD (latestUsers log) := by
  rw [latestUsers, List.reverse_concat, List.findSome?_cons]
  cases (usersRead? e).join <;> rfl

/-- If the last read came through, it is the last one that did. -/
theorem latestUsers_of_latestRead {log : List Exchange} {users : PotentialMembers}
    (h : latestRead log = some (some users)) : latestUsers log = users := by
  induction log using List.reverseRecOn with
  | nil => cases h
  | append_singleton log e ih =>
    rw [latestRead_concat] at h
    rw [latestUsers_concat]
    cases hread : usersRead? e with
    | some read =>
      rw [hread, Option.some_or] at h
      cases h
      rfl
    | none =>
      rw [hread, Option.none_or] at h
      exact ih h

/-- A pick that the page makes is the least user of a read that came through. -/
theorem defaultPick_eq_some_iff {log : List Exchange} {user : String} :
    defaultPick log = some user ↔
      ∃ users, latestRead log = some (some users) ∧
        user ∈ users.keys ∧ ∀ other ∈ users.keys, user ≤ other := by
  rw [defaultPick, Option.bind_eq_some_iff]
  simp only [Option.join_eq_some_iff, Dict.leastKey?_eq_some_iff]

/-! ## Picks by hand -/

/-- What an action picks as the user in the form, which may be nobody. -/
def Action.pickUser? : Action → Option (Option String)
  | .pickUser user => some user
  | _ => none

/-- Whether an action asks for the users who may be added. -/
def Action.reads : Action → Bool
  | .load => true
  | .loadPotential => true
  | _ => false

/-- Whether a step reads the users who may be added, which a change that was made does too. -/
def Step.reloads (step : Step) : Bool :=
  match step.result with
  | .outcome outcome => outcome.isSaved
  | _ => step.action.reads

/-- The last pick of a user by hand since the last reload. -/
def handPicked (steps : List Step) : Option (Option String) :=
  (steps.reverse.takeWhile fun step => !step.reloads).findSome? (·.action.pickUser?)

theorem handPicked_concat (steps : List Step) (step : Step) :
    handPicked (steps ++ [step]) =
      if step.reloads then none else step.action.pickUser?.or (handPicked steps) := by
  rw [handPicked, List.reverse_concat, List.takeWhile_cons]
  cases step.reloads with
  | true => rfl
  | false =>
    rw [Bool.not_false, if_pos rfl, List.findSome?_cons]
    cases step.action.pickUser? <;> rfl

/-- What edits the roles on the page neither picks a user nor reads. -/
theorem Action.leavesUser_of_edit? {action : Action} {edit : String × Role}
    (h : action.edit? = some edit) : action.pickUser? = none ∧ action.reads = false := by
  cases action <;> first | exact ⟨rfl, rfl⟩ | cases h

/-- What changes something on the server picks no user by hand. -/
theorem pickUser?_of_submission {page following : MembersPage} {action : Action} {call : Call}
    (h : page.submission? action = some (call, following)) : action.pickUser? = none := by
  cases action <;> first | rfl | cases h

/-! ## What the record offers -/

/-- Whether some users are those that a client was offered: the ones of the last read that came
    through.  A client that cannot ask has no record. -/
structure Offers (client : Client) (log : List Exchange) (users : PotentialMembers) : Prop where
  eq_latestUsers : users = latestUsers log
  silent : client.base.isHttp = false → log = []

namespace Offers

variable {client : Client} {log : List Exchange} {users : PotentialMembers} {weblog : String}

theorem nil : Offers client [] Dict.empty where
  eq_latestUsers := rfl
  silent _ := rfl

/-- One more exchange offers what it reads, if it does. -/
theorem concat (h : Offers client log users) (hhttp : client.base.isHttp = true) (e : Exchange) :
    Offers client (log ++ [e]) ((usersRead? e).join.getD users) where
  eq_latestUsers := by rw [latestUsers_concat, h.eq_latestUsers]
  silent hsilent := by
    rw [hhttp] at hsilent
    cases hsilent

variable (server : Server) (past : List Exchange)

/-- A call that does not read the users who may be added offers nothing new. -/
theorem call (h : Offers client log users) (call : Call)
    (htree : call.tree = Call.authoringTree)
    (hother : ¬(call.method = .get ∧ call.names.getLast? = some "potentialmembers")) :
    Offers client (log ++ exchanged server past (client.perform call)) users ∧
      defaultPick (log ++ exchanged server past (client.perform call)) = defaultPick log := by
  rw [Client.exchanged_perform]
  by_cases hhttp : client.base.isHttp = true
  · have hread : usersRead? (client.ask server past call) = none :=
      if_neg fun hasks => hother ((Client.request_asks_iff hhttp htree _ _).1 hasks)
    have hnext := h.concat hhttp (client.ask server past call)
    rw [hread] at hnext
    rw [if_pos hhttp, defaultPick, latestRead_concat, hread]
    exact ⟨hnext, rfl⟩
  · rw [if_neg hhttp, List.append_nil]
    exact ⟨h, rfl⟩

/-- Reading the users who may be added offers what was read, if it was, and then the least of
    them is the one to pick. -/
theorem potentialMembers (h : Offers client log users) :
    let read := (run server past (client.potentialMembers weblog)).1.toOption
    Offers client (log ++ exchanged server past (client.potentialMembers weblog))
        (read.getD users) ∧
      read.bind Dict.leastKey? =
        defaultPick (log ++ exchanged server past (client.potentialMembers weblog)) := by
  rw [Client.exchanged_potentialMembers, Client.exchanged_perform,
    Client.toOption_run_potentialMembers]
  by_cases hhttp : client.base.isHttp = true
  · have hasks : (client.request (.potentialMembers weblog)).Asks .get "potentialmembers" :=
      (Client.request_asks_iff hhttp rfl _ _).2 ⟨rfl, rfl⟩
    have hread : usersRead? (client.ask server past (.potentialMembers weblog)) =
        some ((client.ask server past (.potentialMembers weblog)).answer.json?
          PotentialMembers.ofJson) := if_pos hasks
    have hnext := h.concat hhttp (client.ask server past (.potentialMembers weblog))
    rw [hread] at hnext
    rw [if_pos hhttp, if_pos hhttp, defaultPick, latestRead_concat, hread]
    exact ⟨hnext, rfl⟩
  · -- nothing is read, and the record is empty
    have hempty : log = [] := h.silent (eq_false_of_ne_true hhttp)
    rw [if_neg hhttp, if_neg hhttp, List.append_nil]
    refine ⟨h, ?_⟩
    rw [hempty]
    rfl

end Offers

/-! ## One action -/

variable {server : Server} {past : List Exchange} {page next : MembersPage} {action : Action}
  {result : Result} {log : List Exchange} {steps : List Step}

/-- What was read is picked, if nobody was picked before. -/
theorem userToAdd_takePotential (h : page.userToAdd = none)
    (users : Except Failure PotentialMembers) :
    (page.takePotential users).userToAdd = users.toOption.bind Dict.leastKey? := by
  cases users with
  | ok users => rfl
  | error failure => exact h

theorem userToAdd_takeRoles (page : MembersPage) (roles : Except Failure RoleMap) :
    (page.takeRoles roles).userToAdd = page.userToAdd := by
  cases roles <;> rfl

/-- What every reload ends with: a page without a pick takes what was read. -/
theorem Offers.takePotential (server : Server) (past : List Exchange) {client : Client}
    {weblog : String} (h : Offers client log page.potential) (hpick : page.userToAdd = none) :
    let users := (run server past (client.potentialMembers weblog)).1
    Offers client (log ++ exchanged server past (client.potentialMembers weblog))
        (page.takePotential users).potential ∧
      (page.takePotential users).userToAdd =
        defaultPick (log ++ exchanged server past (client.potentialMembers weblog)) := by
  intro users
  rw [potential_takePotential, userToAdd_takePotential hpick]
  exact h.potentialMembers server past

theorem Offers.load (server : Server) (past : List Exchange)
    (h : Offers page.client log page.potential) :
    let next := (run server past page.load).1.1
    Offers page.client (log ++ exchanged server past page.load) next.potential ∧
      next.userToAdd = defaultPick (log ++ exchanged server past page.load) := by
  rw [run_load, exchanged_load, ← List.append_assoc, Client.exchanged_members]
  -- the roles are read first, which offers nobody and picks nobody
  obtain ⟨hroles, -⟩ :=
    h.call server past (.members page.weblog) rfl (by simp [Call.names])
  refine Offers.takePotential server _ ?_ ?_
  · rw [potential_takeRoles]
    exact hroles
  · rw [userToAdd_takeRoles]
    rfl

/-- Whether a page shows the users that its steps were offered, and holds the pick that they make
    for it: the last one by hand since the last reload, or else the default of the record. -/
structure Selects (steps : List Step) (page : MembersPage) : Prop where
  offers : Offers page.client (steps.flatMap (·.exchanges)) page.potential
  userToAdd : page.userToAdd =
    (handPicked steps).getD (defaultPick (steps.flatMap (·.exchanges)))

theorem flatMap_exchanges_concat (steps : List Step) (action : Action) (result : Result)
    (log : List Exchange) :
    (steps ++ [Step.mk action result log]).flatMap (·.exchanges) =
      steps.flatMap (·.exchanges) ++ log := by
  rw [List.flatMap_append, List.flatMap_singleton]

namespace Selects

/-- A reload leaves the default picked. -/
theorem reload (hclient : next.client = page.client)
    (hreloads : Step.reloads ⟨action, result, log⟩ = true)
    (h : Offers page.client (steps.flatMap (·.exchanges) ++ log) next.potential ∧
      next.userToAdd = defaultPick (steps.flatMap (·.exchanges) ++ log)) :
    Selects (steps ++ [⟨action, result, log⟩]) next where
  offers := by
    rw [flatMap_exchanges_concat, hclient]
    exact h.1
  userToAdd := by
    rw [flatMap_exchanges_concat, handPicked_concat, if_pos hreloads]
    exact h.2

/-- Everything else leaves what a pick by hand makes of the pick, as long as it offers nothing
    new. -/
theorem keep (h : Selects steps page) (hclient : next.client = page.client)
    (hreloads : Step.reloads ⟨action, result, log⟩ = false)
    (hpotential : next.potential = page.potential)
    (hpick : next.userToAdd = action.pickUser?.getD page.userToAdd)
    (hoffers : Offers page.client (steps.flatMap (·.exchanges) ++ log) page.potential ∧
      defaultPick (steps.flatMap (·.exchanges) ++ log) =
        defaultPick (steps.flatMap (·.exchanges))) :
    Selects (steps ++ [⟨action, result, log⟩]) next where
  offers := by
    rw [flatMap_exchanges_concat, hclient, hpotential]
    exact hoffers.1
  userToAdd := by
    rw [flatMap_exchanges_concat, handPicked_concat, hreloads, hpick, h.userToAdd, hoffers.2]
    cases action.pickUser? <;> rfl

/-- What sends nothing offers nothing. -/
theorem nothing (h : Selects steps page) :
    Offers page.client (steps.flatMap (·.exchanges) ++ []) page.potential ∧
      defaultPick (steps.flatMap (·.exchanges) ++ []) =
        defaultPick (steps.flatMap (·.exchanges)) := by
  rw [List.append_nil]
  exact ⟨h.offers, rfl⟩

/-- A change on the server is up to its answer no read. -/
theorem change (server : Server) (past : List Exchange) (h : Selects steps page) {call : Call}
    {following : MembersPage} (ha : page.submission? action = some (call, following)) :
    let log := exchanged server past (page.client.change call)
    Offers page.client (steps.flatMap (·.exchanges) ++ log) page.potential ∧
      defaultPick (steps.flatMap (·.exchanges) ++ log) =
        defaultPick (steps.flatMap (·.exchanges)) := by
  obtain ⟨-, htree, -⟩ := submission_call page ha
  rw [Client.exchanged_change]
  refine h.offers.call server past call htree ?_
  rintro ⟨hget, -⟩
  rw [submission_method page ha] at hget
  cases hget

/-- Everything that an action can do keeps what is offered and who is picked. -/
theorem concat (h : Selects steps page)
    (hacts : Acts server past page action next result log) :
    Selects (steps ++ [⟨action, result, log⟩]) next := by
  have hclient : next.client = page.client := congrArg (·.1) hacts.origin
  cases hacts with
  | load hm hu =>
    subst hm hu
    have hload := h.offers.load server past
    rw [run_load] at hload
    exact reload hclient rfl hload
  | loadPotential hu =>
    subst hu
    rw [exchanged_loadPotential]
    exact reload hclient rfl (Offers.takePotential server past h.offers rfl)
  | edit ha hm =>
    obtain ⟨hpick, hreads⟩ := Action.leavesUser_of_edit? ha
    exact h.keep hclient hreads rfl (by rw [hpick]; rfl) h.nothing
  | noMember ha hm =>
    obtain ⟨hpick, hreads⟩ := Action.leavesUser_of_edit? ha
    exact h.keep hclient hreads rfl (by rw [hpick]; rfl) h.nothing
  | pickUser user => exact h.keep hclient rfl rfl rfl h.nothing
  | pickRole role => exact h.keep hclient rfl rfl rfl h.nothing
  | skip ha hp =>
    have hpick : action.pickUser? = none := by rcases ha with rfl | rfl <;> rfl
    exact h.keep hclient rfl rfl (by rw [hpick]; rfl) h.nothing
  | made ha hc =>
    rename_i call following message
    -- the page that reloads still shows the users that it showed when the change was sent
    have hfollowing : (following.announce message).client = page.client ∧
        (following.announce message).potential = page.potential := by
      rcases submission_cases page ha with ⟨-, rfl⟩ | ⟨_, _, -, rfl, -⟩
      · exact ⟨rfl, rfl⟩
      · exact ⟨rfl, rfl⟩
    obtain ⟨hasks, hshows⟩ := hfollowing
    obtain ⟨hoffers, -⟩ := h.change server past ha
    rw [← hasks, ← hshows] at hoffers
    refine reload hclient rfl ?_
    rw [← List.append_assoc, ← hasks]
    exact hoffers.load server _
  | notMade ha hc =>
    rename_i call following failure
    have hsaved : (page.failed failure).2.isSaved = false := by cases failure <;> rfl
    refine h.keep hclient hsaved (potential_failed page failure) ?_ (h.change server past ha)
    rw [pickUser?_of_submission ha]
    exact (picks_failed page failure).1

end Selects

/-! ## What is sent to add a user -/

/-- Whether a request asks for a user to be added, attached or invited. -/
def AddsUser (r : Request) : Prop :=
  r.Asks .post "attach" ∨ r.Asks .post "invite"

/-- Whether a request is the one that adds a user to a weblog, in some role. -/
def IsAdditionOf (client : Client) (weblog user : String) (r : Request) : Prop :=
  ∃ role, r = client.request (.attachUser weblog user role) ∨
    r = client.request (.inviteUser weblog user role)

/-- Of the calls about a weblog, two add a user. -/
theorem addsUser_request_iff {client : Client} (h : client.base.isHttp = true) {call : Call}
    (htree : call.tree = Call.authoringTree) :
    AddsUser (client.request call) ↔
      ∃ weblog user role,
        call = .attachUser weblog user role ∨ call = .inviteUser weblog user role := by
  rw [AddsUser, Client.request_asks_iff h htree, Client.request_asks_iff h htree]
  cases call <;> simp [Call.method, Call.names]

/-- The request of a change adds a user only if it is about the one who is picked. -/
theorem isAdditionOf_of_mem_change {call : Call} {following : MembersPage}
    (ha : page.submission? action = some (call, following)) {e : Exchange}
    (he : e ∈ exchanged server past (page.client.change call)) (hadds : AddsUser e.request) :
    ∃ user, page.userToAdd = some user ∧ IsAdditionOf page.client page.weblog user e.request := by
  rw [Client.exchanged_change] at he
  have hrequest : e.request = page.client.request call :=
    Client.request_of_mem_perform server past page.client he
  rcases submission_cases page ha with ⟨rfl, -⟩ | ⟨user, role, hpending, -, hcall⟩
  · -- an update adds nobody
    have hhttp := Client.isHttp_of_mem_perform server past page.client he
    rw [hrequest, addsUser_request_iff hhttp rfl] at hadds
    obtain ⟨_, _, _, hattach | hinvite⟩ := hadds
    · cases hattach
    · cases hinvite
  · refine ⟨user, ((pending_eq_some_iff page).1 hpending).1, role, ?_⟩
    rw [hrequest]
    rcases hcall with rfl | rfl
    · exact .inl rfl
    · exact .inr rfl

/-- Only what is posted adds a user. -/
theorem AddsUser.method {r : Request} (h : AddsUser r) : r.method = .post := by
  rcases h with hattach | hinvite
  · exact hattach.1
  · exact hinvite.1

/-- A read adds nobody. -/
theorem not_addsUser_of_get {r : Request} (h : r.method = .get) : ¬AddsUser r := by
  intro hadds
  cases h.symm.trans hadds.method

/-- Whatever an action sends to add a user is about the one who is picked. -/
theorem Acts.isAdditionOf (hacts : Acts server past page action next result log) {e : Exchange}
    (he : e ∈ log) (hadds : AddsUser e.request) :
    ∃ user, page.userToAdd = some user ∧ IsAdditionOf page.client page.weblog user e.request := by
  cases hacts with
  | load hm hu => exact absurd hadds (not_addsUser_of_get (method_of_mem_load _ _ page he))
  | loadPotential hu =>
    rw [exchanged_loadPotential, Client.exchanged_potentialMembers] at he
    have hrequest := Client.request_of_mem_perform server past page.client he
    exact absurd hadds (not_addsUser_of_get (hrequest ▸ rfl))
  | made ha hc =>
    rcases List.mem_append.1 he with hchange | hreload
    · exact isAdditionOf_of_mem_change ha hchange hadds
    · exact absurd hadds (not_addsUser_of_get (method_of_mem_load _ _ _ hreload))
  | notMade ha hc => exact isAdditionOf_of_mem_change ha he hadds
  | _ => cases he

/-- Whether each user that some steps ask to be added is the pick of its time. -/
def AddsPicked (client : Client) (weblog : String) (steps : List Step) : Prop :=
  ∀ before step after, steps = before ++ step :: after → ∀ e ∈ step.exchanges,
    AddsUser e.request → ∃ user, IsAdditionOf client weblog user e.request ∧
      (handPicked before).getD (defaultPick (before.flatMap (·.exchanges))) = some user

theorem AddsPicked.concat (h : AddsPicked page.client page.weblog steps)
    (hselects : Selects steps page) (hacts : Acts server past page action next result log) :
    AddsPicked page.client page.weblog (steps ++ [⟨action, result, log⟩]) := by
  intro before step after hsplit e he hadds
  -- the step is the last one, or it is in the run before it
  rcases concat_eq_append_cons_iff.1 hsplit with ⟨rfl, rfl, -⟩ | ⟨rest, -, hsteps⟩
  · obtain ⟨user, hpick, haddition⟩ := hacts.isAdditionOf he hadds
    exact ⟨user, haddition, hselects.userToAdd.symm.trans hpick⟩
  · exact h before step rest hsteps e he hadds

/-! ## Runs -/

/-- At the end of every run the form holds the pick that the steps make for it, and whatever was
    sent to add a user was for the pick of its time. -/
theorem selects_history (server : Server) (past : List Exchange) (client : Client)
    (weblog refreshUrl : String) (actions : List Action) :
    let start := new client weblog refreshUrl
    let ends := run server past (start.actAll actions)
    let steps := history server past start actions
    Selects steps ends.1.1 ∧ AddsPicked client weblog steps := by
  intro start ends steps
  have hrun := history_induct server past start
    (P := fun done page => page.origin = start.origin ∧ Selects done page ∧
      AddsPicked client weblog done) ⟨rfl, ⟨.nil, rfl⟩, by simp [AddsPicked]⟩ ?_ actions
  · exact hrun.2
  · rintro past done mid action next result log hacts ⟨horigin, hselects, hadds⟩
    have hclient : mid.client = client := congrArg (·.1) horigin
    have hweblog : mid.weblog = weblog := congrArg (·.2.1) horigin
    subst hclient hweblog
    exact ⟨hacts.origin.trans horigin, hselects.concat hacts, hadds.concat hselects hacts⟩

/-- In every run the page shows the users of the last read of them that came through.  The user
    in the form is the last one picked by hand since the last reload, and else the least one of
    the last read, nobody if that read failed; so a pick that was not made by hand is always the
    least user that the page shows.  Whatever is sent to add a user is for the user in the form,
    and without a pick by hand for the least one of the read just before it. -/
theorem userToAdd_actAll (server : Server) (past : List Exchange) (client : Client)
    (weblog refreshUrl : String) (actions : List Action) :
    let start := new client weblog refreshUrl
    let ends := run server past (start.actAll actions)
    let steps := history server past start actions
    let log := steps.flatMap (·.exchanges)
    (steps.map (·.action) = actions ∧ steps.map (·.result) = ends.1.2 ∧ past ++ log = ends.2) ∧
      ends.1.1.potential = latestUsers log ∧
      ends.1.1.userToAdd = (handPicked steps).getD (defaultPick log) ∧
      (handPicked steps = none → ∀ user, ends.1.1.userToAdd = some user →
        latestRead log = some (some ends.1.1.potential) ∧
          user ∈ ends.1.1.potential.keys ∧ ∀ other ∈ ends.1.1.potential.keys, user ≤ other) ∧
      ∀ before step after, steps = before ++ step :: after → ∀ e ∈ step.exchanges,
        AddsUser e.request → ∃ user, IsAdditionOf client weblog user e.request ∧
          (handPicked before = some (some user) ∨
            handPicked before = none ∧
              ∃ users, latestRead (before.flatMap (·.exchanges)) = some (some users) ∧
                user ∈ users.keys ∧ ∀ other ∈ users.keys, user ≤ other) := by
  intro start ends steps log
  obtain ⟨hselects, hadds⟩ := selects_history server past client weblog refreshUrl actions
  refine ⟨history_spec server past start actions, hselects.offers.eq_latestUsers,
    hselects.userToAdd, ?_, ?_⟩
  · intro hhand user huser
    have hdefault : defaultPick log = some user := by
      rw [← huser, hselects.userToAdd, hhand]
      rfl
    obtain ⟨users, hread, hleast⟩ := defaultPick_eq_some_iff.1 hdefault
    have hshown : ends.1.1.potential = users :=
      hselects.offers.eq_latestUsers.trans (latestUsers_of_latestRead hread)
    rw [hshown]
    exact ⟨hread, hleast⟩
  · intro before step after hsplit e he hadd
    obtain ⟨user, haddition, hpick⟩ := hadds before step after hsplit e he hadd
    refine ⟨user, haddition, ?_⟩
    cases hhand : handPicked before with
    | some picked =>
      rw [hhand, Option.getD_some] at hpick
      exact .inl (congrArg some hpick)
    | none =>
      rw [hhand, Option.getD_none] at hpick
      exact .inr ⟨rfl, defaultPick_eq_some_iff.1 hpick⟩

end MembersPage
end WeblogDesk
