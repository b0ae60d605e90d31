/-
  WeblogDesk.Proofs.Page.Roles

  The roles on the members page, as a function of what happened so far.

  Two kinds of events bear on the roles: the answer to a read of the members, and
  a change on the page.  `rolesAfter` is the map of the last read that came
  through with the changes since; `Reflects` says that the roles of a page are
  these, and that every update that was sent held the roles of its time.  It is
  kept by each exchange and each change, so by every action and every run.
-/

import Mathlib.Data.List.DropRight
import WeblogDesk.Proofs.Endpoint.Requests
import WeblogDesk.Proofs.Json.Roles
import WeblogDesk.Proofs.Page.History

namespace WeblogDesk
namespace MembersPage

open Http Conversation

/-! ## Events -/

/-- Something that bears on the roles of a page. -/
inductive Event where
  /-- A request was sent, and something came of it. -/
  | exchange (e : Exchange)
  /-- The role of a member was changed on the page. -/
  | edit (user : String) (role : Role)

namespace Event

/-- The roles that a read of the members gives. -/
def read? : Event → Option RoleMap
  | .exchange e =>
    if e.request.Asks .get "members" then e.answer.json? RoleMap.ofJson else none
  | .edit _ _ => none

/-- The change that was made on the page. -/
def edit? : Event → Option (String × Role)
  | .exchange _ => none
  | .edit user role => some (user, role)

/-- The roles that were read last, none before the first read. -/
def lastRead (events : List Event) : RoleMap :=
  (events.filterMap read?).getLast?.getD Dict.empty

/-- The changes on the page since the last read. -/
def editsSince (events : List Event) : List (String × Role) :=
  (events.rtakeWhile (·.read?.isNone)).filterMap edit?

/-- The roles that were read last with the changes since. -/
def rolesAfter (events : List Event) : RoleMap :=
  (lastRead events).overlay (editsSince events)

theorem lastRead_concat (events : List Event) (e : Event) :
    lastRead (events ++ [e]) = e.read?.getD (lastRead events) := by
  rw [lastRead, List.filterMap_append, List.getLast?_append]
  cases h : e.read? <;> simp [h, lastRead]

/-- A read leaves no changes behind, and everything else adds the change that it is. -/
theorem editsSince_concat (events : List Event) (e : Event) :
    editsSince (events ++ [e]) =
      if e.read?.isSome then [] else editsSince events ++ e.edit?.toList := by
  rw [editsSince, List.rtakeWhile_concat]
  cases h : e.read? with
  | some roles => simp
  | none =>
    rw [Option.isNone_none, if_pos rfl, List.filterMap_append]
    cases h : e.edit? <;> simp [h, editsSince]

/-- A read takes the place of the roles. -/
theorem rolesAfter_concat_of_read {events : List Event} {e : Event} {roles : RoleMap}
    (h : e.read? = some roles) : rolesAfter (events ++ [e]) = roles := by
  rw [rolesAfter, lastRead_concat, editsSince_concat, h]
  rfl

theorem rolesAfter_concat_of_quiet {events : List Event} {e : Exchange}
    (h : (exchange e).read? = none) : rolesAfter (events ++ [.exchange e]) = rolesAfter events := by
  rw [rolesAfter, lastRead_concat, editsSince_concat, h]
  simp [edit?, rolesAfter]

theorem rolesAfter_concat_edit (events : List Event) (user : String) (role : Role) :
    rolesAfter (events ++ [.edit user role]) = (rolesAfter events).insert user role := by
  rw [rolesAfter, lastRead_concat, editsSince_concat]
  exact Dict.overlay_concat _ _ (user, role)

end Event

/-- The change that an action has made on the page. -/
def Step.edit? (step : Step) : Option (String × Role) :=
  match step.result with
  | .isMember true => step.action.edit?
  | _ => none

/-- What an action has to do with the roles. -/
def Step.events (step : Step) : List Event :=
  step.exchanges.map .exchange ++ step.edit?.toList.map fun e => .edit e.1 e.2

open Event

/-! ## The invariant -/

/-- Whether a map of roles is what some events come to, and each update among them was sent
    with what had come before it. -/
structure Reflects (events : List Event) (roles : RoleMap) : Prop where
  /-- The map is the last read with the changes since. -/
  eq_rolesAfter : roles = rolesAfter events
  /-- No change has added or dropped a user. -/
  keys_eq : roles.keys = (lastRead events).keys
  /-- Every update says what the roles were when it was sent. -/
  updates : ∀ before e after, events = before ++ .exchange e :: after →
    e.request.Asks .post "memberupdate" →
      ∃ body, e.request.body = some body ∧ RoleMap.ofJson body = .ok (rolesAfter before)

namespace Reflects

variable {events : List Event} {roles : RoleMap}

theorem nil : Reflects [] Dict.empty where
  eq_rolesAfter := rfl
  keys_eq := rfl
  updates := by
    intro before e after h
    simp at h

/-- Whatever happens next, the updates before it stay as they are. -/
theorem updates_concat (h : Reflects events roles) (next : Event)
    (hnext : ∀ e, next = .exchange e → e.request.Asks .post "memberupdate" →
      e.request.body = some roles.toJson.compact) :
    ∀ before e after, events ++ [next] = before ++ .exchange e :: after →
      e.request.Asks .post "memberupdate" →
        ∃ body, e.request.body = some body ∧ RoleMap.ofJson body = .ok (rolesAfter before) := by
  intro before e after hsplit hasks
  -- the update is the next event, or it was there before
  rcases concat_eq_append_cons_iff.1 hsplit with ⟨rfl, he, -⟩ | ⟨rest, -, hevents⟩
  · refine ⟨roles.toJson.compact, hnext e he.symm hasks, ?_⟩
    rw [RoleMap.ofJson_compact, h.eq_rolesAfter]
  · exact h.updates before e rest hevents hasks

/-- An exchange: a read of the members takes the place of the roles, and an update has to hold
    them. -/
theorem exchange (h : Reflects events roles) (e : Exchange)
    (hbody : e.request.Asks .post "memberupdate" →
      e.request.body = some roles.toJson.compact) :
    Reflects (events ++ [.exchange e]) ((Event.exchange e).read?.getD roles) := by
  have hupdates := h.updates_concat (.exchange e) fun e' he => by
    cases he
    exact hbody
  cases hread : (Event.exchange e).read? with
  | some read =>
    exact ⟨(rolesAfter_concat_of_read hread).symm, by rw [lastRead_concat, hread]; rfl, hupdates⟩
  | none =>
    refine ⟨?_, ?_, hupdates⟩
    · rw [rolesAfter_concat_of_quiet hread]
      exact h.eq_rolesAfter
    · rw [lastRead_concat, hread]
      exact h.keys_eq

theorem edit (h : Reflects events roles) {user : String} (hmember : roles.contains user = true)
    (role : Role) : Reflects (events ++ [.edit user role]) (roles.insert user role) where
  eq_rolesAfter := by rw [rolesAfter_concat_edit, ← h.eq_rolesAfter]
  keys_eq := by
    rw [Dict.keys_insert hmember, lastRead_concat]
    exact h.keys_eq
  updates := h.updates_concat _ fun e he => nomatch he

end Reflects

/-! ## Calls -/

namespace Reflects

variable {events : List Event} {roles : RoleMap} {server : Server} {past : List Exchange}
  {client : Client} {weblog : String}

/-- A call about a weblog that does not read its members, and that sends the roles if it is an
    update. -/
theorem call (h : Reflects events roles) {call : Call} (htree : call.tree = Call.authoringTree)
    (hread : ¬(call.method = .get ∧ call.names.getLast? = some "members"))
    (hbody : call.names.getLast? = some "memberupdate" →
      call.body = some roles.toJson.compact) :
    Reflects (events ++ (exchanged server past (client.perform call)).map .exchange) roles := by
  rw [Client.exchanged_perform]
  by_cases hhttp : client.base.isHttp = true
  · have hquiet : (Event.exchange (client.ask server past call)).read? = none :=
      if_neg fun hasks => hread ((Client.request_asks_iff hhttp htree _ _).1 hasks)
    have hnext := h.exchange (client.ask server past call) fun hasks =>
      hbody ((Client.request_asks_iff hhttp htree _ _).1 hasks).2
    rw [hquiet] at hnext
    rw [if_pos hhttp]
    exact hnext
  · rw [if_neg hhttp, List.map_nil, List.append_nil]
    exact h

/-- Reading the members takes what was read, if it was. -/
theorem members (h : Reflects events roles) :
    Reflects (events ++ (exchanged server past (client.members weblog)).map .exchange)
      ((run server past (client.members weblog)).1.toOption.getD roles) := by
  rw [Client.exchanged_members, Client.exchanged_perform, Client.toOption_run_members]
  by_cases hhttp : client.base.isHttp = true
  · have hasks (method : Method) (last : String) :=
      Client.request_asks_iff hhttp (show (Call.members weblog).tree = Call.authoringTree from rfl)
        method last
    -- the exchange is a read of the members, and no update
    have hread : (Event.exchange (client.ask server past (.members weblog))).read? =
        (client.ask server past (.members weblog)).answer.json? RoleMap.ofJson :=
      if_pos ((hasks .get "members").2 ⟨rfl, rfl⟩)
    have hnext := h.exchange (client.ask server past (.members weblog)) fun hupdate =>
      nomatch ((hasks .post "memberupdate").1 hupdate).1
    rw [hread] at hnext
    rw [if_pos hhttp, if_pos hhttp]
    exact hnext
  · rw [if_neg hhttp, if_neg hhttp, List.map_nil, List.append_nil]
    exact h

theorem potentialMembers (h : Reflects events roles) :
    Reflects (events ++ (exchanged server past (client.potentialMembers weblog)).map .exchange)
      roles := by
  rw [Client.exchanged_potentialMembers]
  exact h.call rfl (by simp [Call.names]) (by simp [Call.names])

end Reflects

/-! ## Actions -/

variable (server : Server) (past : List Exchange) (page : MembersPage)

theorem roles_takeRoles (roles : Except Failure RoleMap) :
    (page.takeRoles roles).roles = roles.toOption.getD page.roles := by
  cases roles <;> rfl

@[simp] theorem roles_takePotential (users : Except Failure PotentialMembers) :
    (page.takePotential users).roles = page.roles := by
  cases users <;> rfl

@[simp] theorem roles_failed (failure : Failure) : (page.failed failure).1.roles = page.roles := by
  cases failure <;> rfl

/-- The changes on the server: all are about the weblog, and an update sends the roles. -/
theorem submission_call {action : Action} {call : Call} {next : MembersPage}
    (h : page.submission? action = some (call, next)) :
    next.roles = page.roles ∧ call.tree = Call.authoringTree ∧
      (call.names.getLast? = some "memberupdate" →
        call.body = some page.roles.toJson.compact) := by
  rcases submission_cases page h with ⟨rfl, rfl⟩ | ⟨_, _, -, rfl, rfl | rfl⟩
  · exact ⟨rfl, rfl, fun _ => rfl⟩
  · exact ⟨rfl, rfl, by simp [Call.names]⟩
  · exact ⟨rfl, rfl, by simp [Call.names]⟩

variable {server past page}

/-- Reading members and potential members. -/
theorem Reflects.load {events : List Event} (h : Reflects events page.roles) :
    Reflects (events ++ (exchanged server past page.load).map .exchange)
      (run server past page.load).1.1.roles := by
  rw [run_load, exchanged_load, List.map_append, ← List.append_assoc, roles_takePotential,
    roles_takeRoles]
  exact h.members.potentialMembers

/-- A change on the server, up to its answer. -/
theorem Reflects.change {events : List Event} (h : Reflects events page.roles) {action : Action}
    {call : Call} {next : MembersPage} (ha : page.submission? action = some (call, next)) :
    Reflects (events ++ (exchanged server past (page.client.change call)).map .exchange)
      page.roles := by
  obtain ⟨-, htree, hbody⟩ := submission_call page ha
  rw [Client.exchanged_change]
  refine h.call htree ?_ hbody
  rintro ⟨hget, -⟩
  rw [submission_method page ha] at hget
  cases hget

theorem Step.events_of_exchanges {action : Action} {result : Result} {log : List Exchange}
    (h : Step.edit? ⟨action, result, log⟩ = none) :
    Step.events ⟨action, result, log⟩ = log.map .exchange := by
  rw [events, h]
  exact List.append_nil _

theorem Step.append_events_of_nothing {action : Action} {result : Result}
    (h : Step.edit? ⟨action, result, []⟩ = none) (events : List Event) :
    events ++ Step.events ⟨action, result, []⟩ = events := by
  rw [events_of_exchanges h, List.map_nil, List.append_nil]

/-- Everything that an action can do keeps the roles what the events come to. -/
theorem Reflects.step {events : List Event} {next : MembersPage} {action : Action}
    {result : Result} {log : List Exchange} (h : Reflects events page.roles)
    (hacts : Acts server past page action next result log) :
    Reflects (events ++ Step.events ⟨action, result, log⟩) next.roles := by
  cases hacts with
  | load hm hu =>
    subst hm hu
    have hload : Reflects _ (run server past page.load).1.1.roles := h.load
    rw [run_load] at hload
    rw [Step.events_of_exchanges rfl]
    exact hload
  | loadPotential hu =>
    rw [Step.events_of_exchanges rfl, exchanged_loadPotential, roles_takePotential]
    exact h.potentialMembers
  | edit ha hm =>
    rename_i user role
    have hevents : Step.events ⟨action, .isMember true, []⟩ = [.edit user role] := by
      rw [Step.events, Step.edit?, ha]
      rfl
    rw [hevents]
    exact h.edit hm role
  | noMember ha hm =>
    rw [Step.append_events_of_nothing rfl]
    exact h
  | pickUser user =>
    rw [Step.append_events_of_nothing rfl]
    exact h
  | pickRole role =>
    rw [Step.append_events_of_nothing rfl]
    exact h
  | skip ha hp =>
    rw [Step.append_events_of_nothing rfl]
    exact h
  | made ha hc =>
    rename_i call following message
    -- the change is answered before the page reloads, so the reload has the last word
    have hroles : (following.announce message).roles = page.roles :=
      (submission_call page ha).1
    have hchange : Reflects
        (events ++ (exchanged server past (page.client.change call)).map .exchange)
        page.roles := h.change ha
    rw [← hroles] at hchange
    rw [Step.events_of_exchanges rfl, List.map_append, ← List.append_assoc]
    exact hchange.load
  | notMade ha hc =>
    rw [Step.events_of_exchanges rfl, roles_failed]
    exact h.change ha

/-- The roles at the end of a run are those that were read last, with the changes on the page
    since: the last one of each user counts, and none adds or drops a user.  Each update that
    was sent in between can be read back as what the roles were then.  The events are those of
    the actions with what they answered and exchanged. -/
theorem roles_actAll (server : Server) (past : List Exchange) (client : Client)
    (weblog refreshUrl : String) (actions : List Action) :
    let start := new client weblog refreshUrl
    let ends := run server past (start.actAll actions)
    let steps := history server past start actions
    let events := steps.flatMap Step.events
    (steps.map (·.action) = actions ∧ steps.map (·.result) = ends.1.2 ∧
        past ++ steps.flatMap (·.exchanges) = ends.2) ∧
      ends.1.1.roles = (lastRead events).overlay (editsSince events) ∧
      (∀ user, ends.1.1.roles.find? user =
        (Dict.lookup user (editsSince events).reverse).or ((lastRead events).find? user)) ∧
      ends.1.1.roles.keys = (lastRead events).keys ∧
      ∀ before e after, events = before ++ .exchange e :: after →
        e.request.Asks .post "memberupdate" →
          ∃ body, e.request.body = some body ∧
            RoleMap.ofJson body = .ok ((lastRead before).overlay (editsSince before)) := by
  intro start ends steps events
  have hreflects : Reflects events ends.1.1.roles := by
    refine history_induct server past start
      (P := fun done page => Reflects (done.flatMap Step.events) page.roles) .nil ?_ actions
    intro past done page action next result log hacts h
    rw [List.flatMap_append, List.flatMap_singleton]
    exact h.step hacts
  refine ⟨history_spec server past start actions, hreflects.eq_rolesAfter, ?_, hreflects.keys_eq,
    hreflects.updates⟩
  intro user
  rw [hreflects.eq_rolesAfter]
  exact Dict.find?_overlay _ _ user

end MembersPage
end WeblogDesk
