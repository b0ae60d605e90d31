/-
  WeblogDesk.Proofs.Page.Directory

  What a server holds about a weblog, as a client can rely on it.

  A `Directory` is a role map and a map of potential members.  `Keeps` says that a
  server holds one: it reads it out as it is, it changes it only by accepting a
  change, and an update does what it says.  What attaching or inviting a user does
  is left to the server.  `serve` is such a server.
-/

import WeblogDesk.Proofs.Json.Roles
import WeblogDesk.Proofs.Page.Changes

namespace WeblogDesk

open Http Conversation

/-- What a server holds about a weblog. -/
structure Directory where
  /-- The members and their roles. -/
  roles : RoleMap
  /-- The users who may be added. -/
  potential : PotentialMembers

/-- Whether a server holds a directory of a weblog, as far as a client can tell.  What it holds is
    given by all that was exchanged. -/
structure Keeps (server : Server) (client : Client) (weblog : String)
    (held : List Exchange → Directory) : Prop where
  /-- Members are read as they are. -/
  members : ∀ past, (server past (client.request (.members weblog))).json? RoleMap.ofJson =
    some (held past).roles
  /-- Potential members are read as they are. -/
  potentialMembers : ∀ past,
    (server past (client.request (.potentialMembers weblog))).json? PotentialMembers.ofJson =
      some (held past).potential
  /-- What is said of a change arrives in full. -/
  complete : ∀ past call reply, call.method = .post →
    server past (client.request call) = .reply reply → reply.complete = true
  /-- Only a change that was accepted changes anything. -/
  unchanged : ∀ past call,
    ¬(call.method = .post ∧ (client.ask server past call).answer.isSuccess = true) →
      held (past ++ [client.ask server past call]) = held past
  /-- An update that was accepted drops each user who needs no blog, and gives every other one that
      it names the role that it says. -/
  updated : ∀ past roles body sent,
    let update := client.ask server past (.updateMembers weblog roles)
    update.answer.isSuccess = true →
      update.request.body = some body → RoleMap.ofJson body = .ok sent →
        ∀ user, (held (past ++ [update])).roles.find? user =
          match sent.find? user with
          | some .noBlogNeeded => none
          | some role => some role
          | none => (held past).roles.find? user

/-! ## Calls to a server that keeps a directory -/

namespace Keeps

variable {server : Server} {client : Client} {weblog : String}
  {held : List Exchange → Directory} {past : List Exchange}
  (keeps : Keeps server client weblog held)

include keeps

theorem held_reading {call : Call} (hget : call.method = .get) :
    held (past ++ exchanged server past (client.perform call)) = held past := by
  rw [Client.exchanged_perform]
  split
  · refine keeps.unchanged past call ?_
    rintro ⟨hpost, -⟩
    rw [hget] at hpost
    cases hpost
  · rw [List.append_nil]

theorem confirms_iff {call : Call} (hpost : call.method = .post) :
    (client.ask server past call).answer.Confirms ↔
      (client.ask server past call).answer.isSuccess = true := by
  cases hanswer : server past (client.request call) with
  | dropped => simp [Client.ask, hanswer, Answer.Confirms, Answer.isSuccess]
  | reply reply =>
    have hcomplete := keeps.complete past call reply hpost hanswer
    simp [Client.ask, hanswer, Answer.Confirms, Answer.isSuccess, hcomplete]

variable (h : client.base.isHttp = true)

include h

theorem run_members :
    (run server past (client.members weblog)).1.toOption = some (held past).roles := by
  rw [Client.toOption_run_members, if_pos h]
  exact keeps.members past

theorem run_potentialMembers :
    (run server past (client.potentialMembers weblog)).1.toOption =
      some (held past).potential := by
  rw [Client.toOption_run_potentialMembers, if_pos h]
  exact keeps.potentialMembers past

/-- The server and the client agree on which changes were made: one that looks like a failure has
    left the server as it was. -/
theorem held_of_error {call : Call} (hpost : call.method = .post) {failure : Failure}
    (hc : (run server past (client.change call)).1 = .error failure) :
    held (past ++ exchanged server past (client.change call)) = held past := by
  rw [Client.exchanged_change, Client.exchanged_perform, if_pos h]
  refine keeps.unchanged past call ?_
  rintro ⟨-, hsuccess⟩
  -- an accepted change is told in full, so it does not look like a failure
  obtain ⟨message, hmade⟩ := (Client.run_change_eq_ok_iff server past h call).2
    ((keeps.confirms_iff hpost).2 hsuccess)
  rw [hc] at hmade
  cases hmade

/-- An update that names all members and nobody else leaves the server with what was sent. -/
theorem roles_of_ok {roles : RoleMap} (hkeys : roles.keys = (held past).roles.keys)
    {message : String}
    (hc : (run server past (client.change (.updateMembers weblog roles))).1 = .ok message) :
    (held (past ++ exchanged server past (client.change (.updateMembers weblog roles)))).roles =
      roles.filter fun _ role => role ≠ .noBlogNeeded := by
  have hsuccess : (client.ask server past (.updateMembers weblog roles)).answer.isSuccess = true :=
    (keeps.confirms_iff rfl).1 ((Client.run_change_eq_ok_iff server past h _).1 ⟨message, hc⟩)
  rw [Client.exchanged_change, Client.exchanged_perform, if_pos h]
  refine Dict.ext_find? fun user => ?_
  rw [keeps.updated past roles _ roles hsuccess rfl (RoleMap.ofJson_compact roles),
    Dict.find?_filter]
  cases hfind : roles.find? user with
  | some role => cases role <;> rfl
  | none =>
    -- a user who was not sent is no member on the server either
    have hmember : (held past).roles.contains user = roles.contains user := by
      rw [Bool.eq_iff_iff, Dict.contains_iff_mem_keys, Dict.contains_iff_mem_keys, hkeys]
    rw [Dict.contains, Dict.contains, hfind, Option.isSome_none, Option.isSome_eq_false_iff,
      Option.isNone_iff_eq_none] at hmember
    exact hmember

end Keeps

/-! ## A server that keeps a directory -/

namespace Directory

/-- The directory after an update. -/
def update (d : Directory) (sent : RoleMap) : Directory :=
  { d with roles := (d.roles.overlay sent.entries).filter fun user _ =>
      sent.find? user ≠ some .noBlogNeeded }

/-- The directory after one more exchange. -/
def note (d : Directory) (e : Exchange) : Directory :=
  if e.request.Asks .post "memberupdate" ∧ e.answer.isSuccess = true then
    match e.request.body.map RoleMap.ofJson with
    | some (.ok sent) => d.update sent
    | _ => d
  else d

/-- The directory after some exchanges. -/
def after (d : Directory) (record : List Exchange) : Directory :=
  record.foldl note d

/-- Reads out the directory as it is, accepts every update and nothing else. -/
def serve (d : Directory) : Server := fun past request =>
  if request.Asks .get "members" then
    .reply ⟨200, (d.after past).roles.toJson.compact.toUTF8, true⟩
  else if request.Asks .get "potentialmembers" then
    .reply ⟨200, (d.after past).potential.toJson.compact.toUTF8, true⟩
  else if request.Asks .post "memberupdate" then .reply ⟨200, ByteArray.empty, true⟩
  else .reply ⟨404, ByteArray.empty, true⟩

theorem find?_update (d : Directory) (sent : RoleMap) (user : String) :
    (d.update sent).roles.find? user =
      match sent.find? user with
      | some .noBlogNeeded => none
      | some role => some role
      | none => d.roles.find? user := by
  rw [update, Dict.find?_filter, Dict.find?_overlay_entries]
  cases sent.find? user with
  | none => cases d.roles.find? user <;> simp
  | some role => cases role <;> simp

theorem after_concat (d : Directory) (record : List Exchange) (e : Exchange) :
    d.after (record ++ [e]) = (d.after record).note e := by
  rw [after, List.foldl_append]
  rfl

end Directory

open Directory in
/-- There is a server for every directory. -/
theorem keeps_serve (d : Directory) {client : Client} (h : client.base.isHttp = true)
    (weblog : String) : Keeps d.serve client weblog d.after where
  members past := by
    have hasks : (client.request (.members weblog)).Asks .get "members" :=
      (Client.request_asks_iff h rfl _ _).2 ⟨rfl, rfl⟩
    rw [serve, if_pos hasks]
    exact Answer.json?_toUTF8 (RoleMap.ofJson_compact _)
  potentialMembers past := by
    have hasks : (client.request (.potentialMembers weblog)).Asks .get "potentialmembers" :=
      (Client.request_asks_iff h rfl _ _).2 ⟨rfl, rfl⟩
    have hother : ¬(client.request (.potentialMembers weblog)).Asks .get "members" := by
      rw [Client.request_asks_iff h rfl]
      simp [Call.names]
    rw [serve, if_neg hother, if_pos hasks]
    exact Answer.json?_toUTF8 (PotentialMembers.ofJson_compact _)
  complete past call reply hpost hreply := by
    unfold serve at hreply
    repeat' split at hreply
    all_goals cases hreply; rfl
  unchanged past call hrefused := by
    rw [after_concat, note, if_neg]
    rintro ⟨hasks, hsuccess⟩
    exact hrefused ⟨hasks.1, hsuccess⟩
  updated past roles body sent := by
    intro update hsuccess hbody hsent user
    have hasks : update.request.Asks .post "memberupdate" :=
      (Client.request_asks_iff h rfl _ _).2 ⟨rfl, rfl⟩
    rw [after_concat, note, if_pos ⟨hasks, hsuccess⟩, hbody, Option.map_some, hsent]
    exact find?_update _ _ _

end WeblogDesk
