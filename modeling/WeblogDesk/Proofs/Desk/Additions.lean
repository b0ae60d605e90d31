/-
  WeblogDesk.Proofs.Desk.Additions

  In which roles the desk asks for users to be added.

  The role stands before the last segment of the path of a request that adds a user
  (`roleSegment?`).  Only two commands send such a request, with the role that
  their last word names.  Every role can be named, so a user can be asked to be added
  with the role that drops a member (`adds_in_role`), although the words about usage
  do not list it.
-/

import WeblogDesk.Proofs.Command
import WeblogDesk.Proofs.Desk.Expiry
import WeblogDesk.Proofs.Endpoint.Identity
import WeblogDesk.Proofs.Page.UserChoice

namespace WeblogDesk

open Http Conversation
open MembersPage (AddsUser)

/-! ## Requests that add a user -/

/-- The segment before the last one, where a request that adds a user has the role. -/
def Http.Request.roleSegment? (r : Request) : Option (List Char) :=
  r.url.path.dropLast.getLast?

namespace Command

variable {server : Server} {past log : List Exchange} {settings : Settings} {client : Client}
  {input : List UInt8} {command : Command} {report : Report} {weblog user : String} {role : Role}
  {change : MembersPage.Change}

theorem roleSegment?_request (hhttp : client.base.isHttp = true) :
    (client.request (additionCall weblog user role change)).roleSegment? =
      some role.wireName.toList := by
  rw [Request.roleSegment?, Client.path_request hhttp]
  cases change <;> simp [additionCall, Call.below]

theorem addsUser_request (hhttp : client.base.isHttp = true) :
    AddsUser (client.request (additionCall weblog user role change)) := by
  have htree : (additionCall weblog user role change).tree = Call.authoringTree := by
    cases change <;> rfl
  rw [MembersPage.addsUser_request_iff hhttp htree]
  cases change with
  | inviteUser => exact ⟨weblog, user, role, .inr rfl⟩
  | _ => exact ⟨weblog, user, role, .inl rfl⟩

/-- What changes the roles of the members adds nobody. -/
theorem not_addsUser_of_update {page next : MembersPage} {roles : RoleMap} {e : Exchange}
    (he : e ∈ exchanged server past (page.submit (.updateMembers weblog roles) next)) :
    ¬AddsUser e.request := by
  rcases MembersPage.mem_exchanged_submit server past he with hsent | hget
  · have hhttp := Client.isHttp_of_mem_perform server past page.client hsent
    rw [Client.request_of_mem_perform server past page.client hsent,
      MembersPage.addsUser_request_iff hhttp rfl]
    rintro ⟨_, _, _, hcall | hcall⟩ <;> cases hcall
  · exact MembersPage.not_addsUser_of_get hget

/-- The commands that add nobody send no request that does. -/
theorem Does.not_addsUser (h : Does server past settings client input command report log)
    (hc : command.addition? = none) {e : Exchange} (he : e ∈ log) : ¬AddsUser e.request := by
  have hlist {e : Exchange} (he : e ∈ exchanged server past client.listPlanets) :
      ¬AddsUser e.request := MembersPage.not_addsUser_of_get (method_of_mem_listPlanets he)
  have hload {page : MembersPage} {e : Exchange} (he : e ∈ exchanged server past page.load) :
      ¬AddsUser e.request :=
    MembersPage.not_addsUser_of_get (MembersPage.method_of_mem_load server past page he)
  have hdelete {record : List Exchange} {id : String} {e : Exchange}
      (he : e ∈ exchanged server record (client.deletePlanet id)) : ¬AddsUser e.request := by
    intro hadds
    rw [Client.exchanged_deletePlanet] at he
    have hpost := hadds.method
    rw [Client.request_of_mem_perform server record client he] at hpost
    cases hpost
  cases h with
  | deleted hread hid hyes hd => exact (List.mem_append.1 he).elim hlist hdelete
  | notDeleted hread hid hyes hd => exact (List.mem_append.1 he).elim hlist hdelete
  | noWeblog hother hw => cases he
  | membersListed hw hloads => exact hload he
  | notRead hkind hw hread => exact hload he
  | noMember hkind hw hloads hm => exact hload he
  | edited hkind hw hloads hm hpage hreading hends =>
    exact (List.mem_append.1 he).elim hload not_addsUser_of_update
  | added hkind hw hpage hends =>
    rw [hc] at hkind
    cases hkind
  | _ => exact hlist he

/-- A request that adds a user is the one of a command that adds this user in this role. -/
theorem Does.request_of_addsUser (h : Does server past settings client input command report log)
    {e : Exchange} (he : e ∈ log) (hadds : AddsUser e.request) :
    ∃ change user role weblog, command.addition? = some (change, user, role) ∧ user ≠ "" ∧
      settings.weblog = some weblog ∧ client.base.isHttp = true ∧
      e.request = client.request (additionCall weblog user role change) := by
  cases hc : command.addition? with
  | none => exact absurd hadds (h.not_addsUser hc he)
  | some addition =>
    obtain ⟨change, user, role⟩ := addition
    rcases h.of_addition hc with ⟨-, rfl⟩ | ⟨hname, weblog, page, next, hw, rfl, rfl⟩
    · cases he
    · rcases MembersPage.mem_exchanged_submit server past he with hsent | hget
      · exact ⟨change, user, role, weblog, rfl, hname, hw,
          Client.isHttp_of_mem_perform server past page.client hsent,
          Client.request_of_mem_perform server past page.client hsent⟩
      · exact absurd hadds (MembersPage.not_addsUser_of_get hget)

/-- A command that adds a user with a name to a weblog sends the request. -/
theorem Does.ask_mem (h : Does server past settings client input command report log)
    (hc : command.addition? = some (change, user, role)) (hname : user ≠ "")
    (hw : settings.weblog = some weblog) (hhttp : client.base.isHttp = true) :
    client.ask server past (additionCall weblog user role change) ∈ log := by
  rcases h.of_addition hc with ⟨hnothing, -⟩ | ⟨-, other, page, next, hother, rfl, rfl⟩
  · rw [hw] at hnothing
    exact (hnothing.elim nofun hname).elim
  · cases hw.symm.trans hother
    exact MembersPage.ask_mem_submit server past hhttp _ next

/-! ## Words that add a user -/

/-- The words that give a command to add a user: the user, and a role in any case of its letters. -/
theorem parse_addition_iff {words : List String} :
    (∃ command change, parse words = .ok command ∧
        command.addition? = some (change, user, role)) ↔
      ∃ verb word, words = [verb, user, word] ∧ (verb = "add-member" ∨ verb = "invite") ∧
        Role.upper word = role.wireName := by
  simp only [parse_eq_ok_iff, Role.upper_eq_wireName_iff]
  constructor
  · rintro ⟨command, change, hgiven, hadds⟩
    cases command with
    | addMember =>
      cases hadds
      obtain ⟨word, hwords, hword⟩ := hgiven
      exact ⟨_, word, hwords, .inl rfl, hword⟩
    | invite =>
      cases hadds
      obtain ⟨word, hwords, hword⟩ := hgiven
      exact ⟨_, word, hwords, .inr rfl, hword⟩
    | _ => cases hadds
  · rintro ⟨verb, word, hwords, rfl | rfl, hword⟩
    · exact ⟨.addMember user role, .addUser, ⟨word, hwords, hword⟩, rfl⟩
    · exact ⟨.invite user role, .inviteUser, ⟨word, hwords, hword⟩, rfl⟩

end Command

/-! ## Runs -/

namespace Desk

variable (server : Server) (past : List Exchange) (idna : Url.Idna) (settings : Settings)
  (words : List String) (input : List UInt8)

/-- A request that adds a user is sent for words that ask for it. -/
theorem request_of_addsUser {e : Exchange}
    (he : e ∈ exchanged server past (Desk.run idna settings words input))
    (hadds : AddsUser e.request) :
    ∃ command client change user role weblog, Command.parse words = .ok command ∧
      settings.client idna = .ok client ∧ command.addition? = some (change, user, role) ∧
      user ≠ "" ∧ settings.weblog = some weblog ∧ client.base.isHttp = true ∧
      e.request = client.request (Command.additionCall weblog user role change) := by
  rcases run_cases server past idna settings words input with
    ⟨_, -, hlog, -⟩ | ⟨_, _, -, -, hlog, -⟩ | ⟨command, client, hparse, hclient, hdoes⟩
  · rw [hlog] at he
    cases he
  · rw [hlog] at he
    cases he
  · obtain ⟨change, user, role, weblog, hc, hname, hw, hhttp, hrequest⟩ :=
      hdoes.request_of_addsUser he hadds
    exact ⟨command, client, change, user, role, weblog, hparse, hclient, hc, hname, hw, hhttp,
      hrequest⟩

/-- Every request that adds a user is in some role.  A run asks for a user to be added in a given
    role exactly if its words are those of a command that adds a user, the user has a name and the
    last word names the role in any case of its letters, provided that the settings give a weblog
    and a server of the network.  This goes for the role that drops a member as for the others. -/
theorem adds_in_role (server : Server) (past : List Exchange) (idna : Url.Idna)
    (settings : Settings) (words : List String) (input : List UInt8) :
    let log := exchanged server past (Desk.run idna settings words input)
    (∀ e ∈ log, AddsUser e.request →
      ∃ role : Role, e.request.roleSegment? = some role.wireName.toList) ∧
      ∀ role : Role,
        (∃ e ∈ log, AddsUser e.request ∧
          e.request.roleSegment? = some role.wireName.toList) ↔
        ∃ verb user word, words = [verb, user, word] ∧ (verb = "add-member" ∨ verb = "invite") ∧
          Role.upper word = role.wireName ∧ user ≠ "" ∧ settings.weblog.isSome = true ∧
          ∃ client, settings.client idna = .ok client ∧ client.base.isHttp = true := by
  intro log
  refine ⟨fun e he hadds => ?_, fun role => ⟨?_, ?_⟩⟩
  · obtain ⟨_, _, _, _, role, _, -, -, -, -, -, hhttp, hrequest⟩ :=
      request_of_addsUser server past idna settings words input he hadds
    exact ⟨role, hrequest ▸ Command.roleSegment?_request hhttp⟩
  · rintro ⟨e, he, hadds, hrole⟩
    obtain ⟨command, client, change, user, named, weblog, hparse, hclient, hc, hname, hw, hhttp,
      hrequest⟩ := request_of_addsUser server past idna settings words input he hadds
    -- the segment tells the role
    rw [hrequest, Command.roleSegment?_request hhttp, Option.some_inj] at hrole
    cases Call.wireName_toList_inj.1 hrole
    obtain ⟨verb, word, hwords, hverb, hword⟩ :=
      Command.parse_addition_iff.1 ⟨command, change, hparse, hc⟩
    exact ⟨verb, user, word, hwords, hverb, hword, hname, by rw [hw]; rfl, client, hclient, hhttp⟩
  · rintro ⟨verb, user, word, hwords, hverb, hword, hname, hw, client, hclient, hhttp⟩
    obtain ⟨weblog, hw⟩ := Option.isSome_iff_exists.1 hw
    obtain ⟨command, change, hparse, hc⟩ :=
      Command.parse_addition_iff.2 ⟨verb, word, hwords, hverb, hword⟩
    rcases run_cases server past idna settings words input with
      ⟨_, hfault, -⟩ | ⟨_, _, -, hfailure, -⟩ | ⟨other, sender, hother, hsender, hdoes⟩
    · cases hparse.symm.trans hfault
    · cases hclient.symm.trans hfailure
    · cases hparse.symm.trans hother
      cases hclient.symm.trans hsender
      exact ⟨_, hdoes.ask_mem hc hname hw hhttp, Command.addsUser_request hhttp,
        Command.roleSegment?_request hhttp⟩

end Desk

/-- Bob is asked to be added in the role that drops a member. -/
example :
    let settings := { Settings.load Dict.empty none with weblog := some "w" }
    let log := exchanged forgetful []
      (Desk.run .asciiOnly settings ["add-member", "bob", "noblogneeded"] [])
    log.map (·.request.url.render) =
      ["http://localhost:8080/tb-ui/authoring/rest/weblog/w/user/bob/role/NOBLOGNEEDED/attach"] :=
  by decide +kernel

end WeblogDesk
