/-
  WeblogDesk.Proofs.Desk.RoleChanges

  What the desk sends to change the role of one member.

  Roles can only be sent all at once.  So the desk reads them, puts the new role in place of the
  old one and sends them back.  It does so exactly if both reads of the page give what they
  should and the user is a member, and what it sends differs from what it was given in the
  role of this user alone (`changes_one_role`).
-/

import WeblogDesk.Proofs.Desk.Additions
import WeblogDesk.Proofs.Page.DefaultPick
import WeblogDesk.Proofs.Page.Directory
import WeblogDesk.Proofs.Page.Reading

namespace WeblogDesk

open Http Conversation

namespace Command

variable {server : Server} {past log : List Exchange} {settings : Settings} {client : Client}
  {input : List UInt8} {command : Command} {report : Report} {weblog user : String} {role : Role}

/-! ## Words that change a role -/

/-- The words that give a command to change a role: the user with a role in any case of its
    letters, or the user alone, who is removed by the role that needs no blog. -/
theorem parse_edit_iff {words : List String} :
    (∃ command, parse words = .ok command ∧ command.edit? = some (user, role)) ↔
      (∃ word, words = ["set-role", user, word] ∧ Role.upper word = role.wireName) ∨
        words = ["remove-member", user] ∧ role = .noBlogNeeded := by
  simp only [parse_eq_ok_iff, Role.upper_eq_wireName_iff]
  constructor
  · rintro ⟨command, hgiven, hedit⟩
    cases command with
    | setRole =>
      cases hedit
      exact .inl hgiven
    | removeMember =>
      cases hedit
      exact .inr ⟨hgiven, rfl⟩
    | _ => cases hedit
  · rintro (hgiven | ⟨hwords, rfl⟩)
    · exact ⟨.setRole user role, hgiven, rfl⟩
    · exact ⟨.removeMember user, hwords, rfl⟩

/-! ## What is sent -/

/-- What both reads of the page have to give for an update to be sent. -/
theorem loads_iff_gives (h : client.base.isHttp = true) {roles : RoleMap}
    {users : PotentialMembers} :
    let members := client.ask server past (.members weblog)
    let potential := client.ask server (past ++ [members]) (.potentialMembers weblog)
    Loads server past client weblog roles users ↔
      members.answer.Gives RoleMap.ofJson roles ∧
        potential.answer.Gives PotentialMembers.ofJson users := by
  intro members potential
  rw [loads_iff, GivesBoth, Client.given_eq_some_iff, Client.given_eq_some_iff, and_iff_right h,
    and_iff_right h]
  rfl

/-- A command that changes a role reads the page.  It sends all roles with this change if both reads
    give what they should and the user is a member, and otherwise it ends there. -/
theorem Does.of_edit (h : Does server past settings client input command report log)
    (hc : command.edit? = some (user, role)) (hw : settings.weblog = some weblog)
    (hhttp : client.base.isHttp = true) :
    let members := client.ask server past (.members weblog)
    let potential := client.ask server (past ++ [members]) (.potentialMembers weblog)
    (log = [members, potential] ∧ report.exit = 1 ∧
      ∀ roles users, members.answer.Gives RoleMap.ofJson roles →
        potential.answer.Gives PotentialMembers.ofJson users → user ∉ roles.keys) ∨
    ∃ (roles : RoleMap) (users : PotentialMembers) (page : MembersPage),
      members.answer.Gives RoleMap.ofJson roles ∧
      potential.answer.Gives PotentialMembers.ofJson users ∧ user ∈ roles.keys ∧
      page.client = client ∧ page.weblog = weblog ∧ page.roles = roles.insert user role ∧
      log = [members, potential] ++
        exchanged server (past ++ [members, potential]) (page.make .updateRoles) := by
  intro members potential
  -- what changes a role neither lists planets nor adds a user
  have hplanets := isAboutPlanets_of_edit? hc
  have haddition : command.addition? = none := by cases command <;> first | rfl | cases hc
  have hpageHttp : (blankPage settings client weblog).client.base.isHttp = true := hhttp
  have hload : exchanged server past (blankPage settings client weblog).load =
      [members, potential] := (MembersPage.load_of_isHttp server past hpageHttp).1
  have hgives {roles : RoleMap} {users : PotentialMembers} :
      Loads server past client weblog roles users ↔ _ := loads_iff_gives hhttp
  cases h with
  | noWeblog hother hnone => cases hw.symm.trans hnone
  | notListed hother hread => cases hplanets.symm.trans hother
  | notRead hkind hother hread =>
    cases hw.symm.trans hother
    refine .inl ⟨hload, rfl, fun roles users hroles husers _ => ?_⟩
    exact not_loads_of_error server past settings client hread roles users
      (hgives.2 ⟨hroles, husers⟩)
  | @noMember _ _ _ _ given users hkind hother hloads hm =>
    cases hw.symm.trans hother
    cases hc.symm.trans hkind
    refine .inl ⟨hload, rfl, fun roles _ hroles _ hmem => ?_⟩
    have hsame : given = roles := (hgives.1 hloads).1.unique hroles
    subst hsame
    rw [Dict.contains_iff_mem_keys.2 hmem] at hm
    cases hm
  | @edited _ _ _ _ roles users page reading _ hkind hother hloads hm hpage hreading hends =>
    cases hw.symm.trans hother
    cases hc.symm.trans hkind
    obtain ⟨hroles, husers⟩ := hgives.1 hloads
    have hrecord : reading.2 = past ++ [members, potential] := by
      rw [hreading, run_snd, hload]
    refine .inr ⟨roles, users, page, hroles, husers, Dict.contains_iff_mem_keys.1 hm,
      congrArg (·.client) hpage, congrArg (·.weblog) hpage, congrArg (·.roles) hpage, ?_⟩
    rw [hload, hrecord]
  | added hkind hother hpage hends => cases haddition.symm.trans hkind
  | _ => cases hc

end Command

/-! ## Runs -/

/-- Whether roles are others with the role of one user changed, and nobody added or dropped. -/
structure RoleMap.ChangesOne (sent roles : RoleMap) (user : String) (role : Role) : Prop where
  keys : sent.keys = roles.keys
  changed : sent.find? user = some role
  kept : ∀ other, other ≠ user → sent.find? other = roles.find? other

theorem RoleMap.changesOne_insert {roles : RoleMap} {user : String} (h : user ∈ roles.keys)
    (role : Role) : ChangesOne (roles.insert user role) roles user role where
  keys := Dict.keys_insert (Dict.contains_iff_mem_keys.2 h) role
  changed := by rw [Dict.find?_insert, if_pos rfl]
  kept other hother := by rw [Dict.find?_insert, if_neg hother]

/-- Words that change the role of a user, on a weblog on a server of the network, make the desk read
    the members and the users who may be added.  If both can be read and the user is a member, it
    sends back the members with this one role changed, and then only reads.  Otherwise it sends
    nothing more and exits with 1. -/
theorem Desk.changes_one_role (server : Server) (past : List Exchange) (idna : Url.Idna)
    (settings : Settings) (words : List String) (input : List UInt8)
    {user weblog : String} {role : Role} {client : Client}
    (hwords : (∃ word, words = ["set-role", user, word] ∧ Role.upper word = role.wireName) ∨
      words = ["remove-member", user] ∧ role = .noBlogNeeded)
    (hw : settings.weblog = some weblog) (hclient : settings.client idna = .ok client)
    (hhttp : client.base.isHttp = true) :
    let members := client.ask server past (.members weblog)
    let potential := client.ask server (past ++ [members]) (.potentialMembers weblog)
    let isListed := ∃ roles users, members.answer.Gives RoleMap.ofJson roles ∧
      potential.answer.Gives PotentialMembers.ofJson users ∧ user ∈ roles.keys
    ∃ rest, exchanged server past (Desk.run idna settings words input) =
        members :: potential :: rest ∧
      ((∃ e ∈ rest, e.request.Asks .post "memberupdate") ↔ isListed) ∧
      (∀ roles, members.answer.Gives RoleMap.ofJson roles → isListed →
        ∃ sent body reload,
          rest = client.ask server (past ++ [members, potential]) (.updateMembers weblog sent) ::
            reload ∧
          (client.request (.updateMembers weblog sent)).body = some body ∧
          RoleMap.ofJson body = .ok sent ∧ sent.ChangesOne roles user role ∧
          ∀ e ∈ reload, e.request.method = .get) ∧
      (¬isListed → rest = [] ∧
        (Conversation.run server past (Desk.run idna settings words input)).1.exit = 1) := by
  intro members potential isListed
  obtain ⟨command, hparse, hedit⟩ := Command.parse_edit_iff.2 hwords
  rcases run_cases server past idna settings words input with
    ⟨_, hfault, -⟩ | ⟨_, _, -, hfailure, -⟩ | ⟨other, sender, hother, hsender, hdoes⟩
  · cases hparse.symm.trans hfault
  · cases hclient.symm.trans hfailure
  cases hparse.symm.trans hother
  cases hclient.symm.trans hsender
  rcases hdoes.of_edit hedit hw hhttp with
    ⟨hlog, hexit, hno⟩ | ⟨roles, users, page, hroles, husers, hmem, hpage, hwl, hinsert, hlog⟩
  · have hnone : ¬isListed := by
      rintro ⟨roles, users, hroles, husers, hmem⟩
      exact hno roles users hroles husers hmem
    refine ⟨[], hlog, iff_of_false ?_ hnone, fun _ _ hlisted => absurd hlisted hnone,
      fun _ => ⟨rfl, hexit⟩⟩
    rintro ⟨e, he, -⟩
    cases he
  · have hlisted : isListed := ⟨roles, users, hroles, husers, hmem⟩
    have hcall : page.submission? MembersPage.Change.updateRoles.action =
        some (.updateMembers weblog (roles.insert user role), page) := by
      rw [MembersPage.Change.action, MembersPage.submission?, hwl, hinsert]
    obtain ⟨-, reload, hsent, hreload⟩ :=
      MembersPage.make_of_submission server (past ++ [members, potential]) (hpage ▸ hhttp) hcall
    rw [hsent, hpage] at hlog
    have hasks : (client.request (.updateMembers weblog (roles.insert user role))).Asks .post
        "memberupdate" := (Client.request_asks_iff hhttp rfl _ _).2 ⟨rfl, rfl⟩
    refine ⟨_, hlog, iff_of_true ⟨_, List.mem_cons_self, hasks⟩ hlisted,
      fun given hgiven _ => ?_, fun hno => absurd hlisted hno⟩
    have hsame : roles = given := hroles.unique hgiven
    subst hsame
    exact ⟨_, _, reload, rfl, rfl, RoleMap.ofJson_compact _, RoleMap.changesOne_insert hmem role,
      hreload⟩

/-- Of two members, one is given another role, and the other one is sent back as he was. -/
theorem Desk.changes_one_role_of_two :
    let settings := { Settings.load Dict.empty none with weblog := some "w" }
    let two : Directory := ⟨Dict.ofEntries [("m", .owner), ("u", .post)], Dict.empty⟩
    let log :=
      exchanged two.serve [] (Desk.run .asciiOnly settings ["set-role", "u", "edit_draft"] [])
    settings.client .asciiOnly = .ok Client.onLocalhost ∧ ∃ e ∈ log, ∃ body sent,
      e.request.method = .post ∧ e.request.body = some body ∧ RoleMap.ofJson body = .ok sent ∧
        sent.find? "u" = some .editDraft ∧ sent.find? "m" = some .owner := by
  intro settings two log
  have hhttp : Client.onLocalhost.base.isHttp = true := by rfl
  have hclient : settings.client .asciiOnly = .ok Client.onLocalhost :=
    Client.eq_ok_iff_toOption.2 (by decide +kernel)
  have hword : Role.upper "edit_draft" = Role.editDraft.wireName := by decide
  obtain ⟨rest, hlog, -, hsent, -⟩ := changes_one_role two.serve [] .asciiOnly settings
    ["set-role", "u", "edit_draft"] [] (.inl ⟨_, rfl, hword⟩) rfl hclient hhttp
  have hkeeps := keeps_serve two hhttp "w"
  have hmembers := Answer.json?_eq_some_iff.1 (hkeeps.members [])
  obtain ⟨sent, body, reload, rfl, hbody, hread, hone, -⟩ :=
    hsent two.roles hmembers ⟨two.roles, _, hmembers,
      Answer.json?_eq_some_iff.1 (hkeeps.potentialMembers _), by decide +kernel⟩
  have hmem : Client.onLocalhost.ask two.serve _ (.updateMembers "w" sent) ∈ log :=
    hlog ▸ List.mem_cons_of_mem _ (List.mem_cons_of_mem _ List.mem_cons_self)
  refine ⟨hclient, _, hmem, body, sent, rfl, hbody, hread, hone.changed, ?_⟩
  rw [hone.kept "m" (by decide)]
  decide +kernel

end WeblogDesk
