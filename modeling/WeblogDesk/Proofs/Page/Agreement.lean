/-
  WeblogDesk.Proofs.Page.Agreement

  The members page and a server that keeps a directory.

  Between two reloads the page and the server need not hold the same roles: a
  change on the page is not sent yet.  What they share throughout is who the
  members are, which is what `Agrees` says; a reload makes the roles the same,
  which is what `Mirrors` says.  So an update always goes to a server with the
  same members, and leaves it with the roles that were sent, less those who are
  dropped.
-/

import WeblogDesk.Proofs.Page.Directory
import WeblogDesk.Proofs.Page.Roles

namespace WeblogDesk
namespace MembersPage

open Http Conversation

/-- Whether page and server have the same members, and the same users who may be added. -/
structure Agrees (page : MembersPage) (d : Directory) : Prop where
  keys : page.roles.keys = d.roles.keys
  potential : page.potential = d.potential

/-- Whether the page shows all that the server holds. -/
structure Mirrors (page : MembersPage) (d : Directory) : Prop where
  roles : page.roles = d.roles
  potential : page.potential = d.potential

theorem Mirrors.agrees {page : MembersPage} {d : Directory} (h : page.Mirrors d) :
    page.Agrees d :=
  ⟨congrArg Dict.keys h.roles, h.potential⟩

/-! ## Reading -/

variable {server : Server} {held : List Exchange → Directory} {past : List Exchange}
  {page : MembersPage}

theorem keeps_of_origin (keeps : Keeps server page.client page.weblog held) {next : MembersPage}
    (horigin : next.origin = page.origin) : Keeps server next.client next.weblog held := by
  have hclient : next.client = page.client := congrArg (·.1) horigin
  have hweblog : next.weblog = page.weblog := congrArg (·.2.1) horigin
  rw [hclient, hweblog]
  exact keeps

section Steps

variable (keeps : Keeps server page.client page.weblog held)

include keeps

theorem held_members :
    held (run server past (page.client.members page.weblog)).2 = held past := by
  rw [run_snd, Client.exchanged_members, keeps.held_reading rfl]

theorem held_load : held (past ++ exchanged server past page.load) = held past := by
  rw [exchanged_load, ← List.append_assoc, ← run_snd, Client.exchanged_potentialMembers,
    keeps.held_reading rfl, held_members keeps]

variable (h : page.client.base.isHttp = true)

include h

theorem mirrors_load : (run server past page.load).1.1.Mirrors (held past) := by
  rw [run_load]
  constructor
  · rw [roles_takePotential, roles_takeRoles, keeps.run_members h, Option.getD_some]
  · rw [potential_takePotential, keeps.run_potentialMembers h, Option.getD_some,
      held_members keeps]

/-! ## Actions -/

variable {next : MembersPage} {action : Action} {result : Result} {log : List Exchange}

/-- Whether the server has made the change that was asked for. -/
def Step.IsSaved (step : Step) : Prop :=
  ∃ message, step.result = .outcome (.saved message)

/-- The reload behind a change shows what the server holds since the change. -/
theorem mirrors_reload {call : Call} {following : MembersPage} (message : String)
    (ha : page.submission? action = some (call, following)) :
    let changed := run server past (page.client.change call)
    let reload := (following.announce message).load
    held (past ++ (exchanged server past (page.client.change call) ++
        exchanged server changed.2 reload)) =
          held (past ++ exchanged server past (page.client.change call)) ∧
      (run server changed.2 reload).1.1.Mirrors
        (held (past ++ exchanged server past (page.client.change call))) := by
  intro changed reload
  -- what is picked is forgotten before the reload; the page still asks about the same weblog
  have horigin : (following.announce message).origin = page.origin :=
    origin_announce_submission page ha message
  have hclient : (following.announce message).client = page.client := congrArg (·.1) horigin
  have hkeeps := keeps_of_origin keeps horigin
  rw [← List.append_assoc, ← run_snd]
  exact ⟨held_load hkeeps, mirrors_load hkeeps (hclient ▸ h)⟩

/-- After each reload the page shows all that the server holds. -/
theorem Acts.mirrors (hacts : Acts server past page action next result log)
    (hreloads : action = .load ∨ Step.IsSaved ⟨action, result, log⟩) :
    next.Mirrors (held (past ++ log)) := by
  obtain rfl | ⟨message, rfl⟩ := hreloads
  · cases hacts with
    | load hm hu =>
      subst hm hu
      have hload : (run server past page.load).1.1.Mirrors (held past) := mirrors_load keeps h
      rw [run_load] at hload
      rw [held_load keeps]
      exact hload
    | edit ha hm => cases ha
    | noMember ha hm => cases ha
    | skip ha hp => simp at ha
    | made ha hc => cases ha
    | notMade ha hc => cases ha
  · obtain ⟨call, following, ha, -, rfl, rfl⟩ := hacts.of_saved
    obtain ⟨hheld, hmirrors⟩ := mirrors_reload keeps h message ha
    rw [hheld]
    exact hmirrors

/-- Whatever an action does, page and server have the same members after it if they had before. -/
theorem Acts.agrees (hacts : Acts server past page action next result log)
    (hagrees : page.Agrees (held past)) : next.Agrees (held (past ++ log)) := by
  cases hacts with
  | load hm hu => exact (Acts.mirrors keeps h (.load hm hu) (.inl rfl)).agrees
  | loadPotential hu =>
    subst hu
    rw [exchanged_loadPotential, Client.exchanged_potentialMembers, keeps.held_reading rfl]
    refine ⟨by rw [roles_takePotential]; exact hagrees.keys, ?_⟩
    rw [potential_takePotential, keeps.run_potentialMembers h, Option.getD_some]
  | edit ha hm =>
    -- a change on the page is not sent, but it only gives a member another role
    rw [List.append_nil]
    exact ⟨(Dict.keys_insert hm _).trans hagrees.keys, hagrees.potential⟩
  | made ha hc => exact (Acts.mirrors keeps h (.made ha hc) (.inr ⟨_, rfl⟩)).agrees
  | notMade ha hc =>
    rw [keeps.held_of_error h (submission_method page ha) hc]
    exact ⟨by rw [roles_failed]; exact hagrees.keys,
      by rw [potential_failed]; exact hagrees.potential⟩
  | _ =>
    rw [List.append_nil]
    exact ⟨hagrees.keys, hagrees.potential⟩

/-- An update that the server has made leaves it with what was sent, if it had the same members
    before. -/
theorem Acts.roles_of_update (hacts : Acts server past page .updateRoles next result log)
    (hsaved : Step.IsSaved ⟨.updateRoles, result, log⟩)
    (hkeys : page.roles.keys = (held past).roles.keys) :
    ∃ reload, log = page.client.ask server past (.updateMembers page.weblog page.roles) :: reload ∧
      (held (past ++ log)).roles = page.roles.filter fun _ role => role ≠ .noBlogNeeded := by
  obtain ⟨message, rfl⟩ := hsaved
  obtain ⟨call, following, ha, hc, -, rfl⟩ := hacts.of_saved
  obtain ⟨hheld, -⟩ := mirrors_reload keeps h message ha
  cases ha
  rw [hheld, keeps.roles_of_ok h hkeys hc, Client.exchanged_change, Client.exchanged_perform,
    if_pos h]
  exact ⟨_, rfl, rfl⟩

end Steps

/-! ## Runs -/

/-- Whether a page is in step with a directory, after some steps.  From the first load on they have
    the same members and the same users who may be added; after each reload they have the same
    roles; and an update that was made leaves the directory with the roles that were sent, less
    those of users who need no blog. -/
structure InStep (client : Client) (weblog : String) (steps : List Step) (page : MembersPage)
    (d : Directory) : Prop where
  agrees : .load ∈ steps.map (·.action) → page.Agrees d
  mirrors : ∀ before last, steps = before ++ [last] →
    last.action = .load ∨ last.IsSaved → page.Mirrors d
  updated : ∀ before last, steps = before ++ [last] →
    .load ∈ before.map (·.action) → last.action = .updateRoles → last.IsSaved →
      ∃ update reload sent, last.exchanges = update :: reload ∧
        update.request = client.request (.updateMembers weblog sent) ∧
          d.roles = sent.filter fun _ role => role ≠ .noBlogNeeded

namespace InStep

variable {client : Client} {weblog : String}

theorem nil (d : Directory) : InStep client weblog [] page d where
  agrees h := by simp at h
  mirrors before last h := by simp at h
  updated before last h := by simp at h

/-- Everything that an action can do keeps page and server in step. -/
theorem concat (keeps : Keeps server page.client page.weblog held)
    (h : page.client.base.isHttp = true) {steps : List Step}
    (hsteps : InStep page.client page.weblog steps page (held past)) {next : MembersPage}
    {action : Action} {result : Result} {log : List Exchange}
    (hacts : Acts server past page action next result log) :
    InStep page.client page.weblog (steps ++ [⟨action, result, log⟩]) next
      (held (past ++ log)) where
  agrees := by
    -- the first load was before, or it is this action
    rw [List.map_append, List.mem_append]
    rintro (hbefore | hnow)
    · exact hacts.agrees keeps h (hsteps.agrees hbefore)
    · exact (hacts.mirrors keeps h (.inl (List.mem_singleton.1 hnow).symm)).agrees
  mirrors := by
    intro before last hsplit hreloads
    obtain ⟨-, hlast⟩ := List.append_inj' hsplit rfl
    cases hlast
    exact hacts.mirrors keeps h hreloads
  updated := by
    intro before last hsplit hbefore haction hsaved
    obtain ⟨rfl, hlast⟩ := List.append_inj' hsplit rfl
    cases hlast
    cases haction
    obtain ⟨reload, hlog, hroles⟩ :=
      hacts.roles_of_update keeps h hsaved (hsteps.agrees hbefore).keys
    exact ⟨_, reload, page.roles, hlog, rfl, hroles⟩

end InStep

/-- At the end of every run the page is in step with a server that keeps a directory, however many
    changes on the page are unsent and however many changes were refused. -/
theorem inStep_actAll (server : Server) (past : List Exchange) (client : Client)
    (weblog refreshUrl : String) (held : List Exchange → Directory)
    (keeps : Keeps server client weblog held) (h : client.base.isHttp = true)
    (actions : List Action) :
    let start := new client weblog refreshUrl
    let ends := run server past (start.actAll actions)
    let steps := history server past start actions
    (steps.map (·.action) = actions ∧ steps.map (·.result) = ends.1.2 ∧
        past ++ steps.flatMap (·.exchanges) = ends.2) ∧
      InStep client weblog steps ends.1.1 (held ends.2) := by
  intro start ends steps
  refine ⟨history_spec server past start actions, ?_⟩
  have hrun := record_induct server past start
    (P := fun done mid record => mid.origin = start.origin ∧
      InStep client weblog done mid (held record)) ⟨rfl, .nil _⟩ ?_ actions
  · exact hrun.2
  · rintro done mid record action next result log hacts ⟨horigin, hsteps⟩
    have hclient : mid.client = client := congrArg (·.1) horigin
    have hweblog : mid.weblog = weblog := congrArg (·.2.1) horigin
    subst hclient hweblog
    exact ⟨hacts.origin.trans horigin, hsteps.concat keeps h hacts⟩

/-- A member is marked for removal and the update is sent: the server has dropped him, and the page
    shows as much. -/
theorem inStep_actAll_of_removal :
    let client := Client.onLocalhost
    let d : Directory :=
      ⟨Dict.ofEntries [("alice", .owner), ("bob", .post)], Dict.ofEntries [("carol", "Carol")]⟩
    let ends := run d.serve [] ((new client "w" "/login").actAll
      [.load, .removeMember "bob", .updateRoles])
    client.base.isHttp = true ∧ Keeps d.serve client "w" d.after ∧
      ends.1.1.roles.keys = (d.after ends.2).roles.keys ∧
      ends.1.1.potential = (d.after ends.2).potential ∧
      (d.after ends.2).roles = Dict.ofEntries [("alice", .owner)] := by
  intro client d
  have hhttp : client.base.isHttp = true := by rfl
  have hkeeps : Keeps d.serve client "w" d.after := keeps_serve d hhttp "w"
  have hagrees := (inStep_actAll d.serve [] client "w" "/login" d.after hkeeps hhttp
    [.load, .removeMember "bob", .updateRoles]).2.agrees List.mem_cons_self
  exact ⟨hhttp, hkeeps, hagrees.keys, hagrees.potential, by decide +kernel⟩

end MembersPage
end WeblogDesk
