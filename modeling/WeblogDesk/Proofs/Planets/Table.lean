/-
  WeblogDesk.Proofs.Planets.Table

  The table of planets, as a function of what happened so far.

  Two kinds of steps bear on the table: a read that came through, and a deletion
  that the server has made.  `tableAfter` is the list that was read last, less what
  was deleted since.  Each action keeps the table what its history makes of it, so
  every run does.
-/

import WeblogDesk.Proofs.Planets.Runs

namespace WeblogDesk
namespace PlanetPage

open Http Conversation

/-! ## Reads and deletions -/

/-- The planets that a step has read. -/
def Step.read? (step : Step) : Option (List Planet) :=
  match step.result with
  | .read (.ok _) => step.exchanges.head?.bind fun e => e.answer.json? Planet.listOfJson
  | _ => none

/-- The planet that a step has deleted, behind the steps before it: the one that the dialog was
    open for, if something was sent and it went well. -/
def Step.deleted? (before : List Step) (step : Step) : Option String :=
  match step.result with
  | .deleted (.ok ()) => if step.exchanges.isEmpty then none else openFor before
  | _ => none

/-- The planets that were read last. -/
def lastRead (steps : List Step) : List Planet :=
  (steps.reverse.findSome? Step.read?).getD []

/-- The planets deleted since the last read, for steps of which the newest comes first. -/
def deletedDownTo : List Step → List String
  | [] => []
  | step :: older =>
    if step.read?.isSome then []
    else (Step.deleted? older.reverse step).toList ++ deletedDownTo older

/-- The planets deleted since the last read. -/
def deletedSince (steps : List Step) : List String :=
  deletedDownTo steps.reverse

/-- The planets that were read last, less those deleted since. -/
def tableAfter (steps : List Step) : List Planet :=
  (lastRead steps).filter fun planet => planet.id ∉ deletedSince steps

theorem lastRead_concat (steps : List Step) (step : Step) :
    lastRead (steps ++ [step]) = step.read?.getD (lastRead steps) := by
  rw [lastRead, List.reverse_concat, List.findSome?_cons]
  cases step.read? <;> rfl

theorem deletedSince_concat (steps : List Step) (step : Step) :
    deletedSince (steps ++ [step]) =
      if step.read?.isSome then []
      else (Step.deleted? steps step).toList ++ deletedSince steps := by
  rw [deletedSince, List.reverse_concat, deletedDownTo, List.reverse_reverse]
  rfl

theorem mem_deletedSince_iff {steps : List Step} {id : String} :
    id ∈ deletedSince steps ↔
      ∃ before step after, steps = before ++ step :: after ∧
        Step.deleted? before step = some id ∧ ∀ later ∈ step :: after, later.read? = none := by
  induction steps using List.reverseRecOn with
  | nil => simp [deletedSince, deletedDownTo]
  | append_singleton steps last ih =>
    rw [deletedSince_concat]
    simp only [concat_eq_append_cons_iff]
    cases hread : last.read? with
    | some planets =>
      -- a read is no deletion, and nothing before it counts
      simp only [Option.isSome_some, if_true, List.not_mem_nil, false_iff]
      rintro ⟨before, step, after, hsplit, -, hlater⟩
      have hlast : last ∈ step :: after := by
        rcases hsplit with ⟨-, rfl, rfl⟩ | ⟨rest, rfl, -⟩ <;> simp
      rw [hlater last hlast] at hread
      cases hread
    | none =>
      simp only [Option.isSome_none, Bool.false_eq_true, if_false, List.mem_append,
        Option.mem_toList]
      rw [ih]
      constructor
      · rintro (hlast | ⟨before, step, after, rfl, hstep, hlater⟩)
        · exact ⟨steps, last, [], .inl ⟨rfl, rfl, rfl⟩, hlast, by simpa using hread⟩
        · refine ⟨before, step, after ++ [last], .inr ⟨after, rfl, rfl⟩, hstep, ?_⟩
          intro later hmem
          rw [← List.cons_append, List.mem_append, List.mem_singleton] at hmem
          rcases hmem with hmem | rfl
          · exact hlater later hmem
          · exact hread
      · rintro ⟨before, step, after, ⟨rfl, rfl, rfl⟩ | ⟨rest, rfl, rfl⟩, hstep, hlater⟩
        · exact .inl hstep
        · refine .inr ⟨before, step, rest, rfl, hstep, ?_⟩
          intro later hmem
          exact hlater later (by rw [← List.cons_append]; exact List.mem_append_left _ hmem)

/-! ## One more step -/

theorem tableAfter_concat_of_read {steps : List Step} {step : Step} {planets : List Planet}
    (h : step.read? = some planets) : tableAfter (steps ++ [step]) = planets := by
  rw [tableAfter, lastRead_concat, deletedSince_concat, h]
  simp

theorem tableAfter_concat_of_quiet {steps : List Step} {step : Step} (hread : step.read? = none)
    (hdeleted : Step.deleted? steps step = none) :
    tableAfter (steps ++ [step]) = tableAfter steps := by
  rw [tableAfter, lastRead_concat, deletedSince_concat, hread, hdeleted]
  rfl

theorem tableAfter_concat_of_deleted {steps : List Step} {step : Step} {id : String}
    (hread : step.read? = none) (hdeleted : Step.deleted? steps step = some id) :
    tableAfter (steps ++ [step]) = (tableAfter steps).filter (·.id != id) := by
  rw [tableAfter, lastRead_concat, deletedSince_concat, hread, hdeleted, tableAfter,
    List.filter_filter]
  apply List.filter_congr
  intro planet _
  by_cases h : planet.id = id <;> simp [h]

section

variable {server : Server} {past : List Exchange} {page next : PlanetPage} {action : Action}
  {result : Result} {log : List Exchange} {steps : List Step}

/-- A read that came through is on the record. -/
theorem Acts.exists_read {count : Nat} (h : Acts server past page action next result log)
    (hresult : result = .read (.ok count)) :
    ∃ planets, Step.read? ⟨action, result, log⟩ = some planets ∧ planets.length = count ∧
      log.map (·.request) = [page.client.request .listPlanets] ∧ next.planets = planets := by
  cases h with
  | read hread =>
    obtain ⟨hlog, hjson⟩ := Client.exchanged_listPlanets_of_ok server past page.client hread
    refine ⟨_, ?_, Except.ok.inj (Result.read.inj hresult), by rw [hlog]; rfl, rfl⟩
    rw [Step.read?, hlog]
    exact hjson
  | _ => cases hresult

/-- A deletion that was made is a confirmation that went well and has sent what deletes the
    planet that the dialog was open for. -/
theorem Acts.deleted?_eq_some_iff {id : String} (h : Acts server past page action next result log)
    (hopens : OpensFor steps page) :
    Step.deleted? steps ⟨action, result, log⟩ = some id ↔
      action = .confirmDelete ∧ result = .deleted (.ok ()) ∧
        log.map (·.request) = [page.client.request (.deletePlanet id)] ∧
        openFor steps = some id := by
  constructor
  · intro hstep
    have hresult : result = .deleted (.ok ()) := by
      unfold Step.deleted? at hstep
      split at hstep
      · assumption
      · cases hstep
    cases h with
    | deleted hopen htarget hdelete =>
      have hlog := Client.exchanged_deletePlanet_of_ok server past page.client hdelete
      rw [Step.deleted?, hlog, ← hopens.target, htarget] at hstep
      cases hstep
      exact ⟨rfl, rfl, by rw [hlog]; rfl, hopens.target ▸ htarget⟩
    -- nothing was sent in the other two that went well
    | idle hopen => cases hstep
    | aimless hopen htarget => cases hstep
    | _ => cases hresult
  · rintro ⟨rfl, rfl, hlog, hopen⟩
    have hsent : log.isEmpty = false := by
      cases log with
      | nil => cases hlog
      | cons e rest => rfl
    rw [Step.deleted?, hsent]
    exact hopen

/-- Everything that an action can do keeps the table what the steps make of it. -/
theorem Acts.table (h : Acts server past page action next result log)
    (hopens : OpensFor steps page) (htable : page.planets = tableAfter steps) :
    next.planets = tableAfter (steps ++ [⟨action, result, log⟩]) := by
  have quiet (hread : Step.read? ⟨action, result, log⟩ = none)
      (hdeleted : Step.deleted? steps ⟨action, result, log⟩ = none) :
      page.planets = tableAfter (steps ++ [⟨action, result, log⟩]) := by
    rw [tableAfter_concat_of_quiet hread hdeleted]
    exact htable
  cases h with
  | read hread =>
    obtain ⟨planets, hstep, -, -, hnext⟩ := Acts.exists_read (.read hread) rfl
    rw [tableAfter_concat_of_read hstep]
    exact hnext
  | notRead hread => exact quiet rfl rfl
  | opened hplanet => exact quiet rfl rfl
  | notListed hplanet => exact quiet rfl rfl
  | deleted hopen htarget hdelete =>
    have hlog := Client.exchanged_deletePlanet_of_ok server past page.client hdelete
    have hdeleted := (Acts.deleted?_eq_some_iff (.deleted hopen htarget hdelete) hopens).2
      ⟨rfl, rfl, by rw [hlog]; rfl, hopens.target ▸ htarget⟩
    rw [tableAfter_concat_of_deleted rfl hdeleted, ← htable]
  | notDeleted hopen htarget hdelete => exact quiet rfl rfl
  | idle hopen => exact quiet rfl rfl
  | aimless hopen htarget => exact quiet rfl rfl
  | cancelled => exact quiet rfl rfl

/-- What went well while the dialog was open for a planet has taken out all planets with its
    id. -/
theorem Acts.planets_of_deleted {id : String} (h : Acts server past page action next result log)
    (hopens : OpensFor steps page) (hopen : openFor steps = some id)
    (hresult : result = .deleted (.ok ())) :
    next.planets = page.planets.filter (·.id != id) := by
  have htarget : page.dialog.target = some id := hopens.target.trans hopen
  have hisOpen : page.dialog.isOpen = true := by rw [hopens.isOpen, hopen, Option.isSome_some]
  cases h with
  | deleted _ htarget' _ =>
    rw [htarget] at htarget'
    cases htarget'
    rfl
  | idle hclosed =>
    rw [hisOpen] at hclosed
    cases hclosed
  | aimless _ hnone =>
    rw [htarget] at hnone
    cases hnone
  | _ => cases hresult

/-- Only a read that came through and a deletion that was made change the table. -/
theorem Acts.planets_eq (h : Acts server past page action next result log)
    (hread : ∀ count, result ≠ .read (.ok count)) (hdeleted : result ≠ .deleted (.ok ())) :
    next.planets = page.planets := by
  cases h with
  | read h => exact absurd rfl (hread _)
  | deleted hopen htarget h => exact absurd rfl hdeleted
  | _ => rfl

end

/-! ## Rows -/

/-- The rows are the planets in their order. -/
theorem map_rows (page : PlanetPage) :
    page.rows.map (fun row => (row.id, row.title, row.handle)) =
      page.planets.map fun planet => (planet.id, planet.title, planet.handle) := by
  apply List.ext_getElem?
  intro i
  rw [List.getElem?_map, rows, List.getElem?_mapIdx, List.getElem?_map, Option.map_map]
  rfl

theorem striped_of_rows {page : PlanetPage} {i : Nat} {row : Row} (h : page.rows[i]? = some row) :
    row.striped = true ↔ i % 2 = 0 := by
  rw [rows, List.getElem?_mapIdx, Option.map_eq_some_iff] at h
  obtain ⟨planet, -, rfl⟩ := h
  exact beq_iff_eq

/-- Among planets with different ids, at most one has the id. -/
theorem filter_eq_of_nodup {planets : List Planet} {id : String}
    (hnodup : (planets.map (·.id)).Nodup) (h : id ∈ planets.map (·.id)) :
    ∃ before planet after, planets = before ++ planet :: after ∧ planet.id = id ∧
      planets.filter (·.id != id) = before ++ after := by
  obtain ⟨planet, hmem, rfl⟩ := List.mem_map.1 h
  obtain ⟨before, after, rfl⟩ := List.append_of_mem hmem
  refine ⟨before, planet, after, rfl, rfl, ?_⟩
  rw [List.map_append, List.map_cons, List.nodup_append, List.nodup_cons] at hnodup
  obtain ⟨-, ⟨hafter, -⟩, hbefore⟩ := hnodup
  have keeps (other : Planet) (hne : other.id ≠ planet.id) : (other.id != planet.id) = true :=
    bne_iff_ne.2 hne
  have hfront : before.filter (·.id != planet.id) = before := by
    refine List.filter_eq_self.2 fun other hother => keeps other ?_
    exact hbefore _ (List.mem_map_of_mem hother) _ List.mem_cons_self
  have hback : after.filter (·.id != planet.id) = after := by
    refine List.filter_eq_self.2 fun other hother => keeps other ?_
    intro heq
    exact hafter (heq ▸ List.mem_map_of_mem hother)
  rw [List.filter_append, List.filter_cons_of_neg (by simp), hfront, hback]

/-! ## Runs -/

theorem table_actAll (server : Server) (past : List Exchange) (client : Client) (labels : Labels)
    (actions : List Action) :
    (run server past ((new client labels).actAll actions)).1.1.planets =
      tableAfter (history server past (new client labels) actions) := by
  -- what a confirmation deletes is read off the dialog, so the dialog is kept along
  have hkept := history_induct server past (new client labels)
    (P := fun done page => OpensFor done page ∧ page.planets = tableAfter done)
    ⟨⟨rfl, rfl⟩, rfl⟩ ?_ actions
  · exact hkept.2
  · rintro past done mid action next result log hacts ⟨hopens, htable⟩
    exact ⟨hopens.step hacts, hacts.table hopens htable⟩

/-- The table at the end of a run is what was read last, in the server's order, less what was
    deleted since.  Nothing else changes it; its rows are the planets in their order, with
    every other row striped from the first one on; and where no id is there twice, a deletion
    takes out exactly the one planet with its id, if there is one. -/
theorem planets_actAll (server : Server) (past : List Exchange) (client : Client)
    (labels : Labels) (actions : List Action) :
    let start := new client labels
    let ends := run server past (start.actAll actions)
    let steps := history server past start actions
    (steps.map (·.action) = actions ∧ steps.map (·.result) = ends.1.2 ∧
        past ++ steps.flatMap (·.exchanges) = ends.2) ∧
      ends.1.1.planets =
        (lastRead steps).filter (fun planet => planet.id ∉ deletedSince steps) ∧
      (∀ step ∈ steps, ∀ count, step.result = .read (.ok count) →
        ∃ planets, step.read? = some planets ∧ planets.length = count ∧
          step.exchanges.map (·.request) = [client.request .listPlanets]) ∧
      (∀ id, id ∈ deletedSince steps ↔
        ∃ before step after, steps = before ++ step :: after ∧
          (step.action = .confirmDelete ∧ step.result = .deleted (.ok ()) ∧
            step.exchanges.map (·.request) = [client.request (.deletePlanet id)] ∧
            openFor before = some id) ∧
          ∀ later ∈ step :: after, later.read? = none) ∧
      (∀ action, let next := run server ends.2 (ends.1.1.act action)
        (∀ count, next.1.2 ≠ .read (.ok count)) → next.1.2 ≠ .deleted (.ok ()) →
          next.1.1.planets = ends.1.1.planets) ∧
      ends.1.1.rows.map (fun row => (row.id, row.title, row.handle)) =
        ends.1.1.planets.map (fun planet => (planet.id, planet.title, planet.handle)) ∧
      (∀ i row, ends.1.1.rows[i]? = some row → (row.striped = true ↔ i % 2 = 0)) ∧
      (∀ id, openFor steps = some id → (ends.1.1.planets.map (·.id)).Nodup →
        let next := run server ends.2 (ends.1.1.act .confirmDelete)
        next.1.2 = .deleted (.ok ()) →
          (id ∈ ends.1.1.planets.map (·.id) →
            ∃ before planet after, ends.1.1.planets = before ++ planet :: after ∧
              planet.id = id ∧ next.1.1.planets = before ++ after) ∧
          (id ∉ ends.1.1.planets.map (·.id) → next.1.1.planets = ends.1.1.planets)) := by
  intro start ends steps
  obtain ⟨hclient, hopens⟩ := opensFor_actAll server past client labels actions
  have hacts (action : Action) := acts_act server ends.2 ends.1.1 action
  refine ⟨history_spec server past start actions, table_actAll server past client labels actions,
    ?_, ?_, ?_, map_rows ends.1.1, fun i row => striped_of_rows, ?_⟩
  · intro step hstep count hresult
    obtain ⟨before, after, hsplit⟩ := List.append_of_mem hstep
    obtain ⟨record, mid, next, rfl, -, hmid⟩ := exists_acts_of_history_eq server past hsplit
    obtain ⟨planets, hread, hlength, hlog, -⟩ := hmid.exists_read hresult
    exact ⟨planets, hread, hlength, hlog⟩
  · intro id
    rw [mem_deletedSince_iff]
    -- the steps of a run delete what they are asked to
    refine exists_congr fun before => exists_congr fun step => exists_congr fun after =>
      and_congr_right fun hsplit => and_congr_left fun _ => ?_
    obtain ⟨record, mid, next, rfl, hbefore, hmid⟩ := exists_acts_of_history_eq server past hsplit
    exact hmid.deleted?_eq_some_iff hbefore
  · intro action next hread hdeleted
    exact (hacts action).planets_eq hread hdeleted
  · intro id hopen hnodup next hresult
    have hnext := (hacts .confirmDelete).planets_of_deleted hopens hopen hresult
    refine ⟨fun hmem => ?_, fun hmem => ?_⟩
    · obtain ⟨before, planet, after, hsplit, hid, hfilter⟩ := filter_eq_of_nodup hnodup hmem
      exact ⟨before, planet, after, hsplit, hid, hnext.trans hfilter⟩
    · refine hnext.trans (List.filter_eq_self.2 fun planet hplanet => bne_iff_ne.2 ?_)
      rintro rfl
      exact hmem (List.mem_map_of_mem hplanet)

end PlanetPage
end WeblogDesk
