/-
  WeblogDesk.Proofs.Planets.Runs

  What each action on the page of planets comes to in a run.

  `Acts` lists all that an action can do, and `acts_act` says that it does one of
  these.  The dialog of a page is a function of its history: `openFor` is the planet
  that it was opened for last, unless it was closed since.  `opensFor_actAll` says
  that the page holds this planet at the end of every run, and
  `exists_acts_of_history_eq` that every step of a run begins with such a page.
-/

import WeblogDesk.Page.Planets
import WeblogDesk.Proofs.Endpoint.Requests
import WeblogDesk.Proofs.Http.History

namespace WeblogDesk
namespace PlanetPage

open Http Conversation

variable (server : Server) (past : List Exchange) (page : PlanetPage)

/-! ## Actions -/

/-- All that an action can do: the page after it, its answer, and what is exchanged. -/
inductive Acts : Action → PlanetPage → Result → List Exchange → Prop
  | read {planets} (h : (run server past page.client.listPlanets).1 = .ok planets) :
      Acts .load { page with planets } (.read (.ok planets.length))
        (exchanged server past page.client.listPlanets)
  | notRead {failure} (h : (run server past page.client.listPlanets).1 = .error failure) :
      Acts .load page (.read (.error failure)) (exchanged server past page.client.listPlanets)
  | opened {id planet} (h : page.planet? id = some planet) :
      Acts (.requestDelete id) { page with dialog := page.dialog.openFor id planet.title }
        (.isListed true) []
  | notListed {id} (h : page.planet? id = none) :
      Acts (.requestDelete id) page (.isListed false) []
  | deleted {id} (hopen : page.dialog.isOpen = true) (htarget : page.dialog.target = some id)
      (h : (run server past (page.client.deletePlanet id)).1 = .ok ()) :
      Acts .confirmDelete
        { page with dialog := page.dialog.close, planets := page.planets.filter (·.id != id) }
        (.deleted (.ok ())) (exchanged server past (page.client.deletePlanet id))
  | notDeleted {id failure} (hopen : page.dialog.isOpen = true)
      (htarget : page.dialog.target = some id)
      (h : (run server past (page.client.deletePlanet id)).1 = .error failure) :
      Acts .confirmDelete { page with dialog := page.dialog.close } (.deleted (.error failure))
        (exchanged server past (page.client.deletePlanet id))
  | idle (hopen : page.dialog.isOpen = false) : Acts .confirmDelete page (.deleted (.ok ())) []
  | aimless (hopen : page.dialog.isOpen = true) (htarget : page.dialog.target = none) :
      Acts .confirmDelete { page with dialog := page.dialog.close } (.deleted (.ok ())) []
  | cancelled : Acts .cancelDelete page.cancelDelete .done []

theorem acts_load :
    Acts server past page .load (run server past page.load).1.1
      (.read (run server past page.load).1.2) (exchanged server past page.load) := by
  cases h : (run server past page.client.listPlanets).1 with
  | ok planets =>
    simp only [load, run_bind, exchanged_bind, h, run_pure, exchanged_pure, List.append_nil]
    exact .read h
  | error failure =>
    simp only [load, run_bind, exchanged_bind, h, run_pure, exchanged_pure, List.append_nil]
    exact .notRead h

theorem acts_requestDelete (id : String) :
    Acts server past page (.requestDelete id) (page.requestDelete id).1
      (.isListed (page.requestDelete id).2) [] := by
  unfold requestDelete
  cases h : page.planet? id with
  | some planet => exact .opened h
  | none => exact .notListed h

theorem acts_confirmDelete :
    Acts server past page .confirmDelete (run server past page.confirmDelete).1.1
      (.deleted (run server past page.confirmDelete).1.2)
      (exchanged server past page.confirmDelete) := by
  unfold confirmDelete
  by_cases hopen : page.dialog.isOpen = true
  · rw [if_pos hopen]
    cases htarget : page.dialog.target with
    | none => exact .aimless hopen htarget
    | some id =>
      -- the dialog is closed by now, whatever the server answers
      cases h : (run server past (page.client.deletePlanet id)).1 with
      | ok value =>
        simp only [run_bind, exchanged_bind, h, run_pure, exchanged_pure, List.append_nil]
        exact .deleted hopen htarget h
      | error failure =>
        simp only [run_bind, exchanged_bind, h, run_pure, exchanged_pure, List.append_nil]
        exact .notDeleted hopen htarget h
  · rw [if_neg hopen]
    exact .idle (eq_false_of_ne_true hopen)

/-- Every action does one of the things that an action can do. -/
theorem acts_act (action : Action) :
    Acts server past page action (run server past (page.act action)).1.1
      (run server past (page.act action)).1.2 (exchanged server past (page.act action)) := by
  cases action with
  | load =>
    simp only [act, run_bind, run_pure, exchanged_bind_pure]
    exact acts_load server past page
  | requestDelete id => exact acts_requestDelete server past page id
  | confirmDelete =>
    simp only [act, run_bind, run_pure, exchanged_bind_pure]
    exact acts_confirmDelete server past page
  | cancelDelete => exact .cancelled

/-- No action changes how the server is asked. -/
theorem Acts.client {server : Server} {past : List Exchange} {page next : PlanetPage}
    {action : Action} {result : Result} {log : List Exchange}
    (h : Acts server past page action next result log) : next.client = page.client := by
  cases h <;> rfl

/-! ## Histories -/

/-- An action of a run, what it answered, and the exchanges that it made. -/
abbrev Step := Http.Step Action Result

/-- The run of some actions, one by one. -/
def history (actions : List Action) : List Step :=
  Conversation.history act server past page actions

theorem actAll_eq_inTurn (actions : List Action) :
    page.actAll actions = inTurn act page actions := by
  induction actions generalizing page with
  | nil => rfl
  | cons action rest ih => simp only [actAll, inTurn, ih]

theorem history_spec (actions : List Action) :
    (history server past page actions).map (·.action) = actions ∧
      (history server past page actions).map (·.result) =
        (run server past (page.actAll actions)).1.2 ∧
      past ++ (history server past page actions).flatMap (·.exchanges) =
        (run server past (page.actAll actions)).2 := by
  rw [actAll_eq_inTurn]
  exact Conversation.history_spec act server past page actions

/-- What holds of a page before anything is done, and is kept by everything that an action
    can do, holds at the end of every run. -/
theorem history_induct {P : List Step → PlanetPage → Prop} (hstart : P [] page)
    (hstep : ∀ past done mid action next result log,
      Acts server past mid action next result log → P done mid →
        P (done ++ [⟨action, result, log⟩]) next)
    (actions : List Action) :
    P (history server past page actions) (run server past (page.actAll actions)).1.1 := by
  rw [actAll_eq_inTurn]
  refine Conversation.history_induct act server past page (P := fun done mid _ => P done mid)
    hstart ?_ actions
  intro done mid record action h
  exact hstep record done mid action _ _ _ (acts_act server record mid action) h

/-! ## The dialog -/

/-- What a step does to the dialog, if it does something: opens it for a planet, or closes
    it. -/
def Step.dialog? (step : Step) : Option (Option String) :=
  match step.action, step.result with
  | .requestDelete id, .isListed true => some (some id)
  | .confirmDelete, _ => some none
  | .cancelDelete, _ => some none
  | _, _ => none

/-- The planet that the dialog is open for after some steps. -/
def openFor (steps : List Step) : Option String :=
  (steps.reverse.findSome? Step.dialog?).join

theorem openFor_concat (steps : List Step) (step : Step) :
    openFor (steps ++ [step]) = step.dialog?.getD (openFor steps) := by
  rw [openFor, List.reverse_concat, List.findSome?_cons]
  cases step.dialog? <;> rfl

theorem Step.dialog?_eq_some_some_iff {step : Step} {id : String} :
    step.dialog? = some (some id) ↔
      step.action = .requestDelete id ∧ step.result = .isListed true := by
  unfold dialog?
  split <;> simp_all

/-- The dialog is open for the planet of the last successful request, if nothing has closed it
    since. -/
theorem openFor_eq_some_iff {steps : List Step} {id : String} :
    openFor steps = some id ↔
      ∃ before step after, steps = before ++ step :: after ∧
        (step.action = .requestDelete id ∧ step.result = .isListed true) ∧
        ∀ later ∈ after, later.dialog? = none := by
  rw [openFor, Option.join_eq_some_iff, List.findSome?_eq_some_iff]
  simp only [Step.dialog?_eq_some_some_iff]
  -- the search goes from the end, so what it passes over comes after
  constructor
  · rintro ⟨newer, step, older, hsteps, hstep, hnewer⟩
    refine ⟨older.reverse, step, newer.reverse, ?_, hstep, by simpa using hnewer⟩
    rw [← List.reverse_reverse steps, hsteps]
    simp
  · rintro ⟨before, step, after, rfl, hstep, hlater⟩
    exact ⟨after.reverse, step, before.reverse, by simp, hstep, by simpa using hlater⟩

/-- Whether the dialog of a page is what some steps have made of it. -/
structure OpensFor (steps : List Step) (page : PlanetPage) : Prop where
  target : page.dialog.target = openFor steps
  isOpen : page.dialog.isOpen = (openFor steps).isSome

namespace OpensFor

variable {steps : List Step} {page : PlanetPage} {action : Action} {result : Result}
  {log : List Exchange}

/-- A step that leaves the dialog alone leaves it open for the same planet. -/
theorem keep (h : OpensFor steps page) (hstep : Step.dialog? ⟨action, result, log⟩ = none)
    {next : PlanetPage} (hdialog : next.dialog = page.dialog) :
    OpensFor (steps ++ [⟨action, result, log⟩]) next := by
  have hopen : openFor (steps ++ [⟨action, result, log⟩]) = openFor steps := by
    rw [openFor_concat, hstep, Option.getD_none]
  exact ⟨by rw [hdialog, hopen, h.target], by rw [hdialog, hopen, h.isOpen]⟩

theorem closed (hstep : Step.dialog? ⟨action, result, log⟩ = some none) {next : PlanetPage}
    (htarget : next.dialog.target = none) (hopen : next.dialog.isOpen = false) :
    OpensFor (steps ++ [⟨action, result, log⟩]) next := by
  have hclosed : openFor (steps ++ [⟨action, result, log⟩]) = none := by
    rw [openFor_concat, hstep, Option.getD_some]
  exact ⟨by rw [htarget, hclosed], by rw [hopen, hclosed, Option.isSome_none]⟩

/-- Everything that an action can do keeps the dialog what the steps make of it. -/
theorem step {server : Server} {past : List Exchange} {next : PlanetPage}
    (h : OpensFor steps page) (hacts : Acts server past page action next result log) :
    OpensFor (steps ++ [⟨action, result, log⟩]) next := by
  cases hacts with
  | read hread => exact h.keep rfl rfl
  | notRead hread => exact h.keep rfl rfl
  | opened hplanet => constructor <;> rw [openFor_concat] <;> rfl
  | notListed hplanet => exact h.keep rfl rfl
  | deleted hopen htarget hdelete => exact closed rfl rfl rfl
  | notDeleted hopen htarget hdelete => exact closed rfl rfl rfl
  | idle hopen =>
    -- a closed dialog has no target, since both come from the same steps
    refine closed rfl ?_ hopen
    rw [h.isOpen, Option.isSome_eq_false_iff, Option.isNone_iff_eq_none] at hopen
    rw [h.target, hopen]
  | aimless hopen htarget => exact closed rfl rfl rfl
  | cancelled => exact closed rfl rfl rfl

end OpensFor

/-- At the end of every run the page asks how it asked before, and its dialog is what the
    actions have made of it. -/
theorem opensFor_actAll (client : Client) (labels : Labels) (actions : List Action) :
    (run server past ((new client labels).actAll actions)).1.1.client = client ∧
      OpensFor (history server past (new client labels) actions)
        (run server past ((new client labels).actAll actions)).1.1 := by
  refine history_induct server past (new client labels)
    (P := fun done page => page.client = client ∧ OpensFor done page) ⟨rfl, rfl, rfl⟩ ?_ actions
  rintro past done mid action next result log hacts ⟨hclient, hopens⟩
  exact ⟨hacts.client.trans hclient, hopens.step hacts⟩

/-- A step in the midst of a run does what its action can do on a page whose dialog is what the
    steps before it have made of it. -/
theorem exists_acts_of_history_eq {client : Client} {labels : Labels} {actions : List Action}
    {before after : List Step} {step : Step}
    (h : history server past (new client labels) actions = before ++ step :: after) :
    ∃ record mid next, mid.client = client ∧ OpensFor before mid ∧
      Acts server record mid step.action next step.result step.exchanges := by
  obtain ⟨front, hbefore, hstep⟩ := exists_of_history_eq_append act server past _ h
  rw [← actAll_eq_inTurn] at hstep
  obtain ⟨hclient, hopens⟩ := opensFor_actAll server past client labels front
  -- the step is its action at the end of the run up to it
  have hacts := acts_act server (run server past ((new client labels).actAll front)).2
    (run server past ((new client labels).actAll front)).1.1 step.action
  have hresult := congrArg Http.Step.result hstep
  have hlog := congrArg Http.Step.exchanges hstep
  simp only [stepOf] at hresult hlog
  rw [← hresult, ← hlog] at hacts
  subst hbefore
  exact ⟨_, _, _, hclient, hopens, hacts⟩

end PlanetPage
end WeblogDesk
