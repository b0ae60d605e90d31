/-
  WeblogDesk.Proofs.Http.History

  Runs of several actions, step by step.

  Whatever takes actions one after the other by `act` has a history: what each
  action answered, together with the exchanges that it made.  `history_induct` is
  the induction over runs: what holds before anything is done, and is kept by each
  action, holds at the end of every run.  `exists_of_history_eq_append` says what a
  step in the midst of a run comes from: the state and the record that the run up
  to it ends with.
-/

import Mathlib.Data.List.Induction
import WeblogDesk.Proofs.Http.Transcript

namespace WeblogDesk
namespace Http

/-- An action of a run, what it answered, and the exchanges that it made. -/
structure Step (Action Result : Type) where
  /-- What was done. -/
  action : Action
  /-- What came of it. -/
  result : Result
  /-- What was exchanged for it. -/
  exchanges : List Exchange

/-- One place of a list with one more element is that element, or a place before it. -/
theorem concat_eq_append_cons_iff {α : Type} {front before after : List α} {a b : α} :
    front ++ [a] = before ++ b :: after ↔
      (before = front ∧ b = a ∧ after = []) ∨
        ∃ rest, after = rest ++ [a] ∧ front = before ++ b :: rest := by
  constructor
  · intro h
    rcases List.eq_nil_or_concat after with rfl | ⟨rest, last, rfl⟩
    · obtain ⟨hfront, hlast⟩ := List.append_inj' h rfl
      exact .inl ⟨hfront.symm, (List.singleton_inj.1 hlast).symm, rfl⟩
    · rw [List.concat_eq_append, ← List.cons_append, ← List.append_assoc] at h
      obtain ⟨hfront, hlast⟩ := List.append_inj' h rfl
      refine .inr ⟨rest, ?_, hfront⟩
      rw [List.concat_eq_append, hlast]
  · rintro (⟨rfl, rfl, rfl⟩ | ⟨rest, rfl, rfl⟩)
    · rfl
    · simp only [List.append_assoc, List.cons_append]

namespace Conversation

variable {σ Action Result : Type} (act : σ → Action → Conversation (σ × Result))

/-- Some actions one after the other, with what each answers. -/
def inTurn : σ → List Action → Conversation (σ × List Result)
  | s, [] => return (s, [])
  | s, action :: rest => do
    let (s, result) ← act s action
    let (s, results) ← inTurn s rest
    return (s, result :: results)

variable (server : Server)

/-- An action as a step of a run. -/
def stepOf (past : List Exchange) (s : σ) (action : Action) : Step Action Result :=
  ⟨action, (run server past (act s action)).1.2, exchanged server past (act s action)⟩

/-- The run of some actions, one by one. -/
def history : List Exchange → σ → List Action → List (Step Action Result)
  | _, _, [] => []
  | past, s, action :: rest =>
    let next := run server past (act s action)
    stepOf act server past s action :: history next.2 next.1.1 rest

variable (past : List Exchange) (s : σ)

/-! ## The history is the run -/

theorem run_inTurn_cons (action : Action) (rest : List Action) :
    run server past (inTurn act s (action :: rest)) =
      let first := run server past (act s action)
      let others := run server first.2 (inTurn act first.1.1 rest)
      ((others.1.1, first.1.2 :: others.1.2), others.2) := by
  simp [inTurn]

theorem map_action_history (actions : List Action) :
    (history act server past s actions).map (·.action) = actions := by
  induction actions generalizing past s with
  | nil => rfl
  | cons action rest ih => rw [history, List.map_cons, ih, stepOf]

theorem map_result_history (actions : List Action) :
    (history act server past s actions).map (·.result) =
      (run server past (inTurn act s actions)).1.2 := by
  induction actions generalizing past s with
  | nil => rfl
  | cons action rest ih => rw [history, List.map_cons, ih, run_inTurn_cons, stepOf]

theorem flatMap_exchanges_history (actions : List Action) :
    past ++ (history act server past s actions).flatMap (·.exchanges) =
      (run server past (inTurn act s actions)).2 := by
  induction actions generalizing past s with
  | nil => exact List.append_nil past
  | cons action rest ih =>
    rw [history, List.flatMap_cons, ← List.append_assoc, stepOf, ← run_snd, ih, run_inTurn_cons]

/-- The history of a run has its actions, its answers, and the exchanges of its record. -/
theorem history_spec (actions : List Action) :
    (history act server past s actions).map (·.action) = actions ∧
      (history act server past s actions).map (·.result) =
        (run server past (inTurn act s actions)).1.2 ∧
      past ++ (history act server past s actions).flatMap (·.exchanges) =
        (run server past (inTurn act s actions)).2 :=
  ⟨map_action_history act server past s actions, map_result_history act server past s actions,
    flatMap_exchanges_history act server past s actions⟩

/-! ## One more action -/

theorem run_inTurn_concat (actions : List Action) (last : Action) :
    run server past (inTurn act s (actions ++ [last])) =
      let first := run server past (inTurn act s actions)
      let next := run server first.2 (act first.1.1 last)
      ((next.1.1, first.1.2 ++ [next.1.2]), next.2) := by
  induction actions generalizing past s with
  | nil => rw [List.nil_append, run_inTurn_cons]; rfl
  | cons action rest ih => simp only [List.cons_append, run_inTurn_cons, ih]

theorem history_concat (actions : List Action) (last : Action) :
    history act server past s (actions ++ [last]) =
      let first := run server past (inTurn act s actions)
      history act server past s actions ++ [stepOf act server first.2 first.1.1 last] := by
  induction actions generalizing past s with
  | nil => rfl
  | cons action rest ih => simp only [List.cons_append, history, run_inTurn_cons, ih]

/-! ## Induction over runs -/

/-- What holds before anything is done, and is kept by each action, holds at the end of every
    run: of its steps, of what it ends with, and of the record of all exchanges. -/
theorem history_induct {P : List (Step Action Result) → σ → List Exchange → Prop}
    (hstart : P [] s past)
    (hstep : ∀ done mid record action, P done mid record →
      P (done ++ [stepOf act server record mid action])
        (run server record (act mid action)).1.1 (run server record (act mid action)).2)
    (actions : List Action) :
    P (history act server past s actions) (run server past (inTurn act s actions)).1.1
      (run server past (inTurn act s actions)).2 := by
  -- from the end of the list, since what an action finds is what those before it have left
  induction actions using List.reverseRecOn with
  | nil => exact hstart
  | append_singleton actions last ih =>
    rw [history_concat, run_inTurn_concat]
    exact hstep _ _ _ last ih

/-- What holds of every answer and every exchange of an action, as long as an invariant holds of the
    state, holds of all answers and exchanges of a run. -/
theorem forall_inTurn {I : σ → Prop} {R : Result → Prop} {E : Exchange → Prop}
    (hact : ∀ past s action, I s → I (run server past (act s action)).1.1 ∧
      R (run server past (act s action)).1.2 ∧ ∀ e ∈ exchanged server past (act s action), E e)
    (hs : I s) (actions : List Action) :
    (∀ result ∈ (run server past (inTurn act s actions)).1.2, R result) ∧
      ∀ e ∈ exchanged server past (inTurn act s actions), E e := by
  induction actions generalizing past s with
  | nil => simp [inTurn]
  | cons action rest ih =>
    obtain ⟨hnext, hresult, hlog⟩ := hact past s action hs
    obtain ⟨hresults, hlogs⟩ := ih (run server past (act s action)).2 _ hnext
    have hexchanged : exchanged server past (inTurn act s (action :: rest)) =
        exchanged server past (act s action) ++
          exchanged server (run server past (act s action)).2
            (inTurn act (run server past (act s action)).1.1 rest) := by
      simp [inTurn]
    rw [run_inTurn_cons, hexchanged]
    constructor
    · exact List.forall_mem_cons.2 ⟨hresult, hresults⟩
    · exact List.forall_mem_append.2 ⟨hlog, hlogs⟩

/-- A step in the midst of a run is its action at the end of the run up to it. -/
theorem exists_of_history_eq_append {actions : List Action}
    {before after : List (Step Action Result)} {step : Step Action Result}
    (h : history act server past s actions = before ++ step :: after) :
    ∃ front, before = history act server past s front ∧
      let first := run server past (inTurn act s front)
      step = stepOf act server first.2 first.1.1 step.action := by
  induction actions using List.reverseRecOn generalizing after with
  | nil => simp [history] at h
  | append_singleton actions last ih =>
    rw [history_concat] at h
    -- the step is the last one, or it is in the run before it
    rcases concat_eq_append_cons_iff.1 h with ⟨rfl, rfl, -⟩ | ⟨rest, -, hrest⟩
    · exact ⟨actions, rfl, rfl⟩
    · exact ih hrest

end Conversation
end Http
end WeblogDesk
