/-
  WeblogDesk.Proofs.Page.History

  The run of a members page, action by action.

  `history` keeps what each action answered together with the exchanges that it
  made, so that what a run has done so far is one list.  `record_induct` is the
  induction over runs: what holds before anything is done, and is kept by
  everything that an action can do, holds at the end of every run, of its history,
  of the page and of the record of all exchanges.
-/

import WeblogDesk.Proofs.Http.History
import WeblogDesk.Proofs.Page.Runs

namespace WeblogDesk
namespace MembersPage

open Http Conversation

/-- An action of a run, what it answered, and the exchanges that it made. -/
abbrev Step := Http.Step Action Result

variable (server : Server) (past : List Exchange) (page : MembersPage)

/-- The run of some actions, one by one. -/
def history (actions : List Action) : List Step :=
  Conversation.history act server past page actions

/-! ## The history is the run -/

theorem actAll_eq_inTurn (actions : List Action) :
    page.actAll actions = inTurn act page actions := by
  induction actions generalizing page with
  | nil => rfl
  | cons action rest ih => simp only [actAll, inTurn, ih]

theorem history_spec (actions : List Action) :
    (history server past page actions).map (·.action) = actions ∧
      (history server past page actions).map (·.result) =
        (run server past (page.actAll actions)).1.2 ∧
      past ++ (history server past page actions).flatMap (·.exchanges) =
        (run server past (page.actAll actions)).2 := by
  rw [actAll_eq_inTurn]
  exact Conversation.history_spec act server past page actions

/-! ## Induction over runs -/

/-- What holds of a page before anything is done, and is kept by everything that an action
    can do, holds at the end of every run. -/
theorem record_induct {P : List Step → MembersPage → List Exchange → Prop}
    (hstart : P [] page past)
    (hstep : ∀ done mid record action next result log,
      Acts server record mid action next result log → P done mid record →
        P (done ++ [⟨action, result, log⟩]) next (record ++ log))
    (actions : List Action) :
    P (history server past page actions) (run server past (page.actAll actions)).1.1
      (run server past (page.actAll actions)).2 := by
  rw [actAll_eq_inTurn]
  refine Conversation.history_induct act server past page hstart ?_ actions
  intro done mid record action h
  rw [run_snd]
  exact hstep _ mid record action _ _ _ (acts_act server record mid action) h

/-- The induction over runs, for what does not depend on the record. -/
theorem history_induct {P : List Step → MembersPage → Prop} (hstart : P [] page)
    (hstep : ∀ past done page action next result log,
      Acts server past page action next result log → P done page →
        P (done ++ [⟨action, result, log⟩]) next)
    (actions : List Action) :
    P (history server past page actions) (run server past (page.actAll actions)).1.1 := by
  refine record_induct server past page (P := fun done next _ => P done next) hstart ?_ actions
  intro done mid record
  exact hstep record done mid

end MembersPage
end WeblogDesk
