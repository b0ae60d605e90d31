/-
  WeblogDesk.Proofs.Page.Messages

  What the members page tells, as a function of what came of the changes so far.

  `Messages` is the part of a page that tells: the panels, the reason of the last
  refusal, the server's word on the last change, and where the user was sent.
  `Acts.messages` says what one action does to it, `messages_actAll` that a run
  folds the outcomes over it, and `messages_foldl` what such a fold comes to.
-/

import Mathlib.Data.List.Induction
import WeblogDesk.Proofs.Page.History

namespace WeblogDesk

open Http

/-! ## Outcomes -/

namespace Outcome

/-- The panels that the outcome leaves visible, if it shows one. -/
def shown? : Outcome → Option Panels
  | .saved _ => some ⟨true, false⟩
  | .rejected _ => some ⟨false, true⟩
  | _ => none

/-- The reason of a refusal. -/
def payload? : Outcome → Option Payload
  | .rejected payload => some payload
  | _ => none

/-- What the server said of a change that was made. -/
def message? : Outcome → Option String
  | .saved message => some message
  | _ => none

/-- Whether the login session was gone. -/
def isExpired : Outcome → Bool
  | .sessionExpired => true
  | _ => false

end Outcome

/-! ## What a page tells -/

/-- The part of a page that tells what came of the changes. -/
structure Messages where
  /-- The message panels that are visible. -/
  panels : Panels
  /-- The reason that the server gave last for refusing a change. -/
  refusal : Option Payload
  /-- What the server said of the last change that was made. -/
  success : Option String
  /-- The addresses that the user was sent to, the first one first. -/
  visited : List String

namespace Messages

/-- Nothing told yet. -/
def blank : Messages := ⟨.hidden, none, none, []⟩

/-- What is told after one more outcome. -/
def tell (refreshUrl : String) (m : Messages) : Outcome → Messages
  | .saved message =>
    { m with
      panels := m.panels.showSuccess
      success := if message.isEmpty then none else some message }
  | .rejected payload => { m with panels := m.panels.showError, refusal := some payload }
  | .sessionExpired => { m with visited := m.visited ++ [refreshUrl] }
  | .skipped => m
  | .failed _ => m

/-- The last of the values that some outcomes give. -/
def lastOf {α : Type} (value? : Outcome → Option α) (outcomes : List Outcome) : Option α :=
  (outcomes.filterMap value?).getLast?

theorem lastOf_concat {α : Type} (value? : Outcome → Option α) (outcomes : List Outcome)
    (o : Outcome) :
    lastOf value? (outcomes ++ [o]) = (value? o).or (lastOf value? outcomes) := by
  unfold lastOf
  rw [List.filterMap_append, List.getLast?_append]
  cases h : value? o <;> simp [h]

/-- What is told once the outcomes are known, each part in terms of the last outcome that
    bears on it. -/
def ofOutcomes (refreshUrl : String) (outcomes : List Outcome) : Messages where
  panels := (lastOf Outcome.shown? outcomes).getD .hidden
  refusal := lastOf Outcome.payload? outcomes
  success := (lastOf Outcome.message? outcomes).filter (!·.isEmpty)
  visited := List.replicate (outcomes.countP Outcome.isExpired) refreshUrl

theorem ofOutcomes_concat (refreshUrl : String) (outcomes : List Outcome) (o : Outcome) :
    ofOutcomes refreshUrl (outcomes ++ [o]) =
      (ofOutcomes refreshUrl outcomes).tell refreshUrl o := by
  simp only [ofOutcomes, lastOf_concat, List.countP_append]
  -- every outcome bears on its own parts and leaves the last one of the others as it is
  cases o with
  | saved message =>
    by_cases h : message = "" <;>
      simp [tell, Outcome.shown?, Outcome.payload?, Outcome.message?, Outcome.isExpired,
        Panels.showSuccess, h]
  | rejected payload =>
    simp [tell, Outcome.shown?, Outcome.payload?, Outcome.message?, Outcome.isExpired,
      Panels.showError]
  | sessionExpired =>
    simp [tell, Outcome.shown?, Outcome.payload?, Outcome.message?, Outcome.isExpired,
      List.replicate_succ']
  | skipped =>
    simp [tell, Outcome.shown?, Outcome.payload?, Outcome.message?, Outcome.isExpired]
  | failed f =>
    simp [tell, Outcome.shown?, Outcome.payload?, Outcome.message?, Outcome.isExpired]

theorem foldl_tell (refreshUrl : String) (outcomes : List Outcome) :
    outcomes.foldl (tell refreshUrl) blank = ofOutcomes refreshUrl outcomes := by
  induction outcomes using List.reverseRecOn with
  | nil => rfl
  | append_singleton outcomes o ih =>
    rw [List.foldl_append, List.foldl_cons, List.foldl_nil, ih, ofOutcomes_concat]

/-- A value is the last one only of an outcome that gives it. -/
theorem exists_of_lastOf {α : Type} {value? : Outcome → Option α} {outcomes : List Outcome}
    {a : α} (h : lastOf value? outcomes = some a) : ∃ o ∈ outcomes, value? o = some a :=
  List.mem_filterMap.1 (List.mem_of_getLast? h)

theorem isSome_lastOf {α : Type} {value? : Outcome → Option α} {outcomes : List Outcome}
    {o : Outcome} {a : α} (ho : o ∈ outcomes) (h : value? o = some a) :
    (lastOf value? outcomes).isSome = true := by
  have hmem : a ∈ outcomes.filterMap value? := List.mem_filterMap.2 ⟨o, ho, h⟩
  rw [lastOf, List.getLast?_isSome]
  exact List.ne_nil_of_mem hmem

/-- The success panel and the error panel are never visible together. -/
theorem panels_exclusive (refreshUrl : String) (outcomes : List Outcome) :
    ¬((ofOutcomes refreshUrl outcomes).panels.success = true ∧
      (ofOutcomes refreshUrl outcomes).panels.error = true) := by
  simp only [ofOutcomes]
  cases hp : lastOf Outcome.shown? outcomes with
  | none => simp [Panels.hidden]
  | some panels =>
    -- whatever was shown last was shown by an outcome, and each outcome shows one panel
    obtain ⟨o, -, ho⟩ := exists_of_lastOf hp
    cases o <;> simp only [Outcome.shown?, Option.some.injEq, reduceCtorEq] at ho
    case saved => subst ho; simp
    case rejected => subst ho; simp

/-- A visible error panel has a reason to tell. -/
theorem refusal_of_error (refreshUrl : String) (outcomes : List Outcome)
    (h : (ofOutcomes refreshUrl outcomes).panels.error = true) :
    (ofOutcomes refreshUrl outcomes).refusal.isSome = true := by
  simp only [ofOutcomes] at h ⊢
  cases hp : lastOf Outcome.shown? outcomes with
  | none => simp [hp, Panels.hidden] at h
  | some panels =>
    -- the outcome that showed the error panel is a refusal, so there is a last one
    obtain ⟨o, hmem, ho⟩ := exists_of_lastOf hp
    cases o <;> simp only [Outcome.shown?, Option.some.injEq, reduceCtorEq] at ho
    case saved => subst ho; simp [hp] at h
    case rejected payload => exact isSome_lastOf hmem rfl

end Messages

/-! ## Runs of the page -/

namespace MembersPage

open Conversation

/-- What the page tells. -/
def messages (page : MembersPage) : Messages :=
  ⟨page.panels, page.refusal, page.successMessage, page.visited⟩

/-- What came of the change that an action asked for, if it asked for one. -/
def Result.outcome? : Result → Option Outcome
  | .outcome o => some o
  | _ => none

variable (server : Server) (past : List Exchange) (page : MembersPage)

@[simp] theorem messages_takeRoles (roles : Except Failure RoleMap) :
    (page.takeRoles roles).messages = page.messages := by
  cases roles <;> rfl

@[simp] theorem messages_takePotential (users : Except Failure PotentialMembers) :
    (page.takePotential users).messages = page.messages := by
  cases users <;> rfl

theorem messages_load : (run server past page.load).1.1.messages = page.messages := by
  rw [run_load, messages_takePotential, messages_takeRoles]
  rfl

theorem messages_announce (message : String) :
    (page.announce message).messages = page.messages.tell page.refreshUrl (.saved message) := rfl

theorem messages_failed (failure : Failure) :
    (page.failed failure).1.messages =
      page.messages.tell page.refreshUrl (page.failed failure).2 := by
  cases failure <;> rfl

theorem messages_submission {action : Action} {call : Call} {next : MembersPage}
    (h : page.submission? action = some (call, next)) : next.messages = page.messages := by
  rcases submission_cases page h with ⟨-, rfl⟩ | ⟨_, _, -, rfl, -⟩
  · rfl
  · rfl

/-- One action tells its outcome, if it has one, and nothing else. -/
theorem Acts.messages {page next : MembersPage} {action : Action} {result : Result}
    {log : List Exchange} (h : Acts server past page action next result log) :
    next.messages =
      result.outcome?.toList.foldl (Messages.tell page.refreshUrl) page.messages := by
  cases h with
  | load hm hu => rw [messages_takePotential, messages_takeRoles]; rfl
  | loadPotential hu => rw [messages_takePotential]; rfl
  | edit ha hm => rfl
  | noMember ha hm => rfl
  | pickUser user => rfl
  | pickRole role => rfl
  | skip ha hp => rfl
  | made ha hc =>
    rename_i next message
    have hurl : next.refreshUrl = page.refreshUrl := congrArg (·.2.2) (origin_submission page ha)
    rw [messages_load, messages_announce, messages_submission page ha, hurl]
    rfl
  | notMade ha hc => exact messages_failed page _

/-- The outcomes of a run, folded over what the page told before. -/
theorem messages_foldl (actions : List Action) :
    (run server past (page.actAll actions)).1.1.messages =
      ((run server past (page.actAll actions)).1.2.filterMap Result.outcome?).foldl
        (Messages.tell page.refreshUrl) page.messages := by
  -- the address to log in at is read off the page at each step, so it is kept along with them
  have htold := history_induct server past page
    (P := fun done next => next.refreshUrl = page.refreshUrl ∧
      next.messages = ((done.map (·.result)).filterMap Result.outcome?).foldl
        (Messages.tell page.refreshUrl) page.messages) ⟨rfl, rfl⟩ ?_ actions
  · rw [(history_spec server past page actions).2.1] at htold
    exact htold.2
  · rintro past done mid action next result log hacts ⟨hurl, hmessages⟩
    have hnext : next.refreshUrl = mid.refreshUrl := congrArg (·.2.2) hacts.origin
    refine ⟨hnext.trans hurl, ?_⟩
    rw [hacts.messages, hurl, hmessages, List.map_append, List.filterMap_append,
      List.foldl_append]
    cases h : result.outcome? <;> simp [h]

/-- What the page tells after any run is told by the outcomes so far: the panels by the last
    one that was saved or refused, the reason and the server's word by the last of their kind,
    and the user was sent to log in once for each session that was gone.  So at most one panel
    is visible, and the error panel only with a reason. -/
theorem messages_actAll (server : Server) (past : List Exchange) (client : Client)
    (weblog refreshUrl : String) (actions : List Action) :
    let result := (run server past ((new client weblog refreshUrl).actAll actions)).1
    let outcomes := result.2.filterMap Result.outcome?
    result.1.messages = Messages.ofOutcomes refreshUrl outcomes ∧
      ¬(result.1.panels.success = true ∧ result.1.panels.error = true) ∧
      (result.1.panels.error = true → result.1.refusal.isSome = true) := by
  intro result outcomes
  have htold : result.1.messages = Messages.ofOutcomes refreshUrl outcomes := by
    rw [← Messages.foldl_tell]
    exact messages_foldl server past (new client weblog refreshUrl) actions
  have hpanels : result.1.panels = (Messages.ofOutcomes refreshUrl outcomes).panels :=
    congrArg Messages.panels htold
  have hrefusal : result.1.refusal = (Messages.ofOutcomes refreshUrl outcomes).refusal :=
    congrArg Messages.refusal htold
  refine ⟨htold, ?_, ?_⟩
  · rw [hpanels]
    exact Messages.panels_exclusive refreshUrl outcomes
  · rw [hpanels, hrefusal]
    exact Messages.refusal_of_error refreshUrl outcomes

end MembersPage
end WeblogDesk
