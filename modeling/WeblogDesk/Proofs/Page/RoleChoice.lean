/-
  WeblogDesk.Proofs.Page.RoleChoice

  Each choice of a role adds one user at most.

  A user is added with the role that is picked in the form, and a change that was
  made uses it up.  `pickedRole` is the role that some steps leave picked; the
  page holds it at the end of every run.  `Frugal` says what follows for the steps:
  an addition has a role behind it, and without one nothing is sent.  So between two
  additions a role is chosen (`Frugal.exists_choice`), and there are at most as many
  additions as choices (`Frugal.countP_isAddition_le`).
-/

import WeblogDesk.Proofs.Page.Changes

namespace WeblogDesk
namespace MembersPage

open Http Conversation

/-! ## Choices and additions -/

/-- Whether an action asks for a user to be added. -/
def Action.adds : Action → Bool
  | .addUser => true
  | .inviteUser => true
  | _ => false

/-- Whether a step has added a user, attached or invited. -/
def Step.isAddition (step : Step) : Bool :=
  match step.result with
  | .outcome (.saved _) => step.action.adds
  | _ => false

/-- Whether a step chooses a role in the form. -/
def Step.isChoice (step : Step) : Bool :=
  match step.action with
  | .pickRole (some _) => true
  | _ => false

/-- What an action picks as the role in the form, which may be none. -/
def Action.pick? : Action → Option (Option Role)
  | .pickRole role => some role
  | _ => none

/-- What a step makes of the role that is picked, if it does something to it: it picks one, or
    none, or uses it up. -/
def Step.pick? (step : Step) : Option (Option Role) :=
  step.action.pick?.or (if step.isAddition then some none else none)

/-- The role that is picked after some steps. -/
def pickedRole (steps : List Step) : Option Role :=
  (steps.reverse.findSome? Step.pick?).join

theorem pickedRole_concat (steps : List Step) (step : Step) :
    pickedRole (steps ++ [step]) = step.pick?.getD (pickedRole steps) := by
  rw [pickedRole, List.reverse_concat, List.findSome?_cons]
  cases step.pick? <;> rfl

theorem Step.adds_of_isAddition {step : Step} (h : step.isAddition = true) :
    step.action.adds = true := by
  unfold isAddition at h
  split at h
  · exact h
  · cases h

theorem Step.isChoice_iff {step : Step} :
    step.isChoice = true ↔ ∃ role, step.action = .pickRole (some role) := by
  unfold isChoice
  split <;> simp_all

theorem Action.pick?_of_adds {action : Action} (h : action.adds = true) : action.pick? = none := by
  cases action <;> first | rfl | cases h

/-- What edits the roles on the page neither picks a role nor adds a user. -/
theorem Action.quiet_of_edit? {action : Action} {edit : String × Role}
    (h : action.edit? = some edit) : action.pick? = none ∧ action.adds = false := by
  cases action <;> first | exact ⟨rfl, rfl⟩ | cases h

/-- What adds a user picks no role. -/
theorem Step.isChoice_of_adds {step : Step} (h : step.action.adds = true) :
    step.isChoice = false := by
  refine eq_false_of_ne_true fun hchoice => ?_
  obtain ⟨role, hrole⟩ := isChoice_iff.1 hchoice
  rw [hrole] at h
  cases h

theorem Step.pick?_of_isAddition {step : Step} (h : step.isAddition = true) :
    step.pick? = some none := by
  rw [pick?, Action.pick?_of_adds (adds_of_isAddition h), if_pos h, Option.none_or]

/-- Nothing but a choice and an addition bears on the role that is picked. -/
theorem Step.pick?_eq_none {step : Step} (haction : step.action.pick? = none)
    (h : step.isAddition = false) : step.pick? = none := by
  rw [pick?, haction, h]
  rfl

/-- Only a choice leaves a role picked that was not picked before. -/
theorem Step.isChoice_of_pick? {step : Step} {role : Role} (h : step.pick? = some (some role)) :
    step.isChoice = true := by
  refine isChoice_iff.2 ⟨role, ?_⟩
  unfold pick? at h
  cases haction : step.action with
  | pickRole picked =>
    rw [haction] at h
    cases h
    rfl
  | _ =>
    rw [haction] at h
    simp only [Action.pick?, Option.none_or] at h
    split at h <;> cases h

theorem pickedRole_concat_of_isAddition {steps : List Step} {step : Step}
    (h : step.isAddition = true) : pickedRole (steps ++ [step]) = none := by
  rw [pickedRole_concat, Step.pick?_of_isAddition h, Option.getD_some]

/-- No role is picked as long as none is chosen. -/
theorem pickedRole_append_eq_none {front back : List Step} (hfront : pickedRole front = none)
    (hback : ∀ step ∈ back, step.isChoice = false) : pickedRole (front ++ back) = none := by
  induction back using List.reverseRecOn with
  | nil => rw [List.append_nil, hfront]
  | append_singleton back last ih =>
    have hlast := hback last (List.mem_append_right _ List.mem_cons_self)
    rw [← List.append_assoc, pickedRole_concat,
      ih fun step hstep => hback step (List.mem_append_left _ hstep)]
    cases hpick : last.pick? with
    | none => rfl
    | some picked =>
      cases picked with
      | none => rfl
      | some role =>
        rw [Step.isChoice_of_pick? hpick] at hlast
        cases hlast

/-! ## One action -/

variable {server : Server} {past : List Exchange} {page next : MembersPage} {action : Action}
  {result : Result} {log : List Exchange} {steps : List Step}

@[simp] theorem roleToAdd_takeRoles (page : MembersPage) (roles : Except Failure RoleMap) :
    (page.takeRoles roles).roleToAdd = page.roleToAdd := by
  cases roles <;> rfl

@[simp] theorem roleToAdd_takePotential (page : MembersPage)
    (users : Except Failure PotentialMembers) :
    (page.takePotential users).roleToAdd = page.roleToAdd := by
  cases users <;> rfl

/-- A reload picks a user, but no role. -/
theorem roleToAdd_load (server : Server) (past : List Exchange) (page : MembersPage) :
    (run server past page.load).1.1.roleToAdd = page.roleToAdd := by
  rw [run_load, roleToAdd_takePotential, roleToAdd_takeRoles]
  rfl

/-- What was picked stays picked for another try. -/
theorem picks_failed (page : MembersPage) (failure : Failure) :
    (page.failed failure).1.userToAdd = page.userToAdd ∧
      (page.failed failure).1.roleToAdd = page.roleToAdd := by
  cases failure <;> exact ⟨rfl, rfl⟩

/-- What is sent to add a user is sent with a role that was picked, and the page forgets it. -/
theorem submission_adds {call : Call} {following : MembersPage}
    (h : page.submission? action = some (call, following)) :
    action.pick? = none ∧
      ((action.adds = true ∧ following.roleToAdd = none ∧ page.roleToAdd.isSome = true) ∨
        (action.adds = false ∧ following.roleToAdd = page.roleToAdd)) := by
  have hpending {pick : String × Role} (hpick : page.pending = some pick) :
      page.roleToAdd.isSome = true := by
    unfold pending at hpick
    cases hrole : page.roleToAdd with
    | none =>
      rw [hrole] at hpick
      cases huser : page.userToAdd <;> rw [huser] at hpick <;> cases hpick
    | some role => rfl
  cases action <;> simp only [submission?, Option.map_eq_some_iff, reduceCtorEq] at h
  case updateRoles =>
    cases h
    exact ⟨rfl, .inr ⟨rfl, rfl⟩⟩
  case addUser =>
    obtain ⟨pick, hpick, h⟩ := h
    cases h
    exact ⟨rfl, .inl ⟨rfl, rfl, hpending hpick⟩⟩
  case inviteUser =>
    obtain ⟨pick, hpick, h⟩ := h
    cases h
    exact ⟨rfl, .inl ⟨rfl, rfl, hpending hpick⟩⟩

theorem isAddition_of_saved (h : action.adds = true) (message : String) (log : List Exchange) :
    Step.isAddition ⟨action, .outcome (.saved message), log⟩ = true := h

theorem isAddition_of_failed (page : MembersPage) (failure : Failure) :
    Step.isAddition ⟨action, .outcome (page.failed failure).2, log⟩ = false := by
  cases failure <;> rfl

/-- Everything that an action can do leaves the role picked that its step leaves picked. -/
theorem Acts.roleToAdd (h : Acts server past page action next result log) :
    next.roleToAdd = (Step.pick? ⟨action, result, log⟩).getD page.roleToAdd := by
  have quiet (hpick : action.pick? = none)
      (hnot : Step.isAddition ⟨action, result, log⟩ = false) :
      (Step.pick? ⟨action, result, log⟩).getD page.roleToAdd = page.roleToAdd := by
    rw [Step.pick?_eq_none hpick hnot, Option.getD_none]
  cases h with
  | load hm hu => rw [roleToAdd_takePotential, roleToAdd_takeRoles]; rfl
  | loadPotential hu => rw [roleToAdd_takePotential]; rfl
  | edit ha hm => exact (quiet (Action.quiet_of_edit? ha).1 rfl).symm
  | noMember ha hm => exact (quiet (Action.quiet_of_edit? ha).1 rfl).symm
  | pickUser user => rfl
  | pickRole role => rfl
  | skip ha hp => rcases ha with rfl | rfl <;> rfl
  | made ha hc =>
    rename_i call following message
    rw [roleToAdd_load]
    obtain ⟨hpick, ⟨hadds, hnone, -⟩ | ⟨hadds, hsame⟩⟩ := submission_adds ha
    · rw [Step.pick?_of_isAddition (isAddition_of_saved hadds message _)]
      exact hnone
    · rw [quiet hpick hadds]
      exact hsame
  | notMade ha hc =>
    rw [quiet (submission_adds ha).1 (isAddition_of_failed page _)]
    exact (picks_failed page _).2

/-- A user is added only with a role that was picked. -/
theorem Acts.isSome_of_isAddition (h : Acts server past page action next result log)
    (haddition : Step.isAddition ⟨action, result, log⟩ = true) :
    page.roleToAdd.isSome = true := by
  have hadds : action.adds = true := Step.adds_of_isAddition haddition
  cases h with
  | made ha hc =>
    obtain ⟨-, ⟨-, -, hsome⟩ | ⟨hno, -⟩⟩ := submission_adds ha
    · exact hsome
    · rw [hadds] at hno
      cases hno
  | notMade ha hc =>
    rw [isAddition_of_failed] at haddition
    cases haddition
  | _ => cases haddition

/-- What asks for a user to be added is skipped, or sent with a role that was picked. -/
theorem Acts.of_adds (h : Acts server past page action next result log)
    (hadds : action.adds = true) :
    (result = .outcome .skipped ∧ next = page ∧ log = []) ∨
      (page.roleToAdd.isSome = true ∧
        (Step.isAddition ⟨action, result, log⟩ = true ∨
          ∃ failure, next = (page.failed failure).1)) := by
  have hsent {call : Call} {following : MembersPage}
      (ha : page.submission? action = some (call, following)) :
      page.roleToAdd.isSome = true := by
    obtain ⟨-, ⟨-, -, hsome⟩ | ⟨hno, -⟩⟩ := submission_adds ha
    · exact hsome
    · rw [hadds] at hno
      cases hno
  have hedit {edit : String × Role} (ha : action.edit? = some edit) : False := by
    rw [(Action.quiet_of_edit? ha).2] at hadds
    cases hadds
  cases h with
  | skip ha hp => exact .inl ⟨rfl, rfl, rfl⟩
  | made ha hc => exact .inr ⟨hsent ha, .inl hadds⟩
  | notMade ha hc => exact .inr ⟨hsent ha, .inr ⟨_, rfl⟩⟩
  | edit ha hm => exact (hedit ha).elim
  | noMember ha hm => exact (hedit ha).elim
  | _ => cases hadds

/-- Without a role, a user who is to be added is not, and nothing is sent. -/
theorem Acts.skipped_of_none (h : Acts server past page action next result log)
    (hadds : action.adds = true) (hnone : page.roleToAdd = none) :
    result = .outcome .skipped ∧ log = [] := by
  rcases h.of_adds hadds with ⟨hresult, -, hlog⟩ | ⟨hsome, -⟩
  · exact ⟨hresult, hlog⟩
  · rw [hnone] at hsome
    cases hsome

/-- A try that adds nobody leaves user and role picked as they were. -/
theorem Acts.picks_of_not_isAddition (h : Acts server past page action next result log)
    (hadds : action.adds = true) (hnot : Step.isAddition ⟨action, result, log⟩ = false) :
    next.userToAdd = page.userToAdd ∧ next.roleToAdd = page.roleToAdd := by
  rcases h.of_adds hadds with ⟨-, rfl, -⟩ | ⟨-, haddition | ⟨failure, rfl⟩⟩
  · exact ⟨rfl, rfl⟩
  · rw [hnot] at haddition
    cases haddition
  · exact picks_failed page failure

/-! ## Steps of a run -/

/-- Whether some steps add users only with a role that is picked, and send nothing for the others
    who are to be added. -/
def Frugal (steps : List Step) : Prop :=
  ∀ before step after, steps = before ++ step :: after → step.action.adds = true →
    (step.isAddition = true → (pickedRole before).isSome = true) ∧
      (pickedRole before = none → step.result = .outcome .skipped ∧ step.exchanges = [])

namespace Frugal

variable {before between after : List Step} {first second step : Step}

theorem of_append (h : Frugal (before ++ after)) : Frugal before := by
  rintro front step back rfl
  exact h front step (back ++ after) (by simp only [List.append_assoc, List.cons_append])

theorem concat (h : Frugal steps) (hrole : page.roleToAdd = pickedRole steps)
    (hacts : Acts server past page action next result log) :
    Frugal (steps ++ [⟨action, result, log⟩]) := by
  intro before step after hsplit hadds
  rcases concat_eq_append_cons_iff.1 hsplit with ⟨rfl, rfl, -⟩ | ⟨rest, -, hsteps⟩
  · rw [← hrole]
    exact ⟨hacts.isSome_of_isAddition, hacts.skipped_of_none hadds⟩
  · exact h before step rest hsteps hadds

/-- Behind an addition no role is picked until one is chosen. -/
theorem pickedRole_of_quiet (hfirst : first.isAddition = true)
    (hquiet : ∀ step ∈ between, step.isChoice = false) :
    pickedRole (before ++ first :: between) = none := by
  rw [List.append_cons]
  exact pickedRole_append_eq_none (pickedRole_concat_of_isAddition hfirst) hquiet

/-- Between two additions a role is chosen. -/
theorem exists_choice (h : Frugal (before ++ first :: between ++ second :: after))
    (hfirst : first.isAddition = true) (hsecond : second.isAddition = true) :
    ∃ step ∈ between, step.isChoice = true := by
  by_contra hnone
  have hquiet : ∀ step ∈ between, step.isChoice = false := fun step hstep =>
    eq_false_of_ne_true fun hchoice => hnone ⟨step, hstep, hchoice⟩
  have hsome := (h _ second after rfl (Step.adds_of_isAddition hsecond)).1 hsecond
  rw [pickedRole_of_quiet hfirst hquiet] at hsome
  cases hsome

/-- Behind an addition, another try sends nothing until a role is chosen. -/
theorem skipped (h : Frugal (before ++ first :: between ++ second :: after))
    (hfirst : first.isAddition = true) (hsecond : second.action.adds = true)
    (hquiet : ∀ step ∈ between, step.isChoice = false) :
    second.result = .outcome .skipped ∧ second.exchanges = [] :=
  (h _ second after rfl hsecond).2 (pickedRole_of_quiet hfirst hquiet)

/-- There are at most as many additions as choices, and one less if a role is still picked. -/
theorem countP_isAddition_le (h : Frugal steps) :
    steps.countP Step.isAddition + (pickedRole steps).toList.length ≤
      steps.countP Step.isChoice := by
  induction steps using List.reverseRecOn with
  | nil => exact Nat.le_refl 0
  | append_singleton steps last ih =>
    have hle := ih h.of_append
    rw [List.countP_append, List.countP_append, List.countP_singleton, List.countP_singleton]
    by_cases haddition : last.isAddition = true
    · -- an addition uses up the role that was picked before it
      have hadds := Step.adds_of_isAddition haddition
      have hsome := (h steps last [] rfl hadds).1 haddition
      obtain ⟨role, hrole⟩ := Option.isSome_iff_exists.1 hsome
      rw [hrole] at hle
      rw [pickedRole_concat_of_isAddition haddition, if_pos haddition,
        Step.isChoice_of_adds hadds]
      simp only [Option.toList_some, Option.toList_none, List.length_singleton, List.length_nil,
        Bool.false_eq_true, if_false] at hle ⊢
      omega
    · rw [pickedRole_concat, if_neg haddition]
      cases hpick : last.pick? with
      | none =>
        rw [Option.getD_none]
        omega
      | some picked =>
        cases picked with
        | none =>
          simp only [Option.getD_some, Option.toList_none, List.length_nil]
          omega
        | some role =>
          rw [Step.isChoice_of_pick? hpick]
          simp only [Option.getD_some, Option.toList_some, List.length_singleton, if_true]
          omega

end Frugal

/-- The role that is picked at the end of a run is the one that its steps leave picked, and they
    add users only with it. -/
theorem frugal_history (server : Server) (past : List Exchange) (client : Client)
    (weblog refreshUrl : String) (actions : List Action) :
    let start := new client weblog refreshUrl
    (run server past (start.actAll actions)).1.1.roleToAdd =
        pickedRole (history server past start actions) ∧
      Frugal (history server past start actions) := by
  intro start
  refine history_induct server past start
    (P := fun done page => page.roleToAdd = pickedRole done ∧ Frugal done)
    ⟨rfl, fun before step after hsplit => ?_⟩ ?_ actions
  · simp at hsplit
  · rintro past done mid action next result log hacts ⟨hrole, hfrugal⟩
    refine ⟨?_, hfrugal.concat hrole hacts⟩
    rw [hacts.roleToAdd, pickedRole_concat, hrole]

/-- In every run a role is chosen between any two additions of a user, attached or invited, so
    there are never more additions than choices; another try behind an addition is skipped and
    sends nothing until a role is chosen.  A try that adds nobody leaves user and role picked
    for another one. -/
theorem additions_actAll (server : Server) (past : List Exchange) (client : Client)
    (weblog refreshUrl : String) (actions : List Action) :
    let start := new client weblog refreshUrl
    let ends := run server past (start.actAll actions)
    let steps := history server past start actions
    (steps.map (·.action) = actions ∧ steps.map (·.result) = ends.1.2 ∧
        past ++ steps.flatMap (·.exchanges) = ends.2) ∧
      (∀ before first between second after,
        steps = before ++ first :: between ++ second :: after →
        first.isAddition = true → second.isAddition = true →
          ∃ step ∈ between, ∃ role, step.action = .pickRole (some role)) ∧
      steps.countP Step.isAddition ≤ steps.countP Step.isChoice ∧
      (∀ before first between second after,
        steps = before ++ first :: between ++ second :: after →
        first.isAddition = true →
        second.action = .addUser ∨ second.action = .inviteUser →
        (∀ step ∈ between, ∀ role, step.action ≠ .pickRole (some role)) →
          second.result = .outcome .skipped ∧ second.exchanges = []) ∧
      ∀ action, action = .addUser ∨ action = .inviteUser →
        let next := run server ends.2 (ends.1.1.act action)
        (∀ message, next.1.2 ≠ .outcome (.saved message)) →
          next.1.1.userToAdd = ends.1.1.userToAdd ∧
            next.1.1.roleToAdd = ends.1.1.roleToAdd := by
  intro start ends steps
  have hfrugal : Frugal steps := (frugal_history server past client weblog refreshUrl actions).2
  have hadds {action : Action} (h : action = .addUser ∨ action = .inviteUser) :
      action.adds = true := by
    rcases h with rfl | rfl <;> rfl
  refine ⟨history_spec server past start actions, ?_, ?_, ?_, ?_⟩
  · intro before first between second after hsplit hfirst hsecond
    rw [hsplit] at hfrugal
    obtain ⟨step, hstep, hpick⟩ := hfrugal.exists_choice hfirst hsecond
    exact ⟨step, hstep, Step.isChoice_iff.1 hpick⟩
  · have hle := hfrugal.countP_isAddition_le
    omega
  · intro before first between second after hsplit hfirst hsecond hquiet
    rw [hsplit] at hfrugal
    refine hfrugal.skipped hfirst (hadds hsecond) fun step hstep => eq_false_of_ne_true ?_
    intro hpick
    obtain ⟨role, hrole⟩ := Step.isChoice_iff.1 hpick
    exact hquiet step hstep role hrole
  · intro action haction next hnot
    have hacts := acts_act server ends.2 ends.1.1 action
    refine hacts.picks_of_not_isAddition (hadds haction) ?_
    unfold Step.isAddition
    split
    · rename_i message hresult
      exact absurd hresult (hnot message)
    · rfl

end MembersPage
end WeblogDesk
