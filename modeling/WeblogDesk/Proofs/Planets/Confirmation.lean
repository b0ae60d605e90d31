/-
  WeblogDesk.Proofs.Planets.Confirmation

  No planet is deleted without a confirmation of its own.

  `sent` is all that an action sends, as a function of the steps before it, so the
  requests of a run are known from its history (`sends_history`).  A deletion
  uses up the request that has opened the dialog: in every part of a run there are
  at most as many deletions as successful requests, and one more if the dialog was
  open before (`length_deletions_le`).
-/

import WeblogDesk.Proofs.Planets.Runs

namespace WeblogDesk
namespace PlanetPage

open Http Conversation

/-! ## What is sent -/

/-- What an action sends, behind the steps before it. -/
def sent (before : List Step) : Action → List Call
  | .load => [.listPlanets]
  | .confirmDelete => (openFor before).toList.map .deletePlanet
  | _ => []

/-- Everything that an action can do sends what the action sends; a client without a server of
    the network sends nothing. -/
theorem Acts.requests {server : Server} {past : List Exchange} {page next : PlanetPage}
    {action : Action} {result : Result} {log : List Exchange} {before : List Step}
    (h : Acts server past page action next result log) (hopens : OpensFor before page) :
    log.map (·.request) =
      if page.client.base.isHttp then (sent before action).map page.client.request else [] := by
  have hask (call : Call) :
      (exchanged server past (page.client.perform call)).map (·.request) =
        if page.client.base.isHttp then [page.client.request call] else [] := by
    rw [Client.exchanged_perform]
    split <;> rfl
  cases h with
  | read h =>
    rw [Client.exchanged_listPlanets]
    exact hask _
  | notRead h =>
    rw [Client.exchanged_listPlanets]
    exact hask _
  | deleted hopen htarget h =>
    rw [Client.exchanged_deletePlanet, sent, ← hopens.target, htarget]
    exact hask _
  | notDeleted hopen htarget h =>
    rw [Client.exchanged_deletePlanet, sent, ← hopens.target, htarget]
    exact hask _
  | idle hopen =>
    rw [hopens.isOpen, Option.isSome_eq_false_iff, Option.isNone_iff_eq_none] at hopen
    rw [sent, hopen]
    exact (ite_self _).symm
  | aimless hopen htarget =>
    rw [sent, ← hopens.target, htarget]
    exact (ite_self _).symm
  | _ => exact (ite_self _).symm

/-- Whether the steps of a run have sent what their actions send. -/
def Sends (client : Client) (steps : List Step) : Prop :=
  ∀ before step after, steps = before ++ step :: after →
    step.exchanges.map (·.request) =
      if client.base.isHttp then (sent before step.action).map client.request else []

theorem sends_history (server : Server) (past : List Exchange) (client : Client) (labels : Labels)
    (actions : List Action) : Sends client (history server past (new client labels) actions) := by
  intro before step after hsplit
  obtain ⟨record, mid, next, rfl, hopens, hacts⟩ := exists_acts_of_history_eq server past hsplit
  exact hacts.requests hopens

/-! ## Deletions -/

/-- The requests of a step that delete something. -/
def Step.deletions (step : Step) : List Request :=
  (step.exchanges.map (·.request)).filter (·.method = .delete)

/-- Whether a step is a request that has opened the dialog. -/
def Step.isOpening (step : Step) : Bool :=
  match step.action, step.result with
  | .requestDelete _, .isListed true => true
  | _, _ => false

theorem Step.isOpening_of_dialog? {step : Step} {id : String} (h : step.dialog? = some (some id)) :
    step.isOpening = true := by
  obtain ⟨haction, hresult⟩ := Step.dialog?_eq_some_some_iff.1 h
  rw [isOpening, haction, hresult]

/-- A step that leaves the dialog alone is no confirmation, no cancellation and opens nothing. -/
theorem Step.of_dialog?_eq_none {step : Step} (h : step.dialog? = none) :
    step.action ≠ .confirmDelete ∧ step.action ≠ .cancelDelete ∧ step.isOpening = false := by
  unfold dialog? at h
  unfold isOpening
  split at h <;> simp_all

variable {client : Client} {steps before after : List Step} {step : Step}

theorem Sends.of_append (h : Sends client (before ++ after)) : Sends client before := by
  rintro front step back rfl
  exact h front step (back ++ after) (by simp only [List.append_assoc, List.cons_append])

/-- A step deletes something only if it is a confirmation, and then the planet that the dialog
    is open for. -/
theorem Sends.deletions (h : Sends client (before ++ step :: after)) :
    step.deletions =
      if client.base.isHttp ∧ step.action = .confirmDelete then
        (openFor before).toList.map fun id => client.request (.deletePlanet id)
      else [] := by
  rw [Step.deletions, h before step after rfl]
  by_cases hhttp : client.base.isHttp = true
  · cases haction : step.action with
    | load => simp [hhttp, sent, Client.request, Client.requestTo, Call.method]
    | requestDelete id => simp [sent]
    | confirmDelete =>
      rw [if_pos hhttp, if_pos ⟨hhttp, rfl⟩, sent, List.map_map]
      refine List.filter_eq_self.2 fun request hrequest => ?_
      obtain ⟨id, -, rfl⟩ := List.mem_map.1 hrequest
      rfl
    | cancelDelete => simp [sent]
  · simp [hhttp]

theorem Sends.deletions_eq_nil (h : Sends client (before ++ step :: after))
    (haction : step.action ≠ .confirmDelete) : step.deletions = [] := by
  rw [h.deletions, if_neg fun hconfirm => haction hconfirm.2]

/-- What a step deletes is all that it sends. -/
theorem Sends.of_delete (h : Sends client (before ++ step :: after)) {e : Exchange}
    (he : e ∈ step.exchanges) (hdelete : e.request.method = .delete) :
    step.action = .confirmDelete ∧ step.exchanges = [e] ∧
      ∃ id, openFor before = some id ∧ e.request = client.request (.deletePlanet id) := by
  have hlog := h before step after rfl
  have hmem : e.request ∈ step.exchanges.map (·.request) := List.mem_map_of_mem he
  rw [hlog] at hmem
  split at hmem
  · rename_i hhttp
    rw [if_pos hhttp] at hlog
    cases haction : step.action with
    | load =>
      rw [haction] at hmem
      rw [List.mem_singleton.1 hmem] at hdelete
      cases hdelete
    | requestDelete id => simp [haction, sent] at hmem
    | confirmDelete =>
      cases hopen : openFor before with
      | none => simp [haction, sent, hopen] at hmem
      | some id =>
        rw [haction, sent, hopen] at hlog hmem
        -- one request was sent, so there is one exchange
        obtain ⟨only, honly, -⟩ := List.map_eq_singleton_iff.1 hlog
        rw [honly, List.mem_singleton] at he
        exact ⟨rfl, by rw [honly, he], id, rfl, List.mem_singleton.1 hmem⟩
    | cancelDelete => simp [haction, sent] at hmem
  · cases hmem

/-- Behind a step no more is deleted and left open than was open before it or is opened by
    it. -/
theorem Sends.length_deletions_step (h : Sends client (before ++ step :: after)) :
    step.deletions.length + (openFor (before ++ [step])).toList.length ≤
      (openFor before).toList.length + if step.isOpening then 1 else 0 := by
  rw [openFor_concat]
  cases hdialog : step.dialog? with
  | none =>
    have hquiet := Step.of_dialog?_eq_none hdialog
    rw [h.deletions_eq_nil hquiet.1, hquiet.2.2]
    simp
  | some target =>
    cases target with
    | none =>
      -- a confirmation has the one planet to delete that was open, and leaves none open
      have hle : step.deletions.length ≤ (openFor before).toList.length := by
        rw [h.deletions]
        split <;> simp
      simp only [Option.getD_some, Option.toList_none, List.length_nil]
      omega
    | some id =>
      have hopening := Step.isOpening_of_dialog? hdialog
      have haction := (Step.dialog?_eq_some_some_iff.1 hdialog).1
      rw [h.deletions_eq_nil (by rw [haction]; simp), hopening]
      simp only [Option.getD_some, Option.toList_some, List.length_nil, List.length_singleton,
        if_true]
      omega

/-- In every part of a run there are at most as many deletions as requests that have opened the
    dialog, and one more if it was open before. -/
theorem Sends.length_deletions_le (front back : List Step) (h : Sends client (front ++ back)) :
    (back.flatMap Step.deletions).length + (openFor (front ++ back)).toList.length ≤
      (openFor front).toList.length + back.countP Step.isOpening := by
  -- the dialog that is still open at the end carries over to the next step
  induction back using List.reverseRecOn with
  | nil => simp
  | append_singleton back last ih =>
    rw [← List.append_assoc] at h
    have hback := ih h.of_append
    have hlast := h.length_deletions_step
    rw [← List.append_assoc, List.flatMap_append, List.length_append, List.flatMap_singleton,
      List.countP_append, List.countP_singleton]
    omega

theorem openFor_concat_of_closing
    (h : step.action = .confirmDelete ∨ step.action = .cancelDelete) :
    openFor (steps ++ [step]) = none := by
  have hdialog : step.dialog? = some none := by
    rcases h with h | h <;> rw [Step.dialog?, h]
  rw [openFor_concat, hdialog, Option.getD_some]

/-- The dialog stays closed as long as no request opens it. -/
theorem openFor_append_eq_none {front back : List Step} (hfront : openFor front = none)
    (hback : ∀ step ∈ back, step.isOpening = false) : openFor (front ++ back) = none := by
  induction back using List.reverseRecOn with
  | nil => rw [List.append_nil, hfront]
  | append_singleton back last ih =>
    have hlast := hback last (List.mem_append_right _ List.mem_cons_self)
    rw [← List.append_assoc, openFor_concat,
      ih fun step hstep => hback step (List.mem_append_left _ hstep)]
    cases hdialog : last.dialog? with
    | none => rfl
    | some target =>
      cases target with
      | none => rfl
      | some id =>
        rw [Step.isOpening_of_dialog? hdialog] at hlast
        cases hlast

/-- Behind a step, at most one planet is deleted until a request opens the dialog again. -/
theorem Sends.length_deletions_le_one {between : List Step}
    (h : Sends client (before ++ step :: between))
    (hquiet : ∀ later ∈ between, later.isOpening = false) :
    (between.flatMap Step.deletions).length ≤ 1 := by
  rw [List.append_cons] at h
  have hle := h.length_deletions_le
  have hnone : between.countP Step.isOpening = 0 := by
    refine List.countP_eq_zero.2 fun later hmem => ?_
    rw [hquiet later hmem]
    exact Bool.false_ne_true
  -- all that can be deleted is the planet that the step has left the dialog open for
  have hone : (openFor (before ++ [step])).toList.length ≤ 1 := by
    cases openFor (before ++ [step]) <;> simp
  omega

/-- A confirmation behind another one sends nothing if no request has opened the dialog since. -/
theorem Sends.exchanges_eq_nil {between : List Step} {second : Step}
    (h : Sends client (before ++ step :: between ++ second :: after))
    (hfirst : step.action = .confirmDelete) (hsecond : second.action = .confirmDelete)
    (hquiet : ∀ later ∈ between, later.isOpening = false) : second.exchanges = [] := by
  have hclosed : openFor (before ++ step :: between) = none := by
    rw [List.append_cons]
    exact openFor_append_eq_none (openFor_concat_of_closing (.inl hfirst)) hquiet
  have hlog := h _ second after rfl
  rw [hsecond, sent, hclosed, Option.toList_none, List.map_nil, List.map_nil, ite_self] at hlog
  exact List.map_eq_nil_iff.1 hlog

/-! ## Runs -/

theorem requestDelete_of_false {page : PlanetPage} {id : String}
    (h : (page.requestDelete id).2 = false) : (page.requestDelete id).1 = page := by
  unfold requestDelete at h ⊢
  split
  · rename_i planet hplanet
    rw [hplanet] at h
    cases h
  · rfl

/-- In every run the dialog is open exactly if it has a target, which is the planet of the last
    successful request if nothing has closed it since.  A deletion is sent only by a
    confirmation, alone, for that planet; behind each request there is at most one until the
    next successful one, and a confirmation that follows another without such a request sends
    nothing.  A confirmation and a cancellation leave the dialog closed, and a request for a
    planet that is not there leaves all as it was. -/
theorem deletions_actAll (server : Server) (past : List Exchange) (client : Client)
    (labels : Labels) (actions : List Action) :
    let start := new client labels
    let ends := run server past (start.actAll actions)
    let steps := history server past start actions
    (steps.map (·.action) = actions ∧ steps.map (·.result) = ends.1.2 ∧
        past ++ steps.flatMap (·.exchanges) = ends.2) ∧
      (ends.1.1.dialog.isOpen = ends.1.1.dialog.target.isSome ∧
        ends.1.1.dialog.target = openFor steps) ∧
      Sends client steps ∧
      (∀ before step after, steps = before ++ step :: after →
        ∀ e ∈ step.exchanges, e.request.method = .delete →
          step.action = .confirmDelete ∧ step.exchanges = [e] ∧
            ∃ id earlier opening between, e.request = client.request (.deletePlanet id) ∧
              before = earlier ++ opening :: between ∧
              (opening.action = .requestDelete id ∧ opening.result = .isListed true) ∧
              ∀ later ∈ between, later.action ≠ .confirmDelete ∧
                later.action ≠ .cancelDelete ∧ later.isOpening = false) ∧
      (steps.flatMap Step.deletions).length ≤ steps.countP Step.isOpening ∧
      (∀ before opening between after, steps = before ++ opening :: between ++ after →
        (∀ later ∈ between, later.isOpening = false) →
          (between.flatMap Step.deletions).length ≤ 1) ∧
      (∀ before first between second after,
        steps = before ++ first :: between ++ second :: after →
        first.action = .confirmDelete → second.action = .confirmDelete →
        (∀ later ∈ between, later.isOpening = false) → second.exchanges = []) ∧
      (∀ step, steps.getLast? = some step →
        step.action = .confirmDelete ∨ step.action = .cancelDelete →
          ends.1.1.dialog.isOpen = false ∧ ends.1.1.dialog.target = none) ∧
      ∀ id, (ends.1.1.requestDelete id).2 = false →
        (ends.1.1.requestDelete id).1 = ends.1.1 := by
  intro start ends steps
  obtain ⟨-, hopens⟩ := opensFor_actAll server past client labels actions
  have hsends : Sends client steps := sends_history server past client labels actions
  refine ⟨history_spec server past start actions, ⟨?_, hopens.target⟩, hsends, ?_, ?_, ?_, ?_,
    ?_, ?_⟩
  · rw [hopens.isOpen, hopens.target]
  · intro before step after hsplit e he hdelete
    rw [hsplit] at hsends
    obtain ⟨haction, honly, id, hopen, hrequest⟩ := hsends.of_delete he hdelete
    obtain ⟨earlier, opening, between, hbefore, hopening, hlater⟩ := openFor_eq_some_iff.1 hopen
    exact ⟨haction, honly, id, earlier, opening, between, hrequest, hbefore, hopening,
      fun later hmem => Step.of_dialog?_eq_none (hlater later hmem)⟩
  · have hle := Sends.length_deletions_le [] steps hsends
    have hclosed : openFor ([] : List Step) = none := rfl
    rw [hclosed] at hle
    simp only [Option.toList_none, List.length_nil] at hle
    omega
  · intro before opening between after hsplit hquiet
    rw [hsplit] at hsends
    exact hsends.of_append.length_deletions_le_one hquiet
  · intro before first between second after hsplit hfirst hsecond hquiet
    rw [hsplit] at hsends
    exact hsends.exchanges_eq_nil hfirst hsecond hquiet
  · intro step hlast hclosing
    obtain ⟨front, hfront⟩ := List.getLast?_eq_some_iff.1 hlast
    have hclosed : openFor steps = none := by
      rw [hfront]
      exact openFor_concat_of_closing hclosing
    exact ⟨by rw [hopens.isOpen, hclosed, Option.isSome_none], by rw [hopens.target, hclosed]⟩
  · exact fun id => requestDelete_of_false

end PlanetPage
end WeblogDesk
