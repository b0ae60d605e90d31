/-
  WeblogDesk.Proofs.Json.Members

  The members of objects and arrays, whatever is read from them.

  Both loops look at what stands in front of a member (`nextEntry`, `nextItem`) and
  leave the member to their reader.  So two readers that agree on each member agree
  on all of them: `readEntries_agree` and `readItems_agree` compare a reader that
  takes members apart at once with one that reads them as values first.
-/

import Mathlib.Data.List.Basic
import WeblogDesk.Json.Reader

namespace WeblogDesk
namespace Json

/-- A result that was changed comes from one that was there. -/
theorem map_eq_ok_iff {ε α β : Type} {x : Except ε α} {f : α → β} {b : β} :
    x.map f = .ok b ↔ ∃ a, x = .ok a ∧ f a = b := by
  cases x <;> simp [Except.map]

/-- A result of two steps comes from a result of each. -/
theorem bind_eq_ok_iff {ε α β : Type} {x : Except ε α} {f : α → Except ε β} {b : β} :
    x >>= f = .ok b ↔ ∃ a, x = .ok a ∧ f a = .ok b := by
  cases x <;> simp [bind, Except.bind]

/-! ## Entries -/

/-- What stands where an entry may begin: the closing brace with what follows, or a key. -/
def nextEntry (first : Bool) (s : List Char) : Except Fault (List Char ⊕ String × List Char) :=
  match skipBlanks s with
  | [] => .error .cutShort
  | '\x7d' :: rest => .ok (.inl rest)
  | c :: rest =>
    if !first && c != ',' then .error .malformed
    else
      match if first then c :: rest else skipBlanks rest with
      | [] => .error .cutShort
      | '"' :: tail => (readString tail).map .inr
      | _ => .error .malformed

section Entries

variable {σ : Type} {step : σ → String → Reader σ} {fuel : Nat} {first : Bool} {g g' : σ}
  {s rest : List Char}

theorem readEntriesFrom_succ (step : σ → String → Reader σ) (fuel : Nat) (first : Bool) (g : σ)
    (s : List Char) :
    readEntriesFrom step (fuel + 1) first g s =
      match nextEntry first s with
      | .error f => .error f
      | .ok (.inl rest) => .ok (g, rest)
      | .ok (.inr (key, tail)) =>
        match step g key tail with
        | .error f => .error f
        | .ok (g, tail) => readEntriesFrom step fuel false g tail := by
  fun_cases nextEntry first s with
  | case1 hblanks => simp only [readEntriesFrom, hblanks]
  | case2 rest hblanks => simp only [readEntriesFrom, hblanks]
  | case3 c rest _ hblanks hcomma => simp only [readEntriesFrom, hblanks, hcomma, if_true]
  | case4 c rest _ hblanks hcomma hkey =>
    simp only [readEntriesFrom, hblanks, hcomma, hkey, Bool.false_eq_true, if_false]
  | case5 c rest _ hblanks hcomma tail hkey =>
    simp only [readEntriesFrom, hblanks, hcomma, hkey, Bool.false_eq_true, if_false]
    cases readString tail <;> rfl
  | case6 c rest _ hblanks hcomma _ _ =>
    simp only [readEntriesFrom, hblanks, hcomma, Bool.false_eq_true, if_false]

/-- Entries are read up to the brace, or there is one more in front of the others. -/
theorem readEntriesFrom_succ_eq_ok_iff :
    readEntriesFrom step (fuel + 1) first g s = .ok (g', rest) ↔
      (nextEntry first s = .ok (.inl rest) ∧ g' = g) ∨
        ∃ key tail next left, nextEntry first s = .ok (.inr (key, tail)) ∧
          step g key tail = .ok (next, left) ∧
          readEntriesFrom step fuel false next left = .ok (g', rest) := by
  rw [readEntriesFrom_succ]
  cases hnext : nextEntry first s with
  | error f => simp
  | ok place =>
    rcases place with left | ⟨key, tail⟩
    · simp [eq_comm, and_comm]
    · cases hstep : step g key tail with
      | error f => simp [hstep]
      | ok found =>
        obtain ⟨next, left⟩ := found
        simp [hstep]

theorem nextEntry_eq_inl_iff :
    nextEntry first s = .ok (.inl rest) ↔ skipBlanks s = '\x7d' :: rest := by
  constructor
  · intro h
    unfold nextEntry at h
    split at h
    · cases h
    · next left hblanks =>
      cases h
      exact hblanks
    · split at h
      · cases h
      · split at h
        · cases h
        · obtain ⟨_, -, hplace⟩ := map_eq_ok_iff.1 h
          cases hplace
        · cases h
  · intro h
    rw [nextEntry, h]
    rfl

/-- The first key follows without a comma. -/
theorem nextEntry_first_eq_inr_iff {key : String} :
    nextEntry true s = .ok (.inr (key, rest)) ↔
      ∃ tail, skipBlanks s = '"' :: tail ∧ readString tail = .ok (key, rest) := by
  constructor
  · intro h
    unfold nextEntry at h
    split at h
    · cases h
    · cases h
    · next c left _ hblanks =>
      simp only [Bool.not_true, Bool.false_and, Bool.false_eq_true, if_false, if_true] at h
      split at h
      · cases h
      · next tail hkey =>
        obtain ⟨_, hread, hplace⟩ := map_eq_ok_iff.1 h
        cases hplace
        exact ⟨tail, hblanks.trans hkey, hread⟩
      · cases h
  · rintro ⟨tail, hblanks, hread⟩
    rw [nextEntry, hblanks]
    exact map_eq_ok_iff.2 ⟨_, hread, rfl⟩

/-- What every step keeps is kept by all of them. -/
theorem readEntriesFrom_induct {P : σ → Prop} (hstart : P g)
    (hstep : ∀ g key s g' rest, P g → step g key s = .ok (g', rest) → P g')
    (h : readEntriesFrom step fuel first g s = .ok (g', rest)) : P g' := by
  induction fuel generalizing first g s with
  | zero => cases h
  | succ fuel ih =>
    rcases readEntriesFrom_succ_eq_ok_iff.1 h with
      ⟨-, rfl⟩ | ⟨key, tail, next, left, -, hread, hrest⟩
    · exact hstart
    · exact ih (hstep _ _ _ _ _ hstart hread) hrest

/-- Reads an entry by its value, in front of those that were read before. -/
def gatherEntry {β : Type} (member : Reader β) (gathered : List (String × β)) (key : String) :
    Reader (List (String × β)) :=
  fun s => (member s).map fun found => ((key, found.1) :: gathered, found.2)

theorem gatherEntry_eq_ok_iff {β : Type} {member : Reader β} {gathered all : List (String × β)}
    {key : String} :
    gatherEntry member gathered key s = .ok (all, rest) ↔
      ∃ v, member s = .ok (v, rest) ∧ all = (key, v) :: gathered := by
  rw [gatherEntry, map_eq_ok_iff]
  constructor
  · rintro ⟨⟨v, left⟩, hread, hall⟩
    cases hall
    exact ⟨v, hread, rfl⟩
  · rintro ⟨v, hread, rfl⟩
    exact ⟨(v, rest), hread, rfl⟩

/-- Whether a step takes an entry as it takes the value that is read from it. -/
def TakesEntries {β : Type} (step : σ → String → Reader σ) (member : Reader β)
    (take : σ → String → β → Option σ) : Prop :=
  ∀ g key s g' rest, step g key s = .ok (g', rest) ↔
    ∃ v, member s = .ok (v, rest) ∧ take g key v = some g'

/-- Entries that are gathered stand in front of those that were gathered before. -/
theorem exists_gathered {β : Type} {member : Reader β} {gathered all : List (String × β)}
    (h : readEntriesFrom (gatherEntry member) fuel first gathered s = .ok (all, rest)) :
    ∃ entries : List (String × β), all = entries.reverse ++ gathered := by
  refine readEntriesFrom_induct
    (P := fun all => ∃ entries : List (String × β), all = entries.reverse ++ gathered)
    ⟨[], rfl⟩ ?_ h
  rintro _ key s _ rest ⟨entries, rfl⟩ hread
  obtain ⟨v, -, rfl⟩ := gatherEntry_eq_ok_iff.1 hread
  exact ⟨entries ++ [(key, v)], by simp⟩

/-- A single entry is a key and what is read behind it, between the braces. -/
theorem readEntries_gather_singleton_iff {β : Type} {member : Reader β} {key : String} {v : β} :
    readEntries (gatherEntry member) [] s = .ok ([(key, v)], rest) ↔
      ∃ text tail left, skipBlanks s = '"' :: text ∧ readString text = .ok (key, tail) ∧
        member tail = .ok (v, left) ∧ skipBlanks left = '\x7d' :: rest := by
  rw [readEntries, readEntriesFrom_succ_eq_ok_iff]
  simp only [nextEntry_first_eq_inr_iff, gatherEntry_eq_ok_iff]
  constructor
  · rintro (⟨-, hnone⟩ | ⟨name, tail, _, left, ⟨text, hblanks, hkey⟩, ⟨w, hread, rfl⟩, hrest⟩)
    · cases hnone
    · cases hlength : s.length with
      | zero =>
        rw [hlength] at hrest
        cases hrest
      | succ fuel =>
        rw [hlength] at hrest
        rcases readEntriesFrom_succ_eq_ok_iff.1 hrest with
          ⟨hclose, hone⟩ | ⟨_, _, _, _, -, hsecond, hmore⟩
        · cases hone
          exact ⟨text, tail, left, hblanks, hkey, hread, nextEntry_eq_inl_iff.1 hclose⟩
        · -- a second entry would be there as well
          obtain ⟨_, -, rfl⟩ := gatherEntry_eq_ok_iff.1 hsecond
          obtain ⟨entries, hall⟩ := exists_gathered hmore
          have hcount := congrArg List.length hall
          simp at hcount
  · rintro ⟨text, tail, left, hblanks, hkey, hread, hclose⟩
    refine .inr ⟨key, tail, _, left, ⟨text, hblanks, hkey⟩, ⟨v, hread, rfl⟩, ?_⟩
    have hlength : s.length ≠ 0 := by
      intro hzero
      rw [List.length_eq_zero_iff.1 hzero] at hblanks
      cases hblanks
    obtain ⟨fuel, hfuel⟩ := Nat.exists_eq_add_one_of_ne_zero hlength
    rw [hfuel]
    exact readEntriesFrom_succ_eq_ok_iff.2 (.inl ⟨nextEntry_eq_inl_iff.2 hclose, rfl⟩)

theorem readEntriesFrom_agree {β : Type} {member : Reader β} {take : σ → String → β → Option σ}
    (htakes : TakesEntries step member take) (gathered : List (String × β)) :
    readEntriesFrom step fuel first g s = .ok (g', rest) ↔
      ∃ entries : List (String × β),
        readEntriesFrom (gatherEntry member) fuel first gathered s =
          .ok (entries.reverse ++ gathered, rest) ∧
        entries.foldlM (fun g e => take g e.1 e.2) g = some g' := by
  induction fuel generalizing first g s gathered with
  | zero => simp [readEntriesFrom]
  | succ fuel ih =>
    simp only [readEntriesFrom_succ_eq_ok_iff, htakes _ _ _ _ _, gatherEntry_eq_ok_iff]
    constructor
    · rintro (⟨hnext, rfl⟩ | ⟨key, tail, next, left, hnext, ⟨v, hread, htake⟩, hrest⟩)
      · exact ⟨[], .inl ⟨hnext, rfl⟩, rfl⟩
      · obtain ⟨entries, hgather, hfold⟩ := (ih ((key, v) :: gathered)).1 hrest
        refine ⟨(key, v) :: entries, .inr ⟨key, tail, _, left, hnext, ⟨v, hread, rfl⟩, ?_⟩, ?_⟩
        · rw [hgather, List.reverse_cons, List.append_assoc]
          rfl
        · rw [List.foldlM_cons, htake]
          exact hfold
    · rintro ⟨entries, ⟨hnext, hnone⟩ | ⟨key, tail, _, left, hnext, ⟨v, hread, rfl⟩, hrest⟩, hfold⟩
      · have hentries : entries = [] := by simpa using hnone
        subst hentries
        exact .inl ⟨hnext, (Option.some.inj hfold).symm⟩
      · -- the entry that was gathered first is the first of all
        obtain ⟨others, hothers⟩ := exists_gathered hrest
        have hentries : entries = (key, v) :: others := by
          rw [← List.reverse_inj]
          refine List.append_cancel_right (hothers.trans ?_)
          simp
        subst hentries
        rw [hothers] at hrest
        rw [List.foldlM_cons] at hfold
        cases htake : take g key v with
        | none =>
          rw [htake] at hfold
          cases hfold
        | some next =>
          rw [htake] at hfold
          exact .inr ⟨key, tail, next, left, hnext, ⟨v, hread, htake⟩,
            (ih _).2 ⟨others, hrest, hfold⟩⟩

/-- Entries are taken as the values are that are read from them. -/
theorem readEntries_agree {β : Type} {member : Reader β} {take : σ → String → β → Option σ}
    (htakes : TakesEntries step member take) :
    readEntries step g s = .ok (g', rest) ↔
      ∃ entries : List (String × β),
        readEntries (gatherEntry member) [] s = .ok (entries.reverse, rest) ∧
        entries.foldlM (fun g e => take g e.1 e.2) g = some g' := by
  rw [readEntries, readEntriesFrom_agree htakes []]
  simp only [List.append_nil, readEntries]

end Entries

/-! ## Items -/

/-- What stands where an item may begin: the closing bracket with what follows, or an item. -/
def nextItem (first : Bool) (s : List Char) : Except Fault (List Char ⊕ List Char) :=
  match skipBlanks s with
  | [] => .error .cutShort
  | ']' :: rest => .ok (.inl rest)
  | c :: rest =>
    if !first && c != ',' then .error .malformed
    else
      match if first then c :: rest else skipBlanks rest with
      | [] => .error .cutShort
      | ']' :: _ => .error .malformed
      | tail => .ok (.inr tail)

section Items

variable {α β : Type} {item : Reader α} {value : Reader β} {decode : β → Option α} {fuel : Nat}
  {first : Bool} {gathered all xs : List α} {s rest : List Char}

theorem readItemsFrom_succ (item : Reader α) (fuel : Nat) (first : Bool) (gathered : List α)
    (s : List Char) :
    readItemsFrom item (fuel + 1) first gathered s =
      match nextItem first s with
      | .error f => .error f
      | .ok (.inl rest) => .ok (gathered.reverse, rest)
      | .ok (.inr tail) =>
        match item tail with
        | .error f => .error f
        | .ok (x, tail) => readItemsFrom item fuel false (x :: gathered) tail := by
  fun_cases nextItem first s with
  | case1 hblanks => simp only [readItemsFrom, hblanks]
  | case2 rest hblanks => simp only [readItemsFrom, hblanks]
  | case3 c rest _ hblanks hcomma => simp only [readItemsFrom, hblanks, hcomma, if_true]
  | case4 c rest _ hblanks hcomma hitem =>
    simp only [readItemsFrom, hblanks, hcomma, hitem, Bool.false_eq_true, if_false]
  | case5 c rest _ hblanks hcomma tail hitem =>
    simp only [readItemsFrom, hblanks, hcomma, hitem, Bool.false_eq_true, if_false]
  | case6 c rest _ hblanks hcomma _ _ =>
    cases hitem : item (if first then c :: rest else skipBlanks rest) <;>
      simp only [readItemsFrom, hblanks, hcomma, hitem, Bool.false_eq_true, if_false]

/-- Items are read up to the bracket, or there is one more in front of the others. -/
theorem readItemsFrom_succ_eq_ok_iff :
    readItemsFrom item (fuel + 1) first gathered s = .ok (all, rest) ↔
      (nextItem first s = .ok (.inl rest) ∧ all = gathered.reverse) ∨
        ∃ tail x left, nextItem first s = .ok (.inr tail) ∧ item tail = .ok (x, left) ∧
          readItemsFrom item fuel false (x :: gathered) left = .ok (all, rest) := by
  rw [readItemsFrom_succ]
  cases hnext : nextItem first s with
  | error f => simp
  | ok place =>
    rcases place with left | tail
    · simp [eq_comm, and_comm]
    · cases hitem : item tail with
      | error f => simp [hitem]
      | ok found =>
        obtain ⟨x, left⟩ := found
        simp [hitem]

/-- Items stand behind those that were read before, and each of them was read. -/
theorem exists_items (h : readItemsFrom item fuel first gathered s = .ok (all, rest)) :
    ∃ items, all = gathered.reverse ++ items ∧
      ∀ x ∈ items, ∃ tail left, item tail = .ok (x, left) := by
  induction fuel generalizing first gathered s with
  | zero => cases h
  | succ fuel ih =>
    rcases readItemsFrom_succ_eq_ok_iff.1 h with ⟨-, rfl⟩ | ⟨tail, x, left, -, hread, hrest⟩
    · exact ⟨[], (List.append_nil _).symm, List.forall_mem_nil _⟩
    · obtain ⟨items, rfl, hitems⟩ := ih hrest
      exact ⟨x :: items, by simp, List.forall_mem_cons.2 ⟨⟨tail, left, hread⟩, hitems⟩⟩

/-- Whether something is read as it is decoded from the value that is read in its place. -/
def Decodes (item : Reader α) (value : Reader β) (decode : β → Option α) : Prop :=
  ∀ s x rest, item s = .ok (x, rest) ↔ ∃ v, value s = .ok (v, rest) ∧ decode v = some x

theorem readItemsFrom_agree (hdecodes : Decodes item value decode) (values : List β) :
    readItemsFrom item fuel first gathered s = .ok (gathered.reverse ++ xs, rest) ↔
      ∃ ys, readItemsFrom value fuel first values s = .ok (values.reverse ++ ys, rest) ∧
        ys.mapM decode = some xs := by
  induction fuel generalizing first gathered values s xs with
  | zero => simp [readItemsFrom]
  | succ fuel ih =>
    simp only [readItemsFrom_succ_eq_ok_iff, hdecodes _ _ _]
    constructor
    · rintro (⟨hnext, hnone⟩ | ⟨tail, x, left, hnext, ⟨v, hread, hdecode⟩, hrest⟩)
      · have hxs : xs = [] := by simpa using hnone
        subst hxs
        exact ⟨[], .inl ⟨hnext, List.append_nil _⟩, rfl⟩
      · -- the item that was read first is the first of all
        obtain ⟨others, hothers, -⟩ := exists_items hrest
        have hxs : xs = x :: others := List.append_cancel_left (hothers.trans (by simp))
        subst hxs
        rw [hothers] at hrest
        obtain ⟨ys, hvalues, hmap⟩ := (ih (v :: values)).1 hrest
        refine ⟨v :: ys, .inr ⟨tail, v, left, hnext, hread, ?_⟩, ?_⟩
        · rw [hvalues, List.reverse_cons, List.append_assoc]
          rfl
        · simp [List.mapM_cons, hdecode, hmap]
    · rintro ⟨ys, ⟨hnext, hnone⟩ | ⟨tail, v, left, hnext, hread, hrest⟩, hmap⟩
      · have hys : ys = [] := by simpa using hnone
        subst hys
        cases hmap
        exact .inl ⟨hnext, List.append_nil _⟩
      · obtain ⟨others, hothers, -⟩ := exists_items hrest
        have hys : ys = v :: others := List.append_cancel_left (hothers.trans (by simp))
        subst hys
        rw [hothers] at hrest
        simp only [List.mapM_cons, Option.bind_eq_bind, Option.bind_eq_some_iff, Option.pure_def,
          Option.some.injEq] at hmap
        obtain ⟨x, hdecode, xs, hmap, rfl⟩ := hmap
        refine .inr ⟨tail, x, left, hnext, ⟨v, hread, hdecode⟩, ?_⟩
        have hitems : readItemsFrom item fuel false (x :: gathered) left =
            .ok ((x :: gathered).reverse ++ xs, rest) := (ih (v :: values)).2 ⟨others, hrest, hmap⟩
        simpa using hitems

/-- Items are read as they are decoded from the values that are read from them. -/
theorem readItems_agree (hdecodes : Decodes item value decode) :
    readItems item s = .ok (xs, rest) ↔
      ∃ ys, readItems value s = .ok (ys, rest) ∧ ys.mapM decode = some xs := by
  have hagree : readItemsFrom item (s.length + 1) true [] s = .ok ([].reverse ++ xs, rest) ↔ _ :=
    readItemsFrom_agree hdecodes []
  exact hagree

end Items

/-! ## Whole texts -/

section Whole

variable {α β : Type} {item : Reader α} {value : Reader β} {decode : β → Option α} {text : String}

theorem readWhole_eq_ok_iff {a : α} :
    readWhole item text = .ok a ↔
      ∃ rest, item text.toList = .ok (a, rest) ∧ (skipBlanks rest).isEmpty = true := by
  rw [readWhole]
  cases item text.toList with
  | error f => simp
  | ok found =>
    obtain ⟨b, left⟩ := found
    simp only [Except.ok.injEq, Prod.mk.injEq]
    constructor
    · intro h
      split at h
      · next hleft =>
        cases h
        exact ⟨left, ⟨rfl, rfl⟩, hleft⟩
      · cases h
    · rintro ⟨rest, ⟨rfl, rfl⟩, hleft⟩
      rw [if_pos hleft]

/-- A whole text is read as it is decoded from the value that it writes. -/
theorem readWhole_agree (hdecodes : Decodes item value decode) {a : α} :
    readWhole item text = .ok a ↔ ∃ v, readWhole value text = .ok v ∧ decode v = some a := by
  simp only [readWhole_eq_ok_iff, hdecodes _ _ _]
  constructor
  · rintro ⟨rest, ⟨v, hread, hdecode⟩, hrest⟩
    exact ⟨v, ⟨rest, hread, hrest⟩, hdecode⟩
  · rintro ⟨v, ⟨rest, hread, hrest⟩, hdecode⟩
    exact ⟨rest, ⟨v, hread, hdecode⟩, hrest⟩

end Whole

end Json
end WeblogDesk
