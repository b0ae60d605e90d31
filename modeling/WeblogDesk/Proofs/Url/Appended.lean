/-
  WeblogDesk.Proofs.Url.Appended

  Paths of texts that go on.

  A text is cut at its slashes, so what is appended changes the last segment only
  (`readPath_append`).  `resolve_eq_stem_iff` compares the two ways in which a path
  goes on: as a text with more segments behind it, and as a path with names behind
  its stem.  They differ where the text ends in a slash or in blanks, and at a root
  that dots leave.
-/

import WeblogDesk.Proofs.Endpoint.Segments
import WeblogDesk.Proofs.Url.Blanks
import WeblogDesk.Proofs.Url.Rooted

namespace WeblogDesk
namespace Url

open Url.Path

/-! ## Segments of a path that goes on -/

/-- Cutting at a separator cuts both sides on their own. -/
theorem splitAtSeparator_append_cons {separates : Char → Bool} {sep : Char}
    (hsep : separates sep = true) (x y : List Char) :
    splitAtSeparator separates (x ++ sep :: y) =
      splitAtSeparator separates x ++ splitAtSeparator separates y := by
  induction x with
  | nil => simp [splitAtSeparator, hsep]
  | cons c x ih =>
    rw [List.cons_append, splitAtSeparator, splitAtSeparator, ih]
    split
    · rfl
    · cases hx : splitAtSeparator separates x with
      | nil => exact absurd hx (splitAtSeparator_ne_nil separates x)
      | cons part parts => rfl

/-- A text with a separator ends in a part behind its last one. -/
theorem exists_eq_append_cons {separates : Char → Bool} {s : List Char} {c : Char} (hc : c ∈ s)
    (hsep : separates c = true) :
    ∃ before sep last, s = before ++ sep :: last ∧ separates sep = true ∧
      ∀ d ∈ last, separates d = false := by
  have hne : s.rdropWhile (!separates ·) ≠ [] := by
    intro hnil
    have hall := List.rdropWhile_eq_nil_iff.1 hnil c hc
    rw [hsep] at hall
    cases hall
  refine ⟨(s.rdropWhile (!separates ·)).dropLast, (s.rdropWhile (!separates ·)).getLast hne,
    s.rtakeWhile (!separates ·), ?_, ?_, ?_⟩
  · rw [List.append_cons, List.dropLast_append_getLast, List.rdropWhile_append_rtakeWhile]
  · simpa using List.rdropWhile_last_not (!separates ·) s hne
  · intro d hd
    simpa using List.mem_rtakeWhile_imp hd

theorem readPath_cons {sep : Char} (hsep : isSlash true sep = true) (rest : List Char) :
    readPath false true (sep :: rest) =
      resolve false [] (splitAtSeparator (isSlash true) rest) := by
  simp only [readPath, hsep, if_true]

/-- All segments of a path but the last stay when its text goes on, and the last one is joined
    with the text up to the next slash. -/
theorem readPath_append {path : List Char} {c : Char} (hhead : path.head? = some c)
    (hslash : isSlash true c = true) :
    ∃ init last,
      (last ≠ [] ↔ ∃ d, path.getLast? = some d ∧ isSlash true d = false) ∧
      readPath false true path = resolve false [] (init ++ [last]) ∧
      ∀ w y, (∀ d ∈ w, isSlash true d = false) →
        readPath false true (path ++ w ++ '/' :: y) =
          resolve false [] (init ++ (last ++ w) :: splitAtSeparator (isSlash true) y) := by
  obtain ⟨before, sep, last, rfl, hsep, hlast⟩ :=
    exists_eq_append_cons (List.mem_of_mem_head? hhead) hslash
  have hends : last ≠ [] ↔
      ∃ d, (before ++ sep :: last).getLast? = some d ∧ isSlash true d = false := by
    rcases List.eq_nil_or_concat last with rfl | ⟨init, d, rfl⟩
    · simp [hsep]
    · have hd := hlast d (by simp)
      rw [List.concat_eq_append, ← List.cons_append, ← List.append_assoc, List.getLast?_concat]
      simp [hd]
  -- up to the first slash of the text there is nothing
  obtain ⟨init, hinit⟩ : ∃ init, ∀ z, readPath false true (before ++ sep :: z) =
      resolve false [] (init ++ splitAtSeparator (isSlash true) z) := by
    cases before with
    | nil => exact ⟨[], fun z => readPath_cons hsep z⟩
    | cons first rest =>
      have hfirst : isSlash true first = true := by
        rw [List.cons_append, List.head?_cons, Option.some_inj] at hhead
        rwa [hhead]
      exact ⟨splitAtSeparator (isSlash true) rest, fun z => by
        rw [List.cons_append, readPath_cons hfirst, splitAtSeparator_append_cons hsep]⟩
  refine ⟨init, last, hends, by rw [hinit, splitAtSeparator_of_forall hlast], ?_⟩
  intro w y hw
  have hjoined : ∀ d ∈ last ++ w, isSlash true d = false := fun d hd =>
    (List.mem_append.1 hd).elim (hlast d) (hw d)
  rw [List.append_assoc, List.append_assoc, List.cons_append, hinit, ← List.append_assoc last,
    splitAtSeparator_append hjoined rfl]

namespace Path

/-! ## Segments that lead on -/

/-- The path after segments that more segments stand behind. -/
def walk (path : Path) (segments : List (List Char)) : Path :=
  segments.foldl
    (fun path raw =>
      match Step.ofText raw with
      | .stay => path
      | .up => shorten path
      | .down segment => path ++ [segment])
    path

/-- Segments that others stand behind leave no slash at the end. -/
theorem resolve_append (path : Path) (init : List (List Char)) {more : List (List Char)}
    (hmore : more ≠ []) :
    resolve false path (init ++ more) = resolve false (walk path init) more := by
  induction init generalizing path with
  | nil => rfl
  | cons raw rest ih =>
    have hne : (rest ++ more).isEmpty = false := by simp [hmore]
    rw [List.cons_append, resolve, hne, walk, List.foldl_cons]
    cases Step.ofText raw with
    | stay => exact ih path
    | up => exact ih (shorten path)
    | down segment => exact ih (path ++ [segment])

/-- Segments that lead down are added one by one. -/
theorem resolve_down (path : Path) {segments : List (List Char)}
    (h : ∀ raw ∈ segments, Step.ofText raw = .down raw) :
    resolve false path segments = path ++ segments := by
  induction segments generalizing path with
  | nil => rw [resolve, List.append_nil]
  | cons raw rest ih =>
    rw [resolve, h raw List.mem_cons_self]
    show resolve false (path ++ [raw]) rest = path ++ raw :: rest
    rw [ih _ fun other hother => h other (List.mem_cons_of_mem raw hother), List.append_assoc,
      List.singleton_append]

theorem stem_concat_nil (path : Path) :
    stem (path ++ [[]]) = if path = [[]] then [] else path := by
  cases path with
  | nil => rfl
  | cons first rest => rw [stem, dropSlash_concat_nil (List.cons_ne_nil first rest), base]

theorem stem_concat_of_ne {last : List Char} (h : last ≠ []) (path : Path) :
    stem (path ++ [last]) = path ++ [last] := by
  rw [stem, dropSlash_concat_of_ne h]
  apply base_of_ne
  intro heq
  have hlast := congrArg List.getLast? heq
  rw [List.getLast?_concat, List.getLast?_singleton, Option.some_inj] at hlast
  exact h hlast

theorem length_stem_concat_nil_le (path : Path) : (stem (path ++ [[]])).length ≤ path.length := by
  rw [stem_concat_nil]
  split
  · exact Nat.zero_le _
  · exact Nat.le_refl _

theorem length_shorten_le (path : Path) : (shorten path).length ≤ path.length := by
  unfold shorten
  split
  · exact Nat.zero_le _
  · split
    · exact Nat.le_refl _
    · simp

/-- A stem is no longer than the path that a slash was put behind. -/
theorem concat_ne_stem_concat_nil {path other : Path} {segment : List Char}
    (h : other.length ≤ path.length) : path ++ [segment] ≠ stem (other ++ [[]]) := by
  intro heq
  have hlength := congrArg List.length heq
  have hstem := length_stem_concat_nil_le other
  rw [List.length_append, List.length_singleton] at hlength
  omega

theorem stem_concat_nil_eq_iff (path : Path) :
    path = stem (path ++ [[]]) ↔ path ++ [[]] ≠ [[], []] := by
  show _ ↔ path ++ [[]] ≠ [[]] ++ [[]]
  rw [stem_concat_nil, ne_eq, List.append_left_inj]
  split
  · next heq => simp [heq]
  · next hne => simp [hne]

/-! ## The last segment -/

theorem encode_ne_nil (set : Char → Bool) {s : List Char} (h : s ≠ []) : encode set s ≠ [] := by
  obtain ⟨c, rest, rfl⟩ := List.exists_cons_of_ne_nil h
  rw [encode_cons, encodeChar]
  refine List.append_ne_nil_of_left_ne_nil ?_ _
  split
  · obtain ⟨b, bs, hbytes⟩ := List.exists_cons_of_ne_nil (String.utf8EncodeChar_ne_nil (c := c))
    simp [hbytes, percentByte]
  · exact List.cons_ne_nil c []

/-- The path of a text ends in the last segment of the text, which leads down, or in the slash
    that dots leave. -/
theorem walk_singleton_cases (path : Path) (raw : List Char) :
    (raw ≠ [] ∧ resolve false path [raw] = walk path [raw] ++ [[]] ∧
        (walk path [raw]).length ≤ path.length) ∨
      Step.ofText raw = .down (encode pathSet raw) ∧
        resolve false path [raw] = walk path [raw] ∧
        walk path [raw] = path ++ [encode pathSet raw] := by
  have hne {step : Step} (hstep : Step.ofText raw = step) (hdown : step ≠ .down []) :
      raw ≠ [] := by
    rintro rfl
    exact hdown hstep.symm
  simp only [resolve, walk, List.foldl_cons, List.foldl_nil]
  cases hstep : Step.ofText raw with
  | stay => exact .inl ⟨hne hstep (by simp), rfl, Nat.le_refl _⟩
  | up => exact .inl ⟨hne hstep (by simp), rfl, length_shorten_le path⟩
  | down segment =>
    obtain ⟨-, -, rfl⟩ := ofText_eq_down_iff.1 hstep
    exact .inr ⟨rfl, rfl, rfl⟩

/-- Segments go on behind the stem of a path if its text does not end in a slash or a blank,
    and if dots at its end do not leave a root. -/
theorem resolve_eq_stem_iff {more : List (List Char)}
    (hmore : ∀ raw ∈ more, Step.ofText raw = .down raw) (hne : more ≠ []) {w : List Char}
    (hw : ∀ c ∈ w, isOutside c = true) (init : List (List Char)) (last : List Char) :
    resolve false [] (init ++ (last ++ w) :: more) =
        stem (resolve false [] (init ++ [last])) ++ more ↔
      w = [] ∧ last ≠ [] ∧ resolve false [] (init ++ [last]) ≠ [[], []] := by
  have hgoal : resolve false [] (init ++ (last ++ w) :: more) =
      walk (walk [] init) [last ++ w] ++ more := by
    rw [List.append_cons, resolve_append [] _ hne, resolve_down _ hmore, walk, List.foldl_append]
    rfl
  rw [hgoal, List.append_left_inj, resolve_append [] init (List.cons_ne_nil last [])]
  generalize walk [] init = path
  by_cases hblank : w = []
  · subst hblank
    rw [List.append_nil]
    rcases walk_singleton_cases path last with ⟨hlast, hresolve, -⟩ | ⟨-, hresolve, hwalk⟩
    · rw [hresolve, stem_concat_nil_eq_iff]
      simp [hlast]
    · rw [hresolve, hwalk]
      by_cases hlast : last = []
      · -- the slash at the end of the text stays, and the stem has none
        subst hlast
        exact iff_of_false (concat_ne_stem_concat_nil (Nat.le_refl _)) (by simp)
      · have hsegment := encode_ne_nil pathSet hlast
        rw [stem_concat_of_ne hsegment]
        refine iff_of_true rfl ⟨rfl, hlast, fun heq => hsegment ?_⟩
        simpa using congrArg List.getLast? heq
  · -- the blanks stay in the last segment, which no URL has them in
    have hwalk : walk path [last ++ w] = path ++ [encode pathSet (last ++ w)] := by
      rw [walk, List.foldl_cons, ofText_append hw hblank]
      rfl
    rw [hwalk]
    refine iff_of_false ?_ (by simp [hblank])
    rcases walk_singleton_cases path last with ⟨-, hresolve, hlength⟩ | ⟨-, hresolve, hlast⟩
    · rw [hresolve]
      exact concat_ne_stem_concat_nil hlength
    · rw [hresolve, hlast]
      by_cases hnil : last = []
      · subst hnil
        exact concat_ne_stem_concat_nil (Nat.le_refl _)
      · rw [stem_concat_of_ne (encode_ne_nil pathSet hnil)]
        intro heq
        have hsame : encode pathSet (last ++ w) = encode pathSet last := by
          simpa using heq
        rw [encode, List.flatMap_append] at hsame
        exact encode_ne_nil pathSet hblank (List.append_right_eq_self.1 hsame)

/-! ## The text of a path -/

theorem splitAtSeparator_append_text {segment : List Char} {path : Path}
    (hsegment : '/' ∉ segment) (h : SlashFree path) :
    splitAtSeparator (· == '/') (segment ++ path.text) = segment :: path := by
  have hplain {segment : List Char} (hfree : '/' ∉ segment) : ∀ c ∈ segment, (c == '/') = false :=
    fun c hc => beq_false_of_ne fun heq => hfree (heq ▸ hc)
  induction path generalizing segment with
  | nil =>
    rw [text, List.flatMap_nil, List.append_nil, splitAtSeparator_of_forall (hplain hsegment)]
  | cons next rest ih =>
    rw [text_cons, splitAtSeparator_append (hplain hsegment) rfl,
      ih (h next List.mem_cons_self) fun other hother => h other (List.mem_cons_of_mem next hother)]

/-- The text of a path tells the path. -/
theorem text_injective {path path' : Path} (h : SlashFree path) (h' : SlashFree path')
    (heq : path.text = path'.text) : path = path' := by
  have hcut := splitAtSeparator_append_text List.not_mem_nil h
  rw [heq, splitAtSeparator_append_text List.not_mem_nil h'] at hcut
  exact (List.cons.inj hcut).2.symm

theorem mem_of_mem_stem {path : Path} {segment : List Char} (h : segment ∈ stem path) :
    segment ∈ path := by
  have hdrop : segment ∈ dropSlash path := by
    unfold stem base at h
    split at h
    · exact absurd h List.not_mem_nil
    · exact h
  unfold dropSlash at hdrop
  split at hdrop
  · exact (List.dropLast_sublist path).subset hdrop
  · exact hdrop

end Path

theorem render_inj {u : Url} {path path' : Path} (h : SlashFree path) (h' : SlashFree path') :
    ({ u with path := path } : Url).render = ({ u with path := path' } : Url).render ↔
      path = path' := by
  constructor
  · intro heq
    have htext := String.ofList_injective heq
    exact text_injective h h' (by simpa using htext)
  · rintro rfl
    rfl

end Url
end WeblogDesk
