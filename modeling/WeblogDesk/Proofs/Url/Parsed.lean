/-
  WeblogDesk.Proofs.Url.Parsed

  What a URL that was read looks like: `parse_cases` tells the ways to read one, and
  no segment of its path holds a slash.

  A text is cut into segments at its slashes, and nothing that is done to a
  segment afterwards brings one in.
-/

import WeblogDesk.Proofs.Url.Encoding
import WeblogDesk.Url.Parser

namespace WeblogDesk
namespace Url

/-! ## Cutting a text -/

/-- No part between separators holds one. -/
theorem separates_of_mem_splitAtSeparator {separates : Char → Bool} {s part : List Char}
    (hpart : part ∈ splitAtSeparator separates s) {c : Char} (hc : c ∈ part) :
    separates c = false := by
  induction s generalizing part with
  | nil =>
    simp only [splitAtSeparator, List.mem_singleton] at hpart
    subst hpart
    exact absurd hc List.not_mem_nil
  | cons d rest ih =>
    simp only [splitAtSeparator] at hpart
    split at hpart
    · rcases List.mem_cons.1 hpart with rfl | hpart
      · exact absurd hc List.not_mem_nil
      · exact ih hpart hc
    · -- a character that does not separate goes in front of the first part
      rename_i hd
      cases hsplit : splitAtSeparator separates rest with
      | nil =>
        rw [hsplit, List.mem_singleton] at hpart
        subst hpart
        obtain rfl := List.mem_singleton.1 hc
        simpa using hd
      | cons first others =>
        rw [hsplit] at hpart
        rcases List.mem_cons.1 hpart with rfl | hpart
        · rcases List.mem_cons.1 hc with rfl | hc
          · simpa using hd
          · exact ih (by rw [hsplit]; exact List.mem_cons_self) hc
        · exact ih (by rw [hsplit]; exact List.mem_cons_of_mem first hpart) hc

/-! ## Paths without slashes -/

namespace Path

/-- No segment of the path holds a slash. -/
def SlashFree (path : Path) : Prop :=
  ∀ segment ∈ path, '/' ∉ segment

theorem slashFree_nil : SlashFree [] := by
  intro segment h
  exact absurd h List.not_mem_nil

theorem SlashFree.concat {path : Path} (h : SlashFree path) {segment : List Char}
    (hs : '/' ∉ segment) : SlashFree (path ++ [segment]) := by
  intro other hother
  rcases List.mem_append.1 hother with hother | hother
  · exact h other hother
  · obtain rfl := List.mem_singleton.1 hother
    exact hs

theorem SlashFree.shorten {path : Path} (h : SlashFree path) : SlashFree (shorten path) := by
  unfold Path.shorten
  split
  · exact slashFree_nil
  · split
    · exact h
    · exact fun segment hs => h segment (List.dropLast_subset path hs)

theorem SlashFree.enter {path : Path} (h : SlashFree path) (file : Bool) {segment : List Char}
    (hs : '/' ∉ segment) : SlashFree (enter file path segment) := by
  unfold Path.enter
  split
  · intro other hother
    obtain rfl := List.mem_singleton.1 hother
    -- a drive keeps its letter and is given a colon
    intro hslash
    rcases List.mem_append.1 hslash with hslash | hslash
    · exact hs (List.mem_of_mem_take hslash)
    · exact absurd hslash (by decide)
  · exact h.concat hs

/-- Encoding brings in no slash. -/
theorem slash_notMem_encode {set : Char → Bool} {s : List Char} (h : '/' ∉ s) :
    '/' ∉ encode set s := by
  intro hslash
  rcases mem_encode hslash with ⟨hmem, -⟩ | hpercent | ⟨n, hn, hdigit⟩
  · exact h hmem
  · exact absurd hpercent (by decide)
  · exact absurd hdigit.symm ((by decide : ∀ n < 16, Text.upperHex n ≠ '/') n hn)

/-- Following the segments of a text. -/
theorem SlashFree.resolve {path : Path} (h : SlashFree path) (file : Bool)
    {segments : List (List Char)} (hs : SlashFree segments) :
    SlashFree (resolve file path segments) := by
  induction segments generalizing path with
  | nil => exact h
  | cons raw rest ih =>
    have hrest : SlashFree rest := fun segment hm => hs segment (List.mem_cons_of_mem raw hm)
    have hraw : '/' ∉ raw := hs raw List.mem_cons_self
    rw [Path.resolve]
    refine ih ?_ hrest
    cases hstep : Step.ofText raw with
    | stay =>
      dsimp only
      split
      · exact h.concat List.not_mem_nil
      · exact h
    | up =>
      dsimp only
      split
      · exact h.shorten.concat List.not_mem_nil
      · exact h.shorten
    | down segment =>
      -- going down adds the text itself, encoded
      have hsegment : segment = encode pathSet raw := by
        unfold Step.ofText at hstep
        split at hstep
        · cases hstep
        · split at hstep
          · cases hstep
          · cases hstep
            rfl
      subst hsegment
      exact h.enter file (slash_notMem_encode hraw)

theorem SlashFree.dropEmpty {path : Path} (h : SlashFree path) : SlashFree (dropEmpty path) := by
  fun_induction Path.dropEmpty path with
  | case1 next rest ih => exact ih fun segment hs => h segment (List.mem_cons_of_mem [] hs)
  | case2 path => exact h

end Path

/-! ## URLs that were read -/

open Url.Path

theorem slashFree_readPath (file special : Bool) (raw : List Char) :
    SlashFree (readPath file special raw) := by
  unfold readPath
  refine slashFree_nil.resolve file ?_
  intro segment hs hslash
  have hcut := separates_of_mem_splitAtSeparator hs hslash
  simp [isSlash] at hcut

variable {idna : Idna} {scheme s : List Char} {u : Url}

/-- A URL of a file has an authority, and its path is read. -/
theorem exists_of_readFile (h : readFile idna s = .ok u) :
    u.scheme = fileScheme ∧ (∃ a, u.lead = .authority a) ∧
      ∃ raw, u.path = (readPath true true raw).dropEmpty := by
  unfold readFile at h
  cases hhost : readFileHost idna s with
  | error fault => rw [hhost] at h; cases h
  | ok found =>
    rw [hhost] at h
    cases h
    exact ⟨rfl, ⟨_, rfl⟩, _, rfl⟩

/-- A URL that is read with an authority has one, and its path is read unless it is empty. -/
theorem exists_of_readHierarchical (h : readHierarchical idna scheme s = .ok u) :
    u.scheme = scheme ∧ (∃ a, u.lead = .authority a) ∧
      (u.path = [] ∨ ∃ raw, u.path = readPath false (isSpecialScheme scheme) raw) := by
  unfold readHierarchical at h
  cases hauthority : readAuthority idna scheme s with
  | error fault => simp only [hauthority] at h; cases h
  | ok found =>
    simp only [hauthority] at h
    cases h
    refine ⟨rfl, ⟨_, rfl⟩, ?_⟩
    dsimp only
    split
    · exact .inl rfl
    · exact .inr ⟨_, rfl⟩

/-- A URL that was read is that of a file, or has an authority, or has none: schemes of the network
    always have one, and the others behind two slashes. -/
theorem parse_cases {text : String} (h : parse idna text = .ok u) :
    ∃ scheme s, scheme? (clean text.toList) = some (scheme, s) ∧
      (scheme = fileScheme ∧ readFile idna s = .ok u ∨
        (scheme ≠ fileScheme ∧ isSpecialScheme scheme = true ∧
          readHierarchical idna scheme (s.dropWhile (isSlash true)) = .ok u) ∨
        (isSpecialScheme scheme = false ∧
          ((∃ rest, readHierarchical idna scheme rest = .ok u) ∨ u = readPlain scheme s))) := by
  unfold parse at h
  split at h
  · cases h
  · next scheme s hscheme =>
    refine ⟨scheme, s, hscheme, ?_⟩
    split at h
    · next hfile => exact .inl ⟨hfile, h⟩
    · next hfile =>
      split at h
      · next hspecial => exact .inr (.inl ⟨hfile, hspecial, h⟩)
      · next hspecial =>
        refine .inr (.inr ⟨eq_false_of_ne_true hspecial, ?_⟩)
        split at h
        · exact .inl ⟨_, h⟩
        · exact .inr (Except.ok.inj h).symm

/-! ## Their paths -/

theorem slashFree_readHierarchical (h : readHierarchical idna scheme s = .ok u) :
    SlashFree u.path := by
  obtain ⟨-, -, hpath | ⟨raw, hpath⟩⟩ := exists_of_readHierarchical h
  · exact hpath ▸ slashFree_nil
  · exact hpath ▸ slashFree_readPath false _ raw

theorem slashFree_readPlain (scheme s : List Char) : SlashFree (readPlain scheme s).path := by
  unfold readPlain
  dsimp only
  split
  · exact slashFree_readPath false false _
  · exact slashFree_nil

/-- No segment of a URL that was read holds a slash. -/
theorem slashFree_of_parse {text : String} (h : parse idna text = .ok u) : SlashFree u.path := by
  obtain ⟨scheme, s, -, ⟨-, hread⟩ | ⟨-, -, hread⟩ | ⟨-, ⟨rest, hread⟩ | rfl⟩⟩ := parse_cases h
  · obtain ⟨-, -, raw, hpath⟩ := exists_of_readFile hread
    exact hpath ▸ (slashFree_readPath true true raw).dropEmpty
  · exact slashFree_readHierarchical hread
  · exact slashFree_readHierarchical hread
  · exact slashFree_readPlain scheme s

end Url
end WeblogDesk
