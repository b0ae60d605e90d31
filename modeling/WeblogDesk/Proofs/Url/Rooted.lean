/-
  WeblogDesk.Proofs.Url.Rooted

  Which URLs can carry a path, told from their text.

  A URL can be extended if the text behind the colon of its scheme begins with a
  slash.  Reading a text sorts URLs by how they are read: with an authority, from a
  slash on, or as one piece.  `isRooted_iff_of_parse` says that this is the same for
  every text, so a check of the text finds nothing among the URLs that were read
  with a path: an authority begins with slashes, a path that is read from a slash
  has a segment, and nothing else begins with one.
-/

import WeblogDesk.Proofs.Url.Parsed

namespace WeblogDesk
namespace Url

/-- Whether the URL has a path, and not one piece of text in place of it. -/
def IsHierarchical (u : Url) : Prop :=
  ∀ text, u.lead ≠ .rootless text

/-! ## Paths that are read from a slash -/

/-- A path that was followed has a segment: the last one always leaves one. -/
theorem Path.resolve_ne_nil (file : Bool) (path : Path) {segments : List (List Char)}
    (h : segments ≠ []) : resolve file path segments ≠ [] := by
  induction segments generalizing path with
  | nil => exact absurd rfl h
  | cons raw rest ih =>
    rw [resolve]
    cases hrest : rest with
    | cons next others =>
      rw [← hrest]
      exact ih _ (by rw [hrest]; exact List.cons_ne_nil _ _)
    | nil =>
      rw [resolve]
      cases Step.ofText raw with
      | stay => simp
      | up => simp
      | down segment =>
        unfold enter
        dsimp only
        split
        · simp
        · simp

theorem splitAtSeparator_ne_nil (separates : Char → Bool) (s : List Char) :
    splitAtSeparator separates s ≠ [] := by
  cases s with
  | nil => simp [splitAtSeparator]
  | cons c rest =>
    unfold splitAtSeparator
    split
    · simp
    · split <;> simp

theorem readPath_ne_nil (file special : Bool) (raw : List Char) :
    readPath file special raw ≠ [] :=
  Path.resolve_ne_nil file [] (splitAtSeparator_ne_nil _ _)

/-! ## What was read -/

/-- A URL with an authority, a guard or a path goes on with a slash. -/
theorem isRooted_of_isHierarchical {u : Url} (h : u.IsHierarchical)
    (hsome : u.lead ≠ .bare ∨ u.path ≠ []) : u.isRooted = true := by
  rw [isRooted, decide_eq_true_iff]
  cases hlead : u.lead with
  | authority a => rfl
  | guarded => rfl
  | rootless text => exact absurd hlead (h text)
  | bare =>
    obtain ⟨segment, others, hpath⟩ :=
      List.exists_cons_of_ne_nil (hsome.resolve_left (by simp [hlead]))
    rw [hpath]
    rfl

/-- Encoding puts no slash in front. -/
theorem head?_encode_ne_slash (set : Char → Bool) {s : List Char} (h : s.head? ≠ some '/') :
    (encode set s).head? ≠ some '/' := by
  cases s with
  | nil => exact h
  | cons c rest =>
    rw [encode_cons, encodeChar]
    split
    · obtain ⟨b, others, hbytes⟩ :=
        List.exists_cons_of_ne_nil (String.utf8EncodeChar_ne_nil (c := c))
      rw [hbytes]
      simp [percentByte]
    · exact h

theorem head?_tailText_ne_slash (query fragment : Option (List Char)) :
    (tailText query fragment).head? ≠ some '/' := by
  cases query <;> cases fragment <;> simp [tailText]

/-- What is read as one piece goes on with anything but a slash. -/
theorem isRooted_rootless (scheme : List Char) {raw : List Char} (h : raw.head? ≠ some '/')
    (query fragment : Option (List Char)) :
    isRooted ⟨scheme, .rootless (encode (fun _ => false) raw), [], query, fragment⟩ = false := by
  rw [isRooted, decide_eq_false_iff_not]
  -- without a text before query and fragment, one of their marks comes first
  have hencode := head?_encode_ne_slash (fun _ => false) h
  show (encode (fun _ => false) raw ++ [] ++ tailText query fragment).head? ≠ some '/'
  rw [List.append_nil, List.head?_append]
  cases hhead : (encode (fun _ => false) raw).head? with
  | none => exact head?_tailText_ne_slash query fragment
  | some c =>
    rw [hhead] at hencode
    exact hencode

/-- An authority begins with slashes. -/
theorem isRooted_iff_of_authority {u : Url} (h : ∃ a, u.lead = .authority a) :
    u.isRooted = true ↔ u.IsHierarchical := by
  obtain ⟨a, hlead⟩ := h
  have hpath : u.IsHierarchical := fun text => by rw [hlead]; exact nofun
  exact iff_of_true (isRooted_of_isHierarchical hpath (.inl (by rw [hlead]; exact nofun))) hpath

theorem plainLead_ne_rootless (path : Path) (text : List Char) :
    plainLead path ≠ .rootless text := by
  unfold plainLead
  split <;> exact nofun

theorem isRooted_readPlain_iff (scheme s : List Char) :
    (readPlain scheme s).isRooted = true ↔ (readPlain scheme s).IsHierarchical := by
  unfold readPlain
  dsimp only
  split
  · have hpath := plainLead_ne_rootless (readPath false false (splitPath s).1)
    exact iff_of_true (isRooted_of_isHierarchical hpath (.inr (readPath_ne_nil _ _ _))) hpath
  · next hraw =>
    refine iff_of_false (Bool.eq_false_iff.1 (isRooted_rootless scheme ?_ _ _)) fun h => h _ rfl
    intro hslash
    obtain ⟨rest, hrest⟩ := List.head?_eq_some_iff.1 hslash
    exact hraw rest hrest

/-- Of the URLs that were read, those that go on with a slash are those with a path. -/
theorem isRooted_iff_of_parse {idna : Idna} {text : String} {u : Url}
    (h : parse idna text = .ok u) : u.isRooted = true ↔ u.IsHierarchical := by
  obtain ⟨scheme, s, -, ⟨-, hread⟩ | ⟨-, -, hread⟩ | ⟨-, ⟨rest, hread⟩ | rfl⟩⟩ := parse_cases h
  · exact isRooted_iff_of_authority (exists_of_readFile hread).2.1
  · exact isRooted_iff_of_authority (exists_of_readHierarchical hread).2.1
  · exact isRooted_iff_of_authority (exists_of_readHierarchical hread).2.1
  · exact isRooted_readPlain_iff scheme s

end Url
end WeblogDesk
