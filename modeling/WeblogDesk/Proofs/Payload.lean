/-
  WeblogDesk.Proofs.Payload

  What is kept of the body of a refusal.

  A body that is JSON is kept as its value and any other body as itself, so what is
  displayed can be read again: `ofBody_display` for values that are written as JSON.
  A text is displayed bare, and is taken for JSON where it looks like it.  No text is
  JSON that writes the text itself, since a string is shorter than what is written
  for it (`length_of_parse`); so a text comes back exactly if it is no JSON.
-/

import WeblogDesk.Failure
import WeblogDesk.Proofs.Json.Normal

namespace WeblogDesk

open Json

/-- A text that is JSON for a string is longer than the string. -/
theorem Json.length_of_parse {text t : String} (h : Value.parse text = .ok (.string t)) :
    t.length < text.length := by
  obtain ⟨rest, hread, -⟩ := readWhole_eq_ok_iff.1 h
  rw [readValue_eq_scalar_iff (v := .string t) trivial, readScalar_eq_string_iff] at hread
  obtain ⟨tail, hblanks, hread⟩ := hread
  have hstring : t.length < tail.length := by
    unfold readString at hread
    split at hread
    · cases hread
    · next cs left hcs =>
      cases hread
      have hshorter := length_of_readStringTail hcs
      rw [String.length_ofList]
      omega
  -- the opening quote and the blanks before it belong to the text as well
  have htext : (skipBlanks text.toList).length ≤ text.toList.length :=
    (List.dropWhile_sublist _).length_le
  rw [hblanks, List.length_cons, String.length_toList] at htext
  omega

namespace Payload

/-! ## Bodies -/

theorem ofBody_of_parse {body : String} {v : Value} (h : Value.parse body = .ok v) :
    ofBody body = ⟨v.normalize⟩ := by
  rw [ofBody, h]

theorem ofBody_of_not_parse {body : String} (h : ∀ v, Value.parse body ≠ .ok v) :
    ofBody body = ⟨.string body⟩ := by
  rw [ofBody]
  split
  · next v hparse => exact absurd hparse (h v)
  · rfl

theorem isNormal_ofBody (body : String) : (ofBody body).value.IsNormal := by
  unfold ofBody
  split
  · exact Value.isNormal_normalize _
  · exact .scalar trivial

/-! ## Displays -/

theorem display_of_text?_eq_none {payload : Payload} (h : payload.text? = none) :
    payload.display = payload.value.compact := by
  obtain ⟨v⟩ := payload
  cases v <;> first | rfl | cases h

/-- A payload that is no text is kept as it is when its display comes as a body. -/
theorem ofBody_display {payload : Payload} (hnormal : payload.value.IsNormal)
    (htext : payload.text? = none) (hwithin : payload.value.Within Number.IsWhole maxDepth) :
    ofBody payload.display = payload := by
  rw [display_of_text?_eq_none htext, ofBody_of_parse (readWhole_compact_of_within hwithin),
    hnormal.normalize_eq]

theorem normalize_eq_string_iff {v : Value} {t : String} :
    v.normalize = .string t ↔ v = .string t := by
  cases v <;> simp [Value.normalize]

/-- A text is kept as it is when it comes as a body, if it is no JSON. -/
theorem ofBody_eq_string_iff {text : String} :
    ofBody text = ⟨.string text⟩ ↔ ∀ v, Value.parse text ≠ .ok v := by
  refine ⟨fun h v hparse => ?_, ofBody_of_not_parse⟩
  rw [ofBody_of_parse hparse, Payload.mk.injEq, normalize_eq_string_iff] at h
  subst h
  exact Nat.lt_irrefl _ (length_of_parse hparse)

/-- A body that is no JSON is kept and told as it is, and one that is JSON is kept as the one value
    that tidies its own: objects with the last entry of each key and with their keys in order.  A
    value so kept that is no text, nested no deeper than a body may be and with integers of 64 bits
    as its numbers, comes back from what is displayed for it, and a text exactly if it is no
    JSON. -/
theorem ofBody_faithful :
    (∀ body, (∀ v, Value.parse body ≠ .ok v) →
      ofBody body = ⟨.string body⟩ ∧ (ofBody body).display = body ∧
        (Failure.ofStatus 400 body).message = body) ∧
    (∀ body v, Value.parse body = .ok v → ∀ w, v.Tidies w ↔ w = (ofBody body).value) ∧
    (∀ body, (ofBody body).value.IsNormal) ∧
    (∀ payload : Payload, payload.value.IsNormal → payload.text? = none →
      payload.value.Within Number.IsWhole 127 → ofBody payload.display = payload) ∧
    ∀ text, ofBody (display ⟨.string text⟩) = ⟨.string text⟩ ↔ ∀ v, Value.parse text ≠ .ok v := by
  refine ⟨fun body hbody => ?_, fun body v hparse => ?_, isNormal_ofBody, ?_, ?_⟩
  · have hkept := ofBody_of_not_parse hbody
    have hdisplay : (ofBody body).display = body := by rw [hkept]; rfl
    exact ⟨hkept, hdisplay, hdisplay⟩
  · rw [ofBody_of_parse hparse]
    exact fun _ => Value.tidies_iff
  · exact fun payload => ofBody_display
  · exact fun text => ofBody_eq_string_iff

/-- A sentence is told as it is, an object comes back from its display, and a list that was sent as
    a text does not. -/
theorem ofBody_faithful_of_sentence :
    let sentence := "At least one owner is required"
    let entry : Value := .object [("field", .string "role"), ("line", .number (.integer (-3)))]
    let reason : Payload := ⟨.object [("errors", .array [entry]), ("more", .null)]⟩
    let written : Value := .object
      [("b", .number (.integer 1)), ("a", .bool true), ("b", .number (.integer 3))]
    ((∀ v, Value.parse sentence ≠ .ok v) ∧ (Failure.ofStatus 400 sentence).message = sentence) ∧
      (Value.parse "\x7b\"b\":1,\"a\":true,\"b\":3\x7d" = .ok written ∧
        written.Tidies (ofBody "\x7b\"b\":1,\"a\":true,\"b\":3\x7d").value) ∧
      ((reason.value.IsNormal ∧ reason.text? = none ∧
          reason.value.Within Number.IsWhole 127) ∧
        ofBody reason.display = reason) ∧
      ofBody (display ⟨.string "[1]"⟩) ≠ ⟨.string "[1]"⟩ := by
  intro sentence entry reason written
  obtain ⟨hother, hjson, -, hback, htext⟩ := ofBody_faithful
  have hsentence : ∀ v, Value.parse sentence ≠ .ok v := by
    have hfault : (Value.parse sentence).toOption.isNone = true := by decide +kernel
    intro v hparse
    rw [hparse] at hfault
    cases hfault
  have hwritten : Value.parse "\x7b\"b\":1,\"a\":true,\"b\":3\x7d" = .ok written := by rfl
  have hlist : Value.parse "[1]" = .ok (.array [.number (.integer 1)]) := by rfl
  have hentry : entry.IsNormal := .object (by decide) fun e he => by
    simp only [List.mem_cons, List.not_mem_nil, or_false] at he
    rcases he with rfl | rfl <;> exact .scalar trivial
  have hnormal : reason.value.IsNormal := .object (by decide) fun e he => by
    simp only [List.mem_cons, List.not_mem_nil, or_false] at he
    rcases he with rfl | rfl
    · exact .array (by simpa using hentry)
    · exact .scalar trivial
  have hwithin : reason.value.Within Number.IsWhole 127 := .object fun e he => by
    simp only [List.mem_cons, List.not_mem_nil, or_false] at he
    rcases he with rfl | rfl
    · refine .array fun v hv => ?_
      obtain rfl := List.mem_singleton.1 hv
      refine .object fun e he => ?_
      simp only [List.mem_cons, List.not_mem_nil, or_false] at he
      rcases he with rfl | rfl
      · exact .string "role"
      · exact .number ⟨-3, rfl, by decide, by decide⟩
    · exact .null
  refine ⟨⟨hsentence, (hother _ hsentence).2.2⟩, ⟨hwritten, (hjson _ _ hwritten _).2 rfl⟩,
    ⟨⟨hnormal, rfl, hwithin⟩, hback _ hnormal rfl hwithin⟩, fun h => ?_⟩
  exact (htext "[1]").1 h _ hlist

end Payload
end WeblogDesk
