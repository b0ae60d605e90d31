/-
  WeblogDesk.Proofs.Endpoint.Construction

  Everything that can be wrong with the settings of a client is found when it is made.

  A client is made of a base URL and a session id.  `new_eq_error_iff` lists what
  can be wrong with them, in the order in which it is told, and `new_eq_ok_iff` what
  a client is made of otherwise.  Whether the base URL can be extended is asked again
  for every call; `isRooted_of_new` is what answers it for a client that was made.
-/

import WeblogDesk.Client
import WeblogDesk.Proofs.Session
import WeblogDesk.Proofs.Url.Rooted

namespace WeblogDesk

/-! ## Making a client -/

namespace Client

open Session

variable {idna : Url.Idna}

/-- A base URL is one that is read with a path. -/
theorem baseOf_eq_ok_iff {text : String} {url : Url} :
    baseOf idna text = .ok url ↔ Url.parse idna text = .ok url ∧ url.IsHierarchical := by
  unfold baseOf
  cases hparse : Url.parse idna text with
  | error fault => simp
  | ok read =>
    simp only [Except.ok.injEq]
    split
    · next h =>
      rw [Except.ok.injEq, iff_self_and]
      rintro rfl
      exact (Url.isRooted_iff_of_parse hparse).1 h
    · next h =>
      refine iff_of_false nofun ?_
      rintro ⟨rfl, hpath⟩
      exact h ((Url.isRooted_iff_of_parse hparse).2 hpath)

theorem baseOf_eq_error_iff {text : String} {failure : Failure} :
    baseOf idna text = .error failure ↔
      (∃ fault, Url.parse idna text = .error fault ∧ failure = .config (.badUrl text fault)) ∨
        ∃ url, Url.parse idna text = .ok url ∧ ¬url.IsHierarchical ∧
          failure = .config (.noPath url.render) := by
  unfold baseOf
  cases hparse : Url.parse idna text with
  | error fault =>
    simp only [Except.error.injEq, reduceCtorEq, false_and, exists_false, or_false, exists_eq_left']
    exact eq_comm
  | ok url =>
    simp only [reduceCtorEq, false_and, exists_false, false_or, Except.ok.injEq, exists_eq_left',
      ← Url.isRooted_iff_of_parse hparse]
    split
    · next h => exact iff_of_false nofun fun hnot => hnot.1 h
    · next h => simp only [Except.error.injEq, h, Bool.false_eq_true, not_false_eq_true, true_and,
        eq_comm]

/-- What the session adds to a client: a cookie, or nothing if there is none. -/
theorem new_eq_bind (base : String) (session : Option String) :
    Client.new idna base session = (baseOf idna base).bind fun url =>
      match session with
      | none => .ok ⟨url, none⟩
      | some id => (Session.cookie id).map fun cookie => ⟨url, some cookie⟩ := by
  unfold Client.new
  cases baseOf idna base with
  | error failure => rfl
  | ok url =>
    cases session with
    | none => rfl
    | some id =>
      cases hcookie : Session.cookie id with
      | error failure => simp only [hcookie]; rfl
      | ok cookie => simp only [hcookie]; rfl

/-- What can be wrong with a base URL and a session id: of several faults the first one is told. -/
theorem new_eq_error_iff {base : String} {session : Option String} {failure : Failure} :
    Client.new idna base session = .error failure ↔
      (∃ fault, Url.parse idna base = .error fault ∧ failure = .config (.badUrl base fault)) ∨
      (∃ url, Url.parse idna base = .ok url ∧ ¬url.IsHierarchical ∧
        failure = .config (.noPath url.render)) ∨
      (∃ url, Url.parse idna base = .ok url ∧ url.IsHierarchical ∧
        (∃ id, session = some id ∧ HoldsControl id) ∧ failure = .config .badCookie) := by
  rw [← or_assoc, ← baseOf_eq_error_iff, new_eq_bind]
  cases hbase : baseOf idna base with
  | error first =>
    -- the session is not looked at
    have hlast : ¬∃ url, Url.parse idna base = .ok url ∧ url.IsHierarchical ∧
        (∃ id, session = some id ∧ HoldsControl id) ∧ failure = .config .badCookie := by
      rintro ⟨url, hparse, hpath, -⟩
      rw [baseOf_eq_ok_iff.2 ⟨hparse, hpath⟩] at hbase
      cases hbase
    rw [or_iff_left hlast]
    simp [Except.bind]
  | ok url =>
    obtain ⟨hparse, hpath⟩ := baseOf_eq_ok_iff.1 hbase
    simp only [reduceCtorEq, false_or, hparse, Except.ok.injEq, exists_eq_left', hpath, true_and]
    cases session with
    | none => simp [Except.bind]
    | some id =>
      simp only [Option.some.injEq, exists_eq_left', ← cookie_eq_error_iff]
      cases Session.cookie id <;> simp [Except.bind, Except.map]

/-- What a client is made of that was made. -/
theorem new_eq_ok_iff {base : String} {session : Option String} {client : Client} :
    Client.new idna base session = .ok client ↔
      (Url.parse idna base = .ok client.base ∧ client.base.IsHierarchical) ∧
        (∀ id, session = some id → ¬HoldsControl id) ∧
        client.cookie = session.map ("JSESSIONID=" ++ ·) := by
  rw [← baseOf_eq_ok_iff, new_eq_bind]
  cases baseOf idna base with
  | error failure => simp [Except.bind]
  | ok url =>
    obtain ⟨held, cookie⟩ := client
    cases session with
    | none => simp [Except.bind, eq_comm]
    | some id =>
      show ((Session.cookie id).map fun made => (⟨url, some made⟩ : Client)) = _ ↔ _
      cases hcookie : Session.cookie id with
      | error failure =>
        have hid : HoldsControl id := (cookie_eq_error_iff.1 hcookie).1
        simp [Except.map, hid]
      | ok made =>
        obtain ⟨hid, rfl⟩ := cookie_eq_ok_iff.1 hcookie
        simp [Except.map, hid, eq_comm]

/-- The base URL of a client that was made is the one that its text is read as. -/
theorem parse_of_new {base : String} {session : Option String} {client : Client}
    (h : Client.new idna base session = .ok client) : Url.parse idna base = .ok client.base :=
  (new_eq_ok_iff.1 h).1.1

/-- The base URL of a client that was made can be extended. -/
theorem isRooted_of_new {base : String} {session : Option String} {client : Client}
    (h : Client.new idna base session = .ok client) : client.base.isRooted = true := by
  obtain ⟨hparse, hpath⟩ := (new_eq_ok_iff.1 h).1
  exact (Url.isRooted_iff_of_parse hparse).2 hpath

end Client
end WeblogDesk
