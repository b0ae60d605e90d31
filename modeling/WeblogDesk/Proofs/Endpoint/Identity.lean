/-
  WeblogDesk.Proofs.Endpoint.Identity

  Which calls share a URL.

  Two calls of one kind have the same URL exactly when their names do the same to
  the path.  For planets that is a question about one id; for users of a weblog
  there are two ids behind each other, and a weblog that is named like the
  constant behind it can be taken for one that is not named at all.
-/

import WeblogDesk.Proofs.Endpoint.Place

namespace WeblogDesk

open Url Url.Path

namespace Url.Path

/-! ## One name -/

theorem Naming.of_eq_nothing_iff {name : List Char} :
    Naming.of name = .nothing ↔ name = ['.'] ∨ name = ['.', '.'] := by
  unfold Naming.of
  split
  · rename_i h
    simp [h]
  · rename_i h
    split
    · simpa using h
    · split <;> simpa using h

theorem encode_eq_nil_iff {kept : List Char} : encode (segmentSet true) kept = [] ↔ kept = [] :=
  encode_inj (t := []) (segmentSet_percent true)

theorem IsPlain.encode_eq_iff {constant : List Char} (h : IsPlain constant) {kept : List Char} :
    encode (segmentSet true) kept = constant ↔ kept = constant := by
  constructor
  · intro heq
    exact encode_injective (segmentSet_percent true) (heq.trans h.2.2.symm)
  · rintro rfl
    exact h.2.2

/-- What a name comes to behind a constant says what the name does. -/
theorem Naming.behind_inj {constant : List Char} (hne : constant ≠ []) {n n' : Naming} :
    n.behind constant = n'.behind constant ↔ n = n' := by
  cases n <;> cases n' <;>
    simp [Naming.behind, hne, hne.symm, encode_inj (segmentSet_percent true)]

theorem Naming.behind_eq_constant_iff {constant : List Char} (hne : constant ≠ []) {n : Naming} :
    n.behind constant = [constant] ↔ n = .nothing := by
  show n.behind constant = Naming.nothing.behind constant ↔ n = .nothing
  exact Naming.behind_inj hne

/-! ## Two names behind each other -/

/-- The first pair leaves out its first name, the second pair names it like the constant that
    stands behind it, and what follows makes up for that. -/
def Naming.Shifted (constant : List Char) (outer inner outer' inner' : Naming) : Prop :=
  outer = .nothing ∧ outer' = .segment constant ∧
    ((inner = .segment constant ∧ inner' = .nothing) ∨ (inner = .segment [] ∧ inner' = .parent))

instance (constant : List Char) (outer inner outer' inner' : Naming) :
    Decidable (Naming.Shifted constant outer inner outer' inner') := by
  unfold Naming.Shifted
  infer_instance

/-- Whether two pairs of names, the inner ones behind `constant`, come to the same segments. -/
def Naming.Same (constant : List Char) (outer inner outer' inner' : Naming) : Prop :=
  (outer = outer' ∧ inner = inner') ∨ Naming.Shifted constant outer inner outer' inner' ∨
    Naming.Shifted constant outer' inner' outer inner

instance (constant : List Char) (outer inner outer' inner' : Naming) :
    Decidable (Naming.Same constant outer inner outer' inner') := by
  unfold Naming.Same
  infer_instance

/-- A name behind a constant and a segment with another name come to the same only where the
    segment is the constant and its name says what the first one says behind it. -/
theorem Naming.behind_eq_cons_iff {constant : List Char}
    (hplain : IsPlain constant) {inner inner' : Naming} {kept : List Char} :
    inner.behind constant = encode (segmentSet true) kept :: inner'.behind constant ↔
      Naming.Shifted constant .nothing inner (.segment kept) inner' := by
  have hconstant : constant = encode (segmentSet true) kept ↔ kept = constant := by
    rw [eq_comm, hplain.encode_eq_iff]
  -- the right side has two segments at least, so the left name is a segment of its own
  cases inner with
  | nothing => cases inner' <;> simp [Shifted]
  | parent => cases inner' <;> simp [Shifted]
  | segment inside =>
    cases inner' with
    | nothing => simp [Shifted, hconstant, hplain.encode_eq_iff]
    | parent => simp [Shifted, hconstant, encode_eq_nil_iff]
    | segment inside' => simp [Shifted]

/-- Two names behind two constants come to the same segments exactly if they do the same, or
    are shifted against each other. -/
theorem Naming.behind_append_inj {first second : List Char} (hfirst : first ≠ [])
    (hsecond : second ≠ []) (hplain : IsPlain second)
    {outer inner outer' inner' : Naming} :
    outer.behind first ++ inner.behind second = outer'.behind first ++ inner'.behind second ↔
      Naming.Same second outer inner outer' inner' := by
  have hinner : inner.behind second = inner'.behind second ↔ inner = inner' :=
    Naming.behind_inj hsecond
  have hshift {inner inner' : Naming} {kept : List Char} :
      inner.behind second = encode (segmentSet true) kept :: inner'.behind second ↔
        Naming.Shifted second .nothing inner (.segment kept) inner' :=
    Naming.behind_eq_cons_iff hplain
  -- outer names of one kind leave the inner ones to compare; a name that steps up begins with
  -- an empty segment; and a name that says nothing can only be shifted
  cases outer with
  | nothing =>
    cases outer' with
    | nothing => simp [Same, Shifted, hinner]
    | parent => simp [Same, Shifted, hfirst]
    | segment kept' => simpa [Same, Shifted] using hshift
  | parent =>
    cases outer' with
    | nothing => simp [Same, Shifted, hfirst.symm]
    | parent => simp [Same, Shifted, hinner]
    | segment kept' => simp [Same, Shifted, hfirst.symm]
  | segment kept =>
    cases outer' with
    | nothing =>
      rw [eq_comm]
      simpa [Same, Shifted] using hshift
    | parent => simp [Same, Shifted, hfirst]
    | segment kept' =>
      simp [Same, Shifted, hinner, encode_inj (segmentSet_percent true)]

/-- Pairs of names that are taken whole come to the same segments only if they are the same. -/
theorem Naming.eq_of_same_of_isWhole {constant outer inner outer' inner' : List Char}
    (houter : IsWhole outer) (hinner : IsWhole inner) (houter' : IsWhole outer')
    (hinner' : IsWhole inner')
    (h : Naming.Same constant (Naming.of outer) (Naming.of inner) (Naming.of outer')
      (Naming.of inner')) :
    outer = outer' ∧ inner = inner' := by
  rw [houter.naming, hinner.naming, houter'.naming, hinner'.naming] at h
  rcases h with ⟨ho, hi⟩ | ⟨hnothing, -⟩ | ⟨hnothing, -⟩
  · exact ⟨Naming.segment.inj ho, Naming.segment.inj hi⟩
  · cases hnothing
  · cases hnothing

end Url.Path

/-! ## Calls -/

namespace Call

theorem wireName_toList_inj {role role' : Role} :
    role.wireName.toList = role'.wireName.toList ↔ role = role' := by
  cases role <;> cases role' <;> decide

/-- The segments of a call about a user say what its two ids do, and its role. -/
theorem below_user_inj {weblog user weblog' user' : String} {role role' : Role} (last : List Char) :
    (Naming.of weblog.toList).behind "weblog".toList ++
            (Naming.of user.toList).behind "user".toList ++
          ["role".toList, role.wireName.toList, last] =
        (Naming.of weblog'.toList).behind "weblog".toList ++
            (Naming.of user'.toList).behind "user".toList ++
          ["role".toList, role'.wireName.toList, last] ↔
      role = role' ∧
        Naming.Same "user".toList (Naming.of weblog.toList) (Naming.of user.toList)
          (Naming.of weblog'.toList) (Naming.of user'.toList) := by
  have hweblog : "weblog".toList ≠ [] := by decide
  rw [← Naming.behind_append_inj hweblog (by decide) (by decide), ← wireName_toList_inj]
  constructor
  · -- the last three segments are the constants and the role, so the role can be split off
    intro h
    obtain ⟨hnames, hrole⟩ := List.append_inj' h rfl
    simp only [List.cons.injEq, and_true, true_and] at hrole
    exact ⟨hrole, hnames⟩
  · rintro ⟨hrole, hnames⟩
    rw [hrole, hnames]

end Call

/-! ## Clients -/

namespace Client

/-- Calls in one tree share a URL exactly if they share the segments below it. -/
theorem url_inj {client : Client} (h : client.base.isHttp = true) {call call' : Call}
    (htree : call.treePath = call'.treePath) :
    client.url call = client.url call' ↔ call.below = call'.below := by
  rw [url_eq h, url_eq h, htree]
  constructor
  · intro heq
    exact List.append_cancel_left (congrArg Url.path (Except.ok.inj heq))
  · intro hbelow
    rw [hbelow]

theorem url_deletePlanet_eq_iff {client : Client} (h : client.base.isHttp = true)
    {id id' : String} :
    client.url (.deletePlanet id) = client.url (.deletePlanet id') ↔
      Naming.of id.toList = Naming.of id'.toList :=
  (url_inj h (by rfl)).trans (Naming.behind_inj (by decide))

theorem url_attachUser_eq_iff {client : Client} (h : client.base.isHttp = true)
    {weblog user weblog' user' : String} {role role' : Role} :
    client.url (.attachUser weblog user role) = client.url (.attachUser weblog' user' role') ↔
      role = role' ∧ Naming.Same "user".toList (Naming.of weblog.toList)
        (Naming.of user.toList) (Naming.of weblog'.toList) (Naming.of user'.toList) :=
  (url_inj h (by rfl)).trans (Call.below_user_inj "attach".toList)

theorem url_inviteUser_eq_iff {client : Client} (h : client.base.isHttp = true)
    {weblog user weblog' user' : String} {role role' : Role} :
    client.url (.inviteUser weblog user role) = client.url (.inviteUser weblog' user' role') ↔
      role = role' ∧ Naming.Same "user".toList (Naming.of weblog.toList)
        (Naming.of user.toList) (Naming.of weblog'.toList) (Naming.of user'.toList) :=
  (url_inj h (by rfl)).trans (Call.below_user_inj "invite".toList)

/-- Which calls share a URL, where every call has one: two deletions exactly if their ids do the
    same to the path, a deletion and the list of planets exactly if the id is one or two dots, and
    two additions or two invitations exactly if they give the same role and their ids do the same,
    or are shifted against each other.  So ids that are taken whole always have URLs of their
    own. -/
theorem url_eq_iff {client : Client} (h : client.base.isHttp = true) :
    (∀ call, ∃ url, client.url call = .ok url) ∧
      (∀ id id', client.url (.deletePlanet id) = client.url (.deletePlanet id') ↔
        Naming.of id.toList = Naming.of id'.toList) ∧
      (∀ id, client.url (.deletePlanet id) = client.url .listPlanets ↔ id = "." ∨ id = "..") ∧
      (∀ weblog user role weblog' user' role',
        (client.url (.attachUser weblog user role) =
            client.url (.attachUser weblog' user' role') ↔
          role = role' ∧ Naming.Same "user".toList (Naming.of weblog.toList)
            (Naming.of user.toList) (Naming.of weblog'.toList) (Naming.of user'.toList)) ∧
        (client.url (.inviteUser weblog user role) =
            client.url (.inviteUser weblog' user' role') ↔
          role = role' ∧ Naming.Same "user".toList (Naming.of weblog.toList)
            (Naming.of user.toList) (Naming.of weblog'.toList) (Naming.of user'.toList))) ∧
      (∀ id id', IsWhole id.toList → IsWhole id'.toList →
        client.url (.deletePlanet id) = client.url (.deletePlanet id') → id = id') ∧
      (∀ weblog user role weblog' user' role',
        IsWhole weblog.toList → IsWhole user.toList →
        IsWhole weblog'.toList → IsWhole user'.toList →
        client.url (.attachUser weblog user role) =
            client.url (.attachUser weblog' user' role') ∨
          client.url (.inviteUser weblog user role) =
            client.url (.inviteUser weblog' user' role') →
        (weblog, user, role) = (weblog', user', role')) := by
  refine ⟨?_, ?_, ?_, ?_, ?_, ?_⟩
  · intro call
    exact ⟨_, url_eq h call⟩
  · intro id id'
    exact url_deletePlanet_eq_iff h
  · intro id
    refine (url_inj h (by rfl)).trans ?_
    refine (Naming.behind_eq_constant_iff (by decide)).trans ?_
    rw [Naming.of_eq_nothing_iff, ← String.toList_inj, ← String.toList_inj]
    rfl
  · intro weblog user role weblog' user' role'
    exact ⟨url_attachUser_eq_iff h, url_inviteUser_eq_iff h⟩
  · intro id id' hid hid' heq
    rw [url_deletePlanet_eq_iff h, hid.naming, hid'.naming] at heq
    exact String.toList_inj.1 (Naming.segment.inj heq)
  · intro weblog user role weblog' user' role' hweblog huser hweblog' huser' heq
    rw [url_attachUser_eq_iff h, url_inviteUser_eq_iff h, or_self] at heq
    obtain ⟨hrole, hsame⟩ := heq
    obtain ⟨hw, hu⟩ := Naming.eq_of_same_of_isWhole hweblog huser hweblog' huser' hsame
    rw [hrole, String.toList_inj.1 hw, String.toList_inj.1 hu]

/-- On a local server: different ids that share a URL, and different ids that do not. -/
theorem url_eq_of_dots :
    ∃ client : Client, Client.new .asciiOnly "http://localhost:8080/" none = .ok client ∧
      client.base.isHttp = true ∧
      client.url (.deletePlanet ".") = client.url .listPlanets ∧
      client.url (.deletePlanet "a\tb") = client.url (.deletePlanet "ab") ∧
      client.url (.attachUser "user" "." .post) = client.url (.attachUser "." "user" .post) ∧
      client.url (.deletePlanet "a/b") ≠ client.url (.deletePlanet "a%2Fb") := by
  let base : Url :=
    { scheme := "http".toList
      lead := .authority ⟨[], "localhost".toList, some 8080⟩
      path := [[]]
      query := none
      fragment := none }
  let client : Client := ⟨base, none⟩
  have hnew : Client.new .asciiOnly "http://localhost:8080/" none = .ok client := rfl
  have hhttp : client.base.isHttp = true := by rfl
  obtain ⟨-, hdelete, hlist, husers, hwhole, -⟩ := url_eq_iff hhttp
  refine ⟨client, hnew, hhttp, (hlist ".").2 (.inl rfl), (hdelete _ _).2 rfl,
    (husers _ _ _ _ _ _).1.2 (by decide), ?_⟩
  intro heq
  exact absurd (hwhole _ _ (by decide) (by decide) heq) (by decide)

end Client
end WeblogDesk
