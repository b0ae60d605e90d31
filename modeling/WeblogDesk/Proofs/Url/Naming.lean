/-
  WeblogDesk.Proofs.Url.Naming

  Where names that are pushed onto a path lead.

  `Naming.of` says what a name does to a path of the network: it adds nothing,
  takes the place of the segment before it, or adds a segment of its own.  A name
  that follows a constant can only ever reach back to that constant, so
  `push_push` describes the two of them without looking at the path above.
-/

import WeblogDesk.Proofs.Url.Encoding
import WeblogDesk.Url.Basic

namespace WeblogDesk
namespace Url
namespace Path

/-! ## What a name does -/

/-- What a name does when it is pushed onto a path. -/
inductive Naming where
  /-- Nothing: the name is one or two dots. -/
  | nothing
  /-- The parent takes its place, and the path ends in a slash: the name is two dots once
      the characters that no URL holds are dropped. -/
  | parent
  /-- It adds a segment for the characters that are kept. -/
  | segment (kept : List Char)
  deriving DecidableEq, Repr

/-- What a name does.  A single dot that appears only when characters are dropped names the
    place itself, with a slash, as an empty name does. -/
def Naming.of (name : List Char) : Naming :=
  if name = ['.'] ∨ name = ['.', '.'] then .nothing
  else if name.filter (!isDropped ·) = ['.'] then .segment []
  else if name.filter (!isDropped ·) = ['.', '.'] then .parent
  else .segment (name.filter (!isDropped ·))

/-- The segments that a constant and the name behind it come to. -/
def Naming.behind (constant : List Char) : Naming → Path
  | .nothing => [constant]
  | .parent => [[]]
  | .segment kept => [constant, encode (segmentSet true) kept]

@[simp] theorem Naming.behind_nothing (constant : List Char) :
    Naming.nothing.behind constant = [constant] := rfl

@[simp] theorem Naming.behind_parent (constant : List Char) :
    Naming.parent.behind constant = [[]] := rfl

@[simp] theorem Naming.behind_segment (constant kept : List Char) :
    (Naming.segment kept).behind constant = [constant, encode (segmentSet true) kept] := rfl

/-- Whether a path takes all characters of the name: it is not just dots, and none is
    dropped. -/
def IsWhole (name : List Char) : Prop :=
  (name ≠ ['.'] ∧ name ≠ ['.', '.']) ∧ name.any isDropped = false

instance (name : List Char) : Decidable (IsWhole name) := by
  unfold IsWhole
  infer_instance

/-- A name that is taken whole is a segment. -/
theorem IsWhole.naming {name : List Char} (h : IsWhole name) : Naming.of name = .segment name := by
  have hkept : name.filter (!isDropped ·) = name := by
    rw [List.filter_eq_self]
    intro c hc
    simpa using List.any_eq_false.1 h.2 c hc
  unfold Naming.of
  rw [hkept, if_neg (not_or.2 h.1), if_neg h.1.1, if_neg h.1.2]

/-! ## Names that stay as they are -/

/-- Whether the name is its own segment: no dots, nothing to drop and nothing to encode. -/
def IsPlain (name : List Char) : Prop :=
  (name ≠ ['.'] ∧ name ≠ ['.', '.']) ∧ name.filter (!isDropped ·) = name ∧
    encode (segmentSet true) name = name

instance (name : List Char) : Decidable (IsPlain name) := by
  unfold IsPlain
  infer_instance

theorem push_plain {name : List Char} (h : IsPlain name) (path : Path) :
    push false true path name = base path ++ [name] := by
  obtain ⟨⟨hdot, hdots⟩, hkept, hencode⟩ := h
  simp only [push, hkept, hdot, hdots, hencode, enter, Bool.false_and, Bool.or_self, if_false,
    decide_false, Bool.false_eq_true]

/-! ## One name behind another -/

theorem base_of_ne {path : Path} (h : path ≠ [[]]) : base path = path :=
  if_neg h

theorem base_of_two_le {path : Path} (h : 2 ≤ path.length) : base path = path := by
  apply base_of_ne
  rintro rfl
  simp at h

theorem push_constant {constant : List Char} (hplain : IsPlain constant) {path : Path}
    (h : 2 ≤ path.length) : push false true path constant = path ++ [constant] := by
  rw [push_plain hplain, base_of_two_le h]

/-- A segment that is no drive is left behind. -/
theorem shorten_concat {segment : List Char} (h : holdsDrive segment = false) (path : Path) :
    shorten (path ++ [segment]) = path := by
  simp [shorten, h]

/-- A constant and the name behind it. -/
theorem push_push {constant : List Char} (hplain : IsPlain constant)
    (hdrive : holdsDrive constant = false) {path : Path} (h : 2 ≤ path.length)
    (name : List Char) :
    push false true (push false true path constant) name =
      path ++ (Naming.of name).behind constant := by
  have hbase : base (path ++ [constant]) = path ++ [constant] :=
    base_of_two_le (by rw [List.length_append]; omega)
  rw [push_constant hplain h]
  unfold push Naming.of
  by_cases hdots : name = ['.'] ∨ name = ['.', '.']
  · simp [hdots, Naming.behind]
  · -- the constant is the last segment, so a step up takes it away and nothing else
    rw [if_neg (by simpa using hdots), if_neg hdots, hbase]
    by_cases hdot : name.filter (!isDropped ·) = ['.']
    · simp [hdot, Naming.behind, encode]
    · by_cases hup : name.filter (!isDropped ·) = ['.', '.']
      · simp [hup, Naming.behind, shorten_concat hdrive]
      · simp [hdot, hup, Naming.behind, enter]

/-! ## The path that is extended -/

/-- The path that names are put behind: without one slash at the end, and without the one
    slash of the root. -/
def stem (path : Path) : Path := base (dropSlash path)

/-- The first three names, where they are constants. -/
theorem foldl_push_tree {a b c : List Char} (ha : IsPlain a) (hb : IsPlain b) (hc : IsPlain c)
    (hne : a ≠ []) (path : Path) :
    [a, b, c].foldl (push false true) path = base path ++ [a, b, c] := by
  -- only the first name can meet a root, and it is not empty
  have hfirst : base path ++ [a] ≠ [[]] := by
    intro h
    have hlast := congrArg List.getLast? h
    simp only [List.getLast?_append, List.getLast?_singleton, Option.some_or,
      Option.some.injEq] at hlast
    exact hne hlast
  simp only [List.foldl_cons, List.foldl_nil]
  rw [push_plain ha, push_plain hb, base_of_ne hfirst,
    push_constant hc (by simp)]
  simp

end Path

/-! ## URLs of the network -/

/-- What a URL of the network has for a scheme. -/
theorem scheme_of_isHttp {u : Url} (h : u.isHttp = true) :
    u.scheme ≠ fileScheme ∧ isSpecialScheme u.scheme = true := by
  simp only [isHttp, Bool.and_eq_true, Bool.or_eq_true, decide_eq_true_eq] at h
  rcases h.2 with h | h <;> rw [h] <;> decide

/-- A URL of the network names a host, so its text goes on with slashes. -/
theorem isRooted_of_isHttp {u : Url} (h : u.isHttp = true) : u.isRooted = true := by
  have hhost : u.hasHost = true := by
    rw [isHttp, Bool.and_eq_true] at h
    exact h.1
  unfold hasHost at hhost
  split at hhost
  · next a hlead =>
    rw [isRooted, hlead]
    rfl
  · cases hhost

/-- Extending a URL of the network changes its path only. -/
theorem extend_of_isHttp {u : Url} (h : u.isHttp = true) (names : List String) :
    u.extend names =
      { u with path := u.path.extend false true (names.map (·.toList)) } := by
  obtain ⟨hfile, hspecial⟩ := scheme_of_isHttp h
  simp only [extend, hfile, hspecial, decide_false]

end Url
end WeblogDesk
