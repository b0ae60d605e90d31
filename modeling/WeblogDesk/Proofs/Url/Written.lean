/-
  WeblogDesk.Proofs.Url.Written

  How a URL of the network is written, and texts that go on behind one.

  `Writes` takes a text without query and fragment apart into an authority and the
  text of a path.  It holds of exactly the texts that are read so (`exists_writes`,
  `Writes.parse_eq`), and of a text that goes on it holds with a longer path
  (`Writes.append`).  Only blanks behind an authority without a path are in the
  way (`Writes.parse_append_of_blanks`).
-/

import WeblogDesk.Proofs.Url.Authority
import WeblogDesk.Proofs.Url.Naming
import WeblogDesk.Proofs.Url.Parsed

namespace WeblogDesk
namespace Url

/-! ## Texts that go on -/

section Spans

variable {p : Char → Bool} {s : List Char}

theorem dropWhile_append_of_ne_nil (h : s.dropWhile p ≠ []) (x : List Char) :
    (s ++ x).dropWhile p = s.dropWhile p ++ x := by
  rw [List.dropWhile_append, if_neg (by simpa using h)]

theorem takeWhile_append_of_ne_nil (h : s.dropWhile p ≠ []) (x : List Char) :
    (s ++ x).takeWhile p = s.takeWhile p := by
  have hlength := congrArg List.length (List.takeWhile_append_dropWhile (p := p) (l := s))
  have hpos := List.length_pos_iff.2 h
  rw [List.length_append] at hlength
  rw [List.takeWhile_append, if_neg (by omega)]

end Spans

section Borders

variable {p : Char → Bool} {front behind : List Char}

theorem takeWhile_append_eq (hfront : ∀ c ∈ front, p c = true)
    (hbehind : ∀ c, behind.head? = some c → p c = false) :
    (front ++ behind).takeWhile p = front := by
  rw [List.takeWhile_append_of_pos hfront]
  cases behind with
  | nil => rw [List.takeWhile_nil, List.append_nil]
  | cons c rest =>
    rw [List.takeWhile_cons_of_neg (Bool.eq_false_iff.1 (hbehind c rfl)), List.append_nil]

theorem dropWhile_append_eq (hfront : ∀ c ∈ front, p c = true)
    (hbehind : ∀ c, behind.head? = some c → p c = false) :
    (front ++ behind).dropWhile p = behind := by
  rw [List.dropWhile_append_of_pos hfront]
  cases behind with
  | nil => rfl
  | cons c rest => exact List.dropWhile_cons_of_neg (Bool.eq_false_iff.1 (hbehind c rfl))

end Borders

/-- The scheme of a text that goes on is the same. -/
theorem scheme?_append {s scheme rest : List Char} (h : scheme? s = some (scheme, rest))
    (x : List Char) : scheme? (s ++ x) = some (scheme, rest ++ x) := by
  unfold scheme? at h
  split at h
  · next letter behind hhead hdrop =>
    split at h
    · next halpha =>
      cases h
      have hne : s.dropWhile isSchemeChar ≠ [] := by
        rw [hdrop]
        exact List.cons_ne_nil _ _
      unfold scheme?
      rw [List.head?_append, hhead, dropWhile_append_of_ne_nil hne, hdrop,
        takeWhile_append_of_ne_nil hne]
      exact if_pos halpha
    · cases h
  · cases h

theorem suffix_of_scheme? {s scheme rest : List Char} (h : scheme? s = some (scheme, rest)) :
    rest <:+ s := by
  unfold scheme? at h
  split at h
  · next letter behind _ hdrop =>
    split at h
    · cases h
      have hcolon : ':' :: rest <:+ s := hdrop ▸ List.dropWhile_suffix isSchemeChar
      exact (List.suffix_cons ':' rest).trans hcolon
    · cases h
  · cases h

/-! ## How a URL of the network is written -/

variable {idna : Idna}

/-- Whether a text writes a URL of the network with this authority and this path behind it,
    and no query and no fragment. -/
structure Writes (idna : Idna) (s authority path : List Char) (u : Url) : Prop where
  special : isSpecialScheme u.scheme = true
  notFile : u.scheme ≠ fileScheme
  scheme : ∃ rest, scheme? s = some (u.scheme, rest) ∧
    rest.dropWhile (isSlash true) = authority ++ path
  inAuthority : ∀ c ∈ authority, endsAuthority true c = false
  lead : ∃ a, authorityOf idna u.scheme authority = .ok a ∧ u.lead = .authority a
  slash : ∀ c, path.head? = some c → isSlash true c = true
  inPath : ∀ c ∈ path, c ≠ '?' ∧ c ≠ '#'
  path_eq : u.path = readPath false true path
  query : u.query = none
  fragment : u.fragment = none

theorem splitPath_of_forall {s : List Char} (h : ∀ c ∈ s, c ≠ '?' ∧ c ≠ '#') :
    splitPath s = (s, []) := by
  have hall : ∀ c ∈ s, (!(c == '?' || c == '#')) = true := fun c hc => by simp [h c hc]
  simp only [splitPath, List.takeWhile_eq_self_iff.2 hall, List.dropWhile_eq_nil_iff.2 hall]

/-- Where neither a query nor a fragment is read, nothing is left behind the path. -/
theorem forall_of_readTail {s : List Char} (hquery : (readTail true (splitPath s).2).1 = none)
    (hfragment : (readTail true (splitPath s).2).2 = none) : ∀ c ∈ s, c ≠ '?' ∧ c ≠ '#' := by
  have hnil : (splitPath s).2 = [] := by
    have hhead := List.head?_dropWhile_not (fun c => !(c == '?' || c == '#')) s
    cases htail : (splitPath s).2 with
    | nil => rfl
    | cons c rest =>
      rw [show s.dropWhile (fun c => !(c == '?' || c == '#')) = c :: rest from htail] at hhead
      have hc : c = '?' ∨ c = '#' := by simpa [-not_or, Classical.or_iff_not_imp_left] using hhead
      rcases hc with rfl | rfl
      · rw [htail] at hquery
        cases hquery
      · rw [htail] at hfragment
        cases hfragment
  intro c hc
  simpa using List.dropWhile_eq_nil_iff.1 hnil c hc

theorem readHierarchical_of_special {scheme : List Char} (h : isSpecialScheme scheme = true)
    (s : List Char) :
    readHierarchical idna scheme s =
      (authorityOf idna scheme (s.takeWhile (!endsAuthority true ·))).map fun a =>
        let parts := splitPath (s.dropWhile (!endsAuthority true ·))
        { scheme
          lead := .authority a
          path := readPath false true parts.1
          query := (readTail true parts.2).1
          fragment := (readTail true parts.2).2 } := by
  unfold readHierarchical
  rw [h, readAuthority_of_special h]
  cases authorityOf idna scheme (s.takeWhile (!endsAuthority true ·)) with
  | error fault => rfl
  | ok a => simp [bind, Except.bind, pure, Except.pure, Except.map]

/-- A text that writes a URL is read as that URL. -/
theorem Writes.parse_eq {text : String} {authority path : List Char} {u : Url}
    (h : Writes idna (clean text.toList) authority path u) : parse idna text = .ok u := by
  obtain ⟨rest, hscheme, hrest⟩ := h.scheme
  obtain ⟨a, ha, hlead⟩ := h.lead
  have hends : ∀ c ∈ authority, (!endsAuthority true c) = true := fun c hc => by
    rw [h.inAuthority c hc]
    rfl
  have hslash : ∀ c, path.head? = some c → (!endsAuthority true c) = false := fun c hc => by
    have := h.slash c hc
    simp only [isSlash, Bool.true_and, Bool.or_eq_true, beq_iff_eq] at this
    rcases this with rfl | rfl <;> rfl
  unfold parse
  rw [hscheme]
  dsimp only
  rw [if_neg h.notFile, if_pos h.special, hrest, readHierarchical_of_special h.special,
    takeWhile_append_eq hends hslash, dropWhile_append_eq hends hslash, ha,
    splitPath_of_forall h.inPath]
  obtain ⟨scheme, lead, path', query, fragment⟩ := u
  obtain rfl : lead = .authority a := hlead
  obtain rfl : path' = readPath false true path := h.path_eq
  obtain rfl : query = none := h.query
  obtain rfl : fragment = none := h.fragment
  rfl

theorem scheme_readPlain (scheme s : List Char) : (readPlain scheme s).scheme = scheme := by
  unfold readPlain
  dsimp only
  split <;> rfl

/-- What is read as a URL with a special scheme that is not a file's is read with an authority. -/
theorem readHierarchical_of_parse {text : String} {u : Url} (h : parse idna text = .ok u)
    (hspecial : isSpecialScheme u.scheme = true) (hfile : u.scheme ≠ fileScheme) :
    ∃ rest, scheme? (clean text.toList) = some (u.scheme, rest) ∧
      readHierarchical idna u.scheme (rest.dropWhile (isSlash true)) = .ok u := by
  obtain ⟨scheme, rest, hscheme, hread⟩ := parse_cases h
  -- whichever way it is read, the URL keeps the scheme
  obtain ⟨-, hread⟩ | ⟨-, -, hread⟩ | ⟨hplain, ⟨s, hread⟩ | rfl⟩ := hread
  · exact absurd (exists_of_readFile hread).1 hfile
  · obtain rfl := (exists_of_readHierarchical hread).1
    exact ⟨rest, hscheme, hread⟩
  · rw [(exists_of_readHierarchical hread).1, hplain] at hspecial
    cases hspecial
  · rw [scheme_readPlain, hplain] at hspecial
    cases hspecial

/-- Every URL of the network without query and fragment that was read is written so. -/
theorem exists_writes {text : String} {u : Url} (h : parse idna text = .ok u)
    (hhttp : u.isHttp = true) (hquery : u.query = none) (hfragment : u.fragment = none) :
    ∃ authority path, Writes idna (clean text.toList) authority path u := by
  obtain ⟨hfile, hspecial⟩ := scheme_of_isHttp hhttp
  obtain ⟨rest, hscheme, hread⟩ := readHierarchical_of_parse h hspecial hfile
  rw [readHierarchical_of_special hspecial] at hread
  generalize hs : rest.dropWhile (isSlash true) = s at hread
  cases ha : authorityOf idna u.scheme (s.takeWhile (!endsAuthority true ·)) with
  | error fault => rw [ha] at hread; cases hread
  | ok a =>
    rw [ha] at hread
    have hu := Except.ok.inj hread
    -- without query and fragment all that is left behind the authority is path
    have htail := forall_of_readTail (s := s.dropWhile (!endsAuthority true ·))
      (by rw [← hquery, ← hu]) (by rw [← hfragment, ← hu])
    have hslash : ∀ c, (s.dropWhile (!endsAuthority true ·)).head? = some c →
        isSlash true c = true := by
      intro c hc
      have hends : endsAuthority true c = true := by
        simpa only [hc, Bool.not_eq_eq_eq_not, Bool.not_false, Bool.not_true] using
          List.head?_dropWhile_not (!endsAuthority true ·) s
      obtain ⟨hq, hh⟩ := htail c (List.mem_of_mem_head? hc)
      simpa [endsAuthority, isSlash, hq, hh] using hends
    exact ⟨s.takeWhile (!endsAuthority true ·), s.dropWhile (!endsAuthority true ·),
      { special := hspecial
        notFile := hfile
        scheme := ⟨rest, hscheme, by rw [hs, List.takeWhile_append_dropWhile]⟩
        inAuthority := fun c hc => by simpa using List.mem_takeWhile_imp hc
        lead := ⟨a, ha, by rw [← hu]⟩
        slash := hslash
        inPath := htail
        path_eq := by rw [← hu, splitPath_of_forall htail]
        query := hquery
        fragment := hfragment }⟩

namespace Writes

variable {s authority path : List Char} {u : Url}

theorem ne_nil (h : Writes idna s authority path u) : s ≠ [] := by
  rintro rfl
  obtain ⟨rest, hscheme, -⟩ := h.scheme
  cases hscheme

theorem authority_ne_nil (h : Writes idna s authority path u) : authority ≠ [] := by
  rintro rfl
  obtain ⟨a, ha, -⟩ := h.lead
  cases ha

/-- The scheme and the authority of a text that goes on are the same. -/
theorem scheme_append (h : Writes idna s authority path u) (x : List Char) :
    ∃ rest, scheme? (s ++ x) = some (u.scheme, rest) ∧
      rest.dropWhile (isSlash true) = authority ++ path ++ x := by
  obtain ⟨rest, hscheme, hrest⟩ := h.scheme
  have hne : rest.dropWhile (isSlash true) ≠ [] := by
    rw [hrest]
    exact List.append_ne_nil_of_left_ne_nil h.authority_ne_nil path
  exact ⟨rest ++ x, scheme?_append hscheme x, by rw [dropWhile_append_of_ne_nil hne, hrest]⟩

/-- What stands behind the path belongs to the path. -/
theorem append (h : Writes idna s authority path u) {x : List Char}
    (hx : ∀ c ∈ x, c ≠ '?' ∧ c ≠ '#')
    (hslash : path = [] → ∀ c, x.head? = some c → isSlash true c = true) :
    Writes idna (s ++ x) authority (path ++ x)
      { u with path := readPath false true (path ++ x) } where
  special := h.special
  notFile := h.notFile
  scheme := by
    obtain ⟨rest, hscheme, hrest⟩ := h.scheme_append x
    exact ⟨rest, hscheme, by rw [hrest, List.append_assoc]⟩
  inAuthority := h.inAuthority
  lead := h.lead
  slash := by
    intro c hc
    cases path with
    | nil => exact hslash rfl c hc
    | cons first rest => exact h.slash c hc
  inPath := by
    intro c hc
    exact (List.mem_append.1 hc).elim (h.inPath c) (hx c)
  path_eq := rfl
  query := h.query
  fragment := h.fragment

/-- Without a path, blanks that stand before what is appended belong to the authority. -/
theorem parse_append_of_blanks (h : Writes idna s authority [] u) {w y : List Char} {text : String}
    (hw : ∀ c ∈ w, isOutside c = true) (hne : w ≠ [])
    (hclean : clean text.toList = s ++ (w ++ '/' :: y)) :
    ∃ fault, parse idna text = .error fault := by
  obtain ⟨rest, hscheme, hrest⟩ := h.scheme_append (w ++ '/' :: y)
  have hends : ∀ c ∈ authority ++ w, (!endsAuthority true c) = true := by
    intro c hc
    rcases List.mem_append.1 hc with hc | hc
    · rw [h.inAuthority c hc]
      rfl
    · exact forall_isOutside (p := fun c => (!endsAuthority true c) = true) (by decide) (hw c hc)
  obtain ⟨fault, hfault⟩ := exists_authorityOf_append hw hne idna u.scheme authority
  refine ⟨fault, ?_⟩
  unfold parse
  rw [hclean, hscheme]
  dsimp only
  rw [if_neg h.notFile, if_pos h.special, hrest, List.append_nil, ← List.append_assoc,
    readHierarchical_of_special h.special, takeWhile_append_eq hends (by simp [endsAuthority]),
    hfault]
  rfl

/-- A text ends as its authority and its path do. -/
theorem getLast?_eq (h : Writes idna s authority path u) :
    s.getLast? = (authority ++ path).getLast? := by
  obtain ⟨rest, hscheme, hrest⟩ := h.scheme
  obtain ⟨before, hbefore⟩ := suffix_of_scheme? hscheme
  obtain ⟨slashes, hslashes⟩ := List.dropWhile_suffix (isSlash true) (l := rest)
  rw [hrest] at hslashes
  have hne : authority ++ path ≠ [] := List.append_ne_nil_of_left_ne_nil h.authority_ne_nil path
  rw [← hbefore, ← hslashes, ← List.append_assoc, List.getLast?_append,
    List.getLast?_eq_some_getLast hne, Option.some_or]

theorem getLast?_of_ne_nil (h : Writes idna s authority path u) (hne : path ≠ []) :
    s.getLast? = path.getLast? := by
  rw [h.getLast?_eq, List.getLast?_append, List.getLast?_eq_some_getLast hne, Option.some_or]

/-- Without a path no text ends in a slash. -/
theorem exists_getLast?_of_nil (h : Writes idna s authority [] u) :
    ∃ c, s.getLast? = some c ∧ isSlash true c = false := by
  have hne := h.authority_ne_nil
  refine ⟨authority.getLast hne, ?_, ?_⟩
  · rw [h.getLast?_eq, List.append_nil, List.getLast?_eq_some_getLast hne]
  · have hends := h.inAuthority _ (List.getLast_mem hne)
    simp only [endsAuthority, Bool.or_eq_false_iff] at hends
    rw [isSlash, hends.1.1.1, hends.2]
    rfl

end Writes

end Url
end WeblogDesk
