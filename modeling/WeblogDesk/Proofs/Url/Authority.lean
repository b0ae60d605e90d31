/-
  WeblogDesk.Proofs.Url.Authority

  Authorities of URLs of the network.

  For a scheme that needs a host the authority depends on the text up to the first
  slash alone (`readAuthority_of_special`).  A text that ends in blanks writes no
  authority (`exists_authorityOf_append`): they would be part of the port or of
  the host.
-/

import WeblogDesk.Proofs.Session
import WeblogDesk.Proofs.Url.Blanks

namespace WeblogDesk
namespace Url

/-! ## What an authority is read from -/

theorem ne_nil_of_bracketed {inside host : List Char} (h : bracketed inside = .ok host) :
    host ≠ [] := by
  unfold bracketed at h
  split at h
  · cases h
    exact List.append_ne_nil_of_right_ne_nil _ (List.cons_ne_nil _ _)
  · cases h

variable {idna : Idna}

theorem ne_nil_of_domainText {raw host : List Char} (h : domainText idna raw = .ok host) :
    host ≠ [] := by
  unfold domainText at h
  cases hname : asciiDomain idna (decode raw) with
  | error fault => rw [hname] at h; cases h
  | ok name =>
    rw [hname] at h
    simp only [bind, Except.bind] at h
    split at h
    · cases h
    · next hne =>
      split at h
      · split at h
        · cases h
          simp [ipv4Text]
        · cases h
      · cases h
        simpa using hne

/-- No host of a URL of the network is empty. -/
theorem ne_nil_of_hostText {raw host : List Char} (h : hostText idna true raw = .ok host) :
    host ≠ [] := by
  unfold hostText at h
  split at h
  · exact ne_nil_of_bracketed h
  · exact ne_nil_of_domainText h

/-- The authority that a text without slashes writes for a scheme of the network. -/
def authorityOf (idna : Idna) (scheme raw : List Char) : Except Fault Authority :=
  let parts := (splitAtLast raw).getD ([], raw)
  let hostAndPort := splitHost false parts.2
  if hostAndPort.1.isEmpty then .error .emptyHost
  else
    (hostText idna true hostAndPort.1).bind fun host =>
      (portOf scheme (hostAndPort.2.drop 1)).map fun port => ⟨userinfoText parts.1, host, port⟩

theorem splitHost_append_eq (inBrackets : Bool) (s : List Char) :
    (splitHost inBrackets s).1 ++ (splitHost inBrackets s).2 = s := by
  induction s generalizing inBrackets with
  | nil => rfl
  | cons c rest ih =>
    rw [splitHost]
    split
    · rfl
    · exact congrArg (c :: ·) (ih _)

theorem mem_of_mem_splitAtLast {raw : List Char} {c : Char}
    (h : c ∈ ((splitAtLast raw).getD ([], raw)).2) : c ∈ raw := by
  unfold splitAtLast at h
  split at h
  · rw [Option.getD_some, List.mem_reverse] at h
    exact List.mem_reverse.1 ((List.takeWhile_sublist _).subset h)
  · exact h

/-- The authority of a URL of the network is told by the text up to the first slash. -/
theorem readAuthority_of_special {scheme : List Char} (h : isSpecialScheme scheme = true)
    (s : List Char) :
    readAuthority idna scheme s =
      (authorityOf idna scheme (s.takeWhile (!endsAuthority true ·))).map
        (·, s.dropWhile (!endsAuthority true ·)) := by
  have hback : ∀ c ∈ s.takeWhile (!endsAuthority true ·), (c != '\\') = true := by
    intro c hc
    have hends := List.mem_takeWhile_imp hc
    rw [bne_iff_ne]
    rintro rfl
    exact absurd hends (by decide)
  unfold readAuthority authorityOf
  rw [h]
  dsimp only
  generalize s.takeWhile (!endsAuthority true ·) = raw at hback
  generalize s.dropWhile (!endsAuthority true ·) = rest
  generalize hparts : (splitAtLast raw).getD ([], raw) = parts
  obtain ⟨credentials, hostAndPort⟩ := parts
  generalize hsplit : splitHost false hostAndPort = split
  obtain ⟨host, port⟩ := split
  dsimp only
  have hwhole : host ++ port = hostAndPort := by
    have happend := splitHost_append_eq false hostAndPort
    rwa [hsplit] at happend
  -- the text ends at a backslash, so the port holds none
  have hport : ∀ c ∈ port.drop 1, (c != '\\') = true := by
    intro c hc
    have hmem : c ∈ hostAndPort := by
      rw [← hwhole]
      exact List.mem_append_right host (List.mem_of_mem_drop hc)
    exact hback c (mem_of_mem_splitAtLast (by rwa [hparts]))
  rw [List.takeWhile_eq_self_iff.2 hport, List.dropWhile_eq_nil_iff.2 hport]
  by_cases hhost : host = []
  · subst hhost
    split <;> rfl
  · have hne : host.isEmpty = false := by simpa using hhost
    have hsome : hostAndPort.isEmpty = false := by simp [← hwhole, hhost]
    simp only [hne, hsome, Bool.and_false, Bool.false_and, Bool.false_eq_true, if_false]
    cases htext : hostText idna true host with
    | error fault => rfl
    | ok text =>
      -- a host that was read is not empty, so the checks behind it pass
      have htextne : text.isEmpty = false := by simpa using ne_nil_of_hostText htext
      simp only [bind, Except.bind, htextne, Bool.false_and, Bool.false_eq_true, if_false]
      cases portOf scheme (port.drop 1) <;> rfl

/-! ## Blanks behind an authority -/

section Blanks

variable {w : List Char} (hw : ∀ c ∈ w, isOutside c = true)

include hw

theorem splitAtLast_append (raw : List Char) :
    ((splitAtLast (raw ++ w)).getD ([], raw ++ w)).2 =
      ((splitAtLast raw).getD ([], raw)).2 ++ w := by
  have hnone : '@' ∉ w := fun hmem => ne_of_isOutside (hw _ hmem) rfl rfl
  have hcontains : (raw ++ w).contains '@' = raw.contains '@' := by
    simp [hnone]
  unfold splitAtLast
  rw [hcontains]
  split
  · have hall : ∀ c ∈ w.reverse, (c != '@') = true := fun c hc =>
      bne_iff_ne.2 (ne_of_isOutside (hw c (List.mem_reverse.1 hc)) rfl)
    rw [Option.getD_some, Option.getD_some, List.reverse_append,
      List.takeWhile_append_of_pos hall, List.reverse_append, List.reverse_reverse]
  · rfl

theorem splitHost_blanks (inBrackets : Bool) : splitHost inBrackets w = (w, []) := by
  induction w generalizing inBrackets with
  | nil => rfl
  | cons c rest ih =>
    have hc : (c == ':' && !inBrackets) = false := by
      rw [beq_false_of_ne (ne_of_isOutside (hw c List.mem_cons_self) rfl), Bool.false_and]
    rw [splitHost, if_neg (Bool.eq_false_iff.1 hc)]
    dsimp only
    rw [ih fun d hd => hw d (List.mem_cons_of_mem c hd)]

/-- Blanks go on behind the port, or behind the host if there is no port. -/
theorem splitHost_append (inBrackets : Bool) (s : List Char) :
    (∃ host, splitHost inBrackets (s ++ w) = (host ++ w, [])) ∨
      ∃ host port, splitHost inBrackets (s ++ w) = (host, ':' :: (port ++ w)) := by
  induction s generalizing inBrackets with
  | nil => exact .inl ⟨[], splitHost_blanks hw inBrackets⟩
  | cons c rest ih =>
    rw [List.cons_append, splitHost]
    split
    · next hcolon =>
      have hc : c = ':' := by
        rw [Bool.and_eq_true, beq_iff_eq] at hcolon
        exact hcolon.1
      exact .inr ⟨[], rest, by rw [hc]⟩
    · dsimp only
      rcases ih (if c == '[' then true else if c == ']' then false else inBrackets) with
        ⟨host, hread⟩ | ⟨host, port, hread⟩
      · exact .inl ⟨c :: host, by rw [hread]; rfl⟩
      · exact .inr ⟨c :: host, port, by rw [hread]⟩

variable (hne : w ≠ [])

include hne

/-- Blanks are no digits of a port. -/
theorem portOf_append (scheme port : List Char) :
    portOf scheme (port ++ w) = .error .badPort := by
  obtain ⟨c, hc⟩ := List.exists_mem_of_ne_nil w hne
  have hdigit : c.isDigit = false :=
    forall_isOutside (p := (·.isDigit = false)) (by decide) (hw c hc)
  have hall : (port ++ w).all Char.isDigit = false := by
    rw [List.all_eq_false]
    exact ⟨c, List.mem_append_right port hc, by rw [hdigit]; exact Bool.false_ne_true⟩
  rw [portOf, hall]
  rfl

variable (idna : Idna)

/-- No name on the network ends in blanks. -/
theorem domainText_append (raw : List Char) :
    domainText idna (raw ++ w) = .error .badDomain := by
  rw [← List.dropLast_append_getLast hne, ← List.append_assoc]
  generalize hc : w.getLast hne = c
  have hblank : isOutside c = true := hc ▸ hw _ (List.getLast_mem hne)
  have hascii : c.toNat < 128 := forall_isOutside (p := (·.toNat < 128)) (by decide) hblank
  -- the blank stays a blank, which no ASCII form of the whole name can make good
  have hforbidden : (UInt8.ofNat c.toNat < 0x80 &&
      forbiddenInDomain (Char.ofNat (UInt8.ofNat c.toNat).toNat)) = true :=
    forall_isOutside
      (p := fun c => (UInt8.ofNat c.toNat < 0x80 &&
        forbiddenInDomain (Char.ofNat (UInt8.ofNat c.toNat).toNat)) = true)
      (by decide) hblank
  rw [domainText, asciiDomain, decode_concat hblank, Session.utf8EncodeChar_of_lt hascii,
    List.any_append, List.any_cons, hforbidden, Bool.true_or, Bool.or_true]
  rfl

/-- Neither does an address in brackets. -/
theorem bracketed_append (inside : List Char) :
    bracketed (inside ++ w) = .error .badIpv6 := by
  have hlast : (inside ++ w).getLast? ≠ some ']' := by
    rw [List.getLast?_append, List.getLast?_eq_some_getLast hne, Option.some_or, ne_eq,
      Option.some_inj]
    exact ne_of_isOutside (hw _ (List.getLast_mem hne)) rfl
  unfold bracketed
  split
  · next hbracket _ => exact absurd hbracket hlast
  · rfl

theorem exists_hostText_append (raw : List Char) :
    ∃ fault, hostText idna true (raw ++ w) = .error fault := by
  unfold hostText
  split
  · next inside hraw =>
    cases raw with
    | nil =>
      have hmem : '[' ∈ w := by
        rw [List.nil_append] at hraw
        rw [hraw]
        exact List.mem_cons_self
      exact absurd rfl (ne_of_isOutside (hw _ hmem) rfl)
    | cons c rest =>
      rw [List.cons_append, List.cons.injEq] at hraw
      rw [← hraw.2]
      exact ⟨_, bracketed_append hw hne rest⟩
  · exact ⟨_, domainText_append hw hne idna raw⟩

/-- An authority with blanks behind it is none. -/
theorem exists_authorityOf_append (scheme raw : List Char) :
    ∃ fault, authorityOf idna scheme (raw ++ w) = .error fault := by
  unfold authorityOf
  dsimp only
  rw [splitAtLast_append hw]
  generalize ((splitAtLast raw).getD ([], raw)).2 = hostAndPort
  split
  · exact ⟨_, rfl⟩
  · rcases splitHost_append hw false hostAndPort with ⟨host, hread⟩ | ⟨host, port, hread⟩
    · obtain ⟨fault, hfault⟩ := exists_hostText_append hw hne idna host
      exact ⟨fault, by rw [hread, hfault]; rfl⟩
    · rw [hread]
      cases hostText idna true host with
      | error fault => exact ⟨fault, rfl⟩
      | ok text =>
        refine ⟨.badPort, ?_⟩
        show (portOf scheme (port ++ w)).map _ = _
        rw [portOf_append hw hne]
        rfl

end Blanks

end Url
end WeblogDesk
