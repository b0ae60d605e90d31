/-
  WeblogDesk.Proofs.Url.Encoding

  What percent-encoding keeps and what it leaves out.

  `decode_encode` reads back the bytes of the text wherever the percent sign
  itself is encoded, so that `encode` is injective there.  `mem_encode` says which
  characters an encoded text can have, and `plainDots_encode` that none of its
  encodings stands for a dot.
-/

import WeblogDesk.Url.Path

namespace WeblogDesk
namespace Url

/-! ## Bytes of characters -/

/-- A byte of a character that is ASCII on its own is that character. -/
theorem toNat_eq_of_mem_utf8EncodeChar {c : Char} {b : UInt8}
    (h : b ∈ String.utf8EncodeChar c) (hb : b.toNat < 128) : c.toNat = b.toNat := by
  have hofNat (n : Nat) : (UInt8.ofNat n).toNat = n % 256 := UInt8.toNat_ofNat'
  have hval : c.val.toNat = c.toNat := rfl
  simp only [String.utf8EncodeChar, hval] at h
  -- Beyond ASCII every byte has its high bit set.
  split at h
  · obtain rfl := List.mem_singleton.1 h
    rw [hofNat]
    omega
  · exfalso
    split at h
    · simp only [List.mem_cons, List.not_mem_nil, or_false] at h
      rcases h with rfl | rfl <;> rw [hofNat] at hb <;> omega
    · split at h
      · simp only [List.mem_cons, List.not_mem_nil, or_false] at h
        rcases h with rfl | rfl | rfl <;> rw [hofNat] at hb <;> omega
      · simp only [List.mem_cons, List.not_mem_nil, or_false] at h
        rcases h with rfl | rfl | rfl | rfl <;> rw [hofNat] at hb <;> omega

/-- Texts with the same bytes are the same. -/
theorem flatMap_utf8EncodeChar_injective {s t : List Char}
    (h : s.flatMap String.utf8EncodeChar = t.flatMap String.utf8EncodeChar) : s = t := by
  have hbytes : s.utf8Encode = t.utf8Encode := congrArg List.toByteArray h
  -- reading the bytes as UTF-8 gives both texts back
  have hread := congrArg ByteArray.utf8Decode? hbytes
  rw [List.utf8Decode?_utf8Encode, List.utf8Decode?_utf8Encode] at hread
  simpa using hread

/-! ## Reading back -/

/-- A character in a text that is encoded. -/
def encodeChar (set : Char → Bool) (c : Char) : List Char :=
  if isControl c || set c then (String.utf8EncodeChar c).flatMap percentByte else [c]

theorem encode_eq_flatMap (set : Char → Bool) (s : List Char) :
    encode set s = s.flatMap (encodeChar set) := rfl

theorem encode_cons (set : Char → Bool) (c : Char) (s : List Char) :
    encode set (c :: s) = encodeChar set c ++ encode set s := rfl

theorem hexByte?_percentByte (b : UInt8) :
    hexByte? (Text.upperHex (b.toNat / 16)) (Text.upperHex (b.toNat % 16)) = some b := by
  have hb : b.toNat < 256 := b.toNat_lt
  have hhigh := Text.hexValue?_upperHex (n := b.toNat / 16) (by omega)
  have hlow := Text.hexValue?_upperHex (n := b.toNat % 16) (by omega)
  have hsum : b.toNat / 16 * 16 + b.toNat % 16 = b.toNat := by omega
  simp only [hexByte?, hhigh, hlow, hsum, UInt8.ofNat_toNat]

theorem decode_percentByte (b : UInt8) (rest : List Char) :
    decode (percentByte b ++ rest) = b :: decode rest := by
  simp only [percentByte, List.cons_append, List.nil_append]
  rw [decode, hexByte?_percentByte]

theorem decode_percentBytes (bs : List UInt8) (rest : List Char) :
    decode (bs.flatMap percentByte ++ rest) = bs ++ decode rest := by
  induction bs with
  | nil => rfl
  | cons b bs ih =>
    rw [List.flatMap_cons, List.append_assoc, decode_percentByte, ih, List.cons_append]

theorem decode_cons_of_ne {c : Char} (h : c ≠ '%') (rest : List Char) :
    decode (c :: rest) = String.utf8EncodeChar c ++ decode rest := by
  rw [decode]
  rintro _ _ _ rfl
  exact absurd rfl h

theorem decode_encodeChar {set : Char → Bool} (hset : set '%' = true) (c : Char)
    (rest : List Char) :
    decode (encodeChar set c ++ rest) = String.utf8EncodeChar c ++ decode rest := by
  unfold encodeChar
  split
  · exact decode_percentBytes _ rest
  · rename_i hc
    have hne : c ≠ '%' := by
      rintro rfl
      simp [hset] at hc
    exact decode_cons_of_ne hne rest

/-- Decoding an encoded text gives the bytes of the text. -/
theorem decode_encode {set : Char → Bool} (hset : set '%' = true) (s rest : List Char) :
    decode (encode set s ++ rest) = s.flatMap String.utf8EncodeChar ++ decode rest := by
  induction s with
  | nil => rfl
  | cons c s ih =>
    rw [encode_cons, List.append_assoc, decode_encodeChar hset, ih, List.flatMap_cons,
      List.append_assoc]

/-- Different texts are encoded differently. -/
theorem encode_injective {set : Char → Bool} (hset : set '%' = true) {s t : List Char}
    (h : encode set s = encode set t) : s = t := by
  have hs := decode_encode hset s []
  have ht := decode_encode hset t []
  rw [List.append_nil, decode, List.append_nil] at hs ht
  exact flatMap_utf8EncodeChar_injective (by rw [← hs, ← ht, h])

theorem encode_inj {set : Char → Bool} (hset : set '%' = true) {s t : List Char} :
    encode set s = encode set t ↔ s = t :=
  ⟨encode_injective hset, fun h => h ▸ rfl⟩

/-! ## Characters of an encoded text -/

/-- A text without characters to encode stays. -/
theorem encode_of_forall {set : Char → Bool} {s : List Char}
    (h : ∀ c ∈ s, (isControl c || set c) = false) : encode set s = s := by
  induction s with
  | nil => rfl
  | cons c s ih =>
    have hc := h c List.mem_cons_self
    rw [encode_cons, encodeChar, if_neg (by simp [hc]),
      ih fun d hd => h d (List.mem_cons_of_mem c hd)]
    rfl

/-- A character of an encoded text was let through, or belongs to an encoding. -/
theorem mem_encode {set : Char → Bool} {s : List Char} {c : Char} (h : c ∈ encode set s) :
    (c ∈ s ∧ (isControl c || set c) = false) ∨ c = '%' ∨ ∃ n < 16, c = Text.upperHex n := by
  rw [encode_eq_flatMap] at h
  obtain ⟨d, hmem, hd⟩ := List.mem_flatMap.1 h
  unfold encodeChar at hd
  split at hd
  · obtain ⟨b, -, hb⟩ := List.mem_flatMap.1 hd
    have hlt : b.toNat < 256 := b.toNat_lt
    simp only [percentByte, List.mem_cons, List.not_mem_nil, or_false] at hb
    rcases hb with hb | hb | hb
    · exact .inr (.inl hb)
    · exact .inr (.inr ⟨_, by omega, hb⟩)
    · exact .inr (.inr ⟨_, by omega, hb⟩)
  · rename_i hset
    obtain rfl := List.mem_singleton.1 hd
    exact .inl ⟨hmem, by simpa using hset⟩

/-- What an encoded segment is made of.  A reader of URLs takes none of it for the end of a
    segment or of the path, and encodes none of it again. -/
theorem mem_encode_segmentSet {s : List Char} {c : Char} (h : c ∈ encode (segmentSet true) s) :
    (isControl c || pathSet c) = false ∧ c ≠ '/' ∧ c ≠ '\\' := by
  rcases mem_encode h with ⟨-, h⟩ | rfl | ⟨n, hn, rfl⟩
  · simp only [segmentSet, Bool.or_eq_false_iff, beq_eq_false_iff_ne, Bool.true_and] at h ⊢
    exact ⟨⟨h.1, h.2.1.1.1⟩, h.2.1.1.2, h.2.2⟩
  · decide
  · have hdigit : ∀ n < 16, (isControl (Text.upperHex n) || pathSet (Text.upperHex n)) = false ∧
        Text.upperHex n ≠ '/' ∧ Text.upperHex n ≠ '\\' := by decide
    exact hdigit n hn

theorem segmentSet_percent (special : Bool) : segmentSet special '%' = true := by
  cases special <;> decide

/-! ## Dots -/

namespace Path

theorem plainDots_cons_of_ne {c : Char} (h : c ≠ '%') (rest : List Char) :
    plainDots (c :: rest) = c :: plainDots rest := by
  rw [plainDots]
  · rintro _ rfl
    exact absurd rfl h
  · rintro _ rfl
    exact absurd rfl h

/-- The digits of an encoded byte that is no dot. -/
theorem upperHex_ne_dot {b : UInt8} (hb : b ≠ 0x2E) (rest rest' : List Char) :
    Text.upperHex (b.toNat / 16) :: Text.upperHex (b.toNat % 16) :: rest ≠ '2' :: 'e' :: rest' ∧
      Text.upperHex (b.toNat / 16) :: Text.upperHex (b.toNat % 16) :: rest ≠
        '2' :: 'E' :: rest' := by
  have hlt : b.toNat < 256 := b.toNat_lt
  have hnat : b.toNat ≠ 0x2E := fun h => hb (UInt8.toNat_inj.1 h)
  -- no digit is written in lower case, and only the byte 0x2E is written `2E`
  have htwo : ∀ n < 16, Text.upperHex n = '2' → n = 2 := by decide
  have hupper : ∀ n < 16, Text.upperHex n = 'E' → n = 14 := by decide
  have hlower : ∀ n < 16, Text.upperHex n ≠ 'e' := by decide
  constructor
  · intro h
    simp only [List.cons.injEq] at h
    exact hlower _ (by omega) h.2.1
  · intro h
    simp only [List.cons.injEq] at h
    have h1 := htwo _ (by omega) h.1
    have h2 := hupper _ (by omega) h.2.1
    omega

theorem plainDots_percentByte {b : UInt8} (hb : b ≠ 0x2E) (rest : List Char) :
    plainDots (percentByte b ++ rest) = percentByte b ++ plainDots rest := by
  have hlt : b.toNat < 256 := b.toNat_lt
  have hdigit : ∀ n < 16, Text.upperHex n ≠ '%' := by decide
  simp only [percentByte, List.cons_append, List.nil_append]
  rw [plainDots, plainDots_cons_of_ne (hdigit _ (by omega)),
    plainDots_cons_of_ne (hdigit _ (by omega))]
  · intro rest' _ h
    exact (upperHex_ne_dot hb rest rest').1 h
  · intro rest' _ h
    exact (upperHex_ne_dot hb rest rest').2 h

theorem plainDots_percentBytes {bs : List UInt8} (h : 0x2E ∉ bs) (rest : List Char) :
    plainDots (bs.flatMap percentByte ++ rest) = bs.flatMap percentByte ++ plainDots rest := by
  induction bs with
  | nil => rfl
  | cons b bs ih =>
    obtain ⟨hb, hbs⟩ := List.ne_and_not_mem_of_not_mem_cons h
    rw [List.flatMap_cons, List.append_assoc, List.append_assoc, plainDots_percentByte hb.symm,
      ih hbs]

/-- An encoded segment has no encoded dots: a dot is let through as it is. -/
theorem plainDots_encode (s : List Char) :
    plainDots (encode (segmentSet true) s) = encode (segmentSet true) s := by
  induction s with
  | nil => rfl
  | cons c s ih =>
    rw [encode_cons]
    unfold encodeChar
    split
    · rename_i hc
      rw [plainDots_percentBytes ?_, ih]
      -- a byte that would read as a dot belongs to a dot, and dots are not encoded
      intro hmem
      have hdot : c.toNat = 0x2E := toNat_eq_of_mem_utf8EncodeChar hmem (by decide)
      obtain rfl : c = '.' := Char.toNat_inj.1 hdot
      revert hc
      decide
    · rename_i hc
      have hne : c ≠ '%' := by
        rintro rfl
        exact hc (by decide)
      rw [List.singleton_append, plainDots_cons_of_ne hne, ih]

end Path
end Url
end WeblogDesk
