import RemoteNotebook.Text.Utf8

/-! Texts as bytes: what is written of a text reads back as the text, and nothing else does. A line
feed is a byte of no character but itself, so that a text can be cut into lines before it is
read. -/
namespace RemoteNotebook.Text.Utf8

theorem char?_toNat (c : Char) : char? c.toNat = some c := dif_pos c.valid

theorem toNat_ofNat {n : Nat} (h : n.isValidChar) : (Char.ofNat n).toNat = n := by
  rw [Char.ofNat, dif_pos h]
  rfl

theorem isTail_iff {b : UInt8} : isTail b = true ↔ 0x80 ≤ b.toNat ∧ b.toNat ≤ 0xBF := by
  simp [isTail, UInt8.le_iff_toNat_le]

theorem toNat_byte {n : Nat} (h : n < 256) : (UInt8.ofNat n).toNat = n := by
  rw [UInt8.toNat_ofNat']
  exact Nat.mod_eq_of_lt h

def tailOf (n : Nat) : UInt8 := UInt8.ofNat (n % 64 + 128)

theorem toNat_tailOf (n : Nat) : (tailOf n).toNat = n % 64 + 128 :=
  toNat_byte (by omega)

theorem isTail_tailOf (n : Nat) : isTail (tailOf n) = true := by
  rw [isTail_iff, toNat_tailOf]
  omega

theorem payload_tailOf (n : Nat) : payload (tailOf n) = n % 64 := by
  rw [payload, toNat_tailOf]
  omega

/-- The bytes of a character by the size of its code point. -/
theorem utf8EncodeChar_eq (c : Char) :
    String.utf8EncodeChar c =
      let n := c.toNat
      if n ≤ 0x7F then [UInt8.ofNat n]
      else if n ≤ 0x7FF then [UInt8.ofNat (n / 64 % 32 + 192), tailOf n]
      else if n ≤ 0xFFFF then [UInt8.ofNat (n / 4096 % 16 + 224), tailOf (n / 64), tailOf n]
      else
        [UInt8.ofNat (n / 262144 % 8 + 240), tailOf (n / 4096), tailOf (n / 64), tailOf n] := rfl

theorem two_of_lt {n : Nat} (hlow : 0x80 ≤ n) (hhigh : n < 0x800) :
    two (UInt8.ofNat (n / 64 % 32 + 192)) (tailOf n) = char? n := by
  have hlead : (UInt8.ofNat (n / 64 % 32 + 192)).toNat = n / 64 % 32 + 192 :=
    toNat_byte (by omega)
  have hvalue : (n / 64 % 32 + 192) % 0x20 * 0x40 + n % 64 = n := by omega
  rw [two, payload_tailOf, isTail_tailOf, hlead, hvalue, if_pos]
  simp [UInt8.le_iff_toNat_le]
  omega

theorem three_of_lt {n : Nat} (hlow : 0x800 ≤ n) (hhigh : n < 0x10000)
    (hscalar : n < 0xD800 ∨ 0xDFFF < n) :
    three (UInt8.ofNat (n / 4096 % 16 + 224)) (tailOf (n / 64)) (tailOf n) = char? n := by
  have hlead : (UInt8.ofNat (n / 4096 % 16 + 224)).toNat = n / 4096 % 16 + 224 :=
    toNat_byte (by omega)
  have hvalue : (n / 4096 % 16 + 224) % 0x10 * 0x1000 + n / 64 % 64 * 0x40 + n % 64 = n := by omega
  rw [three, payload_tailOf, payload_tailOf, isTail_tailOf, hlead, hvalue, if_pos]
  simp [startsThree, isTail_tailOf, UInt8.le_iff_toNat_le, ← UInt8.toNat_inj, toNat_tailOf]
  omega

theorem four_of_lt {n : Nat} (hlow : 0x10000 ≤ n) (hhigh : n < 0x110000) :
    four (UInt8.ofNat (n / 262144 % 8 + 240)) (tailOf (n / 4096)) (tailOf (n / 64)) (tailOf n) =
      char? n := by
  have hlead : (UInt8.ofNat (n / 262144 % 8 + 240)).toNat = n / 262144 % 8 + 240 :=
    toNat_byte (by omega)
  have hvalue : (n / 262144 % 8 + 240) % 8 * 0x40000 + n / 4096 % 64 * 0x1000 +
      n / 64 % 64 * 0x40 + n % 64 = n := by omega
  rw [four, payload_tailOf, payload_tailOf, payload_tailOf, isTail_tailOf, isTail_tailOf, hlead,
    hvalue, if_pos]
  simp [startsFour, isTail_tailOf, UInt8.le_iff_toNat_le, ← UInt8.toNat_inj, toNat_tailOf]
  omega

/-- A lead byte above those of two bytes begins no character of two bytes. -/
theorem two_eq_none {a : UInt8} (h : 0xE0 ≤ a.toNat) (b : UInt8) : two a b = none := by
  rw [two, if_neg]
  simp only [Bool.and_eq_true, decide_eq_true_eq, UInt8.le_iff_toNat_le]
  rintro ⟨⟨-, hle⟩, -⟩
  exact absurd hle (by simp; omega)

theorem three_eq_none {a : UInt8} (h : 0xF0 ≤ a.toNat) (b c : UInt8) : three a b c = none := by
  rw [three, if_neg]
  simp only [startsThree, Bool.and_eq_true, decide_eq_true_eq, UInt8.le_iff_toNat_le]
  rintro ⟨⟨⟨⟨⟨-, hle⟩, -⟩, -⟩, -⟩, -⟩
  exact absurd hle (by simp; omega)

section

variable {a b c d : UInt8} {ch : Char} {bs : List UInt8}

theorem not_lt_of_le (h : 0x80 ≤ a.toNat) : ¬ a < 0x80 := by
  rw [UInt8.lt_iff_toNat_lt]
  exact Nat.not_lt.mpr h

theorem decode_one (h : a < 0x80) :
    decode (a :: bs) = (decode bs).map (Char.ofNat a.toNat :: ·) := by
  rw [decode.eq_def]
  exact if_pos h

theorem decode_two (ha : 0x80 ≤ a.toNat) (htwo : two a b = some ch) :
    decode (a :: b :: bs) = (decode bs).map (ch :: ·) := by
  rw [decode.eq_def]
  simp only [if_neg (not_lt_of_le ha), htwo]

theorem decode_three (ha : 0xE0 ≤ a.toNat) (hthree : three a b c = some ch) :
    decode (a :: b :: c :: bs) = (decode bs).map (ch :: ·) := by
  have hlarge : 0x80 ≤ a.toNat := Nat.le_trans (by decide) ha
  rw [decode.eq_def]
  simp only [if_neg (not_lt_of_le hlarge), two_eq_none ha, hthree]

theorem decode_four (ha : 0xF0 ≤ a.toNat) (hfour : four a b c d = some ch) :
    decode (a :: b :: c :: d :: bs) = (decode bs).map (ch :: ·) := by
  have hlarge : 0x80 ≤ a.toNat := Nat.le_trans (by decide) ha
  have htwo : 0xE0 ≤ a.toNat := Nat.le_trans (by decide) ha
  rw [decode.eq_def]
  simp only [if_neg (not_lt_of_le hlarge), two_eq_none htwo, three_eq_none ha, hfour]

end

theorem decode_encodeChar_append (c : Char) (bs : List UInt8) :
    decode (String.utf8EncodeChar c ++ bs) = (decode bs).map (c :: ·) := by
  have hchar := char?_toNat c
  have hvalid : c.toNat < 0xD800 ∨ 0xDFFF < c.toNat ∧ c.toNat < 0x110000 := c.valid
  simp only [utf8EncodeChar_eq]
  split
  · next hone =>
    have hn : (UInt8.ofNat c.toNat).toNat = c.toNat := toNat_byte (by omega)
    have hlt : UInt8.ofNat c.toNat < 0x80 := by
      rw [UInt8.lt_iff_toNat_lt, hn]
      exact Nat.lt_succ_of_le hone
    rw [List.singleton_append, decode_one hlt, hn, Char.ofNat_toNat]
  · next htwo =>
    split
    · next hlt =>
      refine decode_two ?_ ((two_of_lt (by omega) (by omega)).trans hchar)
      rw [toNat_byte (by omega)]
      omega
    · next hthree =>
      split
      · next hlt =>
        refine decode_three ?_ ((three_of_lt (by omega) (by omega) (by omega)).trans hchar)
        rw [toNat_byte (by omega)]
        omega
      · next hfour =>
        refine decode_four ?_ ((four_of_lt (by omega) (by omega)).trans hchar)
        rw [toNat_byte (by omega)]
        omega

theorem decode_encode (cs : List Char) : decode (encode cs) = some cs := by
  induction cs with
  | nil => rfl
  | cons c cs ih =>
    rw [encode, List.flatMap_cons, decode_encodeChar_append]
    exact congrArg (Option.map (c :: ·)) ih

theorem encode_injective {cs ds : List Char} (h : encode cs = encode ds) : cs = ds := by
  have hdecode := decode_encode cs
  rw [h, decode_encode] at hdecode
  exact (Option.some.inj hdecode).symm

theorem encode_append (cs ds : List Char) : encode (cs ++ ds) = encode cs ++ encode ds :=
  List.flatMap_append

/-- The bytes of a character that takes several are none of those of the characters that take one.
-/
theorem le_of_mem_encodeChar {c : Char} (hc : 0x80 ≤ c.toNat) {b : UInt8}
    (hb : b ∈ String.utf8EncodeChar c) : 0x80 ≤ b.toNat := by
  have hlead {n : Nat} (hlow : 0x80 ≤ n) (hhigh : n < 256) : 0x80 ≤ (UInt8.ofNat n).toNat := by
    rw [toNat_byte hhigh]
    exact hlow
  have htail (n : Nat) : 0x80 ≤ (tailOf n).toNat := hlead (by omega) (by omega)
  revert b
  simp only [utf8EncodeChar_eq, if_neg (show ¬ c.toNat ≤ 0x7F by omega)]
  split
  · simpa [htail] using hlead (by omega) (by omega)
  · split
    · simpa [htail] using hlead (by omega) (by omega)
    · simpa [htail] using hlead (by omega) (by omega)

theorem newline_of_mem_encodeChar {c : Char} (h : 10 ∈ String.utf8EncodeChar c) : c = '\n' := by
  have hsmall : ¬ 0x80 ≤ c.toNat := fun hc => absurd (le_of_mem_encodeChar hc h) (by decide)
  have hone : c.toNat ≤ 0x7F := by omega
  simp only [utf8EncodeChar_eq, if_pos hone, List.mem_singleton] at h
  have hn : 10 = c.toNat := by
    rw [← toNat_byte (n := c.toNat) (by omega), ← h]
    rfl
  rw [← Char.ofNat_toNat c, ← hn]

theorem newline_not_mem_encode {cs : List Char} (h : '\n' ∉ cs) : 10 ∉ encode cs := by
  intro hmem
  obtain ⟨c, hc, hb⟩ := List.mem_flatMap.mp hmem
  exact h (newline_of_mem_encodeChar hb ▸ hc)

section

variable {a b c d : UInt8} {ch : Char}

theorem isTail_of_two (h : two a b = some ch) : isTail b = true := by
  rw [two] at h
  split at h
  next hlead => exact (Bool.and_eq_true_iff.mp hlead).2
  next => cases h

theorem of_three (h : three a b c = some ch) :
    0xE0 ≤ a.toNat ∧ isTail b = true ∧ isTail c = true := by
  rw [three] at h
  split at h
  next hlead =>
    simp only [startsThree, Bool.and_eq_true, decide_eq_true_eq, UInt8.le_iff_toNat_le] at hlead
    obtain ⟨⟨⟨⟨⟨hlow, -⟩, hb⟩, -⟩, -⟩, hc⟩ := hlead
    exact ⟨hlow, hb, hc⟩
  next => cases h

theorem of_four (h : four a b c d = some ch) :
    0xF0 ≤ a.toNat ∧ isTail b = true ∧ isTail c = true ∧ isTail d = true := by
  rw [four] at h
  split at h
  next hlead =>
    simp only [startsFour, Bool.and_eq_true, decide_eq_true_eq, UInt8.le_iff_toNat_le] at hlead
    obtain ⟨⟨⟨⟨⟨⟨hlow, -⟩, hb⟩, -⟩, -⟩, hc⟩, hd⟩ := hlead
    exact ⟨hlow, hb, hc, hd⟩
  next => cases h

end

/-- A byte in front of a line feed is not that line feed. -/
theorem exists_of_cons_eq {b : UInt8} (hb : b ≠ 10) {bs first rest : List UInt8}
    (h : b :: bs = first ++ 10 :: rest) :
    ∃ first', first = b :: first' ∧ bs = first' ++ 10 :: rest := by
  cases first with
  | nil => exact absurd (List.cons.inj h).1 hb
  | cons c first' =>
    obtain ⟨rfl, hrest⟩ := List.cons.inj h
    exact ⟨first', rfl, hrest⟩

theorem ne_of_isTail {b : UInt8} (h : isTail b = true) : b ≠ 10 := by
  rintro rfl
  cases h

theorem decode_cut {bs first rest : List UInt8} (h : decode bs ≠ none)
    (heq : bs = first ++ 10 :: rest) : decode (first ++ [10]) ≠ none ∧ decode rest ≠ none := by
  have hlead {a : UInt8} (ha : ¬ a < 0x80) : 0x80 ≤ a.toNat ∧ a ≠ 10 := by
    rw [UInt8.lt_iff_toNat_lt] at ha
    refine ⟨Nat.le_of_not_lt ha, ?_⟩
    rintro rfl
    exact ha (by decide)
  fun_induction decode bs generalizing first with
  | case1 => simp at heq
  | case2 a as ha ih =>
    have has : decode as ≠ none := by simpa using h
    cases first with
    | nil =>
      obtain ⟨rfl, rfl⟩ := List.cons.inj heq
      exact ⟨by decide, has⟩
    | cons c first =>
      obtain ⟨rfl, rfl⟩ := List.cons.inj heq
      obtain ⟨hfirst, hrest⟩ := ih has rfl
      rw [List.cons_append, decode_one ha]
      exact ⟨by simpa using hfirst, hrest⟩
  | case4 a ha b bs ch htwo ih =>
    obtain ⟨first, rfl, hbs⟩ := exists_of_cons_eq (hlead ha).2 heq
    obtain ⟨first, rfl, rfl⟩ := exists_of_cons_eq (ne_of_isTail (isTail_of_two htwo)) hbs
    obtain ⟨hfirst, hrest⟩ := ih (by simpa using h) rfl
    rw [List.cons_append, List.cons_append, decode_two (hlead ha).1 htwo]
    exact ⟨by simpa using hfirst, hrest⟩
  | case6 a ha b _ c cs ch hthree ih =>
    obtain ⟨hlow, hb, hc⟩ := of_three hthree
    obtain ⟨first, rfl, hbs⟩ := exists_of_cons_eq (hlead ha).2 heq
    obtain ⟨first, rfl, hcs⟩ := exists_of_cons_eq (ne_of_isTail hb) hbs
    obtain ⟨first, rfl, rfl⟩ := exists_of_cons_eq (ne_of_isTail hc) hcs
    obtain ⟨hfirst, hrest⟩ := ih (by simpa using h) rfl
    rw [List.cons_append, List.cons_append, List.cons_append, decode_three hlow hthree]
    exact ⟨by simpa using hfirst, hrest⟩
  | case8 a ha b _ c _ d ds ch hfour ih =>
    obtain ⟨hlow, hb, hc, hd⟩ := of_four hfour
    obtain ⟨first, rfl, hbs⟩ := exists_of_cons_eq (hlead ha).2 heq
    obtain ⟨first, rfl, hcs⟩ := exists_of_cons_eq (ne_of_isTail hb) hbs
    obtain ⟨first, rfl, hds⟩ := exists_of_cons_eq (ne_of_isTail hc) hcs
    obtain ⟨first, rfl, rfl⟩ := exists_of_cons_eq (ne_of_isTail hd) hds
    obtain ⟨hfirst, hrest⟩ := ih (by simpa using h) rfl
    rw [List.cons_append, List.cons_append, List.cons_append, List.cons_append,
      decode_four hlow hfour]
    exact ⟨by simpa using hfirst, hrest⟩
  | _ => exact absurd rfl h

theorem toNat_of_char? {n : Nat} {c : Char} (h : char? n = some c) : c.toNat = n := by
  by_cases hvalid : n.isValidChar
  · rw [char?, dif_pos hvalid] at h
    exact Option.some.inj h ▸ rfl
  · rw [char?, dif_neg hvalid] at h
    cases h

theorem byte_eq {a : UInt8} {n : Nat} (h : n = a.toNat) : UInt8.ofNat n = a := by
  rw [h, UInt8.ofNat_toNat]

theorem tailOf_eq {b : UInt8} {n : Nat} (hb : isTail b = true) (h : n % 64 = payload b) :
    tailOf n = b := by
  have htail := isTail_iff.mp hb
  apply byte_eq
  rw [h, payload]
  omega

theorem payload_lt (b : UInt8) : payload b < 64 := Nat.mod_lt _ (by decide)

section

variable {a b c d : UInt8} {ch : Char} {bs : List UInt8} {cs : List Char}

theorem encodeChar_one (h : a < 0x80) :
    String.utf8EncodeChar (Char.ofNat a.toNat) = [a] := by
  have hlow : a.toNat < 0x80 := UInt8.lt_iff_toNat_lt.mp h
  have hnat : (Char.ofNat a.toNat).toNat = a.toNat := toNat_ofNat (.inl (by omega))
  simp only [utf8EncodeChar_eq, hnat]
  rw [if_pos (by omega), UInt8.ofNat_toNat]

theorem encodeChar_two (h : two a b = some ch) : String.utf8EncodeChar ch = [a, b] := by
  have hb := isTail_of_two h
  have hpayload := payload_lt b
  rw [two] at h
  split at h
  next hlead =>
    simp only [Bool.and_eq_true, decide_eq_true_eq, UInt8.le_iff_toNat_le] at hlead
    have hlow : 0xC2 ≤ a.toNat := hlead.1.1
    have hhigh : a.toNat ≤ 0xDF := hlead.1.2
    have hch := toNat_of_char? h
    have ha : UInt8.ofNat (ch.toNat / 64 % 32 + 192) = a := byte_eq (by omega)
    have hb : tailOf ch.toNat = b := tailOf_eq hb (by omega)
    simp only [utf8EncodeChar_eq]
    rw [if_neg (by omega), if_pos (by omega), ha, hb]
  next => cases h

/-- The second byte after a lead byte of three keeps the code point off those of two bytes. -/
theorem of_startsThree (h : startsThree a b = true) :
    0xE0 ≤ a.toNat ∧ a.toNat ≤ 0xEF ∧ isTail b = true ∧ (a.toNat = 0xE0 → 0xA0 ≤ b.toNat) := by
  simp only [startsThree, Bool.and_eq_true, Bool.or_eq_true, decide_eq_true_eq, bne_iff_ne, ne_eq,
    UInt8.le_iff_toNat_le, ← UInt8.toNat_inj] at h
  obtain ⟨⟨⟨⟨hlow, hhigh⟩, hb⟩, hoverlong⟩, -⟩ := h
  exact ⟨hlow, hhigh, hb, fun ha => hoverlong.resolve_left fun hne => hne ha⟩

theorem encodeChar_three (h : three a b c = some ch) : String.utf8EncodeChar ch = [a, b, c] := by
  have hpayload := payload_lt b
  have hpayload' := payload_lt c
  rw [three] at h
  split at h
  next hlead =>
    obtain ⟨hstarts, hc⟩ := Bool.and_eq_true_iff.mp hlead
    obtain ⟨hlow, hhigh, hb, hoverlong⟩ := of_startsThree hstarts
    have htail := isTail_iff.mp hb
    have hch := toNat_of_char? h
    have hlarge : 0x800 ≤ ch.toNat := by
      rw [hch, payload]
      omega
    have ha : UInt8.ofNat (ch.toNat / 4096 % 16 + 224) = a := byte_eq (by omega)
    have hb : tailOf (ch.toNat / 64) = b := tailOf_eq hb (by omega)
    have hc : tailOf ch.toNat = c := tailOf_eq hc (by omega)
    simp only [utf8EncodeChar_eq]
    rw [if_neg (by omega), if_neg (by omega), if_pos (by omega), ha, hb, hc]
  next => cases h

theorem of_startsFour (h : startsFour a b = true) :
    0xF0 ≤ a.toNat ∧ a.toNat ≤ 0xF4 ∧ isTail b = true ∧ (a.toNat = 0xF0 → 0x90 ≤ b.toNat) := by
  simp only [startsFour, Bool.and_eq_true, Bool.or_eq_true, decide_eq_true_eq, bne_iff_ne, ne_eq,
    UInt8.le_iff_toNat_le, ← UInt8.toNat_inj] at h
  obtain ⟨⟨⟨⟨hlow, hhigh⟩, hb⟩, hoverlong⟩, -⟩ := h
  exact ⟨hlow, hhigh, hb, fun ha => hoverlong.resolve_left fun hne => hne ha⟩

theorem encodeChar_four (h : four a b c d = some ch) :
    String.utf8EncodeChar ch = [a, b, c, d] := by
  have hpayload := payload_lt b
  have hpayload' := payload_lt c
  have hpayload'' := payload_lt d
  rw [four] at h
  split at h
  next hlead =>
    obtain ⟨hlead, hd⟩ := Bool.and_eq_true_iff.mp hlead
    obtain ⟨hstarts, hc⟩ := Bool.and_eq_true_iff.mp hlead
    obtain ⟨hlow, hhigh, hb, hoverlong⟩ := of_startsFour hstarts
    have htail := isTail_iff.mp hb
    have hch := toNat_of_char? h
    have hlarge : 0x10000 ≤ ch.toNat := by
      rw [hch]
      have : payload b = b.toNat % 0x40 := rfl
      omega
    have ha : UInt8.ofNat (ch.toNat / 262144 % 8 + 240) = a := byte_eq (by omega)
    have hb : tailOf (ch.toNat / 4096) = b := tailOf_eq hb (by omega)
    have hc : tailOf (ch.toNat / 64) = c := tailOf_eq hc (by omega)
    have hd : tailOf ch.toNat = d := tailOf_eq hd (by omega)
    simp only [utf8EncodeChar_eq]
    rw [if_neg (by omega), if_neg (by omega), if_neg (by omega), ha, hb, hc, hd]
  next => cases h

end

theorem encode_cons (c : Char) (cs : List Char) :
    encode (c :: cs) = String.utf8EncodeChar c ++ encode cs := rfl

/-- Bytes are read only if they are those that the text is written with. -/
theorem encode_of_decode {bs : List UInt8} {cs : List Char} (h : decode bs = some cs) :
    encode cs = bs := by
  have hcons {ch : Char} {first rest : List UInt8} {cs : List Char}
      (hrest : (decode rest).map (ch :: ·) = some cs) (hchar : String.utf8EncodeChar ch = first)
      (ih : ∀ {cs}, decode rest = some cs → encode cs = rest) : encode cs = first ++ rest := by
    obtain ⟨cs, hcs, rfl⟩ := Option.map_eq_some_iff.mp hrest
    rw [encode_cons, hchar, ih hcs]
  fun_induction decode bs generalizing cs with
  | case1 => exact Option.some.inj h ▸ rfl
  | case2 a as ha ih => exact hcons h (encodeChar_one ha) ih
  | case4 a ha b bs ch htwo ih => exact hcons h (encodeChar_two htwo) ih
  | case6 a ha b _ c cs ch hthree ih => exact hcons h (encodeChar_three hthree) ih
  | case8 a ha b _ c _ d ds ch hfour ih => exact hcons h (encodeChar_four hfour) ih
  | _ => cases h

theorem decode_eq_some_iff {bs : List UInt8} {cs : List Char} :
    decode bs = some cs ↔ bs = encode cs :=
  ⟨fun h => (encode_of_decode h).symm, fun h => h ▸ decode_encode cs⟩

end RemoteNotebook.Text.Utf8
