/-!
Base64: three bytes are written as four characters. Equals signs stand for what is missing in the
last four.
-/

namespace RemoteNotebook.Text.Base64

def digit (n : Nat) : Char :=
  if n < 26 then Char.ofNat (0x41 + n)
  else if n < 52 then Char.ofNat (0x61 + n - 26)
  else if n < 62 then Char.ofNat (0x30 + n - 52)
  else if n = 62 then '+'
  else '/'

def encode : List UInt8 → List Char
  | [] => []
  | [a] => [digit (a.toNat / 4), digit (a.toNat * 16 % 64), '=', '=']
  | [a, b] =>
    let n := (a.toNat * 256 + b.toNat) * 4
    [digit (n / 4096), digit (n / 64 % 64), digit (n % 64), '=']
  | a :: b :: c :: bs =>
    let n := (a.toNat * 256 + b.toNat) * 256 + c.toNat
    digit (n / 262144) :: digit (n / 4096 % 64) :: digit (n / 64 % 64) :: digit (n % 64) ::
      encode bs

theorem digit_injOn : ∀ m < 64, ∀ n < 64, digit m = digit n → m = n := by decide +kernel

theorem digit_ne_pad : ∀ n < 64, digit n ≠ '=' := by decide +kernel

theorem digit_inj {m n : Nat} (hm : m < 64) (hn : n < 64) (h : digit m = digit n) : m = n :=
  digit_injOn m hm n hn h

theorem not_pad {n : Nat} (hn : n < 64) (h : digit n = '=') : False := digit_ne_pad n hn h

/-- Four digits tell the three bytes that they write. -/
theorem bytes_eq {a b c d e f : UInt8}
    (h : encode [a, b, c] = encode [d, e, f]) : a = d ∧ b = e ∧ c = f := by
  have ha := a.toNat_lt
  have hb := b.toNat_lt
  have hc := c.toNat_lt
  have hd := d.toNat_lt
  have he := e.toNat_lt
  have hf := f.toNat_lt
  simp only [encode, List.cons.injEq] at h
  obtain ⟨h₁, h₂, h₃, h₄, -⟩ := h
  have hfirst := digit_inj (by omega) (by omega) h₁
  have hsecond := digit_inj (by omega) (by omega) h₂
  have hthird := digit_inj (by omega) (by omega) h₃
  have hfourth := digit_inj (by omega) (by omega) h₄
  exact ⟨UInt8.toNat_inj.mp (by omega), UInt8.toNat_inj.mp (by omega),
    UInt8.toNat_inj.mp (by omega)⟩

/-- Different bytes are written differently: what is missing in the last four characters tells how
many bytes there are, and the digits tell which. -/
theorem encode_injective {as bs : List UInt8} (h : encode as = encode bs) : as = bs := by
  induction as using encode.induct generalizing bs with
  | case1 =>
    match bs with
    | [] => rfl
    | [_] | [_, _] | _ :: _ :: _ :: _ => cases h
  | case2 a =>
    match bs with
    | [] => cases h
    | [b] =>
      have ha := a.toNat_lt
      have hb := b.toNat_lt
      simp only [encode, List.cons.injEq] at h
      have hfirst := digit_inj (by omega) (by omega) h.1
      have hsecond := digit_inj (by omega) (by omega) h.2.1
      rw [UInt8.toNat_inj.mp (by omega : a.toNat = b.toNat)]
    | [_, _] | _ :: _ :: _ :: _ =>
      simp only [encode, List.cons.injEq] at h
      exact (not_pad (by omega) h.2.2.1.symm).elim
  | case3 a b =>
    match bs with
    | [] => cases h
    | [_] =>
      simp only [encode, List.cons.injEq] at h
      exact (not_pad (by omega) h.2.2.1).elim
    | [c, d] =>
      have ha := a.toNat_lt
      have hb := b.toNat_lt
      have hc := c.toNat_lt
      have hd := d.toNat_lt
      simp only [encode, List.cons.injEq] at h
      have hfirst := digit_inj (by omega) (by omega) h.1
      have hsecond := digit_inj (by omega) (by omega) h.2.1
      have hthird := digit_inj (by omega) (by omega) h.2.2.1
      rw [UInt8.toNat_inj.mp (by omega : a.toNat = c.toNat),
        UInt8.toNat_inj.mp (by omega : b.toNat = d.toNat)]
    | _ :: _ :: _ :: _ =>
      simp only [encode, List.cons.injEq] at h
      exact (not_pad (by omega) h.2.2.2.1.symm).elim
  | case4 a b c as ih =>
    match bs with
    | [] => cases h
    | [_] | [_, _] =>
      simp only [encode, List.cons.injEq] at h
      exact (not_pad (by omega) h.2.2.2.1).elim
    | d :: e :: f :: bs =>
      simp only [encode, List.cons.injEq] at h
      obtain ⟨h₁, h₂, h₃, h₄, hrest⟩ := h
      obtain ⟨rfl, rfl, rfl⟩ := bytes_eq (a := a) (b := b) (c := c) (d := d) (e := e) (f := f)
        (by simp only [encode, h₁, h₂, h₃, h₄])
      rw [ih hrest]

end RemoteNotebook.Text.Base64
