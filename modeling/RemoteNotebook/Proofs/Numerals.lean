import RemoteNotebook.Decimal.Integer
import RemoteNotebook.Text.Blank

/-! Decimal texts: what is written of a number reads back as the number, over the whole range of
signed 64-bit numbers. -/
namespace RemoteNotebook.Decimal

theorem digitValue_digitChar (d : Nat) : digitValue (digitChar d) = d % 10 := by
  have h : ∀ r < 10, digitValue (Char.ofNat (0x30 + r)) = r := by decide
  exact h _ (Nat.mod_lt d (by decide))

theorem isDigit_digitChar (d : Nat) : isDigit (digitChar d) = true := by
  have h : ∀ r < 10, isDigit (Char.ofNat (0x30 + r)) = true := by decide
  exact h _ (Nat.mod_lt d (by decide))

theorem natDigits_ne_nil (n : Nat) : natDigits n ≠ [] := by
  rw [natDigits]
  split <;> simp

theorem isDigit_of_mem_natDigits {c : Char} {n : Nat} (h : c ∈ natDigits n) :
    isDigit c = true := by
  induction n using natDigits.induct with
  | case1 n hn =>
    rw [natDigits, if_pos hn, List.mem_singleton] at h
    rw [h]
    exact isDigit_digitChar n
  | case2 n hn ih =>
    rw [natDigits, if_neg hn, List.mem_append, List.mem_singleton] at h
    rcases h with h | rfl
    · exact ih h
    · exact isDigit_digitChar n

theorem ne_of_isDigit {c d : Char} (hc : isDigit c = true) (hd : isDigit d = false) : c ≠ d := by
  rintro rfl
  cases hc.symm.trans hd

/-- No zero leads the digits of a number but zero itself. -/
theorem head?_natDigits {n : Nat} (h : 0 < n) : (natDigits n).head? ≠ some '0' := by
  induction n using natDigits.induct with
  | case1 n hn =>
    have hdigit : ∀ d < 10, 0 < d → digitChar d ≠ '0' := by decide
    rw [natDigits, if_pos hn, List.head?_cons, ne_eq, Option.some.injEq]
    exact hdigit n hn h
  | case2 n hn ih =>
    obtain ⟨c, cs, hcs⟩ := List.exists_cons_of_ne_nil (natDigits_ne_nil (n / 10))
    rw [natDigits, if_neg hn, hcs]
    rw [hcs] at ih
    exact ih (by omega)

theorem value_append_digit (ds : List Char) (d : Char) :
    value (ds ++ [d]) = value ds * 10 + digitValue d := by
  simp [value]

theorem value_natDigits (n : Nat) : value (natDigits n) = n := by
  induction n using natDigits.induct with
  | case1 n hn =>
    rw [natDigits, if_pos hn]
    simp only [value, List.foldl_cons, List.foldl_nil, digitValue_digitChar]
    omega
  | case2 n hn ih =>
    rw [natDigits, if_neg hn, value_append_digit, ih, digitValue_digitChar]
    omega

theorem nat?_natDigits (n : Nat) : nat? (natDigits n) = some n := by
  have hne : (natDigits n).isEmpty = false := by simp [natDigits_ne_nil]
  have hall : (natDigits n).all isDigit = true :=
    List.all_eq_true.mpr fun _ h => isDigit_of_mem_natDigits h
  rw [nat?, hne, hall, value_natDigits]
  rfl

theorem int?_of_isDigit {c : Char} (h : isDigit c = true) (cs : List Char) :
    int? (c :: cs) = (nat? (c :: cs)).map fun n => (n : Int) := by
  unfold int?
  split
  · simp_all [isDigit]
  · simp_all [isDigit]
  · rfl

theorem int?_natDigits (n : Nat) : int? (natDigits n) = some (n : Int) := by
  obtain ⟨c, cs, hcs⟩ := List.exists_cons_of_ne_nil (natDigits_ne_nil n)
  have hc : isDigit c = true := isDigit_of_mem_natDigits (n := n) (by simp [hcs])
  rw [hcs, int?_of_isDigit hc, ← hcs, nat?_natDigits]
  rfl

theorem int?_intChars (i : Int) : int? (intChars i) = some i := by
  rw [intChars]
  split
  · next h =>
    simp only [int?, nat?_natDigits, Option.pure_def, Option.bind_eq_bind, Option.bind_some,
      Option.map_some]
    congr 1
    omega
  · next h =>
    rw [int?_natDigits]
    congr 1
    omega

theorem toInt64?_toInt (n : Int64) : toInt64? n.toInt = some n := by
  rw [toInt64?, if_pos ⟨n.minValue_le_toInt, n.toInt_le⟩, Int64.ofInt_toInt]

theorem int64?_intChars (n : Int64) : int64? (intChars n.toInt) = some n := by
  rw [int64?, int?_intChars]
  exact toInt64?_toInt n

theorem int64?_int (n : Int64) : int64? (int n.toInt).toList = some n := by
  rw [int, String.toList_ofList, int64?_intChars]

theorem eq_of_int_eq {m n : Int64} (h : int m.toInt = int n.toInt) : m = n := by
  have hchars : intChars m.toInt = intChars n.toInt := String.ofList_inj.mp h
  have hread := int64?_intChars m
  rw [hchars, int64?_intChars] at hread
  exact (Option.some.inj hread).symm

theorem intChars_ne_nil (i : Int) : intChars i ≠ [] := by
  rw [intChars]
  split
  next => exact List.cons_ne_nil _ _
  next => exact natDigits_ne_nil _

theorem mem_intChars {c : Char} {i : Int} (h : c ∈ intChars i) : c = '-' ∨ isDigit c = true := by
  rw [intChars] at h
  split at h
  · rcases List.mem_cons.mp h with rfl | h
    · exact .inl rfl
    · exact .inr (isDigit_of_mem_natDigits h)
  · exact .inr (isDigit_of_mem_natDigits h)

/-- A character of a decimal text is none of those that a digit is not. -/
theorem not_mem_intChars {c : Char} (hc : c ≠ '-') (hd : isDigit c = false) (i : Int) :
    c ∉ intChars i := by
  intro h
  rcases mem_intChars h with h | h
  · exact hc h
  · simp [hd] at h

theorem isBlank_of_isDigit {c : Char} (h : isDigit c = true) : Text.isBlank c = false := by
  simp only [isDigit, Bool.and_eq_true, decide_eq_true_eq, Char.le_def, UInt32.le_iff_toNat_le] at h
  change 48 ≤ c.toNat ∧ c.toNat ≤ 57 at h
  simp [Text.isBlank]
  omega

/-- No character of a decimal text is a blank, so trimming keeps the text. -/
theorem trimBlanks_intChars (i : Int) : Text.trimBlanks (intChars i) = intChars i := by
  apply Text.trimBlanks_eq_self
  intro c hc
  rcases mem_intChars hc with rfl | hc
  · decide
  · exact isBlank_of_isDigit hc

end RemoteNotebook.Decimal
