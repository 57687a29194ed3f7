import Mathlib.Data.Nat.Digits.Defs
import RemoteNotebook.Proofs.Numerals

/-! Integers as they are written: one or more decimal digits after an optional sign. The texts that
are read as a number are those that write it, with any number of leading zeros. -/
namespace RemoteNotebook.Decimal

structure DigitsOf (n : Nat) (ds : List Char) : Prop where
  ne_nil : ds ≠ []
  digits : ∀ d ∈ ds, isDigit d = true
  value : n = Nat.ofDigits 10 (ds.reverse.map digitValue)

inductive TextOf : Int → List Char → Prop
  | plain {n : Nat} {ds : List Char} (h : DigitsOf n ds) : TextOf n ds
  | plus {n : Nat} {ds : List Char} (h : DigitsOf n ds) : TextOf n ('+' :: ds)
  | minus {n : Nat} {ds : List Char} (h : DigitsOf n ds) : TextOf (-n) ('-' :: ds)

theorem value_eq_ofDigits (ds : List Char) :
    value ds = Nat.ofDigits 10 (ds.reverse.map digitValue) := by
  rw [value, Nat.ofDigits_eq_foldr, List.foldr_map, List.foldr_reverse]
  congr 1
  funext n d
  rw [Nat.cast_id, Nat.mul_comm, Nat.add_comm]

theorem nat?_eq_some_iff {cs : List Char} {n : Nat} : nat? cs = some n ↔ DigitsOf n cs := by
  rw [nat?]
  split
  next hempty =>
    rw [List.isEmpty_iff] at hempty
    exact iff_of_false (by simp) fun h => h.ne_nil hempty
  next hne =>
    rw [List.isEmpty_iff] at hne
    split
    next hdigits =>
      rw [Option.some.injEq, value_eq_ofDigits]
      exact ⟨fun h => ⟨hne, List.all_eq_true.mp hdigits, h.symm⟩, fun h => h.value.symm⟩
    next hdigits => exact iff_of_false (by simp) fun h => hdigits (List.all_eq_true.mpr h.digits)

theorem int?_eq_some_iff {cs : List Char} {i : Int} : int? cs = some i ↔ TextOf i cs := by
  have hread {ds : List Char} {f : Int → Int}
      (h : Option.map f (do let n ← nat? ds; pure (n : Int)) = some i) :
      ∃ n : Nat, DigitsOf n ds ∧ f n = i := by
    obtain ⟨_, hi, rfl⟩ := Option.map_eq_some_iff.mp h
    obtain ⟨n, hn, ⟨⟩⟩ := Option.bind_eq_some_iff.mp hi
    exact ⟨n, nat?_eq_some_iff.mp hn, rfl⟩
  constructor
  · intro h
    rw [int?.eq_def] at h
    split at h
    next =>
      obtain ⟨n, hn, rfl⟩ := hread h
      exact .plus hn
    next =>
      obtain ⟨n, hn, rfl⟩ := hread h
      exact .minus hn
    next =>
      obtain ⟨n, hn, rfl⟩ := hread h
      exact .plain hn
  · rintro (hds | hds | hds)
    · obtain ⟨c, cs, rfl⟩ := List.exists_cons_of_ne_nil hds.ne_nil
      rw [int?_of_isDigit (hds.digits c (List.mem_cons_self ..)), nat?_eq_some_iff.mpr hds]
      rfl
    · rw [int?, nat?_eq_some_iff.mpr hds]
      rfl
    · rw [int?, nat?_eq_some_iff.mpr hds]
      rfl

theorem toInt64?_eq_some_iff {i : Int} {n : Int64} : toInt64? i = some n ↔ i = n.toInt := by
  constructor
  · intro h
    rw [toInt64?] at h
    split at h
    next hrange =>
      rw [← Option.some.inj h]
      exact (Int64.toInt_ofInt_of_le hrange.1 (Int.lt_add_one_of_le hrange.2)).symm
    next => cases h
  · rintro rfl
    exact toInt64?_toInt n

/-- A signed 64-bit number is read from its texts and no others. -/
theorem int64?_eq_some_iff {cs : List Char} {n : Int64} :
    int64? cs = some n ↔ TextOf n.toInt cs := by
  rw [int64?, Option.bind_eq_some_iff]
  simp only [toInt64?_eq_some_iff, exists_eq_right, int?_eq_some_iff]

end RemoteNotebook.Decimal
