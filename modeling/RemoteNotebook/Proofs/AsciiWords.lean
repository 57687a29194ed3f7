import RemoteNotebook.Text.Casing

/-! Words in ASCII letters. Lower case is that of all Unicode, but no character from outside of
ASCII can stand for a letter of such a word: the Kelvin sign is the only one that becomes an ASCII
character and nothing more, and that is a k. -/
namespace RemoteNotebook.Text

/-- These are the letters of a word, each in either case. -/
def Spells (word : String) (cs : List Char) : Prop := cs.map Char.toLower = word.toList

instance (word : String) (cs : List Char) : Decidable (Spells word cs) :=
  inferInstanceAs (Decidable (_ = _))

def SpellsOneOf (words : List String) (cs : List Char) : Prop := ∃ word ∈ words, Spells word cs

instance (words : List String) (cs : List Char) : Decidable (SpellsOneOf words cs) :=
  inferInstanceAs (Decidable (∃ word ∈ words, _))

theorem toLower_of_le {c : Char} (h : 0x80 ≤ c.toNat) : c.toLower = c := by
  have hupper : ¬ (c.val ≥ 'A'.val ∧ c.val ≤ 'Z'.val) := by
    rintro ⟨-, hle⟩
    have hle' : c.toNat ≤ 0x5A := UInt32.le_iff_toNat_le.mp hle
    omega
  exact dif_neg hupper

theorem toNat_lt_of_toLower {c : Char} (h : c.toLower.toNat < 0x80) : c.toNat < 0x80 := by
  refine Nat.lt_of_not_le fun hle => ?_
  rw [toLower_of_le hle] at h
  exact Nat.not_lt.mpr hle h

def IsPlainWord (word : String) : Prop := ∀ c ∈ word.toList, c.toNat < 0x80 ∧ c ≠ 'k'

instance (word : String) : Decidable (IsPlainWord word) :=
  List.decidableBAll (fun c : Char => c.toNat < 0x80 ∧ c ≠ 'k') word.toList

/-- Only characters of ASCII are letters of a plain word. -/
theorem Spells.ascii {word : String} {cs : List Char} (h : Spells word cs)
    (hword : IsPlainWord word) : ∀ c ∈ cs, c.toNat < 0x80 := by
  intro c hc
  have hmem : c.toLower ∈ word.toList := by
    rw [← h]
    exact List.mem_map_of_mem hc
  exact toNat_lt_of_toLower (hword _ hmem).1

namespace CaseRun

/-- All lower-case letters of a run are characters outside of ASCII. -/
def isOutside (r : CaseRun) : Bool :=
  let last := r.lower + (r.last - r.first)
  0x80 ≤ r.lower && (last < 0xD800 || 0xDFFF < r.lower && last < 0x110000)

def isKelvin (r : CaseRun) : Bool := r.first = r.last && r.lower = 0x6B

theorem eq_of_isKelvin {r : CaseRun} (h : r.isKelvin = true) {n : Nat} {c : Char}
    (hc : r.lower? n = some c) : c = 'k' := by
  simp only [isKelvin, Bool.and_eq_true, decide_eq_true_eq] at h
  rw [lower?] at hc
  split at hc
  next hn =>
    have hoffset : r.lower + (n - r.first) = 0x6B := by omega
    rw [hoffset] at hc
    exact (Option.some.inj hc).symm
  next => cases hc

theorem le_of_isOutside {r : CaseRun} (h : r.isOutside = true) {n : Nat} {c : Char}
    (hc : r.lower? n = some c) : 0x80 ≤ c.toNat := by
  simp only [isOutside, Bool.and_eq_true, Bool.or_eq_true, decide_eq_true_eq] at h
  rw [lower?] at hc
  split at hc
  next hn =>
    have hvalid : (r.lower + (n - r.first)).isValidChar := by
      rw [Nat.isValidChar]
      omega
    have hnat : c.toNat = r.lower + (n - r.first) := by
      rw [← Option.some.inj hc, Char.ofNat, dif_pos hvalid]
      rfl
    omega
  next => cases hc

end CaseRun

theorem caseRuns_outside : caseRuns.all (fun r => r.isOutside || r.isKelvin) = true := by
  decide +kernel

/-- The lower case of a character outside of ASCII has a k or a character outside of ASCII. -/
theorem exists_mem_lowerChar {c : Char} (h : 0x80 ≤ c.toNat) :
    ∃ d ∈ lowerChar c, d = 'k' ∨ 0x80 ≤ d.toNat := by
  rw [lowerChar, if_neg (Nat.not_lt.mpr h)]
  split
  next => exact ⟨'\u0307', by simp, .inr (by decide)⟩
  next =>
    cases hlower : caseRuns.findSome? (·.lower? c.toNat) with
    | none => exact ⟨c, by simp, .inr h⟩
    | some d =>
      refine ⟨d, by simp, ?_⟩
      obtain ⟨r, hr, hd⟩ := List.exists_of_findSome?_eq_some hlower
      obtain hout | hkelvin := Bool.or_eq_true_iff.mp (List.all_eq_true.mp caseRuns_outside r hr)
      · exact .inr (CaseRun.le_of_isOutside hout hd)
      · exact .inl (CaseRun.eq_of_isKelvin hkelvin hd)

theorem lowerAfter_eq_iff {word : List Char} (h : ∀ c ∈ word, c.toNat < 0x80 ∧ c ≠ 'k')
    (before cs : List Char) : lowerAfter before cs = word ↔ cs.map Char.toLower = word := by
  induction cs generalizing before word with
  | nil => exact Iff.rfl
  | cons c cs ih =>
    rw [lowerAfter, List.map_cons]
    by_cases hc : c.toNat < 0x80
    · have hsigma : c ≠ 'Σ' := by
        rintro rfl
        exact absurd hc (by decide)
      rw [if_neg hsigma, lowerChar, if_pos hc, List.singleton_append]
      cases word with
      | nil => simp
      | cons d ds => rw [List.cons.injEq, List.cons.injEq, ih (List.forall_mem_cons.mp h).2]
    · -- Neither side can be the word, for each has a character that the word is without.
      have houtside : 0x80 ≤ c.toNat := Nat.le_of_not_lt hc
      refine iff_of_false (fun heq => ?_) fun heq => ?_
      · obtain ⟨d, hd, hbad⟩ : ∃ d ∈ word, d = 'k' ∨ 0x80 ≤ d.toNat := by
          rw [← heq]
          split
          next =>
            split
            next => exact ⟨'ς', by simp, .inr (by decide)⟩
            next => exact ⟨'σ', by simp, .inr (by decide)⟩
          next =>
            obtain ⟨d, hd, hbad⟩ := exists_mem_lowerChar houtside
            exact ⟨d, List.mem_append_left _ hd, hbad⟩
        obtain ⟨hascii, hk⟩ := h d hd
        rcases hbad with rfl | hle
        · exact hk rfl
        · exact Nat.not_lt.mpr hle hascii
      · have hmem : c ∈ word := by
          rw [← heq, toLower_of_le houtside]
          exact List.mem_cons_self ..
        exact hc (h c hmem).1

/-- A text becomes a plain word in lower case only if it is the word in letters of either case. -/
theorem lowercase_eq_iff {word : String} (h : IsPlainWord word) (s : String) :
    lowercase s = word ↔ Spells word s.toList := by
  rw [lowercase, Spells, ← String.toList_inj, String.toList_ofList]
  exact lowerAfter_eq_iff h [] s.toList

end RemoteNotebook.Text
