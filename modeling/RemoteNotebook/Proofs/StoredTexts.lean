import RemoteNotebook.Proofs.Quoting

/-! Texts that the database may keep. Those that were written as literals here are exactly the
escaped ones, and no others are written again as they were read: in any other text a quote or the
last backslash stands alone, or a backslash takes a character that needs none. -/
namespace RemoteNotebook.Sql.Literal

/-- A text as it stands in a literal, read from the left: each backslash takes the quote or the
backslash behind it, and no quote stands without one. -/
inductive Escaped : List Char → Prop
  | nil : Escaped []
  | plain {c : Char} {cs : List Char} (hc : ¬(c = '\'' ∨ c = '\\')) (hcs : Escaped cs) :
    Escaped (c :: cs)
  | pair {c : Char} {cs : List Char} (hc : c = '\'' ∨ c = '\\') (hcs : Escaped cs) :
    Escaped ('\\' :: c :: cs)

variable {cs : List Char}

theorem escaped_escape (cs : List Char) : Escaped (escape cs) := by
  induction cs with
  | nil => exact .nil
  | cons c cs ih =>
    by_cases hc : c = '\'' ∨ c = '\\'
    · rw [escape_of_special hc]
      exact .pair hc ih
    · rw [escape_of_plain hc]
      exact .plain hc ih

/-- What was read from an escaped text is written as it was. -/
theorem Escaped.escape_unescapeChars (h : Escaped cs) : escape (unescapeChars cs) = cs := by
  induction h with
  | nil => rfl
  | plain hc _ ih => rw [unescapeChars_plain fun hslash => hc (.inr hslash), escape_of_plain hc, ih]
  | pair hc _ ih => rw [unescapeChars_escaped, escape_of_special hc, ih]

theorem escape_unescapeChars_iff : escape (unescapeChars cs) = cs ↔ Escaped cs :=
  ⟨fun h => h ▸ escaped_escape _, Escaped.escape_unescapeChars⟩

theorem escaped_iff_exists : Escaped cs ↔ ∃ ds, escape ds = cs := by
  constructor
  · exact fun h => ⟨unescapeChars cs, h.escape_unescapeChars⟩
  · rintro ⟨ds, rfl⟩
    exact escaped_escape ds

/-- Induction along the reading of a text: at its front a backslash takes a character, or stands
alone as the last one, or a character stands for itself. -/
theorem unescapeChars_induction {P : List Char → Prop} (nil : P []) (last : P ['\\'])
    (pair : ∀ c cs, P cs → P ('\\' :: c :: cs)) (plain : ∀ c cs, c ≠ '\\' → P cs → P (c :: cs))
    (cs : List Char) : P cs := by
  induction cs using unescapeChars.induct with
  | case1 => exact nil
  | case2 => exact last
  | case3 c cs ih => exact pair c cs ih
  | case4 c cs hlast hpair ih =>
    refine plain c cs (fun hc => ?_) ih
    cases cs with
    | nil => exact hlast hc rfl
    | cons d ds => exact hpair d ds hc rfl

theorem length_unescapeChars_le (cs : List Char) : (unescapeChars cs).length ≤ cs.length := by
  induction cs using unescapeChars_induction with
  | nil => exact Nat.le_refl _
  | last => exact Nat.le_refl _
  | pair c cs ih =>
    rw [unescapeChars_escaped, List.length_cons, List.length_cons, List.length_cons]
    omega
  | plain c cs hc ih =>
    rw [unescapeChars_plain hc, List.length_cons, List.length_cons]
    omega

/-- Reading leaves a text as it is if no backslash in it has a character to take. -/
theorem unescapeChars_eq_self_iff : unescapeChars cs = cs ↔ '\\' ∉ cs.dropLast := by
  induction cs using unescapeChars_induction with
  | nil => simp [unescapeChars]
  | last => simp [unescapeChars]
  | pair c cs ih =>
    have hshort : unescapeChars ('\\' :: c :: cs) ≠ '\\' :: c :: cs := by
      intro h
      have hlength := congrArg List.length h
      rw [unescapeChars_escaped, List.length_cons, List.length_cons, List.length_cons] at hlength
      have := length_unescapeChars_le cs
      omega
    simp [hshort]
  | plain c cs hc ih =>
    rw [unescapeChars_plain hc, List.cons_inj_right, ih]
    cases cs with
    | nil => simp
    | cons d ds => simp [hc.symm]

/-- Reading undoes writing, whatever stands behind. A text is written again as it was read exactly
if it is escaped, that is, if it was written here; and it is read as it is exactly if no backslash
in it takes a character. -/
theorem stored_unescape_iff (t s : String) :
    unescape (stored t ++ s) = t ++ unescape s ∧
      (stored (unescape s) = s ↔ Escaped s.toList) ∧
      (Escaped s.toList ↔ ∃ u, stored u = s) ∧
      (unescape s = s ↔ '\\' ∉ s.toList.dropLast) := by
  refine ⟨?_, ?_, ?_, ?_⟩
  · rw [stored_eq, unescape, String.toList_append, String.toList_ofList,
      unescapeChars_escape_append, String.ofList_append, String.ofList_toList]
    rfl
  · rw [← escape_unescapeChars_iff, ← String.toList_inj, stored_eq, unescape,
      String.toList_ofList, String.toList_ofList]
  · simp only [escaped_iff_exists, stored_eq, ← String.toList_inj, String.toList_ofList]
    constructor
    · rintro ⟨cs, h⟩
      exact ⟨String.ofList cs, by rw [String.toList_ofList, h]⟩
    · rintro ⟨u, h⟩
      exact ⟨u.toList, h⟩
  · rw [← unescapeChars_eq_self_iff, ← String.toList_inj, unescape, String.toList_ofList]

/-- Text that was written elsewhere loses its backslashes. -/
example : stored (unescape "C:\\tmp") = "C:tmp" := by decide

end RemoteNotebook.Sql.Literal
