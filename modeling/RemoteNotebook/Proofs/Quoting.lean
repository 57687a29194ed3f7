import RemoteNotebook.Sql.Literal

/-! Quoting of texts: reading undoes escaping, and a scan finds a quoted text as one literal,
whatever the text is. -/
namespace RemoteNotebook.Sql.Literal

theorem escape_of_special {c : Char} (h : c = '\'' ∨ c = '\\') (cs : List Char) :
    escape (c :: cs) = '\\' :: c :: escape cs := by
  rw [escape, if_pos h]

theorem escape_of_plain {c : Char} (h : ¬(c = '\'' ∨ c = '\\')) (cs : List Char) :
    escape (c :: cs) = c :: escape cs := by
  rw [escape, if_neg h]

theorem unescapeChars_escaped (c : Char) (cs : List Char) :
    unescapeChars ('\\' :: c :: cs) = c :: unescapeChars cs := by
  rw [unescapeChars]

theorem unescapeChars_plain {c : Char} (h : c ≠ '\\') (cs : List Char) :
    unescapeChars (c :: cs) = c :: unescapeChars cs := by
  simp [unescapeChars, h]

/-- Reading undoes escaping, also in front of more text. -/
theorem unescapeChars_escape_append (s t : List Char) :
    unescapeChars (escape s ++ t) = s ++ unescapeChars t := by
  induction s with
  | nil => rfl
  | cons c s ih =>
    by_cases h : c = '\'' ∨ c = '\\'
    · rw [escape_of_special h, List.cons_append, List.cons_append, unescapeChars_escaped, ih]
      rfl
    · rw [escape_of_plain h, List.cons_append, unescapeChars_plain fun hc => h (.inr hc), ih]
      rfl

theorem unescapeChars_escape (s : List Char) : unescapeChars (escape s) = s := by
  have h := unescapeChars_escape_append s []
  simpa [unescapeChars] using h

/-- Texts that are the same when they are escaped are the same. -/
theorem eq_of_escape_eq {s t : List Char} (h : escape s = escape t) : s = t := by
  have hread := unescapeChars_escape s
  rw [h, unescapeChars_escape] at hread
  exact hread.symm

/-- The text that the database keeps of a text: its literal without the quotes around it. -/
def stored (s : String) : String := String.ofList ((quote s).toList.drop 1).dropLast

theorem stored_eq (s : String) : stored s = String.ofList (escape s.toList) := by
  simp [stored, quote]

theorem unescape_stored (s : String) : unescape (stored s) = s := by
  rw [stored_eq, unescape, String.toList_ofList, unescapeChars_escape, String.ofList_toList]

namespace Scan

variable (closed : List (List Char × List Char)) (text raw : List Char)

theorem step_open : step ⟨closed, .outside text⟩ '\'' = ⟨closed, .inside text []⟩ := rfl

theorem step_outside {c : Char} (h : c ≠ '\'') :
    step ⟨closed, .outside text⟩ c = ⟨closed, .outside (text ++ [c])⟩ := if_neg h

theorem step_close :
    step ⟨closed, .inside text raw⟩ '\'' = ⟨closed ++ [(text, raw)], .outside []⟩ := rfl

theorem step_backslash :
    step ⟨closed, .inside text raw⟩ '\\' = ⟨closed, .escaped text (raw ++ ['\\'])⟩ := rfl

theorem step_escaped (c : Char) :
    step ⟨closed, .escaped text raw⟩ c = ⟨closed, .inside text (raw ++ [c])⟩ := rfl

theorem step_inside {c : Char} (h : ¬(c = '\'' ∨ c = '\\')) :
    step ⟨closed, .inside text raw⟩ c = ⟨closed, .inside text (raw ++ [c])⟩ := by
  rw [not_or] at h
  simp [step, h]

/-- Text without quotes leaves a scan outside of literals. -/
theorem foldl_step_outside {cs : List Char} (h : '\'' ∉ cs) :
    cs.foldl step ⟨closed, .outside text⟩ = ⟨closed, .outside (text ++ cs)⟩ := by
  induction cs generalizing text with
  | nil => simp
  | cons c cs ih =>
    rw [List.mem_cons, not_or] at h
    rw [List.foldl_cons, step_outside _ _ (Ne.symm h.1), ih _ h.2]
    simp

/-- Escaped text leaves a scan inside of the literal that it is in. -/
theorem foldl_step_escape (cs : List Char) :
    (escape cs).foldl step ⟨closed, .inside text raw⟩ =
      ⟨closed, .inside text (raw ++ escape cs)⟩ := by
  induction cs generalizing raw with
  | nil => simp [escape]
  | cons c cs ih =>
    by_cases h : c = '\'' ∨ c = '\\'
    · -- The backslash hides the character behind it, so the pair is read in two steps.
      rw [escape_of_special h, List.foldl_cons, List.foldl_cons, step_backslash, step_escaped, ih]
      simp
    · rw [escape_of_plain h, List.foldl_cons, step_inside _ _ _ h, ih]
      simp

/-- A quoted text is one literal with the escaped text inside. -/
theorem foldl_step_quote (s : String) :
    (quote s).toList.foldl step ⟨closed, .outside text⟩ =
      ⟨closed ++ [(text, escape s.toList)], .outside []⟩ := by
  rw [quote, String.toList_ofList, List.cons_append, List.foldl_cons, List.foldl_append,
    step_open, foldl_step_escape, List.nil_append]
  exact step_close _ _ _

end Scan
end RemoteNotebook.Sql.Literal
