import RemoteNotebook.Proofs.Legible

/-! References in escaped text. Each of the five characters with a meaning in markup is written as
its reference, and `&` stands nowhere else, so that decoding from left to right gives the text
back, also a text that has references in it. -/
namespace RemoteNotebook.Markup

def references : List (Char × List Char) :=
  [('&', "&amp;".toList), ('<', "&lt;".toList), ('>', "&gt;".toList), ('"', "&quot;".toList),
    ('\'', "&#39;".toList)]

def BeginsReference (cs : List Char) : Prop := ∃ r ∈ references, r.2 <+: cs

instance (cs : List Char) : Decidable (BeginsReference cs) :=
  inferInstanceAs (Decidable (∃ r ∈ references, r.2 <+: cs))

/-- Decoding from left to right: a reference at the front is replaced by its character, and a
character that begins no reference stands for itself. What was put in place of a reference is not
looked at again. -/
inductive Decodes : List Char → List Char → Prop
  | nil : Decodes [] []
  | reference {c : Char} {r cs ds : List Char} (hr : (c, r) ∈ references) (h : Decodes cs ds) :
    Decodes (r ++ cs) (c :: ds)
  | plain {c : Char} {cs ds : List Char} (hc : ¬BeginsReference (c :: cs)) (h : Decodes cs ds) :
    Decodes (c :: cs) (c :: ds)

/-- Each `&` begins a reference. -/
def OnlyReferences (cs : List Char) : Prop :=
  ∀ ⦃after⦄, '&' :: after <:+ cs → BeginsReference ('&' :: after)

variable {cs ds : List Char} {c : Char}

theorem unescape_reference {r : List Char} (hr : (c, r) ∈ references) (cs : List Char) :
    unescape (r ++ cs) = c :: unescape cs := by
  simp only [references, List.mem_cons, List.not_mem_nil, or_false, Prod.mk.injEq] at hr
  obtain ⟨rfl, rfl⟩ | ⟨rfl, rfl⟩ | ⟨rfl, rfl⟩ | ⟨rfl, rfl⟩ | ⟨rfl, rfl⟩ := hr <;> rfl

theorem unescape_plain (h : ¬BeginsReference (c :: cs)) :
    unescape (c :: cs) = c :: unescape cs := by
  rw [unescape]
  -- The other equations of the decoder are for texts that begin with a reference.
  all_goals
    rintro rest rfl rfl
    exact h (by simp [BeginsReference, references])

theorem length_pos_of_mem_references : ∀ r ∈ references, 0 < r.2.length := by decide

theorem decodes_unescape (cs : List Char) : Decodes cs (unescape cs) := by
  by_cases h : BeginsReference cs
  · obtain ⟨⟨c, r⟩, hr, rest, hcs⟩ := h
    have hshorter : rest.length < cs.length := by
      have hpos := length_pos_of_mem_references _ hr
      rw [← hcs, List.length_append]
      omega
    rw [← hcs, unescape_reference hr]
    exact .reference hr (decodes_unescape rest)
  · cases cs with
    | nil => exact .nil
    | cons c cs =>
      rw [unescape_plain h]
      exact .plain h (decodes_unescape cs)
termination_by cs.length

theorem decodes_iff : Decodes cs ds ↔ unescape cs = ds := by
  constructor
  · intro h
    induction h with
    | nil => rfl
    | reference hr _ ih => rw [unescape_reference hr, ih]
    | plain hc _ ih => rw [unescape_plain hc, ih]
  · rintro rfl
    exact decodes_unescape cs

theorem OnlyReferences.append (hcs : OnlyReferences cs) (hds : OnlyReferences ds) :
    OnlyReferences (cs ++ ds) := by
  induction cs with
  | nil => exact hds
  | cons c cs ih =>
    intro after h
    rw [List.cons_append, List.suffix_cons_iff] at h
    obtain h | h := h
    · obtain ⟨rfl, rfl⟩ := List.cons.inj h
      obtain ⟨r, hr, hbegins⟩ := hcs (List.suffix_refl _)
      exact ⟨r, hr, hbegins.trans (List.prefix_append (_ :: cs) ds)⟩
    · exact ih (fun _ h => hcs (h.trans (List.suffix_cons c cs))) h

theorem onlyReferences_of_not_mem (h : '&' ∉ cs) : OnlyReferences cs :=
  fun _ hsuffix => absurd (hsuffix.subset (List.mem_cons_self ..)) h

theorem onlyReferences_reference (hbegins : BeginsReference ('&' :: cs)) (h : '&' ∉ cs) :
    OnlyReferences ('&' :: cs) := by
  intro after hsuffix
  obtain heq | hrest := List.suffix_cons_iff.mp hsuffix
  · rw [heq]
    exact hbegins
  · exact onlyReferences_of_not_mem h hrest

theorem onlyReferences_escapeChar (c : Char) : OnlyReferences (escapeChar c) := by
  fun_cases escapeChar c with
  | case6 c hamp => exact onlyReferences_of_not_mem (by simpa using Ne.symm hamp)
  | _ => exact onlyReferences_reference (by decide) (by decide)

theorem onlyReferences_escapeChars (cs : List Char) : OnlyReferences (escapeChars cs) := by
  induction cs with
  | nil => exact onlyReferences_of_not_mem List.not_mem_nil
  | cons c cs ih => exact (onlyReferences_escapeChar c).append ih

/-- Escaped text has no delimiter in it, and `&` only where a reference begins. It is decoded to
the text, and to nothing else, whatever stands behind it. -/
theorem escape_decodes (t : String) :
    ('<' ∉ (escape t).toList ∧ '>' ∉ (escape t).toList ∧ '"' ∉ (escape t).toList ∧
        '\'' ∉ (escape t).toList) ∧
      OnlyReferences (escape t).toList ∧
      (∀ cs, Decodes (escape t).toList cs ↔ cs = t.toList) ∧
      ∀ after cs, Decodes ((escape t).toList ++ after) cs ↔
        ∃ ds, Decodes after ds ∧ cs = t.toList ++ ds := by
  have hdelimiter {d : Char} (hd : IsDelimiter d) : d ∉ (escape t).toList := by
    rw [escape, String.toList_ofList]
    exact not_mem_escapeChars hd _
  refine ⟨⟨hdelimiter (.inl rfl), hdelimiter (.inr (.inl rfl)),
    hdelimiter (.inr (.inr (.inl rfl))), hdelimiter (.inr (.inr (.inr rfl)))⟩, ?_⟩
  rw [escape, String.toList_ofList]
  refine ⟨onlyReferences_escapeChars _, fun cs => ?_, fun after cs => ?_⟩
  · rw [decodes_iff, unescape_escapeChars, eq_comm]
  · simp only [decodes_iff, exists_eq_left', unescape_escapeChars_append]
    exact eq_comm

/-- References in a text are shown as they were typed. -/
example : escape "&lt; &amp;lt; &#39" = "&amp;lt; &amp;amp;lt; &amp;#39" := by decide

end RemoteNotebook.Markup
