import RemoteNotebook.Proofs.Tags

/-! Writings that can be read. What is written of a value tells the value, and where it ends,
whatever is written after it; so writings of which each can be read can be written one after
another. -/
namespace RemoteNotebook.Markup

variable {α β : Type} {f : α → List Char} {g : β → List Char}

/-- What is written of a value can be read off from the beginning of any text, and in one way. -/
def Legible (f : α → List Char) : Prop :=
  ∀ ⦃a b xs ys⦄, f a ++ xs = f b ++ ys → a = b ∧ xs = ys

/-- Texts that begin with writings of two kinds are not the same. -/
def Apart (f : α → List Char) (g : β → List Char) : Prop := ∀ ⦃a b xs ys⦄, f a ++ xs ≠ g b ++ ys

namespace Legible

/-- The same text each time tells nothing but where it ends. -/
theorem const (cs : List Char) : Legible fun _ : Unit => cs := by
  intro _ _ xs ys h
  exact ⟨rfl, List.append_cancel_left h⟩

theorem injective (hf : Legible f) : Function.Injective f := by
  intro a b h
  exact (hf (congrArg (· ++ []) h)).1

theorem after (hf : Legible f) (before : List Char) : Legible fun a => before ++ f a := by
  intro a b xs ys h
  rw [List.append_assoc, List.append_assoc] at h
  exact hf (List.append_cancel_left h)

/-- A value is read from the writing of another one that it determines. -/
theorem comp (hf : Legible f) {h : β → α} (hh : Function.Injective h) :
    Legible fun b => f (h b) := by
  intro a b xs ys heq
  obtain ⟨hab, hxs⟩ := hf heq
  exact ⟨hh hab, hxs⟩

theorem append (hf : Legible f) (hg : Legible g) : Legible fun p : α × β => f p.1 ++ g p.2 := by
  rintro ⟨a, b⟩ ⟨a', b'⟩ xs ys h
  rw [List.append_assoc, List.append_assoc] at h
  obtain ⟨rfl, hrest⟩ := hf h
  obtain ⟨rfl, hxs⟩ := hg hrest
  exact ⟨rfl, hxs⟩

/-- Any number of values are read up to what is apart from them. -/
theorem flatMap_append (hf : Legible f) (hg : Legible g) (hapart : Apart f g) :
    Legible fun p : List α × β => p.1.flatMap f ++ g p.2 := by
  rintro ⟨as, b⟩ ⟨bs, b'⟩ xs ys h
  induction as generalizing bs with
  | nil =>
    cases bs with
    | nil =>
      obtain ⟨rfl, hxs⟩ := hg h
      exact ⟨rfl, hxs⟩
    | cons c cs =>
      simp only [List.flatMap_nil, List.nil_append, List.flatMap_cons, List.append_assoc] at h
      exact (hapart h.symm).elim
  | cons a as ih =>
    cases bs with
    | nil =>
      simp only [List.flatMap_nil, List.nil_append, List.flatMap_cons, List.append_assoc] at h
      exact (hapart h).elim
    | cons c cs =>
      simp only [List.flatMap_cons, List.append_assoc] at h
      obtain ⟨rfl, hrest⟩ := hf h
      obtain ⟨hpair, hxs⟩ := ih cs (by simpa only [List.append_assoc] using hrest)
      obtain ⟨rfl, rfl⟩ := Prod.mk.inj hpair
      exact ⟨rfl, hxs⟩

end Legible

def unescape : List Char → List Char
  | '&' :: 'a' :: 'm' :: 'p' :: ';' :: cs => '&' :: unescape cs
  | '&' :: 'l' :: 't' :: ';' :: cs => '<' :: unescape cs
  | '&' :: 'g' :: 't' :: ';' :: cs => '>' :: unescape cs
  | '&' :: 'q' :: 'u' :: 'o' :: 't' :: ';' :: cs => '"' :: unescape cs
  | '&' :: '#' :: '3' :: '9' :: ';' :: cs => '\'' :: unescape cs
  | c :: cs => c :: unescape cs
  | [] => []

theorem unescape_escapeChar_append (c : Char) (cs : List Char) :
    unescape (escapeChar c ++ cs) = c :: unescape cs := by
  fun_cases escapeChar c with
  | case6 c hamp =>
    rw [List.singleton_append, unescape]
    all_goals
      rintro rest ⟨⟩
      exact absurd rfl hamp
  | _ => rfl

theorem unescape_escapeChars_append (cs after : List Char) :
    unescape (escapeChars cs ++ after) = cs ++ unescape after := by
  induction cs with
  | nil => rfl
  | cons c cs ih =>
    rw [escapeChars, List.flatMap_cons, List.append_assoc, unescape_escapeChar_append]
    exact congrArg (c :: ·) ih

theorem unescape_escapeChars (cs : List Char) : unescape (escapeChars cs) = cs := by
  have h := unescape_escapeChars_append cs []
  simpa [unescape] using h

theorem legible_escapeChar : Legible escapeChar := by
  intro c d xs ys h
  have hread := congrArg unescape h
  rw [unescape_escapeChar_append, unescape_escapeChar_append] at hread
  obtain rfl : c = d := (List.cons.inj hread).1
  exact ⟨rfl, List.append_cancel_left h⟩

theorem escapeChar_ne_nil (c : Char) : escapeChar c ≠ [] := by
  fun_cases escapeChar c <;> exact List.cons_ne_nil _ _

/-- An escaped text is read up to the delimiter that stands after it. -/
theorem legible_text {d : Char} (hd : IsDelimiter d) (after : List Char) :
    Legible fun t : String => escapeChars t.toList ++ d :: after := by
  have hapart : Apart escapeChar fun _ : Unit => d :: after := by
    intro c _ xs ys h
    obtain ⟨e, es, he⟩ := List.exists_cons_of_ne_nil (escapeChar_ne_nil c)
    rw [he, List.cons_append] at h
    obtain rfl : e = d := (List.cons.inj h).1
    exact not_mem_escapeChar hd c (he ▸ List.mem_cons_self ..)
  exact (legible_escapeChar.flatMap_append (.const (d :: after)) hapart).comp
    (h := fun t : String => (t.toList, ()))
    fun t u htu => String.toList_inj.mp (congrArg Prod.fst htu)

end RemoteNotebook.Markup
