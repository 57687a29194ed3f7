import RemoteNotebook.Proofs.TypedLines

/-! The parts of a line: a word, and behind blanks what follows it, with blanks around both. Each
line has such parts in one way, however many blanks there are. -/
namespace RemoteNotebook.Text

def Blanks (cs : List Char) : Prop := ∀ c ∈ cs, isBlank c = true

def Solid (cs : List Char) : Prop := ∀ c ∈ cs, isBlank c = false

instance (cs : List Char) : Decidable (Blanks cs) :=
  List.decidableBAll (fun c => isBlank c = true) cs

instance (cs : List Char) : Decidable (Solid cs) :=
  List.decidableBAll (fun c => isBlank c = false) cs

/-- A text is blanks, a text without blanks around it, and blanks. -/
def TrimsTo (cs core : List Char) : Prop :=
  ∃ before after, cs = before ++ core ++ after ∧ Blanks before ∧ Blanks after ∧ Trimmed core

/-- A line is blanks, a word, blanks, a text without blanks around it, and blanks. Blanks part the
word from a text that follows, and nothing follows where there is no word. -/
structure Parts (line word rest : List Char) : Prop where
  line_eq : ∃ before gap after, line = before ++ (word ++ gap ++ rest) ++ after ∧ Blanks before ∧
    Blanks gap ∧ Blanks after ∧ (rest ≠ [] → gap ≠ [] ∧ word ≠ [])
  solid : Solid word
  trimmed : Trimmed rest

variable {cs core line word rest before after : List Char}

theorem Blanks.append (hbefore : Blanks before) (hafter : Blanks after) :
    Blanks (before ++ after) :=
  List.forall_mem_append.mpr ⟨hbefore, hafter⟩

theorem trimmed_of_solid (h : Solid word) : Trimmed word :=
  ⟨fun c hc => h c (List.mem_of_mem_head? hc), fun c hc => h c (List.mem_of_mem_getLast? hc)⟩

theorem trimmed_append {gap : List Char} (hword : Solid word) (hne : word ≠ [])
    (hrest : Trimmed rest) (hrest' : rest ≠ []) : Trimmed (word ++ gap ++ rest) := by
  constructor
  · intro c hc
    rw [List.append_assoc, List.head?_append_of_ne_nil _ hne] at hc
    exact hword c (List.mem_of_mem_head? hc)
  · intro c hc
    rw [List.getLast?_append_of_ne_nil _ hrest'] at hc
    exact hrest.2 c hc

theorem trimBlanks_of_blanks (h : Blanks cs) : trimBlanks cs = [] := by
  have hstart : trimStart cs = [] := List.dropWhile_eq_nil_iff.mpr h
  rw [trimBlanks, hstart]
  rfl

theorem TrimsTo.trimBlanks_eq (h : TrimsTo cs core) : trimBlanks cs = core := by
  obtain ⟨before, after, rfl, hbefore, hafter, hcore⟩ := h
  rw [trimBlanks, trimStart, List.append_assoc, List.dropWhile_append_of_pos hbefore]
  cases core with
  | nil => exact trimBlanks_of_blanks hafter
  | cons c core =>
    have hc : isBlank c = false := hcore.1 c rfl
    have hend : (c :: core ++ after).rdropWhile isBlank = (c :: core).rdropWhile isBlank := by
      have hafter' : ∀ d ∈ after.reverse, isBlank d = true := fun d hd =>
        hafter d (List.mem_reverse.mp hd)
      rw [List.rdropWhile, List.rdropWhile, List.reverse_append,
        List.dropWhile_append_of_pos hafter']
    rw [List.cons_append, List.dropWhile_cons_of_neg (by simp [hc]), ← List.cons_append]
    refine hend.trans (List.rdropWhile_eq_self_iff.mpr fun hne => ?_)
    simp [hcore.2 _ (List.getLast_mem_getLast? hne)]

/-- What is left when the first characters are dropped begins with another one. -/
theorem of_mem_head?_dropWhile {p : Char → Bool} {c : Char} (h : c ∈ (cs.dropWhile p).head?) :
    p c = false := by
  have hnot := List.head?_dropWhile_not p cs
  rw [Option.mem_def.mp h] at hnot
  exact hnot

theorem trimsTo_trimBlanks (cs : List Char) : TrimsTo cs (trimBlanks cs) := by
  have hstart : cs = cs.takeWhile isBlank ++ trimStart cs := List.takeWhile_append_dropWhile.symm
  have hend : trimStart cs = trimBlanks cs ++ (trimStart cs).rtakeWhile isBlank :=
    List.rdropWhile_append_rtakeWhile.symm
  refine ⟨cs.takeWhile isBlank, (trimStart cs).rtakeWhile isBlank, ?_, ?_, ?_, ?_, ?_⟩
  · rw [List.append_assoc, ← hend, ← hstart]
  · exact fun c hc => List.mem_takeWhile_imp hc
  · exact fun c hc => List.mem_rtakeWhile_imp hc
  · intro c hc
    -- What is left after the first blanks begins with no blank, and trimming its end keeps that.
    have hhead : c ∈ (trimStart cs).head? := by
      rw [hend, List.head?_append, hc]
      rfl
    exact of_mem_head?_dropWhile hhead
  · intro c hc
    have hne : trimBlanks cs ≠ [] := by
      intro hnil
      rw [hnil] at hc
      cases hc
    have hlast := List.rdropWhile_last_not isBlank (trimStart cs) hne
    rw [List.getLast?_eq_some_getLast hne] at hc
    rw [← Option.some.inj hc]
    exact Bool.eq_false_iff.mpr hlast

theorem trimBlanks_eq_iff : trimBlanks cs = core ↔ TrimsTo cs core :=
  ⟨fun h => h ▸ trimsTo_trimBlanks cs, TrimsTo.trimBlanks_eq⟩

namespace Parts

/-- A line in whose trimmed form the word is followed by a blank, or by nothing. -/
theorem splitWord_eq (h : Parts line word rest) : splitWord (trimBlanks line) = (word, rest) := by
  obtain ⟨⟨before, gap, after, rfl, hbefore, hgap, hafter, hparted⟩, hword, hrest⟩ := h
  have hword' : ∀ c ∈ word, (!isBlank c) = true := fun c hc => by simp [hword c hc]
  by_cases hnil : rest = []
  · subst hnil
    have htrims : TrimsTo (before ++ (word ++ gap ++ []) ++ after) word :=
      ⟨before, gap ++ after, by simp, hbefore, hgap.append hafter, trimmed_of_solid hword⟩
    rw [htrims.trimBlanks_eq, splitWord, List.takeWhile_eq_self_iff.mpr hword',
      List.dropWhile_eq_nil_iff.mpr hword', trimBlanks_nil]
  · obtain ⟨hgap', hne⟩ := hparted hnil
    have htrims : TrimsTo (before ++ (word ++ gap ++ rest) ++ after) (word ++ gap ++ rest) :=
      ⟨before, after, rfl, hbefore, hafter, trimmed_append hword hne hrest hnil⟩
    have hrests : TrimsTo (gap ++ rest) rest := ⟨gap, [], by simp, hgap, by simp [Blanks], hrest⟩
    obtain ⟨c, cs, rfl⟩ := List.exists_cons_of_ne_nil hgap'
    have hc : isBlank c = true := hgap c (List.mem_cons_self ..)
    rw [htrims.trimBlanks_eq, splitWord, List.append_assoc, List.takeWhile_append_of_pos hword',
      List.dropWhile_append_of_pos hword', List.cons_append,
      List.takeWhile_cons_of_neg (by simp [hc]), List.dropWhile_cons_of_neg (by simp [hc]),
      ← List.cons_append, hrests.trimBlanks_eq, List.append_nil]

theorem unique {word' rest' : List Char} (h : Parts line word rest)
    (h' : Parts line word' rest') : word' = word ∧ rest' = rest :=
  Prod.mk.inj (h'.splitWord_eq.symm.trans h.splitWord_eq)

theorem pad (h : Parts line word rest) (hbefore : Blanks before) (hafter : Blanks after) :
    Parts (before ++ line ++ after) word rest := by
  obtain ⟨⟨first, gap, last, rfl, hfirst, hgap, hlast, hparted⟩, hword, hrest⟩ := h
  refine ⟨⟨before ++ first, gap, last ++ after, ?_, hbefore.append hfirst, hgap,
    hlast.append hafter, hparted⟩, hword, hrest⟩
  simp only [List.append_assoc]

/-- Nor does it matter how many blanks part the word from what follows. -/
theorem respace (h : Parts line word rest) {gap : List Char} (hgap : Blanks gap) (hne : gap ≠ []) :
    Parts (word ++ gap ++ rest) word rest := by
  obtain ⟨⟨_, _, _, -, -, -, -, hparted⟩, hword, hrest⟩ := h
  refine ⟨⟨[], gap, [], by simp, by simp [Blanks], hgap, by simp [Blanks], fun hr => ?_⟩, hword,
    hrest⟩
  exact ⟨hne, (hparted hr).2⟩

theorem word_eq_nil_iff (h : Parts line word rest) : word = [] ↔ Blanks line := by
  obtain ⟨⟨before, gap, after, rfl, hbefore, hgap, hafter, hparted⟩, hword, -⟩ := h
  constructor
  · rintro rfl
    obtain rfl : rest = [] := by
      by_contra hr
      exact (hparted hr).2 rfl
    exact (hbefore.append (by simpa using hgap)).append hafter
  · intro hblanks
    refine List.eq_nil_iff_forall_not_mem.mpr fun c hc => ?_
    have hblank : isBlank c = true := hblanks c (by simp [hc])
    rw [hword c hc] at hblank
    cases hblank

end Parts

theorem exists_parts (line : List Char) : ∃ word rest, Parts line word rest := by
  obtain ⟨before, after, hline, hbefore, hafter, hcore⟩ := trimsTo_trimBlanks line
  let word := (trimBlanks line).takeWhile fun c => !isBlank c
  let tail := (trimBlanks line).dropWhile fun c => !isBlank c
  have hsplit : trimBlanks line = word ++ tail := List.takeWhile_append_dropWhile.symm
  have hword : Solid word := fun c hc => by
    simpa using List.mem_takeWhile_imp hc
  have hhead : ∀ c ∈ tail.head?, isBlank c = true := fun c hc => by
    simpa using of_mem_head?_dropWhile hc
  obtain ⟨gap, end_, htail, hgap, hend, hrest⟩ := trimsTo_trimBlanks tail
  refine ⟨word, trimBlanks tail, ⟨before, gap, end_ ++ after, ?_, hbefore, hgap,
    hend.append hafter, fun hne => ?_⟩, hword, hrest⟩
  · rw [hline, hsplit]
    conv_lhs => rw [htail]
    simp only [List.append_assoc]
  · obtain ⟨c, cs, hcs⟩ := List.exists_cons_of_ne_nil hne
    constructor
    · -- The tail begins with a blank, and what it is trimmed to does not.
      rintro rfl
      have hc : c ∈ tail.head? := by rw [htail, hcs]; rfl
      have hblank := hhead c hc
      rw [hrest.1 c (by rw [hcs]; rfl)] at hblank
      cases hblank
    · -- Nor does the line when it is trimmed, so that it begins with the word.
      intro hnil
      rw [hnil, List.nil_append] at hsplit
      cases htl : tail with
      | nil =>
        rw [htl] at hne
        exact hne rfl
      | cons d ds =>
        have hblank := hhead d (by rw [htl]; rfl)
        rw [hcore.1 d (by rw [hsplit, htl]; rfl)] at hblank
        cases hblank

end RemoteNotebook.Text
