import RemoteNotebook.Page.Markup

/-! Tags of a text and the values of their attributes. Escaped text opens no tag, closes none and
ends no quoted value, so the tags of pieces of markup and text are those of the markup, around the
texts that stand in values. -/
namespace RemoteNotebook.Markup

structure TagScan where
  found : List (List Char) := []
  tag : Option (List Char) := none
  deriving DecidableEq, Repr

def TagScan.step : TagScan → Char → TagScan
  | ⟨found, none⟩, c => if c = '<' then ⟨found, some ['<']⟩ else ⟨found, none⟩
  | ⟨found, some tag⟩, c =>
    if c = '>' then ⟨found ++ [tag ++ ['>']], none⟩ else ⟨found, some (tag ++ [c])⟩

/-- The tags of a text. Each is what stands from a `<` to the next `>`. -/
def tags (cs : List Char) : List (List Char) := (cs.foldl TagScan.step {}).found

def splitAfter? (mark : List Char) : List Char → Option (List Char × List Char)
  | [] => none
  | c :: cs =>
    if mark.isPrefixOf (c :: cs) then some (mark, (c :: cs).drop mark.length)
    else (splitAfter? mark cs).map fun (before, after) => (c :: before, after)

/-- A tag around the value of an attribute: what stands before the value, the value, and what
stands from the quotation mark on that ends it. -/
def attribute? (name : String) (tag : List Char) : Option (List Char × List Char × List Char) :=
  (splitAfter? (' ' :: name.toList ++ ['=', '"']) tag).map fun parts =>
    (parts.1, parts.2.takeWhile (· ≠ '"'), parts.2.dropWhile (· ≠ '"'))

def value? (name : String) (tag : List Char) : Option (List Char) :=
  (attribute? name tag).map fun parts => parts.2.1

def blankValue (name : String) (tag : List Char) : List Char :=
  match attribute? name tag with
  | some (before, _, after) => before ++ after
  | none => tag

def IsDelimiter (c : Char) : Prop := c = '<' ∨ c = '>' ∨ c = '"' ∨ c = '\''

theorem isDelimiter_lt : IsDelimiter '<' := .inl rfl

theorem isDelimiter_quote : IsDelimiter '"' := .inr (.inr (.inl rfl))

theorem not_mem_escapeChar {d : Char} (hd : IsDelimiter d) (c : Char) : d ∉ escapeChar c := by
  fun_cases escapeChar c with
  | case6 _ _ hlt hgt hquot happos =>
    rw [List.mem_singleton]
    rintro rfl
    obtain rfl | rfl | rfl | rfl := hd
    · exact hlt rfl
    · exact hgt rfl
    · exact hquot rfl
    · exact happos rfl
  | _ => obtain rfl | rfl | rfl | rfl := hd <;> decide

theorem not_mem_escapeChars {d : Char} (hd : IsDelimiter d) (cs : List Char) :
    d ∉ escapeChars cs := by
  intro hmem
  obtain ⟨c, -, hc⟩ := List.mem_flatMap.mp hmem
  exact not_mem_escapeChar hd c hc

namespace TagScan

theorem foldl_step_found (found : List (List Char)) (tag : Option (List Char)) (cs : List Char) :
    cs.foldl step ⟨found, tag⟩ =
      let scan := cs.foldl step ⟨[], tag⟩
      ⟨found ++ scan.found, scan.tag⟩ := by
  induction cs generalizing found tag with
  | nil => simp
  | cons c cs ih =>
    have hstep : step ⟨found, tag⟩ c =
        ⟨found ++ (step ⟨[], tag⟩ c).found, (step ⟨[], tag⟩ c).tag⟩ := by
      cases tag with
      | none => by_cases h : c = '<' <;> simp [step, h]
      | some tag => by_cases h : c = '>' <;> simp [step, h]
    rw [List.foldl_cons, List.foldl_cons, hstep, ih, ih (step ⟨[], tag⟩ c).found]
    simp

theorem foldl_step_outside {cs : List Char} (h : '<' ∉ cs) (found : List (List Char)) :
    cs.foldl step ⟨found, none⟩ = ⟨found, none⟩ := by
  induction cs with
  | nil => rfl
  | cons c cs ih =>
    rw [List.mem_cons, not_or] at h
    rw [List.foldl_cons, step, if_neg (Ne.symm h.1), ih h.2]

theorem foldl_step_inside {cs : List Char} (h : '>' ∉ cs) (found : List (List Char))
    (tag : List Char) : cs.foldl step ⟨found, some tag⟩ = ⟨found, some (tag ++ cs)⟩ := by
  induction cs generalizing tag with
  | nil => simp
  | cons c cs ih =>
    rw [List.mem_cons, not_or] at h
    rw [List.foldl_cons, step, if_neg (Ne.symm h.1), ih h.2]
    simp

end TagScan

def Piece.chars : Piece → List Char
  | markup m => m.toList
  | text t => escapeChars t.toList

theorem toList_write (ps : List Piece) : (write ps).toList = ps.flatMap Piece.chars := by
  have hchars (p : Piece) : p.write.toList = p.chars := by
    cases p with
    | markup m => rfl
    | text t => exact String.toList_ofList
  rw [write, String.toList_join, List.flatMap_map]
  simp only [hchars]

def HasTags (ps : List Piece) (ts : List (List Char)) : Prop :=
  (ps.flatMap Piece.chars).foldl TagScan.step {} = ⟨ts, none⟩

namespace HasTags

variable {ps qs : List Piece} {ts us : List (List Char)}

theorem tags_eq (h : HasTags ps ts) : tags (write ps).toList = ts := by
  rw [tags, toList_write, h]

theorem append (hps : HasTags ps ts) (hqs : HasTags qs us) : HasTags (ps ++ qs) (ts ++ us) := by
  rw [HasTags, List.flatMap_append, List.foldl_append, hps, TagScan.foldl_step_found, hqs]

theorem flatMap {α : Type} {f : α → List Piece} {g : α → List (List Char)}
    (h : ∀ x, HasTags (f x) (g x)) (xs : List α) : HasTags (xs.flatMap f) (xs.flatMap g) := by
  induction xs with
  | nil => rfl
  | cons x xs ih => exact (h x).append ih

theorem markup {m : String} (h : m.toList.foldl TagScan.step {} = ⟨ts, none⟩) :
    HasTags [.markup m] ts := by
  simpa [HasTags, Piece.chars] using h

theorem markup_append {m n : String} (hm : HasTags [.markup m] ts) (hn : HasTags [.markup n] us) :
    HasTags [.markup (m ++ n)] (ts ++ us) := by
  simpa [HasTags, Piece.chars] using hm.append hn

theorem plain {m : String} (h : '<' ∉ m.toList) : HasTags [.markup m] [] := by
  simpa [HasTags, Piece.chars] using TagScan.foldl_step_outside h []

theorem text (t : String) : HasTags [.text t] [] := by
  have hopen : '<' ∉ escapeChars t.toList := not_mem_escapeChars (.inl rfl) _
  simpa [HasTags, Piece.chars] using TagScan.foldl_step_outside hopen []

/-- A text in a value is a part of the tag that the value is in. -/
theorem value {m n : String} {before after : List (List Char)} {tag rest : List Char}
    (hm : m.toList.foldl TagScan.step {} = ⟨before, some tag⟩)
    (hn : n.toList = '"' :: '>' :: rest) (hrest : rest.foldl TagScan.step {} = ⟨after, none⟩)
    (t : String) :
    HasTags [.markup m, .text t, .markup n]
      (before ++ (tag ++ escapeChars t.toList ++ ['"', '>']) :: after) := by
  have hclose : '>' ∉ escapeChars t.toList := not_mem_escapeChars (.inr (.inl rfl)) _
  have hquote : TagScan.step ⟨before, some (tag ++ escapeChars t.toList)⟩ '"' =
      ⟨before, some (tag ++ escapeChars t.toList ++ ['"'])⟩ := rfl
  have hend (open_ : List Char) : TagScan.step ⟨before, some open_⟩ '>' =
      ⟨before ++ [open_ ++ ['>']], none⟩ := rfl
  simp only [HasTags, List.flatMap_cons, List.flatMap_nil, Piece.chars, List.append_nil,
    List.foldl_append, hm, hn, TagScan.foldl_step_inside hclose, List.foldl_cons, hquote, hend]
  rw [TagScan.foldl_step_found, hrest]
  simp

end HasTags

theorem length_le_of_splitAfter? {mark cs : List Char} {parts : List Char × List Char}
    (h : splitAfter? mark cs = some parts) : mark.length ≤ cs.length := by
  induction cs generalizing parts with
  | nil => simp [splitAfter?] at h
  | cons c cs ih =>
    rw [splitAfter?] at h
    split at h
    next hmark =>
      rw [List.isPrefixOf_iff_prefix] at hmark
      exact hmark.length_le
    next =>
      obtain ⟨rest, hrest, -⟩ := Option.map_eq_some_iff.mp h
      exact Nat.le_succ_of_le (ih hrest)

/-- The first occurrence of a mark stays the first one when more text follows. -/
theorem splitAfter?_append {mark cs before after : List Char}
    (h : splitAfter? mark cs = some (before, after)) (rest : List Char) :
    splitAfter? mark (cs ++ rest) = some (before, after ++ rest) := by
  induction cs generalizing before with
  | nil => simp [splitAfter?] at h
  | cons c cs ih =>
    rw [splitAfter?] at h
    rw [List.cons_append, splitAfter?]
    split at h
    next hmark =>
      have hstarts := List.isPrefixOf_iff_prefix.mp hmark
      obtain ⟨rfl, rfl⟩ := Prod.mk.inj (Option.some.inj h)
      have hmore : mark.isPrefixOf (c :: (cs ++ rest)) = true :=
        List.isPrefixOf_iff_prefix.mpr (hstarts.trans (List.prefix_append (c :: cs) rest))
      rw [if_pos hmore, ← List.cons_append, List.drop_append_of_le_length hstarts.length_le]
    next hmark =>
      obtain ⟨⟨start, stop⟩, hfound, hparts⟩ := Option.map_eq_some_iff.mp h
      obtain ⟨rfl, rfl⟩ := Prod.mk.inj hparts
      -- an occurrence that starts here would end before the one that was found
      have hlater : ¬ mark.isPrefixOf (c :: (cs ++ rest)) = true := by
        rw [List.isPrefixOf_iff_prefix] at hmark ⊢
        intro hmore
        refine hmark (List.prefix_of_prefix_length_le hmore (List.prefix_append (c :: cs) rest) ?_)
        exact Nat.le_succ_of_le (length_le_of_splitAfter? hfound)
      rw [if_neg hlater, ih hfound, Option.map_some]

section

variable {name : String} {before value : List Char}

/-- A value without quotation marks is read up to its end. -/
theorem attribute?_eq
    (hbefore : splitAfter? (' ' :: name.toList ++ ['=', '"']) before = some (before, []))
    (hvalue : '"' ∉ value) (after : List Char) :
    attribute? name (before ++ value ++ '"' :: after) = some (before, value, '"' :: after) := by
  have hplain : ∀ c ∈ value, decide (c ≠ '"') = true := by
    intro c hc
    rw [decide_eq_true_eq]
    rintro rfl
    exact hvalue hc
  rw [attribute?, List.append_assoc, splitAfter?_append hbefore, Option.map_some, List.nil_append,
    List.takeWhile_append_of_pos hplain, List.dropWhile_append_of_pos hplain,
    List.takeWhile_cons_of_neg (by decide), List.dropWhile_cons_of_neg (by decide),
    List.append_nil]

theorem attribute?_escapeChars
    (hbefore : splitAfter? (' ' :: name.toList ++ ['=', '"']) before = some (before, []))
    (t : String) :
    attribute? name (before ++ escapeChars t.toList ++ ['"', '>']) =
      some (before, (escape t).toList, ['"', '>']) := by
  rw [escape, String.toList_ofList]
  exact attribute?_eq hbefore (not_mem_escapeChars (.inr (.inr (.inl rfl))) _) ['>']

end

end RemoteNotebook.Markup
