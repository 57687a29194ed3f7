import RemoteNotebook.Json.Writer
import RemoteNotebook.Proofs.JsonObjects
import RemoteNotebook.Proofs.JsonValues
import RemoteNotebook.Proofs.Numerals

/-! JSON texts that are written are read again as what they were written of: strings with any
characters, integers of 64 bits, and all that is made of them. Doubles are left out, since they are
read with less care than they are written. -/
namespace RemoteNotebook

namespace Json

open Decimal (natDigits intChars ne_of_isDigit)

variable {cs rest : List Char} {c : Char}

theorem hexValue?_hexDigit {n : Nat} (h : n < 16) : Text.hexValue? (hexDigit n) = some n := by
  have hall : ∀ n < 16, Text.hexValue? (hexDigit n) = some n := by decide
  exact hall n h

/-- A character is read back from what is written of it. -/
theorem charText_escapeChar (c : Char) : CharText c (escapeChar c) := by
  fun_cases escapeChar c with
  | case8 c _ _ _ _ _ _ _ hc =>
    have hzero : Text.hexValue? '0' = some 0 := by decide
    have hhex := HexText.digits hzero hzero
      (hexValue?_hexDigit (n := c.toNat / 16) (by omega))
      (hexValue?_hexDigit (n := c.toNat % 16) (by omega))
    have hvalue : 0 * 0x1000 + 0 * 0x100 + c.toNat / 16 * 0x10 + c.toNat % 16 = c.toNat := by
      omega
    rw [hvalue] at hhex
    exact .unicode (.one hhex)
  | case9 c hquote hslash _ _ _ _ _ hc => exact .plain hquote hslash (Nat.not_lt.mp hc)
  | _ => exact .short (by decide)

theorem stringText_escape (cs : List Char) : StringText cs (cs.flatMap escapeChar) := by
  induction cs with
  | nil => exact .nil
  | cons c cs ih => exact .cons (charText_escapeChar c) ih

def NumberEnds (rest : List Char) : Prop := ∀ c ∈ rest.head?, isNumberChar c = false

theorem numberEnds_of_mem {seps : List Char} (hseps : seps.any isNumberChar = false)
    (h : c ∈ seps) : NumberEnds (c :: rest) := by
  rintro _ ⟨⟩
  exact eq_false_of_ne_true (List.any_eq_false.mp hseps c h)

theorem NumberEnds.takeWhile_eq (h : NumberEnds rest) : rest.takeWhile isNumberChar = [] := by
  cases rest with
  | nil => rfl
  | cons c cs => exact List.takeWhile_cons_of_neg (by simp [h c rfl])

theorem NumberEnds.dropWhile_eq (h : NumberEnds rest) : rest.dropWhile isNumberChar = rest := by
  cases rest with
  | nil => rfl
  | cons c cs => exact List.dropWhile_cons_of_neg (by simp [h c rfl])

theorem cut_of_forall {p : Char → Bool} (h : ∀ c ∈ cs, p c = false) : cut p cs = (cs, none) := by
  have hnot : ∀ c ∈ cs, (!p c) = true := fun c hc => by rw [h c hc]; rfl
  rw [cut, List.takeWhile_eq_self_iff.mpr hnot, List.dropWhile_eq_nil_iff.mpr hnot]
  rfl

theorem isWhole_natDigits (n : Nat) : isWhole (natDigits n) = true := by
  have hdigits : areDigits (natDigits n) = true := by
    have hall : (natDigits n).all Decimal.isDigit = true :=
      List.all_eq_true.mpr fun _ hd => Decimal.isDigit_of_mem_natDigits hd
    rw [areDigits, hall, List.isEmpty_eq_false_iff.mpr (Decimal.natDigits_ne_nil n)]
    rfl
  rw [isWhole, hdigits]
  rcases Nat.eq_zero_or_pos n with rfl | hpos
  · simp [natDigits]
  · simpa using .inl (Decimal.head?_natDigits hpos)

theorem literal?_intChars (i : Int) :
    literal? (intChars i) = some ⟨decide (i < 0), natDigits i.natAbs, none, none⟩ := by
  have hdigits : ∀ c ∈ natDigits i.natAbs, Decimal.isDigit c = true :=
    fun c hc => Decimal.isDigit_of_mem_natDigits hc
  have hexponent : cut (fun c => c = 'e' || c = 'E') (natDigits i.natAbs) =
      (natDigits i.natAbs, none) := by
    refine cut_of_forall fun c hc => ?_
    simp [ne_of_isDigit (d := 'e') (hdigits c hc) rfl, ne_of_isDigit (d := 'E') (hdigits c hc) rfl]
  have hpoint : cut (fun c => c = '.') (natDigits i.natAbs) = (natDigits i.natAbs, none) := by
    refine cut_of_forall fun c hc => ?_
    simp [ne_of_isDigit (d := '.') (hdigits c hc) rfl]
  have hnot : (natDigits i.natAbs).head? ≠ some '-' := fun h =>
    ne_of_isDigit (hdigits _ (List.mem_of_mem_head? h)) rfl rfl
  unfold literal?
  by_cases hneg : i < 0
  · simp [intChars, hneg, hexponent, hpoint, isWhole_natDigits]
  · simp [intChars, hneg, hnot, hexponent, hpoint, isWhole_natDigits]

theorem value?_of_range {i : Int} (hlow : Int64.minValue.toInt ≤ i) (hhigh : i < UInt64.size) :
    Literal.value? ⟨decide (i < 0), natDigits i.natAbs, none, none⟩ = some (.int i) := by
  simp only [Literal.value?, Decimal.value_natDigits]
  by_cases hneg : i < 0
  · have habs : -(i.natAbs : Int) = i := by omega
    rw [decide_eq_true hneg, habs, if_pos rfl, if_pos ⟨by omega, hlow⟩]
  · have habs : (i.natAbs : Int) = i := by omega
    rw [decide_eq_false hneg, if_neg Bool.false_ne_true, if_pos (by omega), habs]

theorem isNumberChar_of_mem {i : Int} (h : c ∈ intChars i) : isNumberChar c = true := by
  rcases Decimal.mem_intChars h with rfl | hc
  · decide
  · simp [isNumberChar, hc]

theorem reads_number_intChars {i : Int} (hlow : Int64.minValue.toInt ≤ i) (hhigh : i < UInt64.size)
    (hrest : NumberEnds rest) :
    Reads (numberWith Literal.value?) (intChars i ++ rest) (.int i) rest := by
  have hchars : ∀ c ∈ intChars i, isNumberChar c = true := fun c hc => isNumberChar_of_mem hc
  have hliteral := literal?_intChars i
  cases hi : intChars i with
  | nil => exact absurd hi (Decimal.intChars_ne_nil i)
  | cons c ds =>
    rw [hi] at hchars hliteral
    obtain ⟨hc, hds⟩ := List.forall_mem_cons.mp hchars
    have htake : (ds ++ rest).takeWhile isNumberChar = ds := by
      rw [List.takeWhile_append_of_pos hds, hrest.takeWhile_eq, List.append_nil]
    have hdrop : (ds ++ rest).dropWhile isNumberChar = rest := by
      rw [List.dropWhile_append_of_pos hds, hrest.dropWhile_eq]
    have hshorter : rest.length < (c :: ds ++ rest).length := by
      simp only [List.length_append, List.length_cons]
      omega
    refine ⟨⟨.int i, rest, hshorter⟩, ?_, rfl, rfl⟩
    simp only [List.cons_append, numberWith, hc, if_true, htake, hliteral, Option.bind_some,
      value?_of_range hlow hhigh, Option.map_some, hdrop]

section Items

variable {α β : Type} {item : Reader α} {text : β → List Char} {view : β → α} {xs : List β}
  {close : Char}

theorem intercalate_map_cons (x y : β) (ys : List β) :
    [','].intercalate ((x :: y :: ys).map text) =
      text x ++ ',' :: [','].intercalate ((y :: ys).map text) := by
  rw [List.map_cons, List.map_cons, List.intercalate_cons_cons, List.append_assoc,
    List.singleton_append]

/-- Items with commas between them are read one after the other, if each is read up to the comma or
the bracket behind it. -/
theorem reads_itemsUntil_intercalate (hne : xs ≠ []) (hspace : isSpace close = false)
    (hcomma : close ≠ ',')
    (h : ∀ x ∈ xs, ∀ sep ∈ [',', close], ∀ rest,
      Reads item (text x ++ sep :: rest) (view x) (sep :: rest)) :
    Reads (itemsUntil item close) ([','].intercalate (xs.map text) ++ close :: rest)
      (xs.map view) rest := by
  have hnext {sep : Char} (hsep : isSpace sep = false) (rest : List Char) :
      Reads next (sep :: rest) sep rest :=
    reads_next_iff.mpr ⟨[], rfl, List.forall_mem_nil _, hsep⟩
  induction xs with
  | nil => exact absurd rfl hne
  | cons x xs ih =>
    obtain ⟨hx, hxs⟩ := List.forall_mem_cons.mp h
    cases xs with
    | nil =>
      rw [List.map_singleton, List.intercalate_singleton]
      exact reads_itemsUntil_cons_iff.mpr
        ⟨_, _, _, _, hx close (by simp) rest, hnext hspace rest, .inl ⟨rfl, rfl, rfl⟩⟩
    | cons y ys =>
      have hitems := ih (List.cons_ne_nil _ _) hxs
      rw [intercalate_map_cons, List.append_assoc, List.cons_append]
      exact reads_itemsUntil_cons_iff.mpr
        ⟨_, _, _, _, hx ',' (by simp) _, hnext (by decide) _,
          .inr ⟨⟨hcomma.symm, rfl⟩, _, hitems, rfl⟩⟩

/-- What stands between brackets is read, if no item can be taken for the closing one. -/
theorem reads_bracketed_intercalate (hspace : isSpace close = false) (hcomma : close ≠ ',')
    (hbegins : ∀ x ∈ xs, ∃ c tail, text x = c :: tail ∧ isSpace c = false ∧ c ≠ close)
    (h : ∀ x ∈ xs, ∀ sep ∈ [',', close], ∀ rest,
      Reads item (text x ++ sep :: rest) (view x) (sep :: rest)) :
    Reads (bracketed item close) ([','].intercalate (xs.map text) ++ close :: rest)
      (xs.map view) rest := by
  cases xs with
  | nil =>
    have hclose : Reads next (close :: rest) close rest :=
      reads_next_iff.mpr ⟨[], rfl, List.forall_mem_nil _, hspace⟩
    exact reads_bracketed_cons_iff.mpr ⟨_, _, hclose, .inl ⟨rfl, rfl, rfl⟩⟩
  | cons x xs =>
    have hitems : Reads (itemsUntil item close) _ _ rest :=
      reads_itemsUntil_intercalate (List.cons_ne_nil _ _) hspace hcomma h
    obtain ⟨c, tail, hx, hc, hne⟩ := hbegins x (by simp)
    have hfirst : ∃ tail, [','].intercalate ((x :: xs).map text) ++ close :: rest = c :: tail := by
      cases xs with
      | nil => exact ⟨tail ++ close :: rest, by simp [hx]⟩
      | cons y ys => exact ⟨_, by rw [intercalate_map_cons, hx]; rfl⟩
    obtain ⟨tail, hcs⟩ := hfirst
    have hnext : Reads next ([','].intercalate ((x :: xs).map text) ++ close :: rest) c tail :=
      reads_next_iff.mpr ⟨[], hcs, List.forall_mem_nil _, hc⟩
    exact reads_bracketed_cons_iff.mpr ⟨_, _, hnext, .inr ⟨hne, hitems⟩⟩

end Items

theorem itemChars_eq (items : List Json) : itemChars items = [','].intercalate (items.map chars) := by
  induction items using List.twoStepInduction with
  | nil => rw [itemChars]; rfl
  | singleton v => rw [itemChars, List.map_singleton, List.intercalate_singleton]
  | cons_cons v w vs _ ih =>
    rw [itemChars, ih, intercalate_map_cons]

def memberText (m : String × Json) : List Char := quoted m.1 ++ ':' :: m.2.chars

theorem memberChars_eq (members : List (String × Json)) :
    memberChars members = [','].intercalate (members.map memberText) := by
  induction members using List.twoStepInduction with
  | nil => rw [memberChars]; rfl
  | singleton m =>
    obtain ⟨k, v⟩ := m
    rw [memberChars, List.map_singleton, List.intercalate_singleton, memberText]
  | cons_cons m m' ms _ ih =>
    obtain ⟨k, v⟩ := m
    rw [memberChars, ih, intercalate_map_cons, memberText]

theorem compactMembers_eq (members : List (String × Json)) :
    compactMembers members = compact (.obj members) := by
  rw [compact, chars, compactMembers]

/-- The values that are read as they were written: there are no doubles in them, integers have 64
bits, members stand in the order of their keys, and at most `depth` arrays and objects are inside
one another. -/
inductive Plain : Nat → Json → Prop
  | null {depth : Nat} : Plain depth .null
  | bool {depth : Nat} (b : Bool) : Plain depth (.bool b)
  | int {depth : Nat} {i : Int} (hlow : Int64.minValue.toInt ≤ i) (hhigh : i < UInt64.size) :
    Plain depth (.int i)
  | str {depth : Nat} (s : String) : Plain depth (.str s)
  | arr {depth : Nat} {items : List Json} (h : ∀ v ∈ items, Plain depth v) :
    Plain (depth + 1) (.arr items)
  | obj {depth : Nat} {members : List (String × Json)} (h : ∀ m ∈ members, Plain depth m.2)
    (horder : members.Pairwise fun m n => m.1 < n.1) : Plain (depth + 1) (.obj members)

variable {depth : Nat} {v : Json}

theorem Plain.int64 (n : Int64) : Plain depth (.int n.toInt) := by
  have hsize : (Int64.maxValue.toInt : Int) < UInt64.size := by decide
  exact .int n.minValue_le_toInt (n.toInt_le.trans_lt hsize)

/-- No number begins as a blank, a string, a word or a bracket does. -/
theorem isNumberChar_bounds (h : isNumberChar c = true) :
    isSpace c = false ∧ c ∉ ['"', 'n', 't', 'f', '[', ']', '\x7b'] := by
  constructor
  · by_contra hspace
    simp only [isSpace, Bool.not_eq_false, Bool.or_eq_true, decide_eq_true_eq] at hspace
    rcases hspace with ((rfl | rfl) | rfl) | rfl <;> exact absurd h (by decide)
  · intro hmem
    have hnone : ['"', 'n', 't', 'f', '[', ']', '\x7b'].any isNumberChar = false := rfl
    exact List.any_eq_false.mp hnone c hmem h

theorem Plain.begins (h : Plain depth v) :
    ∃ c tail, v.chars = c :: tail ∧ isSpace c = false ∧ c ≠ ']' := by
  cases h with
  | null => exact ⟨_, _, by rw [chars], by decide, by decide⟩
  | bool b => cases b <;> exact ⟨_, _, by rw [chars], by decide, by decide⟩
  | @int _ i _ _ =>
    obtain ⟨c, tail, hi⟩ := List.exists_cons_of_ne_nil (Decimal.intChars_ne_nil i)
    have hnumber : isNumberChar c = true := isNumberChar_of_mem (i := i) (by simp [hi])
    obtain ⟨hspace, hbounds⟩ := isNumberChar_bounds hnumber
    exact ⟨c, tail, by rw [chars, hi], hspace, fun hc => hbounds (by simp [hc])⟩
  | str s => exact ⟨_, _, by rw [chars]; rfl, by decide, by decide⟩
  | arr _ => exact ⟨_, _, by rw [chars]; rfl, by decide, by decide⟩
  | obj _ _ => exact ⟨_, _, by rw [chars]; rfl, by decide, by decide⟩

theorem reads_quoted (s : String) (rest : List Char) :
    Reads (atom strict) (quoted s ++ rest) (.str s) rest := by
  have htext := reads_atom_str (stringText_escape s.toList) rest
  simpa [quoted] using htext

theorem reads_key_memberText (m : String × Json) (rest : List Char) :
    Reads (key strict) (memberText m ++ rest) m.1 (m.2.chars ++ rest) :=
  reads_key_iff.mpr ⟨[], _, [], by simp [memberText, quoted], List.forall_mem_nil _,
    stringText_escape m.1.toList, List.forall_mem_nil _⟩

/-- The members of an object are read one after the other. -/
theorem reads_members {α : Type} {reader : Reader α} {view : String × Json → α}
    {members : List (String × Json)}
    (h : ∀ m ∈ members, ∀ sep ∈ [',', '\x7d'], ∀ rest,
      Reads reader (memberText m ++ sep :: rest) (view m) (sep :: rest)) :
    Reads (bracketed reader '\x7d') (memberChars members ++ '\x7d' :: rest) (members.map view)
      rest := by
  rw [memberChars_eq]
  exact reads_bracketed_intercalate (by decide) (by decide)
    (fun m _ => ⟨'"', _, rfl, by decide, by decide⟩) h

/-- A value that does not begin with a bracket is read at any depth. -/
theorem reads_value_of_atom {tail : List Char} (hcs : cs = c :: tail)
    (hc : isSpace c = false ∧ c ∉ ['[', '\x7b']) (h : Reads (atom strict) cs v rest) :
    Reads (valueWith strict depth) cs v rest := by
  subst hcs
  have hskip : skipSpaces (c :: tail) = c :: tail :=
    skipSpaces_append (List.forall_mem_nil _) hc.1
  exact reads_valueWith_of_atom hskip hc.2 h

theorem reads_value_number (hnumber : isNumberChar c = true)
    (h : Reads (numberWith Literal.value?) (c :: cs) v rest) :
    Reads (valueWith strict depth) (c :: cs) v rest := by
  obtain ⟨hspace, hbounds⟩ := isNumberChar_bounds hnumber
  simp only [List.mem_cons, List.not_mem_nil, or_false, not_or] at hbounds
  refine reads_value_of_atom rfl ⟨hspace, by simp [hbounds]⟩ ?_
  simpa [Reads, atom, strict, hbounds] using h

theorem reads_value_quoted (s : String) (rest : List Char) :
    Reads (valueWith strict depth) (quoted s ++ rest) (.str s) rest :=
  reads_value_of_atom rfl (by decide) (reads_quoted s rest)

/-- Plain values are read as they were written, whatever may stand behind them. -/
theorem Plain.reads (h : Plain depth v) (hrest : NumberEnds rest) :
    Reads (valueWith strict depth) (v.chars ++ rest) v rest := by
  have hword (text : List Char) (hne : text ≠ []) (v : Json) (rest : List Char) :
      Reads (word text v) (text ++ rest) v rest := (reads_word_iff hne).mpr ⟨rfl, rfl⟩
  induction h generalizing rest with
  | null =>
    rw [chars]
    refine reads_value_of_atom rfl (by decide) ?_
    simpa [Reads, atom] using hword ['n', 'u', 'l', 'l'] (by simp) .null rest
  | bool b =>
    cases b with
    | true =>
      rw [chars]
      refine reads_value_of_atom rfl (by decide) ?_
      simpa [Reads, atom] using hword ['t', 'r', 'u', 'e'] (by simp) (.bool true) rest
    | false =>
      rw [chars]
      refine reads_value_of_atom rfl (by decide) ?_
      simpa [Reads, atom] using hword ['f', 'a', 'l', 's', 'e'] (by simp) (.bool false) rest
  | @int _ i hlow hhigh =>
    rw [chars]
    obtain ⟨c, tail, hi⟩ := List.exists_cons_of_ne_nil (Decimal.intChars_ne_nil i)
    have hnumber : isNumberChar c = true := isNumberChar_of_mem (i := i) (by simp [hi])
    have hread := reads_number_intChars hlow hhigh hrest
    rw [hi] at hread ⊢
    exact reads_value_number hnumber hread
  | str s =>
    rw [chars]
    exact reads_value_quoted s rest
  | @arr depth items h ih =>
    rw [chars, itemChars_eq, List.cons_append, List.cons_append, List.append_assoc,
      List.singleton_append]
    refine reads_valueWith_arr ?_
    have hitems : Reads (bracketed (valueWith strict depth) ']')
        ([','].intercalate (items.map chars) ++ ']' :: rest) (items.map id) rest :=
      reads_bracketed_intercalate (by decide) (by decide) (fun v hv => (h v hv).begins)
        fun v hv sep hsep after => ih v hv (numberEnds_of_mem rfl hsep)
    rwa [List.map_id] at hitems
  | @obj depth members h horder ih =>
    rw [chars, List.cons_append, List.cons_append, List.append_assoc, List.singleton_append,
      ← ofMembers_of_pairwise horder]
    refine reads_valueWith_obj ?_
    have hmembers : Reads (bracketed (member strict (valueWith strict depth)) '\x7d')
        (memberChars members ++ '\x7d' :: rest) (members.map id) rest := by
      refine reads_members fun m hm sep hsep after => ?_
      have hvalue := ih m hm (numberEnds_of_mem rfl hsep : NumberEnds (sep :: after))
      exact reads_keyed_iff.mpr ⟨_, _, reads_key_memberText m _, hvalue.map (m.1, ·)⟩
    rwa [List.map_id] at hmembers

theorem parse?_compact (h : Plain depthLimit v) : parse? v.compact = some v := by
  have hends : NumberEnds [] := nofun
  have hread := h.reads hends
  rw [List.append_nil] at hread
  obtain ⟨x, hx, hvalue, hrest⟩ := hread
  rw [parse?, compact, String.toList_ofList, hx, Option.bind_some, hrest, hvalue]
  rfl

theorem compact_injective {w : Json} (hv : Plain depthLimit v) (hw : Plain depthLimit w)
    (h : v.compact = w.compact) : v = w := by
  have hread := parse?_compact hv
  rw [h, parse?_compact hw] at hread
  exact (Option.some.inj hread).symm

/-- A record is read from what is written of its fields. -/
theorem Record.parse?_compactMembers {fields : List String} {other : OtherKeys}
    {members : List (String × Json)} (hfields : ∀ m ∈ members, m.1 ∈ fields)
    (honce : (members.map Prod.fst).Nodup) (h : ∀ m ∈ members, Plain (depthLimit - 1) m.2) :
    parse? fields other (compactMembers members) = some members := by
  have hmembers : Reads (bracketed (member fields other) '\x7d') (memberChars members ++ ['\x7d'])
      (members.map some) [] := by
    refine reads_members fun m hm sep hsep after => ?_
    have hends : NumberEnds (sep :: after) := numberEnds_of_mem rfl hsep
    exact reads_member_of_mem (reads_key_memberText m _) (hfields m hm) ((h m hm).reads hends)
  refine parse?_eq_some_iff.mpr ⟨_, [], List.forall_mem_nil _, .inr ⟨_, ?_, hmembers, ?_, ?_⟩⟩
  · rw [compactMembers, String.toList_ofList]
    rfl
  · rwa [List.filterMap_map, Function.id_comp, List.filterMap_some]
  · rw [List.filterMap_map, Function.id_comp, List.filterMap_some]

end Json
end RemoteNotebook
