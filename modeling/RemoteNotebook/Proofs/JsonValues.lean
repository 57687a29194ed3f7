import RemoteNotebook.Json.Record
import RemoteNotebook.Proofs.JsonBrackets

/-! Values and records in JSON texts. A value is read by the first character behind the blanks, an
array and an object by what stands between their brackets, and a record is read from either. -/
namespace RemoteNotebook.Json

variable {cs rest tail : List Char} {c : Char} {v : Json} {depth : Nat} {leaves : Leaves}

/-- A value that is no array and no object is read from the first character behind the blanks. -/
theorem reads_valueWith_of_atom (hcs : skipSpaces cs = c :: tail) (hc : c ∉ ['[', '\x7b'])
    (h : Reads (atom leaves) (c :: tail) v rest) : Reads (valueWith leaves depth) cs v rest := by
  obtain ⟨x, hx, hvalue, hrest⟩ := h
  have hle := length_skipSpaces_le cs
  rw [hcs] at hle
  refine ⟨x.widen hle, ?_, hvalue, hrest⟩
  simp only [List.mem_cons, List.not_mem_nil, or_false, not_or] at hc
  -- Depth is about brackets, and neither bracket is there.
  cases depth with
  | zero =>
    unfold valueWith
    split
    next _ _ hnil _ => cases hnil.symm.trans hcs
    next _ _ hcons _ =>
      obtain ⟨rfl, rfl⟩ := List.cons_eq_cons.mp (hcons.symm.trans hcs)
      simp only [hc.1, hc.2, decide_false, Bool.or_self, Bool.false_eq_true, if_false, hx,
        Option.map_some]
  | succ depth =>
    unfold valueWith
    split
    next _ _ hnil _ => cases hnil.symm.trans hcs
    next _ _ hcons _ =>
      obtain ⟨rfl, rfl⟩ := List.cons_eq_cons.mp (hcons.symm.trans hcs)
      simp only [hc.1, hc.2, if_false, hx, Option.map_some]

/-- An array is read from what stands between its brackets, one level deeper. -/
theorem reads_valueWith_arr {items : List Json}
    (h : Reads (bracketed (valueWith leaves depth) ']') cs items rest) :
    Reads (valueWith leaves (depth + 1)) ('[' :: cs) (.arr items) rest := by
  obtain ⟨x, hx, rfl, rfl⟩ := h
  refine ⟨(x.map Json.arr).widen (by simp), ?_, rfl, rfl⟩
  unfold valueWith
  split
  next _ _ hnil _ => cases hnil
  next _ _ hcons _ =>
    obtain ⟨rfl, rfl⟩ := List.cons_eq_cons.mp hcons
    simp only [if_true, hx, Option.map_some]

theorem reads_valueWith_obj {members : List (String × Json)}
    (h : Reads (bracketed (member leaves (valueWith leaves depth)) '\x7d') cs members rest) :
    Reads (valueWith leaves (depth + 1)) ('\x7b' :: cs) (ofMembers members) rest := by
  obtain ⟨x, hx, rfl, rfl⟩ := h
  refine ⟨(x.map Json.ofMembers).widen (by simp), ?_, rfl, rfl⟩
  unfold valueWith
  split
  next _ _ hnil _ => cases hnil
  next _ _ hcons _ =>
    obtain ⟨rfl, rfl⟩ := List.cons_eq_cons.mp hcons
    simp [hx]

/-- A string is read from a text of it behind the opening quote. -/
theorem reads_atom_str {s : String} {body : List Char} (h : StringText s.toList body)
    (rest : List Char) : Reads (atom strict) ('"' :: (body ++ '"' :: rest)) (.str s) rest := by
  obtain ⟨t, ht, hvalue, hrest⟩ := h.reads rest
  refine ⟨(t.map fun x => Json.str (String.ofList x)).widen (by simp), ?_, ?_, hrest⟩
  · simp [atom, strict, ht]
  · rw [Found.widen_value, Found.map_value, hvalue, String.ofList_toList]

namespace Record

variable {fields : List String} {other : OtherKeys} {key : String}

/-- A member under the key of a field is read with any value. -/
theorem reads_member_of_mem {mid : List Char} (hkey : Reads (Json.key strict) cs key mid)
    (hmem : key ∈ fields) (h : Reads (valueWith strict (depthLimit - 1)) mid v rest) :
    Reads (member fields other) cs (some (key, v)) rest := by
  obtain ⟨x, hx, rfl, rfl⟩ := h
  refine reads_keyed_iff.mpr ⟨key, mid, hkey, x.map fun v => some (key, v), ?_, rfl, rfl⟩
  simp only [List.contains_iff_mem.mpr hmem, if_true, hx, Option.map_some]

/-- What is read of a whole text: an array with a value for each field, or an object in which no
field comes twice. -/
theorem parse?_eq_some_iff {s : String} {found : List (String × Json)} :
    parse? fields other s = some found ↔
      ∃ cs rest, Spaces rest ∧
        ((∃ items, skipSpaces s.toList = '[' :: cs ∧
            Reads (bracketed (valueWith strict (depthLimit - 1)) ']') cs items rest ∧
            items.length = fields.length ∧ found = fields.zip items) ∨
          ∃ members, skipSpaces s.toList = '\x7b' :: cs ∧
            Reads (bracketed (member fields other) '\x7d') cs members rest ∧
            ((members.filterMap id).map Prod.fst).Nodup ∧ found = members.filterMap id) := by
  constructor
  · intro h
    unfold parse? at h
    simp only at h
    split at h
    next cs hcs =>
      obtain ⟨x, hx, hfinish⟩ := Option.bind_eq_some_iff.mp h
      split at hfinish
      next hrest =>
        refine ⟨cs, x.rest, isEmpty_skipSpaces_iff.mp hrest, .inl ⟨_, hcs, .intro hx, ?_⟩⟩
        unfold ofItems at hfinish
        split at hfinish
        next hlength => exact ⟨hlength, (Option.some.inj hfinish).symm⟩
        · cases hfinish
      · cases hfinish
    next cs hcs =>
      obtain ⟨x, hx, hfinish⟩ := Option.bind_eq_some_iff.mp h
      split at hfinish
      next hrest =>
        refine ⟨cs, x.rest, isEmpty_skipSpaces_iff.mp hrest, .inr ⟨_, hcs, .intro hx, ?_⟩⟩
        unfold ofMembers at hfinish
        simp only at hfinish
        split at hfinish
        next honce => exact ⟨honce, (Option.some.inj hfinish).symm⟩
        · cases hfinish
      · cases hfinish
    · cases h
  · rintro ⟨cs, _, hrest, ⟨_, hcs, ⟨x, hx, rfl, rfl⟩, hlength, rfl⟩ |
      ⟨_, hcs, ⟨x, hx, rfl, rfl⟩, honce, rfl⟩⟩
    · simp only [parse?, hcs, hx, Option.bind_some, isEmpty_skipSpaces_iff.mpr hrest,
        if_true, ofItems, if_pos hlength]
    · simp only [parse?, hcs, hx, Option.bind_some, isEmpty_skipSpaces_iff.mpr hrest,
        if_true, ofMembers, if_pos honce]

end Record

end RemoteNotebook.Json
