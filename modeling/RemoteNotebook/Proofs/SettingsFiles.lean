import RemoteNotebook.Proofs.JsonValues
import RemoteNotebook.Settings
import Mathlib.Data.Set.List

/-! Settings files. What the file of a user may say is a grammar of its own: an object or an array
with an endpoint and a table, each a string or null. A text gives settings just if it is of that
form, and they are the ones that it writes. -/
namespace RemoteNotebook.Settings

open Json

def fieldValue : Option String → Json
  | none => .null
  | some s => .str s

inductive FieldText : Option String → List Char → Prop
  | null : FieldText none ['n', 'u', 'l', 'l']
  | string {s : String} {body : List Char} (h : StringText s.toList body) :
    FieldText (some s) ('"' :: (body ++ ['"']))

def fields : List String := ["endpoint", "table"]

inductive MemberText : String × Option String → List Char → Prop
  | member {key : String} {field : Option String} {body gap blanks text : List Char}
    (hkey : key ∈ fields) (hbody : StringText key.toList body) (hgap : Spaces gap)
    (hblanks : Spaces blanks) (h : FieldText field text) :
    MemberText (key, field) ('"' :: (body ++ '"' :: (gap ++ ':' :: (blanks ++ text))))

/-- The texts of a settings file with an endpoint and a table. In an object each may be left out,
none may come twice, and the order is free. -/
inductive FileText : Option String → Option String → List Char → Prop
  | object {members : List (String × Option String)} {before body after : List Char}
    (hbefore : Spaces before) (h : ListText MemberText members body)
    (honce : (members.map Prod.fst).Nodup) (hafter : Spaces after) :
    FileText (members.lookup "endpoint").join (members.lookup "table").join
      (before ++ '\x7b' :: (body ++ '\x7d' :: after))
  | array {endpoint table : Option String} {before body after : List Char}
    (hbefore : Spaces before) (h : ListText FieldText [endpoint, table] body)
    (hafter : Spaces after) : FileText endpoint table (before ++ '[' :: (body ++ ']' :: after))

variable {cs rest : List Char} {v : Json} {field : Option String}

theorem double?_ne {l : Literal} (h : l.double? = some v) : v ≠ fieldValue field := by
  obtain ⟨m, -, rfl⟩ := Option.map_eq_some_iff.mp h
  cases field <;> nofun

theorem value?_ne {l : Literal} (h : l.value? = some v) : v ≠ fieldValue field := by
  unfold Literal.value? at h
  simp only at h
  split at h
  · split at h
    · split at h
      · cases h
        cases field <;> nofun
      · exact double?_ne h
    · split at h
      · cases h
        cases field <;> nofun
      · exact double?_ne h
  · exact double?_ne h

theorem not_reads_number : ¬Reads (numberWith Literal.value?) cs (fieldValue field) rest := by
  rintro ⟨x, hx, hvalue, -⟩
  unfold numberWith at hx
  split at hx
  · cases hx
  · split at hx
    · obtain ⟨l, -, hl⟩ := Option.bind_eq_some_iff.mp hx
      obtain ⟨v, hv, rfl⟩ := Option.map_eq_some_iff.mp hl
      exact value?_ne hv hvalue
    · cases hx

/-- A value without others inside is a field just if it is written as one. -/
theorem reads_atom_iff : Reads (atom strict) cs (fieldValue field) rest ↔
    ∃ text, cs = text ++ rest ∧ FieldText field text := by
  constructor
  · rintro ⟨x, hx, hvalue, rfl⟩
    unfold atom at hx
    split at hx
    · cases hx
    next c cs =>
      split at hx
      next hquote =>
        obtain ⟨t, ht, rfl⟩ := Option.map_eq_some_iff.mp hx
        obtain ⟨body, hcs, hbody⟩ := reads_string_iff.mp (.intro ht)
        cases field with
        | none => cases hvalue
        | some s =>
          obtain rfl := Json.str.inj hvalue
          rw [← String.toList_ofList (l := t.value)] at hbody
          exact ⟨_, by simp [hquote, hcs], .string hbody⟩
      next =>
        split at hx
        · obtain ⟨hnull, hcs⟩ := (reads_word_iff (by simp)).mp (.intro hx)
          cases field with
          | none => exact ⟨_, hcs, .null⟩
          | some s => cases hvalue.symm.trans hnull
        · split at hx
          · obtain ⟨htrue, -⟩ := (reads_word_iff (by simp)).mp (.intro hx)
            cases field <;> cases hvalue.symm.trans htrue
          · split at hx
            · obtain ⟨hfalse, -⟩ := (reads_word_iff (by simp)).mp (.intro hx)
              cases field <;> cases hvalue.symm.trans hfalse
            · exact absurd ⟨x, hx, hvalue, rfl⟩ not_reads_number
  · rintro ⟨text, rfl, h⟩
    cases h with
    | null => exact ⟨⟨.null, rest, by simp; omega⟩, by simp [atom, word], rfl, rfl⟩
    | string h =>
      rw [List.cons_append, List.append_assoc, List.singleton_append]
      exact reads_atom_str h rest

theorem FieldText.begins {text : List Char} (h : FieldText field text) :
    ∃ c tail, text = c :: tail ∧ isSpace c = false ∧ c ∉ ['[', ']', '\x7b', '\x7d'] := by
  cases h with
  | null => exact ⟨_, _, rfl, by decide, by decide⟩
  | string => exact ⟨_, _, rfl, by decide, by decide⟩

/-- A value that is no array and no object is read from the first character behind the blanks. -/
theorem reads_valueWith_atom_iff {depth : Nat} :
    Reads (valueWith strict depth) cs (fieldValue field) rest ↔
      ∃ c tail, skipSpaces cs = c :: tail ∧ c ∉ ['[', '\x7b'] ∧
        Reads (atom strict) (c :: tail) (fieldValue field) rest := by
  constructor
  · rintro ⟨x, hx, hvalue, rfl⟩
    -- Depth is about brackets, and what stands in brackets is no field.
    cases depth with
    | zero =>
      unfold valueWith at hx
      split at hx
      · cases hx
      next c tail _ hcs _ =>
        split at hx
        · cases hx
        next hc =>
          obtain ⟨y, hy, rfl⟩ := Option.map_eq_some_iff.mp hx
          exact ⟨c, tail, hcs, by simpa using hc, y, hy, hvalue, rfl⟩
    | succ depth =>
      unfold valueWith at hx
      split at hx
      · cases hx
      next c tail _ hcs _ =>
        split at hx
        · obtain ⟨y, -, rfl⟩ := Option.map_eq_some_iff.mp hx
          cases field <;> cases hvalue
        next hbracket =>
          split at hx
          · obtain ⟨y, -, rfl⟩ := Option.map_eq_some_iff.mp hx
            cases field <;> cases hvalue
          next hbrace =>
            obtain ⟨y, hy, rfl⟩ := Option.map_eq_some_iff.mp hx
            exact ⟨c, tail, hcs, by simp [hbracket, hbrace], y, hy, hvalue, rfl⟩
  · rintro ⟨c, tail, hcs, hc, h⟩
    exact reads_valueWith_of_atom hcs hc h

/-- A field is read, behind blanks, just from a text of it. -/
theorem reads_valueWith_iff {depth : Nat} :
    Reads (valueWith strict depth) cs (fieldValue field) rest ↔
      ∃ before text, cs = before ++ (text ++ rest) ∧ Spaces before ∧ FieldText field text := by
  rw [reads_valueWith_atom_iff]
  constructor
  · rintro ⟨c, tail, hcs, -, h⟩
    obtain ⟨before, hcs, hbefore, -⟩ := skipSpaces_eq_cons_iff.mp hcs
    obtain ⟨text, htail, htext⟩ := reads_atom_iff.mp h
    exact ⟨before, text, htail ▸ hcs, hbefore, htext⟩
  · rintro ⟨before, text, rfl, hbefore, htext⟩
    obtain ⟨c, tail, rfl, hc, hne⟩ := htext.begins
    refine ⟨c, tail ++ rest, skipSpaces_append hbefore hc, by simp_all, ?_⟩
    exact reads_atom_iff.mpr ⟨_, rfl, htext⟩

variable {key : String} {m : Option (String × Json)}

/-- What is read of a member: a key that is among the fields, and any value. -/
theorem reads_member_iff : Reads (Record.member fields .refuse) cs m rest ↔
    ∃ key mid v, Reads (Json.key strict) cs key mid ∧ key ∈ fields ∧ m = some (key, v) ∧
      Reads (valueWith strict (depthLimit - 1)) mid v rest := by
  rw [Record.member, reads_keyed_iff]
  constructor
  · rintro ⟨key, mid, hkey, x, hx, rfl, rfl⟩
    split at hx
    next hmem =>
      obtain ⟨v, hv, rfl⟩ := Option.map_eq_some_iff.mp hx
      exact ⟨key, mid, _, hkey, List.contains_iff_mem.mp hmem, rfl, .intro hv⟩
    · cases hx
  · rintro ⟨key, mid, v, hkey, hmem, rfl, hv⟩
    exact reads_keyed_iff.mp (Record.reads_member_of_mem hkey hmem hv)

theorem members_itemReader : ItemReader (Record.member fields .refuse)
    (some ∘ Prod.map id fieldValue) MemberText '\x7d' where
  reads := by
    rintro cs ⟨key, field⟩ rest
    rw [reads_member_iff]
    constructor
    · rintro ⟨_, mid, _, hkey, hmem, heq, hvalue⟩
      cases heq
      obtain ⟨before, body, gap, rfl, hbefore, hbody, hgap⟩ := reads_key_iff.mp hkey
      obtain ⟨blanks, text, rfl, hblanks, htext⟩ := reads_valueWith_iff.mp hvalue
      exact ⟨before, _, by simp, hbefore, .member hmem hbody hgap hblanks htext⟩
    · rintro ⟨before, _, rfl, hbefore, ⟨hmem, hbody, hgap, hblanks, htext⟩⟩
      refine ⟨key, _, _, ?_, hmem, rfl, reads_valueWith_iff.mpr ⟨_, _, rfl, hblanks, htext⟩⟩
      exact reads_key_iff.mpr ⟨before, _, _, by simp, hbefore, hbody, hgap⟩
  begins := by
    rintro _ _ ⟨⟩
    exact ⟨_, _, rfl, by decide, by decide⟩

theorem fields_itemReader :
    ItemReader (valueWith strict (depthLimit - 1)) fieldValue FieldText ']' where
  reads := reads_valueWith_iff
  begins h := by
    obtain ⟨c, tail, htext, hc, hne⟩ := FieldText.begins h
    exact ⟨c, tail, htext, hc, fun h => hne (by simp [h])⟩

variable {found : List (String × Json)} {endpoint table : Option String}

theorem fileField?_eq_some_iff {name : String} : fileField? found name = some field ↔
    found.lookup name = some (fieldValue field) ∨ found.lookup name = none ∧ field = none := by
  unfold fileField?
  split
  next h => simp [h, eq_comm]
  next h => cases field <;> simp [h, fieldValue]
  next h => cases field <;> simp [h, fieldValue]
  next hnone hnull hstr =>
    cases field <;> simp_all [fieldValue]

theorem lookup_map {α β : Type} (f : α → β) (l : List (String × α)) (name : String) :
    (l.map (Prod.map id f)).lookup name = (l.lookup name).map f := by
  induction l with
  | nil => rfl
  | cons m l ih =>
    rw [List.map_cons, List.lookup_cons, List.lookup_cons, ih]
    simp only [Prod.map, id]
    split <;> rfl

theorem fileField?_map (members : List (String × Option String)) (name : String) :
    fileField? (members.map (Prod.map id fieldValue)) name = some (members.lookup name).join := by
  rw [fileField?_eq_some_iff, lookup_map]
  cases members.lookup name with
  | none => exact .inr ⟨rfl, rfl⟩
  | some field => exact .inl rfl

theorem lookup_of_mem {α : Type} {l : List (String × α)} {name : String} {x : α}
    (honce : (l.map Prod.fst).Nodup) (h : (name, x) ∈ l) : l.lookup name = some x := by
  obtain ⟨before, after, rfl⟩ := List.append_of_mem h
  refine List.lookup_eq_some_iff.mpr ⟨before, after, rfl, fun m hm => ?_⟩
  rw [List.map_append, List.nodup_append] at honce
  exact bne_iff_ne.mpr (honce.2.2 _ (List.mem_map_of_mem hm) _ (by simp)).symm

/-- An object that has an endpoint and a table has a string or null under each of its keys. -/
theorem exists_members (hkeys : ∀ m ∈ found, m.1 ∈ fields) (honce : (found.map Prod.fst).Nodup)
    (hendpoint : fileField? found "endpoint" = some endpoint)
    (htable : fileField? found "table" = some table) :
    ∃ members : List (String × Option String), found = members.map (Prod.map id fieldValue) := by
  -- Each key is one of the two that are looked up, and comes once, so its value is looked at.
  refine ⟨found.map (Prod.map id Json.str?), ?_⟩
  have hsame : ∀ m ∈ found, Prod.map id (fieldValue ∘ Json.str?) m = m := by
    rintro ⟨name, v⟩ hm
    have hv := lookup_of_mem honce hm
    have hfield : ∃ field, fileField? found name = some field := by
      have hname : name = "endpoint" ∨ name = "table" := by simpa [fields] using hkeys _ hm
      obtain rfl | rfl := hname
      · exact ⟨_, hendpoint⟩
      · exact ⟨_, htable⟩
    obtain ⟨field, hfield⟩ := hfield
    obtain hvalue | ⟨hnone, -⟩ := fileField?_eq_some_iff.mp hfield
    · obtain rfl := Option.some.inj (hv.symm.trans hvalue)
      cases field <;> rfl
    · cases hv.symm.trans hnone
  rw [List.map_map]
  exact ((List.map_congr_left hsame).trans (List.map_id found)).symm

/-- An array of two values that are an endpoint and a table. -/
theorem items_eq {items : List Json} (hlength : items.length = fields.length)
    (hendpoint : fileField? (fields.zip items) "endpoint" = some endpoint)
    (htable : fileField? (fields.zip items) "table" = some table) :
    items = [endpoint, table].map fieldValue := by
  obtain ⟨x, y, rfl⟩ := List.length_eq_two.mp hlength
  have hlookup {name : String} {v : Json} {field : Option String}
      (hv : (fields.zip [x, y]).lookup name = some v)
      (hfield : fileField? (fields.zip [x, y]) name = some field) : v = fieldValue field := by
    obtain hvalue | ⟨hnone, -⟩ := fileField?_eq_some_iff.mp hfield
    · exact Option.some.inj (hv.symm.trans hvalue)
    · cases hv.symm.trans hnone
  rw [hlookup rfl hendpoint, hlookup rfl htable]
  rfl

theorem keys_map (members : List (String × Option String)) :
    (members.map (Prod.map id fieldValue)).map Prod.fst = members.map Prod.fst := by
  rw [List.map_map]
  rfl

theorem fileText_of_ofFileText? {s : String} (h : ofFileText? s = some (endpoint, table)) :
    FileText endpoint table s.toList := by
  obtain ⟨found, hfound, h⟩ := Option.bind_eq_some_iff.mp h
  obtain ⟨_, hendpoint, h⟩ := Option.bind_eq_some_iff.mp h
  obtain ⟨_, htable, h⟩ := Option.map_eq_some_iff.mp h
  cases h
  obtain ⟨cs, rest, hrest, ⟨items, hcs, hitems, hlength, rfl⟩ | ⟨ms, hcs, hms, honce, rfl⟩⟩ :=
    Record.parse?_eq_some_iff.mp hfound
  all_goals obtain ⟨before, htext, hbefore, -⟩ := skipSpaces_eq_cons_iff.mp hcs
  · rw [items_eq hlength hendpoint htable] at hitems
    obtain ⟨body, rfl, hbody⟩ :=
      (reads_bracketed_iff fields_itemReader (by decide) (by decide)).mp hitems
    rw [htext]
    exact .array hbefore hbody hrest
  · have hread : ∀ m ∈ ms, ∃ key v, m = some (key, v) ∧ key ∈ fields := by
      intro m hm
      obtain ⟨_, _, hm⟩ := exists_reads_of_mem hms hm
      obtain ⟨key, -, v, -, hkey, hsome, -⟩ := reads_member_iff.mp hm
      exact ⟨key, v, hsome, hkey⟩
    obtain ⟨found, rfl⟩ : ms ∈ Set.range (List.map some) := by
      rw [Set.range_list_map]
      intro m hm
      obtain ⟨key, v, rfl, -⟩ := hread m hm
      exact ⟨_, rfl⟩
    have hkeys : ∀ m ∈ found, m.1 ∈ fields := by
      intro m hm
      obtain ⟨key, v, hsome, hkey⟩ := hread (some m) (List.mem_map_of_mem hm)
      cases hsome
      exact hkey
    simp only [List.filterMap_map, Function.id_comp, List.filterMap_some] at honce hendpoint htable
    obtain ⟨members, rfl⟩ := exists_members hkeys honce hendpoint htable
    rw [fileField?_map, Option.some.injEq] at hendpoint htable
    rw [keys_map] at honce
    rw [List.map_map] at hms
    obtain ⟨body, rfl, hbody⟩ :=
      (reads_bracketed_iff members_itemReader (by decide) (by decide)).mp hms
    rw [htext, ← hendpoint, ← htable]
    exact .object hbefore hbody honce hrest

theorem FileText.ofFileText? {s : String} (h : FileText endpoint table s.toList) :
    Settings.ofFileText? s = some (endpoint, table) := by
  generalize htext : s.toList = text at h
  cases h with
  | @object members before body after hbefore hbody honce hafter =>
    have hcs : skipSpaces s.toList = '\x7b' :: (body ++ '\x7d' :: after) := by
      rw [htext, skipSpaces_append hbefore (by decide)]
    have hms := (reads_bracketed_iff members_itemReader (by decide) (by decide)).mpr
      ⟨body, (rfl : _ = body ++ '\x7d' :: after), hbody⟩
    have hfound : Record.parse? ["endpoint", "table"] .refuse s =
        some (members.map (Prod.map id fieldValue)) := by
      refine Record.parse?_eq_some_iff.mpr ⟨_, after, hafter, .inr ⟨_, hcs, hms, ?_⟩⟩
      rw [← List.map_map, List.filterMap_map, Function.id_comp, List.filterMap_some, keys_map]
      exact ⟨honce, rfl⟩
    simp only [Settings.ofFileText?, hfound, Option.bind_some, fileField?_map, Option.map_some]
  | @array _ _ before body after hbefore hbody hafter =>
    have hcs : skipSpaces s.toList = '[' :: (body ++ ']' :: after) := by
      rw [htext, skipSpaces_append hbefore (by decide)]
    have hitems := (reads_bracketed_iff fields_itemReader (by decide) (by decide)).mpr
      ⟨body, (rfl : _ = body ++ ']' :: after), hbody⟩
    have hfound : Record.parse? ["endpoint", "table"] .refuse s =
        some ([("endpoint", endpoint), ("table", table)].map (Prod.map id fieldValue)) :=
      Record.parse?_eq_some_iff.mpr ⟨_, after, hafter, .inl ⟨_, hcs, hitems, rfl, rfl⟩⟩
    simp only [Settings.ofFileText?, hfound, Option.bind_some, fileField?_map, Option.map_some]
    rfl

/-- The text of a settings file gives an endpoint and a table just if it is written as the two. -/
theorem ofFileText?_eq_some_iff {s : String} :
    ofFileText? s = some (endpoint, table) ↔ FileText endpoint table s.toList :=
  ⟨fileText_of_ofFileText?, FileText.ofFileText?⟩

end RemoteNotebook.Settings
