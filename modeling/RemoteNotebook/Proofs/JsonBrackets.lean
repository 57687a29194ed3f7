import RemoteNotebook.Proofs.JsonStrings
import RemoteNotebook.Proofs.LineParts

/-! Items between brackets in JSON texts: one after the other, with commas between them and blanks
around each. What is read of items that have texts of their own is just such a text. -/
namespace RemoteNotebook.Json

def Spaces (cs : List Char) : Prop := ∀ c ∈ cs, isSpace c = true

variable {α β : Type}

/-- One or more items, up to the bracket that closes them. -/
inductive ItemsText (Item : β → List Char → Prop) : List β → List Char → Prop
  | one {x : β} {before text after : List Char} (hbefore : Spaces before) (h : Item x text)
    (hafter : Spaces after) : ItemsText Item [x] (before ++ (text ++ after))
  | more {x : β} {xs : List β} {before text after body : List Char} (hbefore : Spaces before)
    (h : Item x text) (hafter : Spaces after) (hxs : ItemsText Item xs body) :
    ItemsText Item (x :: xs) (before ++ (text ++ (after ++ ',' :: body)))

inductive ListText (Item : β → List Char → Prop) : List β → List Char → Prop
  | empty {blanks : List Char} (h : Spaces blanks) : ListText Item [] blanks
  | items {xs : List β} {body : List Char} (h : ItemsText Item xs body) : ListText Item xs body

/-- An item is read, behind blanks, just where one of its texts stands; and the text begins with
something other than the bracket that closes the items. -/
structure ItemReader (item : Reader α) (view : β → α) (Item : β → List Char → Prop)
    (close : Char) : Prop where
  reads {cs : List Char} {x : β} {rest : List Char} : Reads item cs (view x) rest ↔
    ∃ before text, cs = before ++ (text ++ rest) ∧ Spaces before ∧ Item x text
  begins {x : β} {text : List Char} (h : Item x text) :
    ∃ c tail, text = c :: tail ∧ isSpace c = false ∧ c ≠ close

variable {cs rest before : List Char} {c close : Char}

theorem skipSpaces_append (h : Spaces before) (hc : isSpace c = false) :
    skipSpaces (before ++ c :: rest) = c :: rest := by
  rw [skipSpaces, List.dropWhile_append_of_pos h, List.dropWhile_cons_of_neg (by simp [hc])]

/-- Where the blanks in front of a text end, something else stands. -/
theorem skipSpaces_eq_cons_iff :
    skipSpaces cs = c :: rest ↔
      ∃ before, cs = before ++ c :: rest ∧ Spaces before ∧ isSpace c = false := by
  constructor
  · intro h
    refine ⟨cs.takeWhile isSpace, ?_, fun c hc => List.mem_takeWhile_imp hc, ?_⟩
    · rw [← h]
      exact List.takeWhile_append_dropWhile.symm
    · have hhead : c ∈ (cs.dropWhile isSpace).head? := by
        rw [← skipSpaces, h]
        rfl
      exact Text.of_mem_head?_dropWhile hhead
  · rintro ⟨before, rfl, hbefore, hc⟩
    exact skipSpaces_append hbefore hc

theorem isEmpty_skipSpaces_iff : (skipSpaces cs).isEmpty = true ↔ Spaces cs := by
  rw [List.isEmpty_iff, skipSpaces, List.dropWhile_eq_nil_iff]
  rfl

theorem reads_next_iff : Reads next cs c rest ↔
    ∃ before, cs = before ++ c :: rest ∧ Spaces before ∧ isSpace c = false := by
  rw [← skipSpaces_eq_cons_iff]
  constructor
  · rintro ⟨x, hx, rfl, rfl⟩
    unfold next at hx
    split at hx
    · cases hx
    next h =>
      cases hx
      exact h
  · intro h
    have hshorter := length_skipSpaces_le cs
    rw [h] at hshorter
    refine ⟨⟨c, rest, hshorter⟩, ?_, rfl, rfl⟩
    unfold next
    split
    next hnil => cases hnil.symm.trans h
    next hcons =>
      cases hcons.symm.trans h
      rfl

/-- What the reader of items does: it reads one, and then the bracket or a comma and the others. -/
theorem reads_itemsUntil_cons_iff {item : Reader α} {xs : List α} :
    Reads (itemsUntil item close) cs xs rest ↔
      ∃ x mid sep tail, Reads item cs x mid ∧ Reads next mid sep tail ∧
        (sep = close ∧ xs = [x] ∧ rest = tail ∨
          (sep ≠ close ∧ sep = ',') ∧
            ∃ ys, Reads (itemsUntil item close) tail ys rest ∧ xs = x :: ys) := by
  constructor
  · rintro ⟨y, hy, rfl, rfl⟩
    rw [itemsUntil] at hy
    split at hy
    · cases hy
    next x hx =>
      split at hy
      · cases hy
      next sep hsep =>
        refine ⟨_, _, _, _, .intro hx, .intro hsep, ?_⟩
        split at hy
        next hclose =>
          cases hy
          exact .inl ⟨hclose, rfl, rfl⟩
        next hclose =>
          split at hy
          next hcomma =>
            split at hy
            · cases hy
            next xs hxs =>
              cases hy
              exact .inr ⟨⟨hclose, hcomma⟩, _, .intro hxs, rfl⟩
          · cases hy
  · rintro ⟨_, _, _, _, ⟨x, hx, rfl, rfl⟩, ⟨sep, hsep, rfl, rfl⟩, h⟩
    obtain ⟨hclose, rfl, rfl⟩ | ⟨⟨hclose, hcomma⟩, _, ⟨ys, hys, rfl, rfl⟩, rfl⟩ := h
    · refine ⟨⟨[x.value], sep.rest, sep.shorter.trans x.shorter⟩, ?_, rfl, rfl⟩
      rw [itemsUntil]
      simp only [hx, hsep, hclose, if_true]
    · refine ⟨⟨x.value :: ys.value, ys.rest,
        ys.shorter.trans (sep.shorter.trans x.shorter)⟩, ?_, rfl, rfl⟩
      rw [itemsUntil]
      simp only [hx, hsep, if_neg hclose, if_pos hcomma, hys]

variable {item : Reader α} {view : β → α} {Item : β → List Char → Prop} {xs : List β}

theorem itemsText_of_reads (hitem : ItemReader item view Item close)
    (h : Reads (itemsUntil item close) cs (xs.map view) rest) :
    ∃ body, cs = body ++ close :: rest ∧ ItemsText Item xs body := by
  induction xs generalizing cs with
  | nil =>
    obtain ⟨x, mid, sep, tail, -, -, ⟨-, hxs, -⟩ | ⟨-, ys, -, hxs⟩⟩ :=
      reads_itemsUntil_cons_iff.mp h
    all_goals cases hxs
  | cons x xs ih =>
    obtain ⟨y, mid, sep, tail, hy, hsep, hrest⟩ := reads_itemsUntil_cons_iff.mp h
    obtain ⟨after, rfl, hafter, -⟩ := reads_next_iff.mp hsep
    obtain ⟨rfl, hxs, rfl⟩ | ⟨⟨-, rfl⟩, ys, hys, hxs⟩ := hrest
    · obtain ⟨rfl, hnil⟩ := List.cons_eq_cons.mp hxs
      obtain rfl := List.map_eq_nil_iff.mp hnil
      obtain ⟨before, text, rfl, hbefore, htext⟩ := hitem.reads.mp hy
      exact ⟨_, by simp, .one hbefore htext hafter⟩
    · obtain ⟨rfl, rfl⟩ := List.cons_eq_cons.mp hxs
      obtain ⟨before, text, rfl, hbefore, htext⟩ := hitem.reads.mp hy
      obtain ⟨body, rfl, hbody⟩ := ih hys
      exact ⟨_, by simp, .more hbefore htext hafter hbody⟩

theorem ItemsText.reads (hitem : ItemReader item view Item close) (hspace : isSpace close = false)
    (hcomma : close ≠ ',') {body : List Char} (h : ItemsText Item xs body) :
    Reads (itemsUntil item close) (body ++ close :: rest) (xs.map view) rest := by
  induction h with
  | @one x before text after hbefore h hafter =>
    have hx : Reads item _ (view x) (after ++ close :: rest) :=
      hitem.reads.mpr ⟨before, text, rfl, hbefore, h⟩
    have hclose := reads_next_iff.mpr ⟨after, (rfl : _ = after ++ close :: rest), hafter, hspace⟩
    rw [List.append_assoc, List.append_assoc]
    exact reads_itemsUntil_cons_iff.mpr ⟨_, _, _, _, hx, hclose, .inl ⟨rfl, rfl, rfl⟩⟩
  | @more x xs before text after body hbefore h hafter _ ih =>
    have hx : Reads item _ (view x) (after ++ ',' :: (body ++ close :: rest)) :=
      hitem.reads.mpr ⟨before, text, rfl, hbefore, h⟩
    have hnext := reads_next_iff.mpr
      ⟨after, (rfl : _ = after ++ ',' :: (body ++ close :: rest)), hafter, by decide⟩
    simp only [List.append_assoc, List.cons_append]
    exact reads_itemsUntil_cons_iff.mpr
      ⟨_, _, _, _, hx, hnext, .inr ⟨⟨hcomma.symm, rfl⟩, _, ih, rfl⟩⟩

/-- What the reader of lists does: the bracket follows, or something else and then the items. -/
theorem reads_bracketed_cons_iff {item : Reader α} {xs : List α} :
    Reads (bracketed item close) cs xs rest ↔
      ∃ c tail, Reads next cs c tail ∧ (c = close ∧ xs = [] ∧ rest = tail ∨
        c ≠ close ∧ Reads (itemsUntil item close) cs xs rest) := by
  constructor
  · rintro ⟨x, hx, rfl, rfl⟩
    unfold bracketed at hx
    split at hx
    · cases hx
    next c hc =>
      refine ⟨_, _, .intro hc, ?_⟩
      split at hx
      next hclose =>
        cases hx
        exact .inl ⟨hclose, rfl, rfl⟩
      next hclose => exact .inr ⟨hclose, .intro hx⟩
  · rintro ⟨_, _, ⟨c, hc, rfl, rfl⟩, ⟨hclose, rfl, rfl⟩ | ⟨hclose, x, hx, rfl, rfl⟩⟩
    · exact ⟨⟨[], c.rest, c.shorter⟩, by simp only [bracketed, hc, if_pos hclose], rfl, rfl⟩
    · exact ⟨x, by simp only [bracketed, hc, if_neg hclose, hx], rfl, rfl⟩

theorem ItemsText.begins (hitem : ItemReader item view Item close) {body : List Char}
    (h : ItemsText Item xs body) :
    ∃ before c tail, body = before ++ c :: tail ∧ Spaces before ∧ isSpace c = false ∧
      c ≠ close := by
  cases h with
  | one hbefore h _ =>
    obtain ⟨c, tail, rfl, hc⟩ := hitem.begins h
    exact ⟨_, c, _, rfl, hbefore, hc⟩
  | more hbefore h _ _ =>
    obtain ⟨c, tail, rfl, hc⟩ := hitem.begins h
    exact ⟨_, c, _, rfl, hbefore, hc⟩

/-- A list is read just from a text of it, up to the closing bracket. -/
theorem reads_bracketed_iff (hitem : ItemReader item view Item close)
    (hspace : isSpace close = false) (hcomma : close ≠ ',') :
    Reads (bracketed item close) cs (xs.map view) rest ↔
      ∃ body, cs = body ++ close :: rest ∧ ListText Item xs body := by
  constructor
  · intro h
    obtain ⟨c, tail, hc, ⟨rfl, hxs, rfl⟩ | ⟨-, hitems⟩⟩ := reads_bracketed_cons_iff.mp h
    · obtain rfl := List.map_eq_nil_iff.mp hxs
      obtain ⟨blanks, rfl, hblanks, -⟩ := reads_next_iff.mp hc
      exact ⟨blanks, rfl, .empty hblanks⟩
    · obtain ⟨body, rfl, hbody⟩ := itemsText_of_reads hitem hitems
      exact ⟨body, rfl, .items hbody⟩
  · rintro ⟨body, rfl, hblanks | hbody⟩
    · have hclose := reads_next_iff.mpr ⟨body, (rfl : _ = body ++ close :: rest), hblanks, hspace⟩
      exact reads_bracketed_cons_iff.mpr ⟨_, _, hclose, .inl ⟨rfl, rfl, rfl⟩⟩
    · have hitems : Reads (itemsUntil item close) (body ++ close :: rest) (xs.map view) rest :=
        hbody.reads hitem hspace hcomma
      obtain ⟨before, c, tail, rfl, hbefore, hc, hne⟩ := hbody.begins hitem
      have hnext : Reads next (before ++ c :: tail ++ close :: rest) c (tail ++ close :: rest) :=
        reads_next_iff.mpr ⟨before, by simp, hbefore, hc⟩
      exact reads_bracketed_cons_iff.mpr ⟨_, _, hnext, .inr ⟨hne, hitems⟩⟩

theorem exists_reads_of_mem {xs : List α} {x : α} (h : Reads (bracketed item close) cs xs rest)
    (hx : x ∈ xs) : ∃ cs rest, Reads item cs x rest := by
  obtain ⟨c, tail, -, ⟨-, rfl, -⟩ | ⟨-, hitems⟩⟩ := reads_bracketed_cons_iff.mp h
  · cases hx
  clear h
  induction xs generalizing cs with
  | nil => cases hx
  | cons y ys ih =>
    obtain ⟨y', mid, sep, tail, hy, -, hrest⟩ := reads_itemsUntil_cons_iff.mp hitems
    obtain ⟨-, hxs, -⟩ | ⟨-, ys', hys, hxs⟩ := hrest
    · obtain ⟨rfl, rfl⟩ := List.cons_eq_cons.mp hxs
      obtain rfl := List.mem_singleton.mp hx
      exact ⟨_, _, hy⟩
    · obtain ⟨rfl, rfl⟩ := List.cons_eq_cons.mp hxs
      obtain rfl | hx := List.mem_cons.mp hx
      · exact ⟨_, _, hy⟩
      · exact ih hx hys

variable {leaves : Leaves} {k : String}

theorem reads_key_cons_iff : Reads (key leaves) cs k rest ↔
    ∃ mid after, Reads next cs '"' mid ∧ Reads leaves.text mid k.toList after ∧
      Reads next after ':' rest := by
  constructor
  · rintro ⟨x, hx, rfl, rfl⟩
    unfold key at hx
    split at hx
    · cases hx
    next q hq =>
      split at hx
      next hquote =>
        split at hx
        · cases hx
        next t ht =>
          split at hx
          · cases hx
          next colon hcolon =>
            split at hx
            next hvalue =>
              cases hx
              exact ⟨_, _, ⟨q, hq, hquote, rfl⟩, ⟨t, ht, String.toList_ofList.symm, rfl⟩,
                ⟨colon, hcolon, hvalue, rfl⟩⟩
            · cases hx
      · cases hx
  · rintro ⟨_, _, ⟨q, hq, hquote, rfl⟩, ⟨t, ht, hvalue, rfl⟩, ⟨colon, hcolon, hsep, rfl⟩⟩
    refine ⟨⟨String.ofList t.value, colon.rest,
      colon.shorter.trans (t.shorter.trans q.shorter)⟩, ?_, ?_, rfl⟩
    · simp only [key, hq, ht, hcolon, if_pos hquote, if_pos hsep]
    · exact String.toList_inj.mp (String.toList_ofList.trans hvalue)

/-- A key is read just from a text of it and the colon behind it, with blanks around. -/
theorem reads_key_iff : Reads (key strict) cs k rest ↔
    ∃ before body gap, cs = before ++ '"' :: (body ++ '"' :: (gap ++ ':' :: rest)) ∧
      Spaces before ∧ StringText k.toList body ∧ Spaces gap := by
  rw [reads_key_cons_iff]
  constructor
  · rintro ⟨mid, after, hquote, htext, hcolon⟩
    obtain ⟨before, rfl, hbefore, -⟩ := reads_next_iff.mp hquote
    obtain ⟨body, rfl, hbody⟩ := reads_string_iff.mp htext
    obtain ⟨gap, rfl, hgap, -⟩ := reads_next_iff.mp hcolon
    exact ⟨before, body, gap, rfl, hbefore, hbody, hgap⟩
  · rintro ⟨before, body, gap, rfl, hbefore, hbody, hgap⟩
    exact ⟨_, _, reads_next_iff.mpr ⟨before, rfl, hbefore, by decide⟩, hbody.reads _,
      reads_next_iff.mpr ⟨gap, rfl, hgap, by decide⟩⟩

theorem reads_keyed_iff {item : String → Reader α} {x : α} :
    Reads (keyed leaves item) cs x rest ↔
      ∃ k mid, Reads (key leaves) cs k mid ∧ Reads (item k) mid x rest := by
  constructor
  · rintro ⟨y, hy, rfl, rfl⟩
    unfold keyed at hy
    split at hy
    · cases hy
    next k hk =>
      obtain ⟨z, hz, rfl⟩ := Option.map_eq_some_iff.mp hy
      exact ⟨_, _, .intro hk, .intro hz⟩
  · rintro ⟨_, _, ⟨k, hk, rfl, rfl⟩, ⟨z, hz, hvalue, hrest⟩⟩
    exact ⟨z.widen (Nat.le_of_lt k.shorter), by simp only [keyed, hk, hz, Option.map_some],
      hvalue, hrest⟩

end RemoteNotebook.Json
