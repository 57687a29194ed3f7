import RemoteNotebook.Note
import RemoteNotebook.Proofs.IntegerTexts
import RemoteNotebook.Proofs.LineParts

/-! Rows that are notes. The first cell of a row decides whether it is one: an id is a number in the
range of ids, or a string with one of the texts of such a number between blanks. -/
namespace RemoteNotebook

namespace Decimal

inductive SignOf (i : Int) : List Char → Prop
  | none (h : 0 ≤ i) : SignOf i []
  | plus (h : 0 ≤ i) : SignOf i ['+']
  | minus (h : i ≤ 0) : SignOf i ['-']

variable {i : Int} {sign cs : List Char}

theorem DigitsOf.leadingZeros {n : Nat} {ds : List Char} (h : DigitsOf n ds) (zeros : Nat) :
    DigitsOf n (List.replicate zeros '0' ++ ds) := by
  refine ⟨List.append_ne_nil_of_right_ne_nil _ h.ne_nil, ?_, ?_⟩
  · intro d hd
    obtain hd | hd := List.mem_append.mp hd
    · rw [List.eq_of_mem_replicate hd]
      rfl
    · exact h.digits d hd
  · have hvalue : Decimal.value (List.replicate zeros '0' ++ ds) = Decimal.value ds := by
      induction zeros with
      | zero => rfl
      | succ zeros ih => exact ih
    rw [← value_eq_ofDigits, hvalue, value_eq_ofDigits]
    exact h.value

theorem digitsOf_natDigits (n : Nat) : DigitsOf n (natDigits n) :=
  nat?_eq_some_iff.mp (nat?_natDigits n)

/-- The decimal text of a number, with a sign and any number of zeros before it. -/
theorem textOf_of_signOf (h : SignOf i sign) (zeros : Nat) :
    TextOf i (sign ++ (List.replicate zeros '0' ++ natDigits i.natAbs)) := by
  have hdigits := (digitsOf_natDigits i.natAbs).leadingZeros zeros
  cases h with
  | none h =>
    have htext := TextOf.plain hdigits
    rwa [Int.natAbs_of_nonneg h] at htext
  | plus h =>
    have htext := TextOf.plus hdigits
    rwa [Int.natAbs_of_nonneg h] at htext
  | minus h =>
    have htext := TextOf.minus hdigits
    rwa [Int.ofNat_natAbs_of_nonpos h, Int.neg_neg] at htext

theorem TextOf.trimmed (h : TextOf i cs) : Text.Trimmed cs := by
  have hsolid {ds : List Char} {n : Nat} (h : DigitsOf n ds) : Text.Solid ds :=
    fun d hd => isBlank_of_isDigit (h.digits d hd)
  refine Text.trimmed_of_solid ?_
  cases h with
  | plain h => exact hsolid h
  | plus h | minus h => exact List.forall_mem_cons.mpr ⟨by decide, hsolid h⟩

end Decimal

namespace Note

open Decimal (SignOf TextOf)
open Text (Blanks TrimsTo)

/-- The cells that hold an id. -/
inductive HoldsId (id : Int64) : Json → Prop
  | number : HoldsId id (.int id.toInt)
  | text {s : String} {core : List Char} (hs : TrimsTo s.toList core)
    (hcore : TextOf id.toInt core) : HoldsId id (.str s)

/-- Cells that are no integer of 64 bits with a sign, and no string that could name one. -/
inductive NeverId : Json → Prop
  | tooLow {i : Int} (h : i < Int64.minValue.toInt) : NeverId (.int i)
  | tooHigh {i : Int} (h : Int64.maxValue.toInt < i) : NeverId (.int i)
  | double (x : Decimal.Binary64) : NeverId (.double x)
  | bool (b : Bool) : NeverId (.bool b)
  | null : NeverId .null
  | arr (items : List Json) : NeverId (.arr items)
  | obj (members : List (String × Json)) : NeverId (.obj members)

variable {id : Int64} {cell : Json}

theorem cellId?_eq_some_iff : cellId? cell = some id ↔ HoldsId id cell := by
  constructor
  · intro h
    cases cell with
    | int i =>
      obtain rfl := Decimal.toInt64?_eq_some_iff.mp h
      exact .number
    | str s =>
      exact .text (Text.trimsTo_trimBlanks s.toList) (Decimal.int64?_eq_some_iff.mp h)
    | null | bool _ | double _ | arr _ | obj _ => cases h
  · rintro (_ | ⟨hs, hcore⟩)
    · exact Decimal.toInt64?_toInt id
    · rw [cellId?, hs.trimBlanks_eq]
      exact Decimal.int64?_eq_some_iff.mpr hcore

theorem HoldsId.not_never (h : HoldsId id cell) : ¬NeverId cell := by
  intro hnever
  cases h with
  | number =>
    cases hnever with
    | tooLow h => exact absurd id.minValue_le_toInt (not_le_of_gt h)
    | tooHigh h => exact absurd id.toInt_le (not_le_of_gt h)
  | text => cases hnever

/-- A row is read as a note by its first three cells, if there is an id in the first. -/
theorem ofRow?_eq_some_iff {row : List Json} {note : Note} :
    ofRow? row = some note ↔ ∃ cell title content more,
      row = cell :: title :: content :: more ∧ HoldsId note.id cell ∧
        note.title = cellText title ∧ note.content = cellText content := by
  constructor
  · intro h
    match row, h with
    | cell :: title :: content :: more, h =>
      obtain ⟨id, hid, rfl⟩ := Option.map_eq_some_iff.mp h
      exact ⟨cell, title, content, more, rfl, cellId?_eq_some_iff.mp hid, rfl, rfl⟩
  · rintro ⟨cell, title, content, more, rfl, hid, htitle, hcontent⟩
    rw [ofRow?, cellId?_eq_some_iff.mpr hid, Option.map_some, ← htitle, ← hcontent]

theorem ofRow?_of_holdsId (h : HoldsId id cell) (title content : Json) (more : List Json) :
    ofRow? (cell :: title :: content :: more) =
      some ⟨id, cellText title, cellText content⟩ :=
  ofRow?_eq_some_iff.mpr ⟨cell, title, content, more, rfl, h, rfl, rfl⟩

/-- A string holds the number whose decimal text is in it, between blanks and behind a sign and
zeros. -/
theorem holdsId_padded {before after sign : List Char} (hbefore : Blanks before)
    (hafter : Blanks after) (hsign : SignOf id.toInt sign) (zeros : Nat) :
    HoldsId id (.str (String.ofList (before ++
      (sign ++ (List.replicate zeros '0' ++ Decimal.natDigits id.toInt.natAbs)) ++ after))) := by
  have htext := Decimal.textOf_of_signOf hsign zeros
  refine .text ⟨before, after, ?_, hbefore, hafter, htext.trimmed⟩ htext
  rw [String.toList_ofList]

/-- A row is a note just if it has three cells and an id in the first of them, and the note has this
id; whatever the other two cells are, they are texts, and what is behind them does not matter. So no
other kind of value is an id, nor a number out of range; and each id is read from its decimal text,
with blanks around it, zeros before it and a sign where one can stand. -/
theorem ofRow?_accepts :
    (∀ row : List Json,
      (∀ note, ofRow? row = some note ↔ ∃ cell title content more,
        row = cell :: title :: content :: more ∧ HoldsId note.id cell ∧
          note.title = cellText title ∧ note.content = cellText content) ∧
      ((∃ note, ofRow? row = some note) ↔
        3 ≤ row.length ∧ ∃ id, ∃ cell ∈ row.head?, HoldsId id cell) ∧
      (∀ cell ∈ row.head?, NeverId cell → ofRow? row = none) ∧
      ofRow? row = ofRow? (row.take 3)) ∧
    ∀ (id : Int64) (before after sign : List Char) (zeros : Nat) (title content : Json)
      (more : List Json), Blanks before → Blanks after → SignOf id.toInt sign →
      let digits := List.replicate zeros '0' ++ Decimal.natDigits id.toInt.natAbs
      ofRow? (.str (String.ofList (before ++ (sign ++ digits) ++ after)) ::
        title :: content :: more) = some ⟨id, cellText title, cellText content⟩ := by
  refine ⟨fun row => ⟨fun note => ofRow?_eq_some_iff, ⟨?_, ?_⟩, ?_, ?_⟩, ?_⟩
  · rintro ⟨note, h⟩
    obtain ⟨cell, title, content, more, rfl, hid, -⟩ := ofRow?_eq_some_iff.mp h
    exact ⟨by simp, note.id, cell, rfl, hid⟩
  · rintro ⟨hlength, id, cell, hcell, hid⟩
    match row, hlength, hcell with
    | cell :: title :: content :: more, _, rfl =>
      exact ⟨_, ofRow?_of_holdsId hid title content more⟩
  · intro cell hcell hnever
    refine Option.eq_none_iff_forall_ne_some.mpr fun note h => ?_
    obtain ⟨first, title, content, more, rfl, hid, -⟩ := ofRow?_eq_some_iff.mp h
    obtain rfl : first = cell := Option.some.inj hcell
    exact hid.not_never hnever
  · match row with
    | [] | [_] | [_, _] => rfl
    | _ :: _ :: _ :: _ => rfl
  · intro id before after sign zeros title content more hbefore hafter hsign
    exact ofRow?_of_holdsId (holdsId_padded hbefore hafter hsign zeros) title content more

/-- The least id behind two zeros and between wide blanks, with cells of any kind after it. The next
number below it is no id, nor is the greatest unsigned one. -/
theorem ofRow?_accepts_least :
    let row : List Json := [.str "\u3000-009223372036854775808\n", .arr [.null], .null, .bool true]
    Blanks ['\u3000'] ∧ Blanks ['\n'] ∧ SignOf Int64.minValue.toInt ['-'] ∧
      ofRow? row = some ⟨Int64.minValue, "[null]", ""⟩ ∧
      NeverId (.int (-9223372036854775809)) ∧
      ofRow? [.int (-9223372036854775809), .null, .null] = none ∧
      NeverId (.int 18446744073709551615) ∧
      ofRow? [.int 18446744073709551615, .null, .null] = none := by
  intro row
  have hbefore : Blanks ['\u3000'] := by decide
  have hafter : Blanks ['\n'] := by decide
  have hsign : SignOf Int64.minValue.toInt ['-'] := .minus (by decide)
  have hlow : NeverId (.int (-9223372036854775809)) := .tooLow (by decide)
  have hhigh : NeverId (.int 18446744073709551615) := .tooHigh (by decide)
  have hdigits : Decimal.natDigits Int64.minValue.toInt.natAbs = "9223372036854775808".toList := by
    decide +kernel
  have hread := ofRow?_accepts.2 Int64.minValue _ _ _ 2 (.arr [.null]) .null [.bool true] hbefore
    hafter hsign
  have hnever {cell : Json} (h : NeverId cell) : ofRow? [cell, .null, .null] = none :=
    (ofRow?_accepts.1 [cell, .null, .null]).2.2.1 cell rfl h
  refine ⟨hbefore, hafter, hsign, ?_, hlow, hnever hlow, hhigh, hnever hhigh⟩
  rw [hdigits] at hread
  exact hread

end Note
end RemoteNotebook
