import RemoteNotebook.Proofs.JsonObjects
import RemoteNotebook.Proofs.Numerals
import RemoteNotebook.Proofs.ReportedErrors

/-! Replies that are written down and read again. Each field is written under the key that it is
read from, and as a value that its own rule keeps; only an error without a text would be lost, and
no reply that was read has one. -/
namespace RemoteNotebook

namespace Decimal

theorem layOut_ne_nil (range : PlainRange) (digits : List Char) (exponent : Int) :
    layOut range digits exponent ≠ [] := by
  unfold layOut
  simp only
  split
  · split
    · simp
    · split <;> simp
  · simp

theorem binary64_ne_empty (range : PlainRange) (x : Binary64) : binary64 range x ≠ "" := by
  intro h
  have hchars := congrArg String.toList h
  unfold binary64 at hchars
  simp only at hchars
  split at hchars
  next => simp at hchars
  next => simp [layOut_ne_nil] at hchars

end Decimal

namespace Json

theorem chars_ne_nil (v : Json) : v.chars ≠ [] := by
  cases v with
  | null => rw [chars]; exact List.cons_ne_nil _ _
  | bool b => cases b <;> rw [chars] <;> exact List.cons_ne_nil _ _
  | int i =>
    rw [chars]
    exact Decimal.intChars_ne_nil i
  | double x =>
    rw [chars]
    simpa [String.toList_eq_nil_iff] using Decimal.binary64_ne_empty doubleRange x
  | str s => rw [chars]; exact List.cons_ne_nil _ _
  | arr items => rw [chars]; exact List.cons_ne_nil _ _
  | obj members => rw [chars]; exact List.cons_ne_nil _ _

theorem lookup_optional {α : Type} (o : Option α) (name : String) (f : α → Json) (key : String) :
    (o.map fun a => (name, f a)).toList.reverse.lookup key =
      if key = name then o.map f else none := by
  cases o with
  | none => simp
  | some a =>
    simp only [Option.map_some, Option.toList_some, List.reverse_singleton]
    exact lookup_cons_if (name, f a) [] key

end Json

namespace Reply

open Json (get?_ofMembers lookup_optional)

def written (r : Reply) (key : String) : Option Json :=
  match key with
  | "rows" => r.rows.map fun rows => .arr (rows.map .arr)
  | "error_message" => r.error.map .str
  | "columns" => r.columns.map fun columns => .arr (columns.map .str)
  | "rowCount" => r.rowCount.map fun n => .int n.toNat
  | "message" => r.message.map .str
  | _ => none

theorem get?_toJson (r : Reply) (key : String) : r.toJson.get? key = r.written key := by
  rw [toJson, get?_ofMembers, members]
  simp only [List.reverse_append, List.lookup_append, lookup_optional]
  fun_cases written r key with
  | case6 => simp_all
  | _ => simp

/-- Each field is read back as it was written, but an empty error is none. -/
theorem ofJson_toJson (r : Reply) :
    ofJson r.toJson = { r with error := r.error.filter (· ≠ "") } := by
  have hrows : ((r.written "rows").bind Json.arr?).map (·.map rowOf) = r.rows := by
    cases hset : r.rows <;> simp [written, hset, Json.arr?, Function.comp_def, rowOf]
  have herror : ((r.written "error_message").bind errorText?).or
      ((r.written "error").bind errorText?) = r.error.filter (· ≠ "") := by
    cases hset : r.error <;> simp [written, hset, errorText?, Option.filter]
  have hcolumns : ((r.written "columns").bind Json.arr?).map (·.filterMap Json.str?) =
      r.columns := by
    cases hset : r.columns <;> simp [written, hset, Json.arr?, Function.comp_def, Json.str?]
  have hcount : (r.written "rowCount").bind Json.uint64? = r.rowCount := by
    cases hset : r.rowCount <;> simp [written, hset, Json.uint64?, UInt64.toNat_lt_size]
  have hmessage : (r.written "message").bind Json.str? = r.message := by
    cases hset : r.message <;> simp [written, hset, Json.str?]
  simp only [ofJson, get?_toJson, hrows, herror, hcolumns, hcount, hmessage]

/-- What is read of a reply that was written down is the reply, unless it has an empty error. -/
theorem ofJson_toJson_eq_iff {r : Reply} : ofJson r.toJson = r ↔ r.error ≠ some "" := by
  obtain ⟨rows, error, columns, rowCount, message⟩ := r
  cases error <;> simp [ofJson_toJson, Option.filter]

theorem errorText?_ne (v : Json) : errorText? v ≠ some "" := by
  intro h
  obtain ⟨⟨-, -, hempty⟩, hmessage⟩ := errorText?_eq_some_iff.mp h
  cases v with
  | str s => exact hempty (congrArg Json.str hmessage)
  | _ => exact Json.chars_ne_nil _ (String.ofList_eq_empty_iff.mp hmessage)

theorem error_ofJson_ne (v : Json) : (ofJson v).error ≠ some "" := by
  intro h
  obtain hnamed | ⟨-, hplain⟩ := Option.or_eq_some_iff.mp h
  · obtain ⟨w, -, hw⟩ := Option.bind_eq_some_iff.mp hnamed
    exact errorText?_ne w hw
  · obtain ⟨w, -, hw⟩ := Option.bind_eq_some_iff.mp hplain
    exact errorText?_ne w hw

/-- Whatever value a reply is read from, it is written as an object with a member for each field
that is set, and it is read from that object as it was. All replies but those with an empty error
are read back so, and there are no others among those that are read. -/
theorem ofJson_stable (v : Json) :
    let r := ofJson v
    ofJson r.toJson = r ∧ (∃ members, r.toJson = .obj members) ∧
      (∀ key, r.toJson.get? key = r.written key) ∧
      ∀ r' : Reply, (ofJson r'.toJson = r' ↔ r'.error ≠ some "") ∧
        ((∃ v', ofJson v' = r') ↔ r'.error ≠ some "") := by
  intro r
  refine ⟨ofJson_toJson_eq_iff.mpr (error_ofJson_ne v), ⟨_, rfl⟩, get?_toJson r, fun r' => ?_⟩
  refine ⟨ofJson_toJson_eq_iff, ?_, fun h => ⟨r'.toJson, ofJson_toJson_eq_iff.mpr h⟩⟩
  rintro ⟨v', rfl⟩
  exact error_ofJson_ne v'

end Reply
end RemoteNotebook
