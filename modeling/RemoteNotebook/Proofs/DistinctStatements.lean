import Mathlib.Data.List.Basic
import RemoteNotebook.Proofs.StatementText

/-! Statements and their texts are one to one. A text tells the kind by its first letter, the table
by the first character that no name has, and the note by the literals that a scan finds. -/
namespace RemoteNotebook.Sql
open Literal

/-- A name ends in front of the first character that is of no name. -/
theorem takeWhile_name {cs : List Char} (h : isTableName cs = true) {c : Char}
    (hc : isNameChar c = false) (rest : List Char) :
    (cs ++ c :: rest).takeWhile isNameChar = cs := by
  rw [List.takeWhile_append_of_pos fun _ => isNameChar_of_mem h,
    List.takeWhile_cons_of_neg (by simp [hc]), List.append_nil]

namespace Statement

def table : Statement → String
  | createTable table | insert table _ | select table | delete table _ => table

def lead : Statement → String
  | createTable _ => "CREATE TABLE "
  | insert _ _ => "INSERT INTO "
  | select _ => "SELECT * FROM "
  | delete _ _ => "DELETE FROM "

def trail : Statement → String
  | createTable _ => " (id INT PRIMARY, title STRING(64), content STRING(255));"
  | insert _ note =>
    " VALUES (" ++ Decimal.int note.id.toInt ++ ", " ++ quote note.title ++ ", " ++
      quote note.content ++ ");"
  | select _ => ";"
  | delete _ id => " WHERE id = " ++ Decimal.int id.toInt ++ ";"

theorem text_eq (s : Statement) : s.text = s.lead ++ s.table ++ s.trail := by
  cases s with
  | createTable _ => rfl
  | select _ => rfl
  | insert _ _ => simp only [text_insert, insertHead, lead, table, trail, String.append_assoc]
  | delete table id =>
    have htext : (delete table id).text =
        "DELETE FROM " ++ table ++ " WHERE id = " ++ Decimal.int id.toInt ++ ";" := rfl
    simp only [htext, lead, Statement.table, trail, String.append_assoc]

theorem toList_text (s : Statement) :
    s.text.toList = s.lead.toList ++ (s.table.toList ++ s.trail.toList) := by
  rw [text_eq, String.toList_append, String.toList_append, List.append_assoc]

theorem exists_trail_eq (s : Statement) :
    ∃ c rest, s.trail.toList = c :: rest ∧ isNameChar c = false := by
  have hcolumns : " (id INT PRIMARY, title STRING(64), content STRING(255));".toList =
      ' ' :: "(id INT PRIMARY, title STRING(64), content STRING(255));".toList := by decide
  have hvalues : " VALUES (".toList = ' ' :: "VALUES (".toList := by decide
  have hwhere : " WHERE id = ".toList = ' ' :: "WHERE id = ".toList := by decide
  have hend : ";".toList = [';'] := by decide
  cases s with
  | createTable _ => exact ⟨' ', _, hcolumns, rfl⟩
  | select _ => exact ⟨';', [], hend, rfl⟩
  | insert _ note =>
    simp only [trail, String.toList_append, hvalues, List.cons_append]
    exact ⟨' ', _, rfl, rfl⟩
  | delete _ id =>
    simp only [trail, String.toList_append, hwhere, List.cons_append]
    exact ⟨' ', _, rfl, rfl⟩

theorem lead_eq_of_text_eq {s t : Statement} (h : s.text = t.text) : s.lead = t.lead := by
  -- The four leads begin with different letters.
  have hhead (u : Statement) : u.text.toList.head? = u.lead.toList.head? := by
    have hne : u.lead.toList ≠ [] := by cases u <;> simp [lead]
    rw [toList_text, List.head?_append_of_ne_nil _ hne]
  have hfirst : s.lead.toList.head? = t.lead.toList.head? := by rw [← hhead, ← hhead, h]
  revert hfirst
  cases s <;> cases t <;> simp [lead]

/-- The table and what stands behind it can be told apart. -/
theorem table_eq_of_text_eq {s t : Statement} (hs : isTableName s.table.toList = true)
    (ht : isTableName t.table.toList = true) (h : s.text = t.text) :
    s.table = t.table ∧ s.trail = t.trail := by
  have hlist : s.table.toList ++ s.trail.toList = t.table.toList ++ t.trail.toList := by
    have hlead := lead_eq_of_text_eq h
    have htext := congrArg String.toList h
    rw [toList_text, toList_text, hlead] at htext
    exact List.append_cancel_left htext
  have hname {u : Statement} (hu : isTableName u.table.toList = true) :
      (u.table.toList ++ u.trail.toList).takeWhile isNameChar = u.table.toList := by
    obtain ⟨c, rest, htrail, hc⟩ := exists_trail_eq u
    rw [htrail]
    exact takeWhile_name hu hc rest
  have htable : s.table.toList = t.table.toList := by rw [← hname hs, ← hname ht, hlist]
  rw [htable] at hlist
  exact ⟨String.toList_inj.mp htable, String.toList_inj.mp (List.append_cancel_left hlist)⟩

/-- The literals of an insertion and what stands in front of them tell its note. -/
theorem note_eq_of_text_eq {table : String} (h : isTableName table.toList = true) {m n : Note}
    (heq : (insert table m).text = (insert table n).text) : m = n := by
  have hscan := congrArg (fun text => scan text.toList) heq
  simp only [scan_insert h, Scan.mk.injEq, List.cons.injEq, Prod.mk.injEq, and_true] at hscan
  obtain ⟨⟨hhead, htitle⟩, -, hcontent⟩ := hscan
  have hid : Decimal.int m.id.toInt = Decimal.int n.id.toInt := by
    simp only [insertHead, String.toList_append] at hhead
    exact String.toList_inj.mp
      (List.append_cancel_left (List.append_cancel_right hhead))
  obtain ⟨id, title, content⟩ := m
  obtain ⟨id', title', content'⟩ := n
  obtain rfl : id = id' := Decimal.eq_of_int_eq hid
  obtain rfl : title = title' := String.toList_inj.mp (eq_of_escape_eq htitle)
  obtain rfl : content = content' := String.toList_inj.mp (eq_of_escape_eq hcontent)
  rfl

/-- On tables whose names are identifiers, statements with the same text are the same: of one kind,
on one table, with the same id and the same title and content, whatever these are. -/
theorem text_inj {s t : Statement} (hs : IsIdentifier s.table.toList)
    (ht : IsIdentifier t.table.toList) : s.text = t.text ↔ s = t := by
  refine ⟨fun h => ?_, fun h => congrArg text h⟩
  have hname : isTableName s.table.toList = true := isTableName_iff.mpr hs
  obtain ⟨htable, htrail⟩ := table_eq_of_text_eq hname (isTableName_iff.mpr ht) h
  have hlead := lead_eq_of_text_eq h
  cases s with
  | createTable a =>
    cases t with
    | createTable b => exact congrArg createTable htable
    | _ => simp [lead] at hlead
  | select a =>
    cases t with
    | select b => exact congrArg select htable
    | _ => simp [lead] at hlead
  | insert a m =>
    cases t with
    | insert b n =>
      obtain rfl : a = b := htable
      exact congrArg (insert a) (note_eq_of_text_eq hname h)
    | _ => simp [lead] at hlead
  | delete a i =>
    cases t with
    | delete b j =>
      obtain rfl : a = b := htable
      have hid : Decimal.int i.toInt = Decimal.int j.toInt := by
        have hchars := congrArg String.toList htrail
        simp only [trail, String.toList_append] at hchars
        exact String.toList_inj.mp
          (List.append_cancel_left (List.append_cancel_right hchars))
      exact congrArg (delete a) (Decimal.eq_of_int_eq hid)
    | _ => simp [lead] at hlead

/-- Two insertions whose fields would run into each other without escaping. -/
theorem text_inj_lookalikes :
    IsIdentifier "notes".toList ∧
      (insert "notes" ⟨-1, "a', 'b", "c"⟩).text ≠ (insert "notes" ⟨-1, "a", "b', 'c"⟩).text := by
  have h : IsIdentifier "notes".toList := isTableName_iff.mp (by decide)
  refine ⟨h, fun heq => ?_⟩
  have hsame := (text_inj (s := insert "notes" ⟨-1, "a', 'b", "c"⟩)
    (t := insert "notes" ⟨-1, "a", "b', 'c"⟩) h h).mp heq
  exact absurd hsame (by decide)

end Statement
end RemoteNotebook.Sql
