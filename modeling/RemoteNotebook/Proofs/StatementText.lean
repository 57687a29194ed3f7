import RemoteNotebook.Proofs.Numerals
import RemoteNotebook.Proofs.Quoting
import RemoteNotebook.Sql.Statement

/-! The texts of statements as the database scans them. A title or a content stays inside of its
literal, so the rest of an insertion depends on the table and the id alone. -/
namespace RemoteNotebook.Sql
open Literal

def isNameChar (c : Char) : Bool := isNameStart c || c.isDigit

theorem isNameChar_of_mem {cs : List Char} (h : isTableName cs = true) {c : Char} (hc : c ∈ cs) :
    isNameChar c = true := by
  cases cs with
  | nil => cases hc
  | cons d ds =>
    obtain ⟨hd, hds⟩ := Bool.and_eq_true_iff.mp h
    rcases List.mem_cons.mp hc with rfl | hc
    · rw [isNameChar, hd, Bool.true_or]
    · exact List.all_eq_true.mp hds c hc

theorem not_mem_of_isTableName {cs : List Char} (h : isTableName cs = true) {c : Char}
    (hc : isNameChar c = false) : c ∉ cs := by
  intro hmem
  cases hc.symm.trans (isNameChar_of_mem h hmem)

def IsInitial (c : Char) : Prop := 'A' ≤ c ∧ c ≤ 'Z' ∨ 'a' ≤ c ∧ c ≤ 'z' ∨ c = '_'

def IsIdentifier (cs : List Char) : Prop :=
  ∃ c rest, cs = c :: rest ∧ IsInitial c ∧ ∀ d ∈ rest, IsInitial d ∨ '0' ≤ d ∧ d ≤ '9'

theorem isUpper_iff {c : Char} : c.isUpper = true ↔ 'A' ≤ c ∧ c ≤ 'Z' := decide_eq_true_iff

theorem isLower_iff {c : Char} : c.isLower = true ↔ 'a' ≤ c ∧ c ≤ 'z' :=
  Bool.and_eq_true_iff.trans (and_congr decide_eq_true_iff decide_eq_true_iff)

theorem isDigit_iff {c : Char} : c.isDigit = true ↔ '0' ≤ c ∧ c ≤ '9' :=
  Bool.and_eq_true_iff.trans (and_congr decide_eq_true_iff decide_eq_true_iff)

theorem isNameStart_iff {c : Char} : isNameStart c = true ↔ IsInitial c := by
  rw [isNameStart, Bool.or_eq_true, decide_eq_true_iff, IsInitial, ← or_assoc, ← isUpper_iff,
    ← isLower_iff, ← Bool.or_eq_true]
  rfl

theorem isTableName_iff {cs : List Char} : isTableName cs = true ↔ IsIdentifier cs := by
  cases cs with
  | nil => simp [isTableName, IsIdentifier]
  | cons c cs =>
    have hchars : isTableName (c :: cs) = true ↔
        IsInitial c ∧ ∀ d ∈ cs, IsInitial d ∨ '0' ≤ d ∧ d ≤ '9' := by
      simp only [isTableName, Bool.and_eq_true, List.all_eq_true, Bool.or_eq_true, isNameStart_iff,
        isDigit_iff]
    rw [hchars]
    constructor
    · rintro ⟨hc, hcs⟩
      exact ⟨c, cs, rfl, hc, hcs⟩
    · rintro ⟨_, _, ⟨⟩, hc, hcs⟩
      exact ⟨hc, hcs⟩

/-- The character stands once in the text, and that at its end. -/
def OnlyAtEnd (c : Char) (cs : List Char) : Prop := ∃ front, cs = front ++ [c] ∧ c ∉ front

/-- A text in which no literal begins and no statement ends. -/
def Plain (cs : List Char) : Prop := '\'' ∉ cs ∧ ';' ∉ cs

instance (cs : List Char) : Decidable (Plain cs) := inferInstanceAs (Decidable (_ ∧ _))

namespace Plain

theorem append {cs ds : List Char} (hc : Plain cs) (hd : Plain ds) : Plain (cs ++ ds) := by
  constructor <;> rw [List.mem_append, not_or]
  · exact ⟨hc.1, hd.1⟩
  · exact ⟨hc.2, hd.2⟩

theorem intChars (i : Int) : Plain (Decimal.intChars i) :=
  ⟨Decimal.not_mem_intChars (by decide) (by decide) i,
    Decimal.not_mem_intChars (by decide) (by decide) i⟩

/-- A name of a table has letters, digits and underscores only. -/
theorem tableName {cs : List Char} (h : isTableName cs = true) : Plain cs :=
  ⟨not_mem_of_isTableName h (by decide), not_mem_of_isTableName h (by decide)⟩

/-- A plain text with a semicolon behind it is one statement without literals. -/
theorem scan_end {cs : List Char} (h : Plain cs) :
    scan (cs ++ [';']) = ⟨[], .outside (cs ++ [';'])⟩ ∧ OnlyAtEnd ';' (cs ++ [';']) := by
  refine ⟨?_, cs, rfl, h.2⟩
  rw [scan, Scan.foldl_step_outside, List.nil_append]
  simp [h.1]

end Plain

namespace Statement

def insertHead (table : String) (id : Int64) : String :=
  "INSERT INTO " ++ table ++ " VALUES (" ++ Decimal.int id.toInt ++ ", "

variable {table : String}

theorem insertHead_plain (h : isTableName table.toList = true) (id : Int64) :
    Plain (insertHead table id).toList := by
  simp only [insertHead, Decimal.int, String.toList_append, String.toList_ofList]
  have hinto : Plain "INSERT INTO ".toList := by decide
  have hvalues : Plain " VALUES (".toList := by decide
  have hcomma : Plain ", ".toList := by decide
  exact (((hinto.append (.tableName h)).append hvalues).append (.intChars _)).append hcomma

theorem text_insert (table : String) (note : Note) :
    (insert table note).text = insertHead table note.id ++ quote note.title ++ ", " ++
      quote note.content ++ ");" := rfl

/-- An insertion has two literals, one for the title and one for the content. -/
theorem scan_insert (h : isTableName table.toList = true) (note : Note) :
    scan (insert table note).text.toList =
      ⟨[((insertHead table note.id).toList, escape note.title.toList),
        (", ".toList, escape note.content.toList)], .outside ");".toList⟩ := by
  rw [text_insert]
  simp only [String.toList_append, scan, List.foldl_append]
  rw [Scan.foldl_step_outside _ _ (insertHead_plain h note.id).1, Scan.foldl_step_quote,
    Scan.foldl_step_outside _ _ (by decide), Scan.foldl_step_quote,
    Scan.foldl_step_outside _ _ (by decide)]
  rfl

theorem insert_onlyAtEnd (h : isTableName table.toList = true) (note : Note) :
    OnlyAtEnd ';' (scan (insert table note).text.toList).outside := by
  refine ⟨(insertHead table note.id).toList ++ ", )".toList, ?_, ?_⟩
  · rw [scan_insert h]
    simp [Scan.outside]
  · have hplain : Plain ", )".toList := by decide
    exact ((insertHead_plain h note.id).append hplain).2

/-- A statement of another kind has no literal, and its end is its only semicolon. -/
theorem scan_of_plain {s : Statement} (front : String) (ht : s.text = front ++ ";")
    (h : Plain front.toList) :
    scan s.text.toList = ⟨[], .outside s.text.toList⟩ ∧ OnlyAtEnd ';' s.text.toList := by
  have hend : ";".toList = [';'] := by decide
  rw [ht, String.toList_append, hend]
  exact h.scan_end

theorem createTable_scan (h : isTableName table.toList = true) :
    scan (createTable table).text.toList = ⟨[], .outside (createTable table).text.toList⟩ ∧
      OnlyAtEnd ';' (createTable table).text.toList := by
  have hcreate : Plain "CREATE TABLE ".toList := by decide
  have hcolumns : Plain " (id INT PRIMARY, title STRING(64), content STRING(255))".toList := by
    decide
  apply scan_of_plain ("CREATE TABLE " ++ table ++
    " (id INT PRIMARY, title STRING(64), content STRING(255))")
  · rw [String.append_assoc]
    rfl
  · simp only [String.toList_append]
    exact (hcreate.append (.tableName h)).append hcolumns

theorem select_scan (h : isTableName table.toList = true) :
    scan (select table).text.toList = ⟨[], .outside (select table).text.toList⟩ ∧
      OnlyAtEnd ';' (select table).text.toList := by
  have hselect : Plain "SELECT * FROM ".toList := by decide
  apply scan_of_plain ("SELECT * FROM " ++ table)
  · rfl
  · rw [String.toList_append]
    exact hselect.append (.tableName h)

theorem delete_scan (h : isTableName table.toList = true) (id : Int64) :
    scan (delete table id).text.toList = ⟨[], .outside (delete table id).text.toList⟩ ∧
      OnlyAtEnd ';' (delete table id).text.toList := by
  have hdelete : Plain "DELETE FROM ".toList := by decide
  have hwhere : Plain " WHERE id = ".toList := by decide
  apply scan_of_plain ("DELETE FROM " ++ table ++ " WHERE id = " ++ Decimal.int id.toInt)
  · rfl
  · simp only [Decimal.int, String.toList_append, String.toList_ofList]
    exact ((hdelete.append (.tableName h)).append hwhere).append (.intChars _)

/-- Of an insertion, the literals are the title and the content and the rest is fixed by the table
and the id. The other statements have no literals. A semicolon outside of literals ends each. -/
theorem scan_text (h : isTableName table.toList = true) :
    (∀ (id : Int64) (title content : String),
      let text := (insert table ⟨id, title, content⟩).text.toList
      (∃ rawTitle rawContent,
        scan text =
          ⟨[(("INSERT INTO " ++ table ++ " VALUES (" ++ Decimal.int id.toInt ++ ", ").toList,
              rawTitle),
            (", ".toList, rawContent)], .outside ");".toList⟩ ∧
        unescape (String.ofList rawTitle) = title ∧
        unescape (String.ofList rawContent) = content) ∧
      OnlyAtEnd ';' (scan text).outside ∧ text.getLast? = some ';') ∧
    ∀ id, ∀ s ∈ [createTable table, select table, delete table id],
      scan s.text.toList = ⟨[], .outside s.text.toList⟩ ∧ OnlyAtEnd ';' s.text.toList := by
  constructor
  · intro id title content text
    refine ⟨⟨_, _, scan_insert h ⟨id, title, content⟩, ?_, ?_⟩, insert_onlyAtEnd h _, ?_⟩
    · rw [← stored_eq, unescape_stored]
    · rw [← stored_eq, unescape_stored]
    · have hend : ");".toList = [')', ';'] := by decide
      simp only [text, text_insert, String.toList_append, hend, List.getLast?_append]
      rfl
  · intro id s hs
    simp only [List.mem_cons, List.not_mem_nil, or_false] at hs
    rcases hs with rfl | rfl | rfl
    · exact createTable_scan h
    · exact select_scan h
    · exact delete_scan h id

/-- A title with a quote and a content that tries to leave its literal. -/
theorem scan_text_hostile :
    isTableName "notes".toList = true ∧
    (∃ rawTitle rawContent,
      scan (insert "notes" ⟨Int64.minValue, "it's", "\\'); DROP TABLE notes; --"⟩).text.toList =
        ⟨[(("INSERT INTO " ++ "notes" ++ " VALUES (" ++ Decimal.int Int64.minValue.toInt ++
            ", ").toList, rawTitle), (", ".toList, rawContent)], .outside ");".toList⟩ ∧
      unescape (String.ofList rawTitle) = "it's" ∧
      unescape (String.ofList rawContent) = "\\'); DROP TABLE notes; --") ∧
    OnlyAtEnd ';' (delete "notes" 5).text.toList := by
  have h : isTableName "notes".toList = true := by decide
  have hscan := scan_text h
  exact ⟨h, (hscan.1 _ _ _).1, (hscan.2 5 _ (by simp)).2⟩

end Statement
end RemoteNotebook.Sql
