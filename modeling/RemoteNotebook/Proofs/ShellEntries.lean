import RemoteNotebook.Proofs.TypedLines
import RemoteNotebook.Session

/-! Entries: what is typed into the shell for the actions of a session, line by line. -/
namespace RemoteNotebook

namespace Terminal

structure Waits (t : Terminal) (input : List UInt8) : Prop where
  input : t.input = input
  asks : t.assumeYes = false

variable {t : Terminal} {rest : List UInt8}

def answerLine (agreed : Bool) : String := if agreed then "y" else "n"

theorem isLine_answerLine (agreed : Bool) : IsLine (answerLine agreed) := by
  cases agreed with
  | true => exact ⟨by decide, by decide⟩
  | false => exact ⟨by decide, by decide⟩

theorem isYes_answerLine (agreed : Bool) : isYes (answerLine agreed) = agreed := by
  cases agreed <;> decide

theorem surface_confirm {agreed : Bool} (h : t.Waits (lineBytes (answerLine agreed) ++ rest))
    (prompt : String) :
    (surface (.confirm prompt) t).1 = .ok agreed ∧ (surface (.confirm prompt) t).2.Waits rest := by
  have hread := readLine_lineBytes (t := t.write (questionLabel prompt))
    (isLine_answerLine agreed) h.input
  have hconfirm : surface (.confirm prompt) t =
      (.ok agreed, { t.write (questionLabel prompt) with input := rest }) := by
    simp only [surface, confirm, h.asks, Terminal.prompt, hread, Except.map, Option.any_some,
      isYes_answerLine, Bool.false_eq_true, if_false]
  rw [hconfirm]
  exact ⟨rfl, rfl, h.asks⟩

end Terminal

namespace Shell

open Session (Action)
open Terminal (IsLine lineBytes answerLine)

/-- What is typed for an action of a session. -/
inductive Entry where
  | list
  | sql (statement : String)
  | delete (id : Int64) (agreed : Bool)
  | add (title content : String)
  deriving DecidableEq, Repr

namespace Entry

def action : Entry → Action
  | list => .refresh
  | sql statement => .runSql statement
  | delete id _ => .delete id
  | add title content => .create title content

def command : Entry → Command
  | list => .list
  | sql statement => .sql statement
  | delete id _ => .delete id
  | add _ _ => .add

def line : Entry → String
  | list => "list"
  | sql statement => "sql " ++ statement
  | delete id _ => "delete " ++ Decimal.int id.toInt
  | add _ _ => "add"

def details : Entry → List String
  | delete _ agreed => [answerLine agreed]
  | add title content => [title, content]
  | _ => []

def bytes (e : Entry) : List UInt8 := (e.line :: e.details).flatMap lineBytes

def agreed? : Entry → Option Bool
  | delete _ agreed => some agreed
  | _ => none

/-- An entry whose lines are read as they are meant. No field of a form can be left empty, for an
empty line keeps what there is. -/
def Typeable : Entry → Prop
  | sql statement =>
    statement.toList ≠ [] ∧ '\n' ∉ statement.toList ∧ Text.Trimmed statement.toList
  | add title content => (title ≠ "" ∧ IsLine title) ∧ content ≠ "" ∧ IsLine content
  | _ => True

/-- A statement is without blanks around it, so without a carriage return. -/
theorem isLine_statement {statement : String} (h : (sql statement).Typeable) :
    IsLine statement := by
  obtain ⟨-, hfeed, -, hlast⟩ := h
  refine ⟨hfeed, fun hreturn => ?_⟩
  exact absurd (hlast '\r' hreturn) (by decide)

theorem trimmed_int (i : Int) : Text.Trimmed (Decimal.int i).toList := by
  have hblank : ∀ c ∈ (Decimal.int i).toList, Text.isBlank c = false := by
    intro c hc
    rw [Decimal.int, String.toList_ofList] at hc
    obtain rfl | hdigit := Decimal.mem_intChars hc
    · decide
    · exact Decimal.isBlank_of_isDigit hdigit
  exact ⟨fun c hc => hblank c (List.mem_of_mem_head? hc),
    fun c hc => hblank c (List.mem_of_mem_getLast? hc)⟩

theorem int_ne_nil (i : Int) : (Decimal.int i).toList ≠ [] := by
  rw [Decimal.int, String.toList_ofList, Decimal.intChars]
  split
  · exact List.cons_ne_nil _ _
  · exact Decimal.natDigits_ne_nil _

theorem isLine_int (i : Int) : IsLine (Decimal.int i) := by
  constructor
  · rw [Decimal.int, String.toList_ofList]
    exact Decimal.not_mem_intChars (by decide) (by decide) i
  · intro hreturn
    exact absurd ((trimmed_int i).2 '\r' hreturn) (by decide)

theorem isLine_line {e : Entry} (h : e.Typeable) : IsLine e.line := by
  cases e with
  | list =>
    have hlist : IsLine "list" := ⟨by decide, by decide⟩
    exact hlist
  | sql statement => exact (isLine_statement h).append (by decide) h.1
  | delete id agreed => exact (isLine_int id.toInt).append (by decide) (int_ne_nil id.toInt)
  | add title content =>
    have hadd : IsLine "add" := ⟨by decide, by decide⟩
    exact hadd

/-- The first line is read as the command that is meant. -/
theorem parse_line {e : Entry} (h : e.Typeable) : Command.parse e.line = .ok e.command := by
  cases e with
  | list => decide
  | sql statement =>
    have hword : Text.lowercase "sql" = "sql" := by decide
    have hne : statement.isEmpty = false := by simpa using h.1
    change Command.parse ("sql" ++ " " ++ statement) = _
    rw [Command.parse_append (by decide) (by decide) h.2.2 h.1, hword]
    simp [Command.ofWord, hne, command]
  | delete id agreed =>
    have hword : Text.lowercase "delete" = "delete" := by decide
    change Command.parse ("delete" ++ " " ++ Decimal.int id.toInt) = _
    rw [Command.parse_append (by decide) (by decide) (trimmed_int _) (int_ne_nil _), hword]
    simp [Command.ofWord, Decimal.int64?_int, command]
  | add title content =>
    have hadd : Command.parse "add" = .ok .add := by decide
    exact hadd

end Entry

end Shell
end RemoteNotebook
