import RemoteNotebook.Proofs.Consent
import RemoteNotebook.Proofs.ShellSimulation

/-! Deletions on the command line. An id that is not negative is read there as it is in the shell. A
negative one is taken for an option, which there is none of, unless two dashes stand before it. -/
namespace RemoteNotebook

namespace Decimal

theorem natDigits_eq_cons (n : Nat) : ∃ c cs, natDigits n = c :: cs ∧ isDigit c = true := by
  obtain ⟨c, cs, hcs⟩ := List.exists_cons_of_ne_nil (natDigits_ne_nil n)
  exact ⟨c, cs, hcs, isDigit_of_mem_natDigits (n := n) (by simp [hcs])⟩

end Decimal

namespace CommandLine

open Decimal (isDigit ne_of_isDigit)

variable {i : Int} {id : Int64}

/-- A number that is not negative is an argument like any other. -/
theorem ofString_of_nonneg (h : 0 ≤ i) :
    Argument.ofString (Decimal.int i) = .plain (Decimal.int i) := by
  obtain ⟨c, cs, hcs, hc⟩ := Decimal.natDigits_eq_cons i.natAbs
  have htext : (Decimal.int i).toList = c :: cs := by
    rw [Decimal.int, String.toList_ofList, Decimal.intChars, if_neg (by omega), hcs]
  have hdash : c ≠ '-' := ne_of_isDigit hc (by decide)
  rw [Argument.ofString, htext]
  split <;> simp_all

/-- A negative number is taken for letters after a dash. -/
theorem ofString_of_neg (h : i < 0) :
    Argument.ofString (Decimal.int i) = .short (Decimal.natDigits i.natAbs) := by
  obtain ⟨c, cs, hcs, hc⟩ := Decimal.natDigits_eq_cons i.natAbs
  have htext : (Decimal.int i).toList = '-' :: c :: cs := by
    rw [Decimal.int, String.toList_ofList, Decimal.intChars, if_pos h, hcs]
  have hdash : c ≠ '-' := ne_of_isDigit hc (by decide)
  rw [Argument.ofString, htext, hcs]
  split <;> simp_all

theorem short?_of_isDigit {c : Char} (h : isDigit c = true) (l : Level) : l.short? c = none := by
  rw [Level.short?, List.find?_eq_none]
  intro o _ ho
  have hshort : o.short? = some c := of_decide_eq_true ho
  cases o with
  | yes | output =>
    cases hshort
    cases h
  | _ => cases hshort

theorem readLetters_natDigits (l : Level) (t : Taken) (n : Nat) :
    readLetters l t (Decimal.natDigits n) = .error .misuse := by
  obtain ⟨c, cs, hcs, hc⟩ := Decimal.natDigits_eq_cons n
  have hhelp : c ≠ 'h' := ne_of_isDigit hc (by decide)
  have hversion : c ≠ 'V' := ne_of_isDigit hc (by decide)
  simp only [hcs, readLetters, short?_of_isDigit hc, hhelp, hversion, if_false, false_and]

/-- A negative number among the arguments of a level is misuse. -/
theorem readLevel_of_neg (h : i < 0) (l : Level) (t : Taken) (rest : List String) :
    readLevel l (t, none) (Decimal.int i :: rest) = .error .misuse := by
  rw [readLevel, ofString_of_neg h]
  simp only [readLetters_natDigits]
  rfl

theorem parse_delete (rest : List String) :
    parse ("delete" :: rest) = (readLevel Word.delete.level ({}, none) rest).bind fun inner =>
      (Word.delete.command? inner.1).elim (.error .misuse) fun command =>
        .ok (ofTaken command {} inner.1) := by
  have hword : readLevel { isTop := true } ({}, none) ("delete" :: rest) =
      .ok ({}, some ("delete", rest)) := rfl
  have hdelete : Word.ofText? "delete" = some .delete := rfl
  simp only [parse, hword, bind, Except.bind, hdelete]
  cases readLevel Word.delete.level ({}, none) rest with
  | error stop => rfl
  | ok inner =>
    dsimp only
    cases Word.delete.command? inner.1 <;> rfl

/-- The id of a deletion is read where no other is before it. -/
theorem positional_id (id : Int64) {t : Taken} (h : t.positionals = []) :
    Taken.positional Word.delete.level t (Decimal.int id.toInt) =
      .ok { t with positionals := [Decimal.int id.toInt] } := by
  have hroom : Word.delete.level.hasRoom t.positionals.length = true := by
    rw [h]
    rfl
  have hadmits : Word.delete.level.admits (Decimal.int id.toInt) = true :=
    congrArg Option.isSome (Decimal.int64?_int id)
  rw [Taken.positional, hroom, hadmits, h]
  rfl

theorem readLevel_id (h : 0 ≤ id.toInt) {t : Taken} (ht : t.positionals = [])
    (rest : List String) :
    readLevel Word.delete.level (t, none) (Decimal.int id.toInt :: rest) =
      readLevel Word.delete.level
        ({ t with positionals := [Decimal.int id.toInt] }, none) rest := by
  rw [readLevel, ofString_of_nonneg h]
  simp only [positional_id id ht]
  rfl

theorem readLevel_yes {t : Taken} (ht : t.options = []) (rest : List String) :
    readLevel Word.delete.level (t, none) ("--yes" :: rest) =
      readLevel Word.delete.level ({ t with options := [(.yes, "")] }, none) rest := by
  obtain ⟨options, positionals⟩ := t
  obtain rfl : options = [] := ht
  rfl

theorem readLevel_dashes {t : Taken} (ht : t.positionals = []) :
    readLevel Word.delete.level (t, none) ["--", Decimal.int id.toInt] =
      .ok ({ t with positionals := [Decimal.int id.toInt] }, none) := by
  have hdashes : readLevel Word.delete.level (t, none) ["--", Decimal.int id.toInt] =
      (readPositionals Word.delete.level t [Decimal.int id.toInt]).map (·, none) := rfl
  rw [hdashes, readPositionals, positional_id id ht]
  rfl

theorem command?_id (id : Int64) :
    Word.delete.command? { options := [(.yes, "")], positionals := [Decimal.int id.toInt] } =
      some (.delete id true) := by
  have hcommand : Word.delete.command?
      { options := [(.yes, "")], positionals := [Decimal.int id.toInt] } =
      (Decimal.int64? (Decimal.int id.toInt).toList).map (.delete · true) := rfl
  rw [hcommand, Decimal.int64?_int]
  rfl

/-- The ways to tell the program to delete a note and not to ask. -/
def deletions (id : Int64) : List (List String) :=
  [["delete", "--yes", Decimal.int id.toInt], ["delete", Decimal.int id.toInt, "--yes"]]

/-- An id that is not negative is read wherever it stands, and a negative one nowhere. -/
theorem parse_deletion {arguments : List String} (h : arguments ∈ deletions id) :
    parse arguments =
      if 0 ≤ id.toInt then .ok { command := .delete id true } else .error .misuse := by
  simp only [deletions, List.mem_cons, List.not_mem_nil, or_false] at h
  split
  next hid =>
    obtain rfl | rfl := h
    · rw [parse_delete, readLevel_yes rfl, readLevel_id hid rfl, readLevel, Except.bind,
        command?_id]
      rfl
    · rw [parse_delete, readLevel_id hid rfl, readLevel_yes rfl, readLevel, Except.bind,
        command?_id]
      rfl
  next hid =>
    obtain rfl | rfl := h
    · rw [parse_delete, readLevel_yes rfl, readLevel_of_neg (Int.not_le.mp hid)]
      rfl
    · rw [parse_delete, readLevel_of_neg (Int.not_le.mp hid)]
      rfl

theorem parse_deletion_dashes (id : Int64) :
    parse ["delete", "--yes", "--", Decimal.int id.toInt] =
      .ok { command := .delete id true } := by
  rw [parse_delete, readLevel_yes rfl, readLevel_dashes rfl, Except.bind, command?_id]
  rfl

end CommandLine

namespace Program

open Shell (Entry)
open Terminal (lineBytes)

def sent (h : Host) (arguments : List String) : List Sql.Query :=
  match CommandLine.parse arguments with
  | .ok line => (run h line).queries
  | .error _ => []

def typedDeletion (id : Int64) : List UInt8 := (Entry.delete id true).bytes ++ lineBytes "quit"

variable {h : Host} {s : Settings}

theorem sent_of_parse {arguments : List String} {command : Command}
    (hparse : CommandLine.parse arguments = .ok { command })
    (hs : settings none (h.storage.find Settings.homePath) {} = .ok s) :
    sent h arguments = (perform h s.table command).queries := by
  have hsettings : settings none (h.storage.find Settings.homePath) { command } = .ok s := hs
  have hsent : sent h arguments = (run h { command }).queries := by rw [sent, hparse]
  rw [hsent, run, Option.map_none, hsettings]

/-- A deletion that is typed and agreed to is sent behind what the shell begins with. -/
theorem perform_shell_typedDeletion (h : Host) (table : String) (id : Int64) :
    (perform { h with input := typedDeletion id } table .shell).queries =
      [.statement (.createTable table), .statement (.select table),
        .statement (.delete table id), .statement (.select table)] := by
  let s : Session Recorder :=
    ⟨table, {}, ⟨{ answers := [true] }, h.ids, h.outcomes, 0, 0⟩, []⟩
  have hS : Recorder.surface.Answers s.world.surface fun n => [true][n]?.getD false :=
    Recorder.surface_answers rfl
  have he : ∀ e ∈ [Entry.delete id true], e.Typeable := by
    rintro e he
    obtain rfl := List.mem_singleton.mp he
    trivial
  have hagreed : ∀ (n : Nat) (b : Bool),
      ([Entry.delete id true].filterMap Entry.agreed?)[n]? = some b →
      ([true][n]?).getD false = b :=
    fun n b hb => congrArg (Option.getD · false) hb
  let w := { h with input := typedDeletion id }.terminal false
  have hinput : w.surface.input =
      [Entry.delete id true].flatMap Entry.bytes ++ lineBytes "quit" := by
    simp [w, Host.terminal, typedDeletion]
  have hrun :=
    Shell.run_mirrors he hS hagreed (.inl rfl) (w := w) ⟨rfl, rfl, rfl, rfl⟩ ⟨hinput, rfl⟩
  exact congrArg Session.queries hrun.events

/-- A deletion that is typed into the shell and agreed to is sent for every id, behind what the
shell begins with. The program that is told on its command line to delete the note and not to ask
sends the same two statements, but only if the id is not negative: any other id is misuse there, and
nothing is sent, unless two dashes stand before it. -/
theorem sent_deletion (hs : settings none (h.storage.find Settings.homePath) {} = .ok s)
    (id : Int64) :
    let deletion : List Sql.Query :=
      [.statement (.delete s.table id), .statement (.select s.table)]
    deletion.map Sql.Query.text =
        ["DELETE FROM " ++ s.table ++ " WHERE id = " ++ Decimal.int id.toInt ++ ";",
          "SELECT * FROM " ++ s.table ++ ";"] ∧
      sent { h with input := typedDeletion id } ["shell"] =
        [.statement (.createTable s.table), .statement (.select s.table)] ++ deletion ∧
      (∀ arguments ∈ CommandLine.deletions id, (sent h arguments = deletion ↔ 0 ≤ id.toInt) ∧
        (id.toInt < 0 → CommandLine.parse arguments = .error .misuse ∧ sent h arguments = [])) ∧
      sent h ["delete", "--yes", "--", Decimal.int id.toInt] = deletion := by
  intro deletion
  refine ⟨rfl, ?_, fun arguments harguments => ?_, ?_⟩
  · have hshell : CommandLine.parse ["shell"] = .ok { command := .shell } := by rfl
    exact (sent_of_parse (h := { h with input := typedDeletion id }) hshell hs).trans
      (perform_shell_typedDeletion h s.table id)
  · have hparse := CommandLine.parse_deletion harguments
    by_cases hid : 0 ≤ id.toInt
    · rw [if_pos hid] at hparse
      have hsent : sent h arguments = deletion := sent_of_parse hparse hs
      exact ⟨iff_of_true hsent hid, fun hneg => absurd hid (Int.not_le.mpr hneg)⟩
    · rw [if_neg hid] at hparse
      have hsent : sent h arguments = [] := by rw [sent, hparse]
      refine ⟨iff_of_false (fun heq => ?_) hid, fun _ => ⟨hparse, hsent⟩⟩
      exact List.cons_ne_nil _ _ (heq.symm.trans hsent)
  · exact sent_of_parse (CommandLine.parse_deletion_dashes id) hs

/-- Where there is no settings file and nothing else is asked for, the settings are the defaults. -/
theorem settings_of_missing {home : FileBytes} (h : home.isThere = false) :
    settings none home {} = .ok Settings.default := by
  rw [settings, Settings.load, h]
  rfl

def bareHost : Host := { ids := fun _ => 0, outcomes := fun _ => .offline }

theorem settings_bareHost :
    settings none (bareHost.storage.find Settings.homePath) {} = .ok Settings.default :=
  settings_of_missing (by decide +kernel)

theorem sent_deletion_ends :
    let greatest := ["delete", "--yes", Decimal.int Int64.maxValue.toInt]
    let least := ["delete", Decimal.int Int64.minValue.toInt, "--yes"]
    settings none (bareHost.storage.find Settings.homePath) {} = .ok Settings.default ∧
      greatest ∈ CommandLine.deletions Int64.maxValue ∧
      sent bareHost greatest = [.statement (.delete "notes" Int64.maxValue),
        .statement (.select "notes")] ∧
      least ∈ CommandLine.deletions Int64.minValue ∧ sent bareHost least = [] := by
  intro greatest least
  have hgreatest : greatest ∈ CommandLine.deletions Int64.maxValue := .head _
  have hleast : least ∈ CommandLine.deletions Int64.minValue := .tail _ (.head _)
  obtain ⟨-, -, hsent, -⟩ := sent_deletion settings_bareHost Int64.maxValue
  obtain ⟨-, -, hunsent, -⟩ := sent_deletion settings_bareHost Int64.minValue
  exact ⟨settings_bareHost, hgreatest, (hsent _ hgreatest).1.mpr (by decide), hleast,
    ((hunsent _ hleast).2 (by decide)).2⟩

/-- A row has a negative id. The shell deletes this note; told the same on its command line, the
program sends nothing. -/
theorem sent_deletion_negative :
    Note.ofRow? [.int (-1), .str "a", .str "b"] = some ⟨-1, "a", "b"⟩ ∧
      sent { bareHost with input := typedDeletion (-1) } ["shell"] =
        [.statement (.createTable "notes"), .statement (.select "notes"),
          .statement (.delete "notes" (-1)), .statement (.select "notes")] ∧
      sent bareHost ["delete", "--yes", "-1"] = [] := by
  have hshell : CommandLine.parse ["shell"] = .ok { command := .shell } := by rfl
  have hrefused : CommandLine.parse ["delete", "--yes", "-1"] = .error .misuse := by rfl
  refine ⟨by rfl, ?_, ?_⟩
  · exact (sent_of_parse (h := { bareHost with input := typedDeletion (-1) }) hshell
      settings_bareHost).trans (perform_shell_typedDeletion bareHost "notes" (-1))
  · rw [sent, hrefused]

end Program
end RemoteNotebook
