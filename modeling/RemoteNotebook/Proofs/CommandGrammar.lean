import RemoteNotebook.Proofs.AsciiWords
import RemoteNotebook.Proofs.IntegerTexts
import RemoteNotebook.Proofs.LineParts
import RemoteNotebook.Proofs.ShellEntries

/-! The grammar of commands. A line is read as a command if its word is spelled in ASCII letters of
either case and what follows is what the command takes; every other line is refused as input. -/
namespace RemoteNotebook.Shell.Command

open Decimal (TextOf)
open Text (Blanks IsPlainWord Parts Spells SpellsOneOf)

/-- The commands that a word means with what follows it. -/
inductive Means (word rest : List Char) : Command → Prop
  | empty (h : word = []) : Means word rest .empty
  | add (h : SpellsOneOf ["add", "new"] word) : Means word rest .add
  | list (h : SpellsOneOf ["list", "ls", "refresh"] word) : Means word rest .list
  | help (h : SpellsOneOf ["help", "?"] word) : Means word rest .help
  | quit (h : SpellsOneOf ["quit", "exit", "q"] word) : Means word rest .quit
  | delete (id : Int64) (h : SpellsOneOf ["delete", "del", "rm"] word)
    (hid : TextOf id.toInt rest) : Means word rest (.delete id)
  | sql (h : SpellsOneOf ["sql"] word) (hne : rest ≠ []) :
    Means word rest (.sql (String.ofList rest))

def words : List String :=
  ["add", "new", "list", "ls", "refresh", "help", "?", "quit", "exit", "q", "delete", "del", "rm",
    "sql"]

theorem isPlainWord_words : ∀ word ∈ words, IsPlainWord word := by decide

variable {word rest : List Char} {command : Command}

theorem spellsOneOf_iff {names : List String} (h : names ⊆ words) :
    SpellsOneOf names word ↔ Text.lowercase (String.ofList word) ∈ names := by
  have hspells (name : String) (hname : name ∈ names) :
      Spells name word ↔ Text.lowercase (String.ofList word) = name := by
    rw [Text.lowercase_eq_iff (isPlainWord_words name (h hname)), String.toList_ofList]
  constructor
  · rintro ⟨name, hname, hspelled⟩
    rw [(hspells name hname).mp hspelled]
    exact hname
  · exact fun hmem => ⟨_, hmem, (hspells _ hmem).mpr rfl⟩

theorem word_eq_nil_iff : word = [] ↔ Text.lowercase (String.ofList word) = "" := by
  rw [Text.lowercase_eq_iff (by decide), String.toList_ofList]
  exact List.map_eq_nil_iff.symm

theorem means_of_ofWord
    (h : ofWord (Text.lowercase (String.ofList word)) (String.ofList rest) = .ok command) :
    Means word rest command := by
  have hspells {name : String} {names : List String}
      (heq : Text.lowercase (String.ofList word) = name) (hnames : names ⊆ words)
      (hname : name ∈ names) : SpellsOneOf names word :=
    (spellsOneOf_iff hnames).mpr (heq ▸ hname)
  rw [ofWord.eq_def] at h
  split at h
  case h_1 =>
    rename_i heq
    cases h
    exact .empty (word_eq_nil_iff.mpr heq)
  case h_2 | h_3 =>
    rename_i heq
    cases h
    exact .add (hspells heq (by decide) (by decide))
  case h_4 | h_5 | h_6 =>
    rename_i heq
    cases h
    exact .list (hspells heq (by decide) (by decide))
  case h_7 | h_8 =>
    rename_i heq
    cases h
    exact .help (hspells heq (by decide) (by decide))
  case h_9 | h_10 | h_11 =>
    rename_i heq
    cases h
    exact .quit (hspells heq (by decide) (by decide))
  case h_12 | h_13 | h_14 =>
    rename_i heq
    rw [String.toList_ofList] at h
    split at h
    next id hid =>
      cases h
      exact .delete id (hspells heq (by decide) (by decide)) (Decimal.int64?_eq_some_iff.mp hid)
    next => cases h
  case h_15 =>
    rename_i heq
    split at h
    next => cases h
    next hne =>
      cases h
      exact .sql (hspells heq (by decide) (by decide)) fun hnil => hne (by simp [hnil])
  case h_16 => cases h

theorem ofWord_of_means (h : Means word rest command) :
    ofWord (Text.lowercase (String.ofList word)) (String.ofList rest) = .ok command := by
  have hname {names : List String} {result : Except Misread Command} (hnames : names ⊆ words)
      (h : SpellsOneOf names word)
      (hresult : ∀ name ∈ names, ofWord name (String.ofList rest) = result) :
      ofWord (Text.lowercase (String.ofList word)) (String.ofList rest) = result :=
    hresult _ ((spellsOneOf_iff hnames).mp h)
  cases h with
  | empty h =>
    rw [word_eq_nil_iff.mp h]
    rfl
  | add h | list h | help h | quit h => exact hname (by decide) h (by simp [ofWord])
  | delete id h hid =>
    exact hname (by decide) h (by simp [ofWord, Decimal.int64?_eq_some_iff.mpr hid])
  | sql h hne => exact hname (by decide) h (by simp [ofWord, hne])

/-- The commands of a word in lower case are those that it means. -/
theorem ofWord_eq_ok_iff :
    ofWord (Text.lowercase (String.ofList word)) (String.ofList rest) = .ok command ↔
      Means word rest command :=
  ⟨means_of_ofWord, ofWord_of_means⟩

theorem Means.ascii (h : Means word rest command) : ∀ c ∈ word, c.toNat < 0x80 := by
  have hspelled {names : List String} (hnames : names ⊆ words) (h : SpellsOneOf names word) :
      ∀ c ∈ word, c.toNat < 0x80 := by
    obtain ⟨name, hname, hspells⟩ := h
    exact hspells.ascii (isPlainWord_words name (hnames hname))
  cases h with
  | empty h => simp [h]
  | add h | list h | help h | quit h => exact hspelled (by decide) h
  | delete id h | sql h => exact hspelled (by decide) h

variable {line : String}

theorem parse_eq (h : Parts line.toList word rest) :
    parse line = ofWord (Text.lowercase (String.ofList word)) (String.ofList rest) := by
  rw [parse, h.splitWord_eq]

theorem parse_eq_ok_iff (h : Parts line.toList word rest) :
    parse line = .ok command ↔ Means word rest command := by
  rw [parse_eq h, ofWord_eq_ok_iff]

theorem parse_congr {line' : String} (h : Parts line.toList word rest)
    (h' : Parts line'.toList word rest) : parse line' = parse line := by
  rw [parse_eq h, parse_eq h']

theorem parts_delete (id : Int64) :
    Parts ("delete " ++ Decimal.int id.toInt).toList "delete".toList
      (Decimal.intChars id.toInt) := by
  refine ⟨⟨[], [' '], [], ?_, by decide, by decide, by decide, fun _ => by decide⟩, by decide, ?_⟩
  · simp [Decimal.int]
  · have htrimmed := Entry.trimmed_int id.toInt
    rwa [Decimal.int, String.toList_ofList] at htrimmed

/-- Every line has parts, a word and what follows it, and it is read as the commands that the word
means with what follows: as none but the empty one if there is no word, and else by a word in ASCII
letters of either case and by its number or its statement. A line that means no command is refused
as input. So blanks around a line do not matter, nor how many there are behind the word, and every
id can be typed. -/
theorem parse_grammar (line : String) :
    (∃ word rest, Parts line.toList word rest) ∧
    (∀ word rest, Parts line.toList word rest →
      (∀ command, parse line = .ok command ↔ Means word rest command) ∧
      (parse line = .ok .empty ↔ Blanks line.toList) ∧
      ((∃ m : Misread, parse line = .error m ∧ m.failure = .input m.message) ↔
        ∀ command, ¬ Means word rest command) ∧
      (∀ command, parse line = .ok command → ∀ c ∈ word, c.toNat < 0x80) ∧
      (∀ before after, Blanks before → Blanks after →
        parse (String.ofList (before ++ line.toList ++ after)) = parse line) ∧
      ∀ gap, Blanks gap → gap ≠ [] → parse (String.ofList (word ++ gap ++ rest)) = parse line) ∧
    ∀ id : Int64, parse ("delete " ++ Decimal.int id.toInt) = .ok (.delete id) := by
  refine ⟨Text.exists_parts line.toList, fun word rest h => ⟨fun _ => parse_eq_ok_iff h, ?_, ?_,
    fun command hok => ((parse_eq_ok_iff h).mp hok).ascii, fun before after hbefore hafter => ?_,
    fun gap hgap hne => ?_⟩, fun id => ?_⟩
  · rw [parse_eq_ok_iff h, ← h.word_eq_nil_iff]
    exact ⟨fun hmeans => by cases hmeans; assumption, .empty⟩
  · simp only [← parse_eq_ok_iff h]
    cases parse line with
    | ok command => exact iff_of_false (by simp) fun hnone => hnone command rfl
    | error m => exact iff_of_true ⟨m, rfl, rfl⟩ fun command => by simp
  · refine parse_congr h ?_
    rw [String.toList_ofList]
    exact h.pad hbefore hafter
  · refine parse_congr h ?_
    rw [String.toList_ofList]
    exact h.respace hgap hne
  · refine (parse_eq_ok_iff (parts_delete id)).mpr (.delete id (by decide) ?_)
    exact Decimal.int64?_eq_some_iff.mp (Decimal.int64?_intChars id)

/-- Blanks of Unicode, letters of both cases and leading zeros behind a plus sign. The long s of the
second line is none of the letters of a command. -/
theorem parse_grammar_padded :
    let line := "\u3000dElEtE\u2003+007\x0c "
    Parts line.toList "dElEtE".toList "+007".toList ∧ parse line = .ok (.delete 7) ∧
      Parts "\u017Fql SELECT 1;".toList "\u017Fql".toList "SELECT 1;".toList ∧
      ∃ m : Misread, parse "\u017Fql SELECT 1;" = .error m ∧ m.failure = .input m.message := by
  intro line
  have hparts : Parts line.toList "dElEtE".toList "+007".toList := by
    refine ⟨⟨['\u3000'], ['\u2003'], ['\x0c', ' '], by decide, by decide, by decide, by decide,
      fun _ => by decide⟩, by decide, ?_, ?_⟩
    · rintro c ⟨⟩
      decide
    · rintro c ⟨⟩
      decide
  have hlong : Parts "\u017Fql SELECT 1;".toList "\u017Fql".toList "SELECT 1;".toList := by
    refine ⟨⟨[], [' '], [], by decide, by decide, by decide, by decide, fun _ => by decide⟩,
      by decide, ?_, ?_⟩
    · rintro c ⟨⟩
      decide
    · rintro c ⟨⟩
      decide
  obtain ⟨hok, -⟩ := (parse_grammar line).2.1 _ _ hparts
  obtain ⟨hlongOk, -, hrefused, hascii, -⟩ := (parse_grammar "\u017Fql SELECT 1;").2.1 _ _ hlong
  refine ⟨hparts, ?_, hlong, hrefused.mpr fun command hmeans => ?_⟩
  · exact (hok _).mpr (.delete 7 (by decide) (Decimal.int64?_eq_some_iff.mp (by decide)))
  · exact absurd (hascii command ((hlongOk command).mpr hmeans) '\u017F' (by decide)) (by decide)

end RemoteNotebook.Shell.Command
