import Mathlib.Data.List.DropRight
import RemoteNotebook.Proofs.Numerals
import RemoteNotebook.Proofs.Utf8
import RemoteNotebook.Shell.Command
import RemoteNotebook.Terminal

/-! What is typed on a terminal. A line that is typed is read back as it is, and a word with what
follows it is read back as the command that they are. -/
namespace RemoteNotebook

namespace Text

theorem splitLine_of_not_mem {bs : List UInt8} (h : 10 ∉ bs) : splitLine bs = (bs, []) := by
  induction bs with
  | nil => rfl
  | cons b bs ih =>
    rw [List.mem_cons, not_or] at h
    rw [splitLine, if_neg (Ne.symm h.1), ih h.2]

theorem splitLine_feed {bs : List UInt8} (h : 10 ∉ bs) (rest : List UInt8) :
    splitLine (bs ++ 10 :: rest) = (bs ++ [10], rest) := by
  induction bs with
  | nil => rfl
  | cons b bs ih =>
    rw [List.mem_cons, not_or] at h
    rw [List.cons_append, splitLine, if_neg (Ne.symm h.1), ih h.2, List.cons_append]

theorem chomp_append_feed (cs : List Char) : chomp (cs ++ ['\n']) = chomp cs :=
  List.rdropWhile_concat_pos (fun c => c = '\n' || c = '\r') cs '\n' rfl

def Chomps (cs body : List Char) : Prop :=
  ∃ ending, cs = body ++ ending ∧ (∀ c ∈ ending, c = '\n' ∨ c = '\r') ∧
    ∀ c ∈ body.getLast?, ¬(c = '\n' ∨ c = '\r')

theorem chomps_chomp (cs : List Char) : Chomps cs (chomp cs) := by
  let isEnd (c : Char) : Bool := c = '\n' || c = '\r'
  refine ⟨cs.rtakeWhile isEnd, List.rdropWhile_append_rtakeWhile.symm, fun c hc => ?_,
    fun c hc => ?_⟩
  · simpa [isEnd] using List.mem_rtakeWhile_imp hc
  · obtain ⟨hne, rfl⟩ := List.mem_getLast?_eq_getLast hc
    have hlast : ¬isEnd ((chomp cs).getLast hne) := List.rdropWhile_last_not isEnd cs hne
    simpa [isEnd] using hlast

def Trimmed (cs : List Char) : Prop :=
  (∀ c ∈ cs.head?, isBlank c = false) ∧ ∀ c ∈ cs.getLast?, isBlank c = false

theorem Trimmed.trimBlanks_eq {cs : List Char} (h : Trimmed cs) : trimBlanks cs = cs := by
  have hstart : trimStart cs = cs := by
    cases cs with
    | nil => rfl
    | cons c cs => exact List.dropWhile_cons_of_neg (by simp [h.1 c rfl])
  have hend : trimEnd cs = cs := List.rdropWhile_eq_self_iff.mpr fun hne => by
    simp [h.2 _ (List.getLast_mem_getLast? hne)]
  rw [trimBlanks, hstart, hend]

theorem trimBlanks_space (cs : List Char) : trimBlanks (' ' :: cs) = trimBlanks cs := by
  rw [trimBlanks, trimStart, List.dropWhile_cons_of_pos (by decide)]
  rfl

variable {word rest : List Char}

theorem splitWord_append (hword : word.all (fun c => !isBlank c) = true) (hrest : Trimmed rest) :
    splitWord (word ++ ' ' :: rest) = (word, rest) := by
  have hword' : ∀ c ∈ word, (!isBlank c) = true := List.all_eq_true.mp hword
  rw [splitWord, List.takeWhile_append_of_pos hword', List.dropWhile_append_of_pos hword',
    List.takeWhile_cons_of_neg (by decide), List.dropWhile_cons_of_neg (by decide),
    trimBlanks_space, hrest.trimBlanks_eq, List.append_nil]

theorem Trimmed.append (hword : word.all (fun c => !isBlank c) = true) (hne : word ≠ [])
    (hrest : Trimmed rest) (hrest' : rest ≠ []) : Trimmed (word ++ ' ' :: rest) := by
  constructor
  · intro c hc
    obtain ⟨d, ds, rfl⟩ := List.exists_cons_of_ne_nil hne
    obtain rfl : d = c := by simpa using hc
    simpa using List.all_eq_true.mp hword d (List.mem_cons_self ..)
  · intro c hc
    rw [List.getLast?_append_of_ne_nil _ (List.cons_ne_nil _ _),
      List.getLast?_cons_of_ne_nil hrest'] at hc
    exact hrest.2 c hc

end Text

namespace Terminal

open Text (chomp splitLine)

structure IsLine (line : String) : Prop where
  noFeed : '\n' ∉ line.toList
  noReturn : line.toList.getLast? ≠ some '\r'

def lineBytes (line : String) : List UInt8 := Text.Utf8.encode (line.toList ++ ['\n'])

variable {line : String}

theorem lineBytes_eq (line : String) : lineBytes line = Text.Utf8.encode line.toList ++ [10] :=
  Text.Utf8.encode_append line.toList ['\n']

theorem IsLine.append (h : IsLine line) {head : String} (hhead : '\n' ∉ head.toList)
    (hne : line.toList ≠ []) : IsLine (head ++ line) := by
  constructor
  · rw [String.toList_append, List.mem_append, not_or]
    exact ⟨hhead, h.noFeed⟩
  · rw [String.toList_append, List.getLast?_append_of_ne_nil _ hne]
    exact h.noReturn

theorem IsLine.chomp_eq (h : IsLine line) : chomp line.toList = line.toList := by
  refine List.rdropWhile_eq_self_iff.mpr fun hne => ?_
  have hfeed : line.toList.getLast hne ≠ '\n' := fun he =>
    h.noFeed (he ▸ List.getLast_mem hne)
  have hreturn : line.toList.getLast hne ≠ '\r' := fun he =>
    h.noReturn (he ▸ List.getLast?_eq_some_getLast hne)
  simp [hfeed, hreturn]

theorem lineText_encode {cs : List Char} (hne : cs ≠ []) :
    lineText (Text.Utf8.encode cs) = .ok (some (String.ofList (chomp cs))) := by
  have hdecode := Text.Utf8.decode_encode cs
  have hne' : (Text.Utf8.encode cs).isEmpty = false := by
    rw [List.isEmpty_eq_false_iff]
    intro hnil
    rw [hnil] at hdecode
    exact hne (Option.some.inj hdecode).symm
  simp only [lineText, hne', hdecode, Bool.false_eq_true, if_false]

/-- A line that is typed is read as it is, and what is typed after it is left. -/
theorem readLine_lineBytes (h : IsLine line) {t : Terminal} {rest : List UInt8}
    (hinput : t.input = lineBytes line ++ rest) :
    t.readLine = (.ok (some line), { t with input := rest }) := by
  have hsplit : splitLine t.input = (lineBytes line, rest) := by
    rw [hinput, lineBytes_eq, List.append_assoc]
    exact Text.splitLine_feed (Text.Utf8.newline_not_mem_encode h.noFeed) rest
  have htext : lineText (lineBytes line) = .ok (some line) := by
    rw [lineBytes, lineText_encode (by simp), Text.chomp_append_feed, h.chomp_eq,
      String.ofList_toList]
  rw [readLine, hsplit, htext]

theorem readLine_last (h : IsLine line) (hne : line.toList ≠ []) {t : Terminal}
    (hinput : t.input = Text.Utf8.encode line.toList) :
    t.readLine = (.ok (some line), { t with input := [] }) := by
  have hsplit : splitLine t.input = (Text.Utf8.encode line.toList, []) := by
    rw [hinput]
    exact Text.splitLine_of_not_mem (Text.Utf8.newline_not_mem_encode h.noFeed)
  rw [readLine, hsplit, lineText_encode hne, h.chomp_eq, String.ofList_toList]

end Terminal

namespace Shell.Command

variable {word rest : String}

/-- A word and a text are read as the command of the word with the text. -/
theorem parse_append (hword : word.toList.all (fun c => !Text.isBlank c) = true)
    (hne : word.toList ≠ []) (hrest : Text.Trimmed rest.toList) (hne' : rest.toList ≠ []) :
    parse (word ++ " " ++ rest) = ofWord (Text.lowercase word) rest := by
  have hline : (word ++ " " ++ rest).toList = word.toList ++ ' ' :: rest.toList := by simp
  rw [parse, hline, (hrest.append hword hne hne').trimBlanks_eq,
    Text.splitWord_append hword hrest]
  simp only [String.ofList_toList]

end Shell.Command

end RemoteNotebook
