import RemoteNotebook.Proofs.ReadableInput
import RemoteNotebook.Proofs.TypedLines

/-! Lines that are prompted for. However many prompts there are, each takes the next line of the
input off it, whether that is a text or not, and is answered by that line alone. -/
namespace RemoteNotebook

namespace Text

/-- Input and its lines: each is ended by its line feed, but for bytes behind the last one. -/
inductive InputLines : List UInt8 → List (List UInt8) → Prop
  | nil : InputLines [] []
  | last {line : List UInt8} (hne : line ≠ []) (hline : 10 ∉ line) : InputLines line [line]
  | cons {line rest : List UInt8} {lines : List (List UInt8)} (hline : 10 ∉ line)
    (hrest : InputLines rest lines) : InputLines (line ++ 10 :: rest) ((line ++ [10]) :: lines)

/-- A byte in front of some lines belongs to the first of them. -/
theorem InputLines.push {b : UInt8} (hb : b ≠ 10) {bs line : List UInt8}
    {lines : List (List UInt8)} (h : InputLines bs (line :: lines)) :
    InputLines (b :: bs) ((b :: line) :: lines) := by
  have hmem {cs : List UInt8} (hcs : 10 ∉ cs) : 10 ∉ b :: cs :=
    List.not_mem_cons_of_ne_of_not_mem hb.symm hcs
  cases h with
  | last hne hline => exact .last (List.cons_ne_nil _ _) (hmem hline)
  | cons hline hrest => simpa using InputLines.cons (hmem hline) hrest

theorem inputLines_spec (bs : List UInt8) : InputLines bs (inputLines bs) := by
  induction bs with
  | nil => exact .nil
  | cons b bs ih =>
    rw [inputLines]
    split
    next hb =>
      subst hb
      simpa using InputLines.cons List.not_mem_nil ih
    next hb =>
      cases hlines : inputLines bs with
      | nil =>
        rw [hlines] at ih
        cases ih
        exact .last (List.cons_ne_nil _ _) (by simpa using Ne.symm hb)
      | cons line lines =>
        rw [hlines] at ih
        exact ih.push hb

end Text

namespace Terminal

open Text (InputLines Chomps inputLines)
open Text.Utf8 (encode decode)

/-- How a prompt is answered where this line stands next in the input, if one does. -/
inductive Answers : Option (List UInt8) → Except Failure (Option String) → Prop
  | ended : Answers none (.ok none)
  | text {cs body : List Char} (h : Chomps cs body) :
    Answers (some (encode cs)) (.ok (some (String.ofList body)))
  | notText {line : List UInt8} (h : ∀ cs, line ≠ encode cs) :
    Answers (some line) (.error (.file .notText))

def afterPrompts (labels : List String) (t : Terminal) : Terminal :=
  labels.foldl (fun t label => (t.prompt label).2) t

variable {t : Terminal}

/-- A prompt takes this line off the input, if there is one, and is answered by it. Nothing else
happens to the terminal, but that the label is written. -/
structure Takes (line? : Option (List UInt8)) (label : String) (t : Terminal)
    (call : Except Failure (Option String) × Terminal) : Prop where
  input_eq : t.input = line?.getD [] ++ call.2.input
  answers : Answers line? call.1
  others : call.2 = { t with input := call.2.input, out := t.out ++ label }

theorem answers_heard (lines : List (List UInt8)) : Answers lines.head? (heard lines) := by
  cases lines with
  | nil => exact .ended
  | cons line lines =>
    rw [heard, List.head?_cons]
    cases hdecode : decode line with
    | some cs =>
      rw [Text.Utf8.decode_eq_some_iff.mp hdecode]
      exact .text (Text.chomps_chomp cs)
    | none =>
      refine .notText fun cs hcs => ?_
      rw [hcs, Text.Utf8.decode_encode] at hdecode
      cases hdecode

theorem head?_append_flatten_tail (lines : List (List UInt8)) :
    lines.head?.getD [] ++ lines.tail.flatten = lines.flatten := by
  cases lines with
  | nil => rfl
  | cons line lines => rfl

theorem inputLines_prompt (t : Terminal) (label : String) :
    inputLines (t.prompt label).2.input = (inputLines t.input).tail :=
  Text.inputLines_splitLine t.input

theorem prompt_takes (t : Terminal) (label : String) :
    Takes (inputLines t.input).head? label t (t.prompt label) where
  input_eq := by
    rw [← Text.flatten_inputLines (t.prompt label).2.input, inputLines_prompt,
      head?_append_flatten_tail, Text.flatten_inputLines]
  answers := by
    have hanswer : (t.prompt label).1 = heard (inputLines t.input) := readLine_heard (t.write label)
    rw [hanswer]
    exact answers_heard _
  others := rfl

/-- The lines that are left after some prompts are those behind as many lines. -/
theorem inputLines_afterPrompts (labels : List String) (t : Terminal) :
    inputLines (t.afterPrompts labels).input = (inputLines t.input).drop labels.length := by
  induction labels generalizing t with
  | nil => rfl
  | cons label labels ih =>
    rw [afterPrompts, List.foldl_cons]
    refine (ih (t.prompt label).2).trans ?_
    rw [inputLines_prompt, List.drop_tail, List.length_cons]

theorem input_afterPrompts (labels : List String) (t : Terminal) :
    ((inputLines t.input).take labels.length).flatten ++ (t.afterPrompts labels).input =
      t.input := by
  rw [← Text.flatten_inputLines (t.afterPrompts labels).input, inputLines_afterPrompts,
    ← List.flatten_append, List.take_append_drop, Text.flatten_inputLines]

theorem afterPrompts_takes (labels : List String) (label : String) (t : Terminal) :
    Takes (inputLines t.input)[labels.length]? label (t.afterPrompts labels)
      ((t.afterPrompts labels).prompt label) := by
  rw [← List.head?_drop, ← inputLines_afterPrompts]
  exact prompt_takes _ label

theorem readable_iff : t.Readable ↔ ∃ cs, t.input = encode cs := by
  simp only [Readable, Option.ne_none_iff_exists', Text.Utf8.decode_eq_some_iff]

theorem Readable.afterPrompts (h : t.Readable) (labels : List String) :
    (t.afterPrompts labels).Readable := by
  induction labels generalizing t with
  | nil => exact h
  | cons label labels ih => exact ih (h.prompt label).2

theorem exists_encode_flatten {lines : List (List UInt8)}
    (h : ∀ line ∈ lines, ∃ cs, line = encode cs) : ∃ cs, lines.flatten = encode cs := by
  induction lines with
  | nil => exact ⟨[], rfl⟩
  | cons line lines ih =>
    obtain ⟨⟨cs, rfl⟩, hlines⟩ := List.forall_mem_cons.mp h
    obtain ⟨ds, hds⟩ := ih hlines
    exact ⟨cs ++ ds, by rw [List.flatten_cons, hds, Text.Utf8.encode_append]⟩

theorem Answers.exists_encode {line : List UInt8} {answer : Option String}
    (h : Answers (some line) (.ok answer)) : ∃ cs, line = encode cs := by
  cases h with
  | text h => exact ⟨_, rfl⟩

theorem readable_iff_prompts : t.Readable ↔
    ∀ labels label, ∃ line, ((t.afterPrompts labels).prompt label).1 = .ok line := by
  constructor
  · exact fun h labels label => ((h.afterPrompts labels).prompt label).1
  · intro h
    rw [readable_iff, ← Text.flatten_inputLines t.input]
    refine exists_encode_flatten fun line hline => ?_
    obtain ⟨n, hn⟩ := List.mem_iff_getElem?.mp hline
    obtain ⟨answer, hanswer⟩ := h (List.replicate n "") ""
    have htakes := (afterPrompts_takes (List.replicate n "") "" t).answers
    rw [List.length_replicate, hn, hanswer] at htakes
    exact htakes.exists_encode

/-- The prompts take the lines of the input one after the other and lose none of it: at any time
it is what was taken and what is left, and each answer is that of a line of its own. -/
theorem prompts_read (t : Terminal) :
    ∃ lines, InputLines t.input lines ∧
      (∀ labels label, let before := t.afterPrompts labels
        (lines.take labels.length).flatten ++ before.input = t.input ∧
        Takes lines[labels.length]? label before (before.prompt label)) ∧
      ((∃ cs, t.input = encode cs) ↔
        ∀ labels label, ∃ line, ((t.afterPrompts labels).prompt label).1 = .ok line) := by
  refine ⟨inputLines t.input, Text.inputLines_spec _, fun labels label => ?_, ?_⟩
  · exact ⟨input_afterPrompts labels t, afterPrompts_takes labels label t⟩
  · rw [← readable_iff]
    exact readable_iff_prompts

/-- A line that is no text does not matter to those around it, and the last one needs no end. -/
example : let t : Terminal := { input := [0x61, 13, 10, 0xFF, 10, 0x62] }
    (t.prompt "").1 = .ok (some "a") ∧
      ((t.afterPrompts [""]).prompt "").1 = .error (.file .notText) ∧
      ((t.afterPrompts ["", ""]).prompt "").1 = .ok (some "b") ∧
      ((t.afterPrompts ["", "", ""]).prompt "").1 = .ok none := ⟨rfl, rfl, rfl, rfl⟩

end Terminal
end RemoteNotebook
