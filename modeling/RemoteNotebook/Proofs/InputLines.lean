import RemoteNotebook.Proofs.ShellRuns

/-! Reading. The input of a terminal is a sequence of lines, and whatever is run on the console
reads them one by one from the front: each prompt and each question is answered by the next line,
and by the end of the input when there is none. -/
namespace RemoteNotebook

namespace Text

/-- The lines of raw input. Each has its line feed; only the last one may be without. -/
def inputLines : List UInt8 → List (List UInt8)
  | [] => []
  | b :: bs =>
    if b = 10 then [b] :: inputLines bs
    else
      match inputLines bs with
      | line :: lines => (b :: line) :: lines
      | [] => [[b]]

theorem inputLines_eq {bs : List UInt8} (h : bs ≠ []) :
    inputLines bs = (splitLine bs).1 :: inputLines (splitLine bs).2 := by
  induction bs with
  | nil => exact absurd rfl h
  | cons b bs ih =>
    rw [inputLines, splitLine]
    split
    · rfl
    · cases bs with
      | nil => rfl
      | cons b' bs => rw [ih (List.cons_ne_nil _ _)]

theorem inputLines_splitLine (bs : List UInt8) :
    inputLines (splitLine bs).2 = (inputLines bs).tail := by
  cases bs with
  | nil => rfl
  | cons b bs => rw [inputLines_eq (List.cons_ne_nil _ _), List.tail_cons]

theorem flatten_inputLines (bs : List UInt8) : (inputLines bs).flatten = bs := by
  induction bs with
  | nil => rfl
  | cons b bs ih =>
    rw [inputLines]
    split
    · rw [List.flatten_cons, ih, List.singleton_append]
    · cases hlines : inputLines bs with
      | nil =>
        rw [hlines] at ih
        exact congrArg (b :: ·) ih
      | cons line lines =>
        rw [hlines] at ih
        exact congrArg (b :: ·) ih

theorem splitLine_ends (bs : List UInt8) :
    (splitLine bs).1.getLast? = some 10 ∨ (splitLine bs).2 = [] := by
  induction bs with
  | nil => exact .inr rfl
  | cons b bs ih =>
    rw [splitLine]
    split
    next hb => exact .inl (congrArg some hb)
    next => exact ih.imp_left fun h => by rw [List.getLast?_cons, h]; rfl

theorem inputLines_ended {bs : List UInt8} {before after : List (List UInt8)}
    (h : inputLines bs = before ++ after) (hafter : after ≠ []) :
    ∀ line ∈ before, line.getLast? = some 10 := by
  induction before generalizing bs with
  | nil => simp
  | cons line before ih =>
    have hne : bs ≠ [] := by
      rintro rfl
      cases h
    rw [inputLines_eq hne] at h
    obtain ⟨rfl, hrest⟩ := List.cons.inj h
    refine List.forall_mem_cons.mpr ⟨?_, ih hrest⟩
    refine (splitLine_ends bs).resolve_right fun hnil => ?_
    rw [hnil] at hrest
    exact hafter (List.append_eq_nil_iff.mp hrest.symm).2

end Text

namespace Terminal

open Text (inputLines)

def heard : List (List UInt8) → Except Failure (Option String)
  | [] => .ok none
  | line :: _ =>
    match Text.Utf8.decode line with
    | some cs => .ok (some (String.ofList (Text.chomp cs)))
    | none => .error (.file .notText)

theorem heard_eq_error_iff {lines : List (List UInt8)} {e : Failure} :
    heard lines = .error e ↔
      e = .file .notText ∧ ∃ line rest, lines = line :: rest ∧ Text.Utf8.decode line = none := by
  cases lines with
  | nil => simp [heard]
  | cons line rest =>
    rw [heard]
    cases hdecode : Text.Utf8.decode line with
    | some cs => simp [hdecode]
    | none => simp [hdecode, eq_comm]

theorem ne_nil_of_heard {lines : List (List UInt8)} {line : String}
    (h : heard lines = .ok (some line)) : lines ≠ [] := by
  rintro rfl
  cases h

theorem eq_nil_of_heard {lines : List (List UInt8)} (h : heard lines = .ok none) : lines = [] := by
  cases lines with
  | nil => rfl
  | cons line rest =>
    rw [heard] at h
    split at h
    · cases h
    · cases h

theorem readLine_heard (t : Terminal) : t.readLine.1 = heard (inputLines t.input) := by
  cases hinput : t.input with
  | nil =>
    rw [readLine, hinput]
    rfl
  | cons b bs =>
    have hline : (Text.splitLine (b :: bs)).1.isEmpty = false := by
      rw [Text.splitLine]
      split
      · rfl
      · rfl
    rw [readLine, hinput, lineText, hline, Text.inputLines_eq (List.cons_ne_nil _ _), heard]
    rfl

end Terminal

namespace Console

open Terminal (heard)
open Text (inputLines)

def Request.isReading : Request → Bool
  | .prompt _ => true
  | .session (.call (.confirm _)) => true
  | _ => false

def reads (events : List Event) : Nat := events.countP (·.request.isReading)

/-- The answer of an event is that of a terminal which asks its questions, where these lines are to
come. -/
def Event.HeardFrom (lines : List (List UInt8)) : Event → Prop
  | ⟨.prompt _, line⟩ => line = heard lines
  | ⟨.session (.call (.confirm _)), agreed⟩ => agreed = (heard lines).map (·.any Terminal.isYes)
  | ⟨.session (.call _), answer⟩ => ∃ a, answer = .ok a
  | ⟨.say _, said⟩ => said = .ok ()
  | ⟨.showReply _, shown⟩ => shown = .ok ()
  | _ => True

/-- The answers in some events are those of a terminal with these lines to come. -/
def Hears : List (List UInt8) → List Event → Prop
  | _, [] => True
  | lines, e :: events => e.HeardFrom lines ∧ Hears (lines.drop (reads [e])) events

section

variable {lines : List (List UInt8)} {es fs : List Event}

theorem reads_append (es fs : List Event) : reads (es ++ fs) = reads es + reads fs :=
  List.countP_append

theorem reads_cons (e : Event) (es : List Event) : reads (e :: es) = reads [e] + reads es :=
  reads_append [e] es

theorem hears_append :
    Hears lines (es ++ fs) ↔ Hears lines es ∧ Hears (lines.drop (reads es)) fs := by
  induction es generalizing lines with
  | nil => simp [Hears, reads]
  | cons e es ih =>
    rw [List.cons_append, Hears, Hears, ih, reads_cons e es, List.drop_drop, and_assoc]

def Event.unread? : Event → Option Failure
  | ⟨.prompt _, .error e⟩ => some e
  | ⟨.session (.call (.confirm _)), .error e⟩ => some e
  | _ => none

/-- An event asks for no line, or it asks for one and fails if that cannot be read. -/
theorem Event.HeardFrom.reading {e : Event} (h : e.HeardFrom lines) :
    (reads [e] = 0 ∧ e.unread? = none) ∨
      (reads [e] = 1 ∧ ∀ f, e.unread? = some f ↔ heard lines = .error f) := by
  obtain ⟨q, answer⟩ := e
  cases q with
  | prompt label =>
    refine .inr ⟨rfl, fun f => ?_⟩
    have hanswer : answer = heard lines := h
    subst hanswer
    cases heard lines with
    | ok line => simp [unread?]
    | error e => simp [unread?]
  | say line => exact .inl ⟨rfl, rfl⟩
  | showReply r => exact .inl ⟨rfl, rfl⟩
  | session q =>
    cases q with
    | send query => exact .inl ⟨rfl, rfl⟩
    | newId => exact .inl ⟨rfl, rfl⟩
    | call c =>
      cases c with
      | confirm question =>
        refine .inr ⟨rfl, fun f => ?_⟩
        have hanswer : answer = (heard lines).map (·.any Terminal.isYes) := h
        subst hanswer
        cases heard lines with
        | ok line => simp [unread?, Except.map]
        | error e => simp [unread?, Except.map]
      | setStatus status => exact .inl ⟨rfl, rfl⟩
      | showNotes listing => exact .inl ⟨rfl, rfl⟩
      | alert message => exact .inl ⟨rfl, rfl⟩

/-- Where nothing failed to be read, all lines that were read are texts. -/
theorem Hears.decodes (h : Hears lines es) (hread : ∀ e ∈ es, e.unread? = none) :
    ∀ line ∈ lines.take (reads es), Text.Utf8.decode line ≠ none := by
  induction es generalizing lines with
  | nil => simp [reads]
  | cons e es ih =>
    rw [List.forall_mem_cons] at hread
    obtain ⟨he, hes⟩ := h
    rw [reads_cons, List.take_add]
    intro line hline
    obtain hline | hline := List.mem_append.mp hline
    · obtain ⟨hnone, -⟩ | ⟨hone, herror⟩ := he.reading
      · simp [hnone] at hline
      · rw [hone] at hline
        intro hdecode
        obtain ⟨rest, rfl⟩ : ∃ rest, lines = line :: rest := by
          cases lines with
          | nil => simp at hline
          | cons first rest =>
            obtain rfl : line = first := by simpa using hline
            exact ⟨rest, rfl⟩
        have hfails := (herror (.file .notText)).mpr
          (Terminal.heard_eq_error_iff.mpr ⟨rfl, line, rest, rfl, hdecode⟩)
        rw [hread.1] at hfails
        cases hfails
    · exact ih hes hread.2 line hline

/-- The line that failed to be read is the next one, and it is no text. -/
theorem Hears.unread {e : Event} (h : Hears lines (es ++ [e])) {f : Failure}
    (he : e.unread? = some f) :
    f = .file .notText ∧ reads [e] = 1 ∧ reads (es ++ [e]) ≤ lines.length ∧
      ∃ line, lines.take (reads (es ++ [e])) = lines.take (reads es) ++ [line] ∧
        Text.Utf8.decode line = none := by
  obtain ⟨hlast, -⟩ := (hears_append.mp h).2
  rcases hlast.reading with ⟨-, hnone⟩ | ⟨hone, herror⟩
  · rw [hnone] at he
    cases he
  · obtain ⟨rfl, line, rest, hline, hdecode⟩ := Terminal.heard_eq_error_iff.mp ((herror f).mp he)
    have hlength := congrArg List.length hline
    rw [List.length_drop, List.length_cons] at hlength
    refine ⟨rfl, hone, ?_, line, ?_, hdecode⟩
    · rw [reads_append, hone]
      omega
    · rw [reads_append, hone, List.take_add, hline]
      rfl

end

structure ReadsTo (w : World Terminal) (events : List Event) (w' : World Terminal) : Prop where
  hears : Hears (inputLines w.surface.input) events
  rest : inputLines w'.surface.input = (inputLines w.surface.input).drop (reads events)
  asks : w'.surface.assumeYes = false

theorem ReadsTo.trans {w w' w'' : World Terminal} {es fs : List Event} (h : ReadsTo w es w')
    (h' : ReadsTo w' fs w'') : ReadsTo w (es ++ fs) w'' where
  hears := hears_append.mpr ⟨h.hears, h.rest ▸ h'.hears⟩
  rest := by rw [h'.rest, h.rest, List.drop_drop, reads_append]
  asks := h'.asks

section

variable {w w' : World Terminal} {events : List Event}

/-- The lines that were read stand before what is left of the input. -/
theorem ReadsTo.input_eq (h : ReadsTo w events w') :
    w.surface.input =
      ((inputLines w.surface.input).take (reads events)).flatten ++ w'.surface.input := by
  have hleft : w'.surface.input = ((inputLines w.surface.input).drop (reads events)).flatten := by
    rw [← h.rest, Text.flatten_inputLines]
  rw [hleft, ← List.flatten_append, List.take_append_drop, Text.flatten_inputLines]

/-- What is left of the input starts after a line feed, once a line was asked for. -/
theorem ReadsTo.input_ended (h : ReadsTo w events w') (hreads : 0 < reads events) :
    w'.surface.input = [] ∨
      ((inputLines w.surface.input).take (reads events)).flatten.getLast? = some 10 := by
  refine Decidable.or_iff_not_imp_left.mpr fun hleft => ?_
  have hafter : (inputLines w.surface.input).drop (reads events) ≠ [] := by
    intro hnil
    rw [← h.rest] at hnil
    apply hleft
    rw [← Text.flatten_inputLines w'.surface.input, hnil]
    rfl
  have hended := Text.inputLines_ended
    (List.take_append_drop (reads events) (inputLines w.surface.input)).symm hafter
  obtain hbefore | ⟨before, line, hbefore⟩ :=
    List.eq_nil_or_concat ((inputLines w.surface.input).take (reads events))
  · obtain hzero | hnil := List.take_eq_nil_iff.mp hbefore
    · exact absurd hzero (Nat.ne_of_gt hreads)
    · rw [hnil] at hafter
      exact absurd List.drop_nil hafter
  · rw [List.concat_eq_append] at hbefore
    rw [hbefore] at hended ⊢
    have hline : line.getLast? = some 10 := hended line (by simp)
    rw [List.flatten_append, List.flatten_singleton, List.getLast?_append, hline, Option.some_or]

end

theorem readsTo_answer {w : World Terminal} (hasks : w.surface.assumeYes = false) (q : Request) :
    ReadsTo w [⟨q, (answer q w).1⟩] (answer q w).2 := by
  have hread (label : String) : (w.surface.prompt label).1 = heard (inputLines w.surface.input) :=
    Terminal.readLine_heard _
  have hrest (label : String) : inputLines (w.surface.prompt label).2.input =
      (inputLines w.surface.input).drop 1 := by
    rw [List.drop_one]
    exact Text.inputLines_splitLine _
  cases q with
  | prompt label => exact ⟨⟨hread label, trivial⟩, hrest label, hasks⟩
  | say line => exact ⟨⟨rfl, trivial⟩, rfl, hasks⟩
  | showReply r =>
    refine ⟨⟨rfl, trivial⟩, ?_, ?_⟩
    · change inputLines (w.surface.showReply r).input = inputLines w.surface.input
      rw [Terminal.showReply]
      split <;> rfl
    · change (w.surface.showReply r).assumeYes = false
      rw [Terminal.showReply]
      split <;> exact hasks
  | session q =>
    cases q with
    | send query => exact ⟨⟨trivial, trivial⟩, rfl, hasks⟩
    | newId => exact ⟨⟨trivial, trivial⟩, rfl, hasks⟩
    | call c =>
      cases c with
      | setStatus status => exact ⟨⟨⟨(), rfl⟩, trivial⟩, rfl, hasks⟩
      | showNotes listing => exact ⟨⟨⟨(), rfl⟩, trivial⟩, rfl, hasks⟩
      | alert message => exact ⟨⟨⟨(), rfl⟩, trivial⟩, rfl, hasks⟩
      | confirm question =>
        have hconfirm : Terminal.surface (.confirm question) w.surface =
            ((w.surface.prompt (Terminal.questionLabel question)).1.map (·.any Terminal.isYes),
              (w.surface.prompt (Terminal.questionLabel question)).2) := by
          rw [Terminal.surface, Terminal.confirm, if_neg (by simp [hasks])]
        simp only [answer, World.answer, hconfirm]
        exact ⟨⟨congrArg (Except.map _) (hread _), trivial⟩, hrest _, hasks⟩

theorem readsTo_run {α : Type} (d : Dialogue Request Request.Answer α) {w : World Terminal}
    (hasks : w.surface.assumeYes = false) :
    ReadsTo w (d.run answer w).events (d.run answer w).state := by
  induction d generalizing w with
  | done a => exact ⟨trivial, rfl, hasks⟩
  | ask q next ih =>
    have hanswer := readsTo_answer hasks q
    exact hanswer.trans (ih (answer q w).1 hanswer.asks)

end Console
end RemoteNotebook
