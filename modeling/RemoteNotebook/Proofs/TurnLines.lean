import RemoteNotebook.Proofs.ShellSimulation
import RemoteNotebook.Proofs.ShellTurns

/-! The lines that turns read. A turn sends no more queries than it reads lines, none where the
input ends in it, and nothing after a line that is no text. -/
namespace RemoteNotebook

namespace Console

theorem reads_ofSession (es : List Session.Event) :
    reads (es.map Event.ofSession) = Surface.questions (Session.calls es) := by
  rw [reads, List.countP_map, Surface.questions, Session.calls, List.countP_filterMap]
  refine congrArg (List.countP · es) (funext fun e => ?_)
  obtain ⟨q, answer⟩ := e
  cases q with
  | send query => rfl
  | newId => rfl
  | call c => cases c <;> rfl

end Console

namespace Shell

open Console (Event Hears reads queries)

/-- A line that leaves the shell is read as a command. -/
def Quits (events : List Console.Event) : Prop :=
  ∃ line, typed line ∈ events ∧ Command.parse line = .ok .quit

theorem quits_append {es fs : List Console.Event} : Quits (es ++ fs) ↔ Quits es ∨ Quits fs := by
  simp only [Quits, List.mem_append, or_and_right, exists_or]

/-- What is asked for a field is not read as a command. -/
theorem fieldLabel_ne {name : String} {c : Char} (hname : name.toList.head? = some c)
    (hc : c ≠ 'n') (current : String) : fieldLabel name current ≠ promptLabel := by
  intro heq
  have hprompt : promptLabel.toList.head? = some 'n' := by decide
  have hfield : (fieldLabel name current).toList.head? = some c := by
    unfold fieldLabel
    split <;> simp [List.head?_append, hname]
  rw [heq, hprompt] at hfield
  exact hc (Option.some.inj hfield).symm

theorem not_quits_ofSession (es : List Session.Event) : ¬ Quits (es.map Event.ofSession) := by
  rintro ⟨line, hline, -⟩
  obtain ⟨e, -, he⟩ := List.mem_map.mp hline
  cases he

theorem hears_typed {lines : List (List UInt8)} {label line : String} {events : List Console.Event}
    (h : Hears lines (⟨.prompt label, .ok (some line)⟩ :: events)) :
    ∃ first rest, lines = first :: rest ∧ Hears rest events := by
  obtain ⟨hheard, hrest⟩ := h
  cases lines with
  | nil => cases hheard
  | cons first rest => exact ⟨first, rest, rfl, hrest⟩

theorem hears_ended {lines : List (List UInt8)} {label : String} {events : List Console.Event}
    (h : Hears lines (⟨.prompt label, .ok none⟩ :: events)) : lines = [] :=
  Terminal.eq_nil_of_heard h.1.symm

theorem reads_prompt (label : String) (line : Except Failure (Option String))
    (events : List Console.Event) :
    reads (⟨.prompt label, line⟩ :: events) = reads events + 1 :=
  List.countP_cons_of_pos rfl

theorem queries_prompt (label : String) (line : Except Failure (Option String))
    (events : List Console.Event) :
    queries (⟨.prompt label, line⟩ :: events) = queries events := rfl

namespace Fills

variable {form form' : Form} {fields : List Console.Event} {end_ : Except Failure Bool × Form}
  {lines : List (List UInt8)}

theorem prompts (h : Fills form fields end_) :
    ∀ e ∈ fields, ∃ label line, e = ⟨.prompt label, line⟩ ∧ label ≠ promptLabel := by
  have htitle (now : String) : fieldLabel "Title" now ≠ promptLabel :=
    fieldLabel_ne (c := 'T') (by decide) (by decide) now
  have hcontent (now : String) : fieldLabel "Content" now ≠ promptLabel :=
    fieldLabel_ne (c := 'C') (by decide) (by decide) now
  cases h with
  | noTitle | unreadTitle => exact List.forall_mem_singleton.mpr ⟨_, _, rfl, htitle _⟩
  | filled | noContent | unreadContent =>
    refine List.forall_mem_cons.mpr ⟨⟨_, _, rfl, htitle _⟩, ?_⟩
    exact List.forall_mem_singleton.mpr ⟨_, _, rfl, hcontent _⟩

theorem not_quits (h : Fills form fields end_) : ¬ Quits fields := by
  rintro ⟨line, hline, -⟩
  obtain ⟨label, read, heq, hlabel⟩ := h.prompts _ hline
  obtain ⟨⟩ := heq
  exact hlabel rfl

theorem queries_eq_nil (h : Fills form fields end_) : queries fields = [] := by
  cases h <;> rfl

theorem filled_reads (h : Fills form fields (.ok true, form')) (hhears : Hears lines fields) :
    reads fields = 2 ∧ 2 ≤ lines.length := by
  cases h with
  | filled title content =>
    obtain ⟨first, rest, rfl, hrest⟩ := hears_typed hhears
    obtain ⟨second, rest, rfl, -⟩ := hears_typed hrest
    exact ⟨rfl, by simp⟩

/-- The form is not filled where the input ends before. -/
theorem unfilled_reads (h : Fills form fields (.ok false, form')) (hhears : Hears lines fields) :
    lines.length < reads fields := by
  cases h with
  | noTitle =>
    obtain rfl := hears_ended hhears
    exact Nat.zero_lt_one
  | noContent title =>
    obtain ⟨first, rest, rfl, hrest⟩ := hears_typed hhears
    obtain rfl := hears_ended hrest
    exact Nat.one_lt_two

theorem fails {e : Failure} (h : Fills form fields (.error e, form')) :
    ∃ before last, fields = before ++ [last] ∧ last.unread? = some e := by
  cases h with
  | unreadTitle => exact ⟨[], _, rfl, rfl⟩
  | unreadContent title => exact ⟨[_], _, rfl, rfl⟩

theorem unread?_eq_none {b : Bool} (h : Fills form fields (.ok b, form')) :
    ∀ e ∈ fields, e.unread? = none := by
  cases h <;> simp [Event.unread?]

end Fills

/-- Nothing is left unread in a session that goes through. -/
theorem completes_unread? {a : Session.Action} {table : String} {form form' : Form}
    {es : List Session.Event} {result : Session.Result}
    (h : a.Completes table form es result form') :
    ∀ e ∈ es.map Event.ofSession, e.unread? = none := by
  induction h with
  | create _ _ _ _ _ _ _ ih => exact ih
  | _ => simp [Session.tripEvents, Session.refreshEvents, Event.ofSession, Event.unread?]

namespace Turned

variable {table : String} {form : Form} {events : List Console.Event}
  {end_ : Except Failure Flow × Form} {lines : List (List UInt8)}

theorem reads_pos (h : Turned table form events end_) : 0 < reads events := by
  cases h <;> (rw [reads_prompt]; exact Nat.succ_pos _)

/-- A turn that fails ends with the line that could not be read. -/
theorem fails {e : Failure} (h : Turned table form events end_) (hend : end_.1 = .error e) :
    ∃ before last, events = before ++ [last] ∧ last.unread? = some e := by
  cases h with
  | unread e' =>
    cases hend
    exact ⟨[], _, rfl, rfl⟩
  | unanswered line id hparse e' =>
    cases hend
    exact ⟨[typed line], _, rfl, rfl⟩
  | unfillable line hparse fields e' form' hfields =>
    cases hend
    obtain ⟨before, last, rfl, hlast⟩ := hfields.fails
    exact ⟨typed line :: before, last, rfl, hlast⟩
  | _ => cases hend

theorem unread?_eq_none {flow : Flow} (h : Turned table form events end_)
    (hend : end_.1 = .ok flow) : ∀ e ∈ events, e.unread? = none := by
  have htyped (line : String) : Event.unread? (typed line) = none := rfl
  cases h with
  | unread => cases hend
  | unanswered => cases hend
  | unfillable => cases hend
  | ended => simp [Event.unread?]
  | misread => simp [Event.unread?]
  | empty => simp [Event.unread?]
  | help => simp [Event.unread?]
  | quit => simp [Event.unread?]
  | listed line hparse es listing form' hes =>
    exact List.forall_mem_cons.mpr ⟨htyped line, completes_unread? hes⟩
  | ran line statement hparse es reply form' hes =>
    refine List.forall_mem_cons.mpr ⟨htyped line, ?_⟩
    exact List.forall_mem_append.mpr ⟨completes_unread? hes, by simp [Event.unread?]⟩
  | asked line id hparse es success form' hes =>
    exact List.forall_mem_cons.mpr ⟨htyped line, completes_unread? hes⟩
  | added line hparse fields filled hfields es success form' hes =>
    exact List.forall_mem_cons.mpr ⟨htyped line,
      List.forall_mem_append.mpr ⟨hfields.unread?_eq_none, completes_unread? hes⟩⟩
  | unfilled line hparse fields form' hfields =>
    exact List.forall_mem_cons.mpr ⟨htyped line, hfields.unread?_eq_none⟩

theorem leave_of_quits (h : Turned table form events end_) (hquits : Quits events) :
    end_.1 = .ok .leave := by
  have hcommand {line : String} {rest : List Console.Event} (hrest : ¬ Quits rest)
      (h : Quits (typed line :: rest)) : Command.parse line = .ok .quit := by
    obtain ⟨line', hline', hparse⟩ := h
    rcases List.mem_cons.mp hline' with heq | hmem
    · cases heq
      exact hparse
    · exact absurd ⟨line', hmem, hparse⟩ hrest
  have hnil : ¬ Quits [] := by simp [Quits]
  have hsaid (text : String) : ¬ Quits [⟨.say text, .ok ()⟩] := by simp [Quits]
  cases h with
  | ended | quit | unfilled => rfl
  | unread => simp [Quits] at hquits
  | misread line misread hparse => cases hparse.symm.trans (hcommand (hsaid _) hquits)
  | empty line hparse => cases hparse.symm.trans (hcommand hnil hquits)
  | help line hparse => cases hparse.symm.trans (hcommand (hsaid _) hquits)
  | listed line hparse es => cases hparse.symm.trans (hcommand (not_quits_ofSession es) hquits)
  | ran line statement hparse es reply =>
    have hrest : ¬ Quits (es.map Event.ofSession ++ [⟨.showReply reply, .ok ()⟩]) := by
      rw [quits_append, not_or]
      exact ⟨not_quits_ofSession es, by simp [Quits]⟩
    cases hparse.symm.trans (hcommand hrest hquits)
  | asked line id hparse es => cases hparse.symm.trans (hcommand (not_quits_ofSession es) hquits)
  | unanswered line id hparse e =>
    cases hparse.symm.trans (hcommand (by simp [Quits]) hquits)
  | added line hparse fields filled hfields es =>
    have hrest : ¬ Quits (fields ++ es.map Event.ofSession) := by
      rw [quits_append, not_or]
      exact ⟨hfields.not_quits, not_quits_ofSession es⟩
    cases hparse.symm.trans (hcommand hrest hquits)
  | unfillable line hparse fields e form' hfields =>
    cases hparse.symm.trans (hcommand hfields.not_quits hquits)

theorem quits_of_leave (h : Turned table form events end_) (hhears : Hears lines events)
    (hleave : end_.1 = .ok .leave) : Quits events ∨ lines.length < reads events := by
  cases h with
  | ended =>
    obtain rfl := hears_ended hhears
    exact .inr Nat.zero_lt_one
  | quit line hparse => exact .inl ⟨line, .head _, hparse⟩
  | unfilled line hparse fields form' hfields =>
    obtain ⟨first, rest, rfl, hrest⟩ := hears_typed hhears
    have hended := hfields.unfilled_reads hrest
    rw [reads_prompt]
    exact .inr (Nat.succ_lt_succ hended)
  | _ => cases hleave

/-- A turn after which the shell goes on has read a line. -/
theorem ne_nil_of_again (h : Turned table form events end_) (hhears : Hears lines events)
    (hagain : end_.1 = .ok .again) : lines ≠ [] := by
  have htyped {line : String} {rest : List Console.Event} (h : Hears lines (typed line :: rest)) :
      lines ≠ [] := Terminal.ne_nil_of_heard h.1.symm
  cases h with
  | unread | ended | quit | unanswered | unfilled | unfillable => cases hagain
  | misread | empty | help | listed | ran | asked | added => exact htyped hhears

/-- A turn sends no more queries than it asks for lines. -/
theorem length_queries_le_reads (h : Turned table form events end_) (hhears : Hears lines events) :
    (queries events).length ≤ reads events := by
  cases h with
  | unread | ended | misread | empty | help | quit | unanswered => exact Nat.zero_le _
  | listed line hparse es listing form' hes =>
    rw [queries_prompt, reads_prompt, Console.queries_ofSession]
    exact Nat.le_trans hes.length_queries_le (Nat.succ_le_succ (Nat.zero_le _))
  | ran line statement hparse es reply form' hes =>
    have hreply : queries [⟨.showReply reply, .ok ()⟩] = [] := rfl
    rw [queries_prompt, reads_prompt, Console.queries_append, Console.queries_ofSession, hreply,
      List.append_nil]
    exact Nat.le_trans hes.length_queries_le (Nat.succ_le_succ (Nat.zero_le _))
  | asked line id hparse es success form' hes =>
    cases hes with
    | deleted => exact Nat.le_refl 2
    | declined => exact Nat.zero_le _
  | added line hparse fields filled hfields es success form' hes =>
    obtain ⟨first, rest, rfl, hrest⟩ := hears_typed hhears
    obtain ⟨htwo, -⟩ := hfields.filled_reads (Console.hears_append.mp hrest).1
    rw [queries_prompt, reads_prompt, Console.queries_append, Console.reads_append, htwo,
      hfields.queries_eq_nil, List.nil_append, Console.queries_ofSession]
    have hsent : _ ≤ 2 := hes.length_queries_le
    omega
  | unfilled line hparse fields form' hfields =>
    rw [queries_prompt, hfields.queries_eq_nil]
    exact Nat.zero_le _
  | unfillable line hparse fields e form' hfields =>
    rw [queries_prompt, hfields.queries_eq_nil]
    exact Nat.zero_le _

/-- Where the input ends in a turn, nothing is sent. The turn leaves, unless it asked a question:
that is a no, and the next turn comes to the end again. -/
theorem ends (h : Turned table form events end_) (hhears : Hears lines events)
    (hend : lines.length < reads events) :
    queries events = [] ∧ (end_.1 = .ok .leave ∨ end_.1 = .ok .again ∧
      ⟨.session (.call (.confirm Session.deletePrompt)), .ok false⟩ ∈ events) := by
  have hfails := h
  -- The line of the command is there, so the end comes after it.
  have hafter {line : String} {rest : List Console.Event}
      (hhears : Hears lines (typed line :: rest))
      (hend : lines.length < reads (typed line :: rest)) :
      ∃ others, Hears others rest ∧ others.length < reads rest := by
    obtain ⟨first, others, rfl, hrest⟩ := hears_typed hhears
    rw [reads_prompt] at hend
    exact ⟨others, hrest, Nat.lt_of_succ_lt_succ hend⟩
  cases h with
  | ended => exact ⟨rfl, .inl rfl⟩
  | quit => exact ⟨rfl, .inl rfl⟩
  | misread | empty | help =>
    obtain ⟨others, -, hlt⟩ := hafter hhears hend
    exact absurd hlt (Nat.not_lt_zero _)
  | listed line hparse es listing form' hes =>
    obtain ⟨others, -, hlt⟩ := hafter hhears hend
    rw [Console.reads_ofSession, hes.asks_nothing fun id => by simp] at hlt
    exact absurd hlt (Nat.not_lt_zero _)
  | ran line statement hparse es reply form' hes =>
    obtain ⟨others, -, hlt⟩ := hafter hhears hend
    rw [Console.reads_append, Console.reads_ofSession, hes.asks_nothing fun id => by simp] at hlt
    exact absurd hlt (Nat.not_lt_zero _)
  | asked line id hparse es success form' hes =>
    obtain ⟨others, hrest, hlt⟩ := hafter hhears hend
    cases hes with
    | declined => exact ⟨rfl, .inr ⟨rfl, .tail _ (.head _)⟩⟩
    | deleted =>
      -- The end of the input is no yes.
      have hnil : others = [] := List.eq_nil_of_length_eq_zero (Nat.lt_one_iff.mp hlt)
      rw [hnil] at hrest
      cases hrest.1
  | added line hparse fields filled hfields es success form' hes =>
    obtain ⟨others, hrest, hlt⟩ := hafter hhears hend
    obtain ⟨htwo, hle⟩ := hfields.filled_reads (Console.hears_append.mp hrest).1
    rw [Console.reads_append, Console.reads_ofSession, htwo, hes.asks_nothing fun id => by simp]
      at hlt
    exact absurd hlt (Nat.not_lt.mpr hle)
  | unfilled line hparse fields form' hfields => exact ⟨hfields.queries_eq_nil, .inl rfl⟩
  | unread | unanswered | unfillable =>
    obtain ⟨before, last, hevents, hlast⟩ := hfails.fails rfl
    rw [hevents] at hend hhears
    exact absurd hend (Nat.not_lt.mpr (hhears.unread hlast).2.2.1)

end Turned

end Shell
end RemoteNotebook
