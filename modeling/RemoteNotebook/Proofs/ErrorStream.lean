import RemoteNotebook.Proofs.PageOfRun
import RemoteNotebook.Proofs.ShellEnds

/-! The output for errors. What the shell writes there are the errors that were reported for the
notes and the statements of its user, one line for each; other queries may fail in silence. -/
namespace RemoteNotebook

namespace Terminal

theorem textOf_append (ls ms : List String) : textOf (ls ++ ms) = textOf ls ++ textOf ms := by
  rw [textOf, List.map_append, String.join_append]
  rfl

theorem textOf_singleton (line : String) : textOf [line] = line ++ "\n" := by
  simp [textOf, String.join]

theorem err_confirm (question : String) (t : Terminal) : (t.confirm question).2.err = t.err := by
  rw [confirm]
  split <;> rfl

end Terminal

namespace Session

/-- The error that is reported for a note that was sent or for a statement of the user. -/
def reported? : Sql.Query × Outcome → Option String
  | (.statement (.insert _ _), outcome) => outcome.reply.error
  | (.raw _, outcome) => outcome.reply.error
  | _ => none

example (text : String) : reported? (.raw text, .offline) = some "Could not reach DB server" := rfl

def reportedErrors (events : List Event) : List String := (exchanges events).filterMap reported?

theorem reportedErrors_append (es fs : List Event) :
    reportedErrors (es ++ fs) = reportedErrors es ++ reportedErrors fs := by
  rw [reportedErrors, exchanges_append, List.filterMap_append]
  rfl

/-- An action alerts for the errors that are reported, unless it runs a statement of the user. -/
theorem Action.Completes.alerts_reported {table : String} {a : Action} {form form' : Form}
    {events : List Event} {result : Result} (h : a.Completes table form events result form')
    (ha : ∀ text, a ≠ .runSql text) :
    alerts events = (reportedErrors events).map Terminal.errorLine := by
  induction h with
  | stored _ _ inserted listed hnone =>
    simp [reportedErrors, reported?, tripEvents, refreshEvents, hnone]
    rfl
  | rejected _ _ inserted error hsome =>
    simp [reportedErrors, reported?, tripEvents, hsome]
    rfl
  | create _ _ _ _ _ _ _ ih => exact ih (by simp)
  | ran _ text _ => exact absurd rfl (ha text)
  | _ => rfl

end Session

namespace Console

open Session (alerts reportedErrors)
open Terminal (textOf errorLine)

def errorLine? : Event → Option String
  | ⟨.session (.call c), _⟩ => c.message?
  | ⟨.showReply r, _⟩ => r.error.map errorLine
  | _ => none

def errorLines (events : List Event) : List String := events.filterMap errorLine?

theorem errorLines_append (es fs : List Event) :
    errorLines (es ++ fs) = errorLines es ++ errorLines fs :=
  List.filterMap_append

theorem sessionEvents_append (es fs : List Event) :
    sessionEvents (es ++ fs) = sessionEvents es ++ sessionEvents fs :=
  List.filterMap_append

theorem errorLines_ofSession (es : List Session.Event) :
    errorLines (es.map Event.ofSession) = alerts es := by
  rw [errorLines, List.filterMap_map, alerts, Session.calls, List.filterMap_filterMap]
  refine congrArg (List.filterMap · es) (funext fun e => ?_)
  obtain ⟨q, answer⟩ := e
  cases q <;> rfl

theorem err_answer (q : Request) (w : World Terminal) :
    (answer q w).2.surface.err = w.surface.err ++ textOf (errorLines [⟨q, (answer q w).1⟩]) := by
  have hnone : w.surface.err = w.surface.err ++ textOf [] := String.append_empty.symm
  cases q with
  | session q =>
    cases q with
    | send query => exact hnone
    | newId => exact hnone
    | call c =>
      cases c with
      | alert message => exact congrArg (w.surface.err ++ ·) (Terminal.textOf_singleton message).symm
      | confirm question => exact (Terminal.err_confirm question w.surface).trans hnone
      | setStatus status => exact hnone
      | showNotes listing => exact hnone
  | prompt label => exact hnone
  | say line => exact hnone
  | showReply r =>
    cases herror : r.error with
    | none =>
      simpa [answer, Terminal.showReply, errorLines, errorLine?, herror, Terminal.write] using hnone
    | some error =>
      simp [answer, Terminal.showReply, errorLines, errorLine?, herror, Terminal.report,
        Terminal.textOf_singleton]

/-- What is run on the console writes the lines of its events to the output for errors. -/
theorem err_run {α : Type} (d : Dialogue Request Request.Answer α) (w : World Terminal) :
    (d.run answer w).state.surface.err =
      w.surface.err ++ textOf (errorLines (d.run answer w).events) := by
  induction d generalizing w with
  | done a => exact String.append_empty.symm
  | ask q next ih =>
    rw [Dialogue.run_ask, ih, err_answer, String.append_assoc, ← Terminal.textOf_append,
      ← errorLines_append]
    rfl

/-- The errors that are reported in some events are just what these write to the output for
errors. -/
def Reporting (events : List Event) : Prop :=
  errorLines events = (reportedErrors (sessionEvents events)).map errorLine

namespace Reporting

variable {es fs : List Event}

theorem append (hes : Reporting es) (hfs : Reporting fs) : Reporting (es ++ fs) := by
  rw [Reporting] at hes hfs ⊢
  rw [errorLines_append, hes, hfs, sessionEvents_append, Session.reportedErrors_append,
    List.map_append]

theorem cons {e : Event} (hsession : e.session? = none) (hline : errorLine? e = none)
    (h : Reporting es) : Reporting (e :: es) := by
  rw [Reporting, errorLines, sessionEvents, List.filterMap_cons_none hline,
    List.filterMap_cons_none hsession]
  exact h

theorem ofSession {es : List Session.Event}
    (h : alerts es = (reportedErrors es).map errorLine) : Reporting (es.map Event.ofSession) := by
  rw [Reporting, errorLines_ofSession, sessionEvents, filterMap_session?_ofSession]
  exact h

end Reporting

end Console

namespace Shell

open Console (Event Reporting errorLines queries sessionEvents)
open Session (alerts reportedErrors)
open Terminal (textOf errorLine)

variable {table : String} {form form' : Form} {events : List Console.Event}
  {end_ : Except Failure Flow × Form}

theorem Fills.reporting {end_ : Except Failure Bool × Form} (h : Fills form events end_) :
    Reporting events := by
  cases h <;> rfl

/-- In each way that a turn goes, what it writes to the output for errors is reported to it. -/
theorem Turned.reporting (h : Turned table form events end_) : Reporting events := by
  cases h with
  | unread | ended | misread | empty | help | quit | unanswered => rfl
  | listed line h es listing form' hes =>
    exact .cons rfl rfl (.ofSession (hes.alerts_reported (by simp)))
  | asked line id h es success form' hes =>
    exact .cons rfl rfl (.ofSession (hes.alerts_reported (by simp)))
  | ran line statement h es reply form' hes =>
    cases hes with
    | ran _ _ outcome =>
      refine .cons rfl rfl ?_
      change [⟨.showReply outcome.reply, .ok ()⟩].filterMap Console.errorLine? =
        ([(.raw statement, outcome)].filterMap Session.reported?).map Terminal.errorLine
      cases herror : outcome.reply.error with
      | none => simp [Console.errorLine?, Session.reported?, herror]
      | some error => simp [Console.errorLine?, Session.reported?, herror]
  | added line h fields filled hfields es success form' hes =>
    exact .cons rfl rfl (hfields.reporting.append (.ofSession (hes.alerts_reported (by simp))))
  | unfilled line h fields form' hfields => exact .cons rfl rfl hfields.reporting
  | unfillable line h fields e form' hfields => exact .cons rfl rfl hfields.reporting

/-- The command that sends a query of which errors are reported. -/
def sender? : Sql.Query → Option Command
  | .statement (.insert _ _) => some .add
  | .raw text => some (.sql text)
  | _ => none

def reportedTo? : Session.Action → Option Command
  | .submit | .create _ _ => some .add
  | .runSql text => some (.sql text)
  | _ => none

/-- An action that goes through sends one such query for its command. -/
theorem filterMap_sender? {a : Session.Action} {es : List Session.Event} {result : Session.Result}
    (h : a.Completes table form es result form') :
    (Session.queries es).filterMap sender? = (reportedTo? a).toList := by
  induction h with
  | create _ _ _ _ _ _ _ ih => exact ih
  | _ => rfl

def commandRead? : List Console.Event → Option Command
  | ⟨.prompt _, .ok (some line)⟩ :: _ => (Command.parse line).toOption
  | _ => none

theorem commandRead?_typed {line : String} {command : Command}
    (h : Command.parse line = .ok command) (events : List Console.Event) :
    commandRead? (typed line :: events) = some command := by
  rw [commandRead?, h]
  rfl

/-- Only the command that a turn reads sends queries of which errors are reported. -/
theorem Turned.mem_senders (h : Turned table form events end_) :
    ∀ command ∈ (queries events).filterMap sender?, commandRead? events = some command := by
  cases h with
  | unread | ended | misread | empty | help | quit | unanswered => nofun
  | listed line h es listing form' hes =>
    rw [queries_prompt, Console.queries_ofSession, filterMap_sender? hes]
    nofun
  | asked line id h es success form' hes =>
    rw [queries_prompt, Console.queries_ofSession, filterMap_sender? hes]
    nofun
  | ran line statement h es reply form' hes =>
    have hshown : queries [⟨.showReply reply, .ok ()⟩] = [] := rfl
    rw [queries_prompt, Console.queries_append, Console.queries_ofSession, hshown,
      List.append_nil, filterMap_sender? hes]
    exact List.forall_mem_singleton.mpr (commandRead?_typed h _)
  | added line h fields filled hfields es success form' hes =>
    rw [queries_prompt, Console.queries_append, Console.queries_ofSession, hfields.queries_eq_nil,
      List.nil_append, filterMap_sender? hes]
    exact List.forall_mem_singleton.mpr (commandRead?_typed h _)
  | unfilled line h fields form' hfields =>
    rw [queries_prompt, hfields.queries_eq_nil]
    nofun
  | unfillable line h fields e form' hfields =>
    rw [queries_prompt, hfields.queries_eq_nil]
    nofun

structure Pass.Reports (table : String) (p : Pass) : Prop where
  err : (p.run table).state.surface.err = p.world.surface.err ++
    textOf ((reportedErrors (sessionEvents (p.run table).events)).map errorLine)
  senders : ∀ command ∈ (queries (p.run table).events).filterMap sender?,
    commandRead? (p.run table).events = some command

theorem Pass.reports (table : String) (p : Pass) : p.Reports table := by
  have hturned : Turned table p.form (p.run table).events (p.run table).value := p.run_turned
  have hreporting : Reporting (p.run table).events := hturned.reporting
  refine ⟨?_, hturned.mem_senders⟩
  rw [← hreporting]
  exact Console.err_run _ _

/-- The loop writes what its passes write, one after the other. -/
theorem loop_reporting (table : String) (form : Form) (w : World Terminal) :
    let run := loop table form w
    run.events = (passes table form w).flatMap (fun p => (p.run table).events) ∧
      Reporting run.events ∧
      run.state.surface.err = w.surface.err ++ textOf (errorLines run.events) := by
  have hreporting (form : Form) (w : World Terminal) :
      Reporting ((turn table).runFrom form w).events := (Pass.run_turned ⟨form, w⟩).reporting
  have herr (form : Form) (w : World Terminal) :
      ((turn table).runFrom form w).state.surface.err =
        w.surface.err ++ textOf (errorLines ((turn table).runFrom form w).events) :=
    Console.err_run _ _
  -- The induction is on the input that is unread, along the turns of the loop.
  induction form, w using loop.induct table with
  | case1 form w run e =>
    rename_i he
    rw [loop_of_error he, passes_of_error he]
    exact ⟨(List.flatMap_singleton ..).symm, hreporting form w, herr form w⟩
  | case2 form w run =>
    rename_i hleave
    rw [loop_of_leave hleave, passes_of_leave hleave]
    exact ⟨(List.flatMap_singleton ..).symm, hreporting form w, herr form w⟩
  | case3 form w run =>
    rename_i hagain ih
    obtain ⟨hevents, hrest, hwritten⟩ := ih
    rw [loop_of_again hagain, passes_of_again hagain]
    refine ⟨?_, (hreporting form w).append hrest, ?_⟩
    · rw [List.flatMap_cons, ← hevents]
      rfl
    · rw [Console.errorLines_append, Terminal.textOf_append, ← String.append_assoc, ← herr form w]
      exact hwritten

/-- The opening writes nothing to the output for errors, whatever is answered to it. -/
theorem opening_silent (table : String) (form : Form) (w : World Terminal) :
    let first := (opening table).runFrom form w
    first.value.1 = .ok () ∧ errorLines first.events = [] ∧ Reporting first.events ∧
      (queries first.events).filterMap sender? = [] := by
  intro first
  have hyields : (opening table form).Yields first.events first.value := Dialogue.run_yields _ _ _
  have hfail : Console.OnlyReadingFails first.events := Console.run_onlyReadingFails _ _
  obtain ⟨es, listing, form', hcompletes, hevents, hvalue⟩ := opening_started hyields hfail
  have hstart : alerts es = (reportedErrors es).map errorLine := hcompletes.alerts_reported (by simp)
  have hgreets : Reporting [⟨.say greeting, .ok ()⟩] := rfl
  have hsaid : queries [⟨.say greeting, .ok ()⟩] = [] := rfl
  rw [hevents, hvalue]
  refine ⟨rfl, ?_, (Reporting.ofSession hstart).append hgreets, ?_⟩
  · rw [Console.errorLines_append, Console.errorLines_ofSession, hstart]
    cases hcompletes
    rfl
  · rw [Console.queries_append, Console.queries_ofSession, hsaid, List.append_nil,
      filterMap_sender? hcompletes]
    rfl

/-- Whatever the input, the outcomes, the ids and the form, the shell writes to the output for
errors a line for each error that is reported for a note or a statement of its user, in the order in
which these were sent, and nothing else. The opening sends no such query, and each pass sends them
for the command that it reads: a note to add or the statement to run. -/
theorem run_reports (table : String) (form : Form) (w : World Terminal) :
    let run := Shell.run table form w
    let first := (opening table).runFrom form w
    let ps := passes table first.value.2 first.state
    run.events = first.events ++ ps.flatMap (fun p => (p.run table).events) ∧
      run.state.surface.err = w.surface.err ++
        textOf ((reportedErrors (sessionEvents run.events)).map errorLine) ∧
      (first.state.surface.err = w.surface.err ∧
        (queries first.events).filterMap sender? = []) ∧
      ∀ p ∈ ps, p.Reports table := by
  intro run first ps
  have hfirst : first.state.surface.err = w.surface.err ++ textOf (errorLines first.events) :=
    Console.err_run _ _
  obtain ⟨hok, hsilent, hreports, hsends⟩ : first.value.1 = .ok () ∧ errorLines first.events = [] ∧
      Reporting first.events ∧ (queries first.events).filterMap sender? = [] :=
    opening_silent table form w
  obtain ⟨hevents, hrest, hwritten⟩ := loop_reporting table first.value.2 first.state
  have hrun : run = { loop table first.value.2 first.state with
      events := first.events ++ (loop table first.value.2 first.state).events } := run_of_ok hok
  rw [hsilent] at hfirst
  have hunwritten : first.state.surface.err = w.surface.err := hfirst.trans String.append_empty
  refine ⟨?_, ?_, ⟨hunwritten, hsends⟩, fun p _ => p.reports table⟩
  · rw [hrun, ← hevents]
  · have hall : Reporting run.events := by
      rw [hrun]
      exact hreports.append hrest
    rw [← hall, hrun, Console.errorLines_append, hsilent, List.nil_append, ← hunwritten]
    exact hwritten

end Shell
end RemoteNotebook
