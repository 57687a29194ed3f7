import RemoteNotebook.Shell
import RemoteNotebook.Proofs.Stopping

/-! Runs of the shell. What the shell does is told by the events of its opening and of turns after
it, whoever answers them; on a terminal with a finite input the turns come to an end. -/
namespace RemoteNotebook

namespace Console

def Event.ofSession (e : Session.Event) : Event := ⟨.session e.request, e.answer⟩

theorem filterMap_session?_ofSession (events : List Session.Event) :
    (events.map Event.ofSession).filterMap Event.session? = events := by
  rw [List.filterMap_map]
  exact List.filterMap_some

def sessionEvents (events : List Event) : List Session.Event := events.filterMap Event.session?

theorem queries_append (es fs : List Event) : queries (es ++ fs) = queries es ++ queries fs := by
  simp only [queries, Session.queries, List.filterMap_append]

theorem queries_ofSession (es : List Session.Event) :
    queries (es.map Event.ofSession) = Session.queries es :=
  congrArg Session.queries (filterMap_session?_ofSession es)

/-- A step of a session goes on the console as in a session. -/
theorem yields_lift {α : Type} {step : Session.Step α} {form : Form} {events : List Event}
    {end_ : Except Failure α × Form} (h : (lift step form).Yields events end_) :
    ∃ es, (step form).Yields es end_ ∧ events = es.map Event.ofSession := by
  change ((step form).widen Request.session fun _ answer => answer).Yields events end_ at h
  generalize step form = d at h
  induction d generalizing events with
  | done a =>
    obtain ⟨rfl, rfl⟩ := Dialogue.yields_done_iff.mp h
    exact ⟨[], .done _, rfl⟩
  | ask q next ih =>
    obtain ⟨answer, rest, rfl, hrest⟩ := Dialogue.yields_ask_iff.mp h
    obtain ⟨es, hes, rfl⟩ := ih _ hrest
    exact ⟨⟨q, answer⟩ :: es, Dialogue.yields_ask_iff.mpr ⟨answer, es, rfl, hes⟩, rfl⟩

variable {α β : Type}

theorem run_widen (d : Dialogue Session.Request Session.Request.Answer α) (w : World Terminal) :
    (d.widen Request.session fun _ answer => answer).run answer w =
      let run := d.run (World.answer Terminal.surface) w
      ⟨run.value, run.state, run.events.map Event.ofSession⟩ := by
  induction d generalizing w with
  | done a => rfl
  | ask q next ih => simp only [Dialogue.widen, Dialogue.run_ask, ih, List.map_cons]; rfl

/-- What comes after a console step that ends with a value goes on from there. -/
theorem run_bind_ok {step : Step α} {k : α → Step β} {form form' : Form} {w w' : World Terminal}
    {events : List Event} {a : α} (h : step.runFrom form w = ⟨(.ok a, form'), w', events⟩) :
    (step >>= k).runFrom form w =
      let run := (k a).runFrom form' w'
      { run with events := events ++ run.events } := by
  rw [Step.runFrom] at h
  refine (Dialogue.run_bind answer (step form) _ w).trans ?_
  rw [h]
  rfl

theorem run_lift {step : Session.Step α} {form : Form} {w : World Terminal}
    {run : Session.StepRun (World Terminal) (Except Failure α × Form)}
    (h : step.runFrom form (World.answer Terminal.surface) w = run) :
    (lift step).runFrom form w = ⟨run.value, run.state, run.events.map Event.ofSession⟩ := by
  subst h
  exact run_widen (step form) w

/-- What comes after a step of a session goes on from its value. -/
theorem run_lift_bind {step : Session.Step α} {k : α → Step β} {form : Form}
    {w : World Terminal} {a : α}
    (h : (step.runFrom form (World.answer Terminal.surface) w).value.1 = .ok a) :
    let first := step.runFrom form (World.answer Terminal.surface) w
    (lift step >>= k).runFrom form w =
      let run := (k a).runFrom first.value.2 first.state
      { run with events := first.events.map Event.ofSession ++ run.events } := by
  intro first
  have hfirst : (lift step).runFrom form w =
      ⟨(.ok a, first.value.2), first.state, first.events.map Event.ofSession⟩ := by
    rw [run_lift rfl, ← h]
  rw [run_bind_ok hfirst]

/-- Nothing comes after a step of a session that fails. -/
theorem run_lift_bind_error {step : Session.Step α} {k : α → Step β} {form : Form}
    {w : World Terminal} {e : Failure}
    (h : (step.runFrom form (World.answer Terminal.surface) w).value.1 = .error e) :
    let first := step.runFrom form (World.answer Terminal.surface) w
    (lift step >>= k).runFrom form w =
      ⟨(.error e, first.value.2), first.state, first.events.map Event.ofSession⟩ := by
  intro first
  have hfirst : (lift step form).run answer w =
      ⟨(.error e, first.value.2), first.state, first.events.map Event.ofSession⟩ := by
    rw [← Step.runFrom, run_lift rfl, ← h]
  have hstop : ExceptT.bindCont k (.error e) first.value.2 = .done (.error e, first.value.2) := rfl
  refine (Dialogue.run_bind answer (lift step form) _ w).trans ?_
  simp only [hfirst, hstop, Dialogue.run_done, List.append_nil]

/-- A property of everything that console steps on a table are made of, and so of all of them. A
step of a session among these is an action whose result is used in another way. -/
structure Compositional (table : String) (P : (α : Type) → Step α → Prop) : Prop where
  silent : ∀ {α : Type} {step : Step α} (value : Form → α) (after : Form → Form),
    (∀ form, step form = .done (.ok (value form), after form)) → P α step
  bind : ∀ {α β : Type} {step : Step α} {k : α → Step β},
    P α step → (∀ a, P β (k a)) → P β (step >>= k)
  prompt : ∀ label, P (Option String) (Console.prompt label)
  say : ∀ line, P Unit (Console.say line)
  showReply : ∀ r, P Unit (Console.showReply r)
  lift : ∀ (a : Session.Action) {α : Type} {step : Session.Step α} {f : α → Session.Result},
    a.step table = f <$> step → Session.Stops step → P α (Console.lift step)

structure Cumulative (table : String) (P : List Event → Prop) : Prop where
  nil : P []
  append : ∀ ⦃es fs⦄, P es → P fs → P (es ++ fs)
  prompt : ∀ label line, P [⟨.prompt label, line⟩]
  say : ∀ line said, P [⟨.say line, said⟩]
  showReply : ∀ r shown, P [⟨.showReply r, shown⟩]
  perform : ∀ (a : Session.Action) ⦃form es end_⦄, (a.step table form).Yields es end_ →
    P (es.map Event.ofSession)

end Console

namespace Shell

section

variable {table : String} {form : Form} {w : World Terminal}

theorem loop_of_error {e : Failure} (h : ((turn table).runFrom form w).value.1 = .error e) :
    loop table form w =
      let run := (turn table).runFrom form w
      ⟨(.error e, run.value.2), run.state, run.events⟩ := by
  rw [loop]
  split
  next e' he =>
    obtain ⟨⟩ := h.symm.trans he
    rfl
  next hleave => cases h.symm.trans hleave
  next hagain => cases h.symm.trans hagain

theorem loop_of_leave (h : ((turn table).runFrom form w).value.1 = .ok .leave) :
    loop table form w =
      let run := (turn table).runFrom form w
      ⟨(.ok (), run.value.2), run.state, run.events⟩ := by
  rw [loop]
  split
  next e he => cases h.symm.trans he
  next => rfl
  next hagain => cases h.symm.trans hagain

theorem loop_of_again (h : ((turn table).runFrom form w).value.1 = .ok .again) :
    loop table form w =
      let run := (turn table).runFrom form w
      let rest := loop table run.value.2 run.state
      { rest with events := run.events ++ rest.events } := by
  rw [loop]
  split
  next e he => cases h.symm.trans he
  next hleave => cases h.symm.trans hleave
  next => rfl

theorem run_of_error {e : Failure} (h : ((opening table).runFrom form w).value.1 = .error e) :
    Shell.run table form w = (opening table).runFrom form w := by
  rw [Shell.run]
  split
  next => rfl
  next hok => cases h.symm.trans hok

theorem run_of_ok (h : ((opening table).runFrom form w).value.1 = .ok ()) :
    Shell.run table form w =
      let first := (opening table).runFrom form w
      let rest := loop table first.value.2 first.state
      { rest with events := first.events ++ rest.events } := by
  rw [Shell.run]
  split
  next e he => cases h.symm.trans he
  next => rfl

end

/-- From a form the shell comes as far as these events. After them it goes on, is left or has
failed, and it has a form. -/
inductive Reaches (table : String) (form : Form) :
    List Console.Event → Except Failure Flow × Form → Prop
  | opened {events : List Console.Event} {result : Except Failure Unit} {form' : Form}
    (h : (opening table form).Yields events (result, form')) :
    Reaches table form events (result.map fun _ => .again, form')
  | turned {before events : List Console.Event} {form' : Form}
    {end_ : Except Failure Flow × Form} (h : Reaches table form before (.ok .again, form'))
    (hturn : (turn table form').Yields events end_) : Reaches table form (before ++ events) end_

end Shell

namespace Console.Compositional

open Session (Stops)
open Shell (Flow)

variable {α : Type} {table : String} {P : (α : Type) → Step α → Prop}

theorem pure (h : Compositional table P) (a : α) : P α (Pure.pure a) :=
  h.silent (fun _ => a) id fun _ => rfl

theorem start (h : Compositional table P) :
    P Listing (Console.lift (Session.start table)) :=
  h.lift .start rfl (Stops.fullyCompositional.start table)

theorem refresh (h : Compositional table P) :
    P Listing (Console.lift (Session.refresh table)) :=
  h.lift .refresh rfl (Stops.fullyCompositional.refresh table)

theorem submit (h : Compositional table P) : P Bool (Console.lift (Session.submit table)) :=
  h.lift .submit rfl (Stops.fullyCompositional.submit table)

theorem create (h : Compositional table P) (title content : String) :
    P Bool (Console.lift (Session.create table title content)) :=
  h.lift (.create title content) rfl (Stops.fullyCompositional.create table title content)

theorem delete (h : Compositional table P) (id : Int64) :
    P Bool (Console.lift (Session.delete table id)) :=
  h.lift (.delete id) rfl (Stops.fullyCompositional.delete table id)

theorem runSql (h : Compositional table P) (text : String) :
    P Reply (Console.lift (Session.runSql text)) :=
  h.lift (.runSql text) rfl (Stops.fullyCompositional.roundTrip _)

theorem fillForm (h : Compositional table P) : P Bool Shell.fillForm := by
  apply h.bind (h.silent id id fun _ => rfl)
  intro form
  apply h.bind (h.prompt _)
  intro title
  cases title with
  | none => exact h.pure false
  | some title =>
    apply h.bind (h.silent (fun _ => PUnit.unit) _ fun _ => rfl)
    intro _
    apply h.bind (h.prompt _)
    intro content
    cases content with
    | none => exact h.pure false
    | some content =>
      exact h.bind (h.silent (fun _ => PUnit.unit) _ fun _ => rfl) fun _ => h.pure true

theorem obey (h : Compositional table P) (command : Shell.Command) :
    P Flow (Shell.obey table command) := by
  cases command with
  | empty => exact h.pure Flow.again
  | help => exact h.bind (h.say _) fun _ => h.pure Flow.again
  | quit => exact h.pure Flow.leave
  | list => exact h.bind h.refresh fun _ => h.pure Flow.again
  | delete id => exact h.bind (h.delete id) fun _ => h.pure Flow.again
  | sql statement =>
    apply h.bind (h.runSql statement)
    intro reply
    exact h.bind (h.showReply reply) fun _ => h.pure Flow.again
  | add =>
    apply h.bind h.fillForm
    intro filled
    cases filled with
    | false => exact h.pure Flow.leave
    | true => exact h.bind h.submit fun _ => h.pure Flow.again

theorem turn (h : Compositional table P) : P Flow (Shell.turn table) := by
  apply h.bind (h.prompt _)
  intro line
  cases line with
  | none => exact h.pure Flow.leave
  | some line =>
    simp only [Shell.obeyLine]
    cases Shell.Command.parse line with
    | error misread => exact h.bind (h.say _) fun _ => h.pure Flow.again
    | ok command => exact h.obey command

theorem opening (h : Compositional table P) : P Unit (Shell.opening table) :=
  h.bind h.start fun _ => h.say Shell.greeting

end Console.Compositional

namespace Console.Cumulative

open Dialogue (Always)

variable {table : String} {P : List Event → Prop}

theorem compositional (h : Cumulative table P) : Compositional table fun _ => Always P where
  silent _ _ hstep := .silent hstep h.nil
  bind hstep hk := hstep.bind h.append hk
  prompt label := .ask (fun _ => rfl) (h.prompt label)
  say line := .ask (fun _ => rfl) (h.say line)
  showReply r := .ask (fun _ => rfl) (h.showReply r)
  lift a _ _ _ ha _ := by
    intro form events end_ hyields
    obtain ⟨es, hes, rfl⟩ := yields_lift hyields
    apply h.perform a
    rw [ha]
    exact Session.map_yields hes

/-- It holds of all that the shell does, however far that comes. -/
theorem reaches (h : Cumulative table P) {form : Form} {events : List Event}
    {end_ : Except Failure Shell.Flow × Form} (hreaches : Shell.Reaches table form events end_) :
    P events := by
  induction hreaches with
  | opened hopening => exact h.compositional.opening hopening
  | turned _ hturn ih => exact h.append ih (h.compositional.turn hturn)

end Console.Cumulative

namespace Shell

variable {table : String} {form form' : Form} {before : List Console.Event}

theorem loop_reaches {w : World Terminal} (h : Reaches table form before (.ok .again, form')) :
    let run := loop table form' w
    ∃ flow, Reaches table form (before ++ run.events) (flow, run.value.2) ∧
      run.value.1 = flow.map fun _ => () := by
  have hturn (form' : Form) (w : World Terminal) {flow : Except Failure Flow}
      (hflow : ((turn table).runFrom form' w).value.1 = flow) :
      let run := (turn table).runFrom form' w
      (turn table form').Yields run.events (flow, run.value.2) := by
    subst hflow
    exact Dialogue.run_yields _ _ _
  induction form', w using loop.induct table generalizing before with
  | case1 form' w run e =>
    rename_i he
    rw [loop_of_error he]
    exact ⟨.error e, h.turned (hturn form' w he), rfl⟩
  | case2 form' w run =>
    rename_i hleave
    rw [loop_of_leave hleave]
    exact ⟨.ok .leave, h.turned (hturn form' w hleave), rfl⟩
  | case3 form' w run =>
    rename_i hagain ih
    rw [loop_of_again hagain]
    obtain ⟨flow, hreaches, hvalue⟩ := ih (h.turned (hturn form' w hagain))
    refine ⟨flow, ?_, hvalue⟩
    rw [← List.append_assoc]
    exact hreaches

/-- What the shell does on a terminal is what it may do, up to where it is left or fails. -/
theorem run_reaches (table : String) (form : Form) (w : World Terminal) :
    let run := Shell.run table form w
    ∃ flow, Reaches table form run.events (flow, run.value.2) ∧
      run.value.1 = flow.map fun _ => () := by
  have hopening : (opening table form).Yields ((opening table).runFrom form w).events
      (((opening table).runFrom form w).value.1, ((opening table).runFrom form w).value.2) :=
    Dialogue.run_yields _ _ _
  have hopened := Reaches.opened hopening
  cases hresult : ((opening table).runFrom form w).value.1 with
  | error e =>
    rw [hresult] at hopened
    rw [run_of_error hresult]
    exact ⟨.error e, hopened, hresult⟩
  | ok _ =>
    rw [hresult] at hopened
    rw [run_of_ok hresult]
    exact loop_reaches hopened

end Shell
end RemoteNotebook
