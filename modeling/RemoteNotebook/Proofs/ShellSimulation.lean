import RemoteNotebook.Proofs.Completion
import RemoteNotebook.Proofs.SameAnswers
import RemoteNotebook.Proofs.ShellEntries
import RemoteNotebook.Proofs.ShellRuns

/-! The shell as a session. What is typed for some actions is read line by line as these actions,
and the shell does what a session does that performs them. -/
namespace RemoteNotebook

namespace Terminal

variable {t : Terminal} {input : List UInt8}

theorem Waits.after (h : t.Waits input) {cs : List Call} (hcs : Surface.questions cs = 0) :
    (surface.after cs t).Waits input := by
  induction cs generalizing t with
  | nil => exact h
  | cons c cs ih =>
    obtain ⟨hc, hcs⟩ := Surface.questions_cons_eq_zero hcs
    have hnext : (surface c t).2.Waits input := by
      cases c with
      | confirm prompt => exact absurd rfl hc
      | setStatus status => exact ⟨h.input, h.asks⟩
      | showNotes listing => exact ⟨h.input, h.asks⟩
      | alert message => exact ⟨h.input, h.asks⟩
    exact ih hnext hcs

/-- Where nothing is asked, a terminal answers like every surface that fails no call. -/
theorem agrees_surface {σ : Type} {S : Surface σ} {s : σ} (hS : S.Reliable s) {cs : List Call}
    (hcs : Surface.questions cs = 0) (t : Terminal) : S.Agrees surface cs s t := by
  induction cs generalizing s t with
  | nil => trivial
  | cons c cs ih =>
    obtain ⟨hc, hcs⟩ := Surface.questions_cons_eq_zero hcs
    refine ⟨?_, ih (hS.next c) hcs _⟩
    obtain ⟨answer, hanswer⟩ := hS.answers c
    cases c with
    | confirm prompt => exact absurd rfl hc
    | setStatus status => exact hanswer
    | showNotes listing => exact hanswer
    | alert message => exact hanswer

end Terminal

namespace Session

theorem Action.Completes.asks_nothing {table : String} {a : Action} {form form' : Form}
    {events : List Event} {result : Result} (h : a.Completes table form events result form')
    (ha : ∀ id, a ≠ .delete id) : Surface.questions (calls events) = 0 := by
  induction h with
  | start => rfl
  | refresh => rfl
  | stored => rfl
  | rejected => rfl
  | create _ _ _ _ _ _ _ ih => exact ih fun id => by simp
  | deleted form id => exact absurd rfl (ha id)
  | declined form id => exact absurd rfl (ha id)
  | ran => rfl
  | filled => rfl

theorem Action.Completes.asks_once {table : String} {id : Int64} {form form' : Form}
    {events : List Event} {result : Result}
    (h : (Action.delete id).Completes table form events result form') :
    ∃ rest, calls events = .confirm deletePrompt :: rest ∧ Surface.questions rest = 0 := by
  cases h with
  | deleted => exact ⟨_, rfl, rfl⟩
  | declined => exact ⟨[], rfl, rfl⟩

end Session

namespace Shell

open Console (sessionEvents)
open Session (Action calls)
open Terminal (IsLine lineBytes answerLine)

/-- A run on the console that does what is done in a session: it ends with this value and form, with
these events of the session, in such a world and with this input left. -/
structure Mirrors {σ β : Type} (run : Console.Run β) (b : β) (form : Form)
    (events : List Session.Event) (v : World σ) (rest : List UInt8) : Prop where
  value : run.value = (.ok b, form)
  events : sessionEvents run.events = events
  alike : v.Alike run.state
  waits : run.state.surface.Waits rest

section

variable {σ α β : Type} {v v' : World σ} {w : World Terminal} {form form' form'' : Form}
  {input rest : List UInt8}

theorem Mirrors.after {run : Console.Run β} {b : β} {events events' : List Session.Event}
    (h : Mirrors run b form events' v rest) {first : List Console.Event}
    (hfirst : sessionEvents first = events) :
    Mirrors { run with events := first ++ run.events } b form (events ++ events') v rest where
  value := h.value
  events := by
    rw [← hfirst, ← h.events]
    exact List.filterMap_append
  alike := h.alike
  waits := h.waits

theorem Mirrors.bind {step : Console.Step α} {k : α → Console.Step β} {a : α} {b : β}
    {events events' : List Session.Event}
    (h : Mirrors (step.runFrom form w) a form' events v input)
    (hk : ∀ w', v.Alike w' → w'.surface.Waits input →
      Mirrors ((k a).runFrom form' w') b form'' events' v' rest) :
    Mirrors ((step >>= k).runFrom form w) b form'' (events ++ events') v' rest := by
  have hrun : step.runFrom form w =
      ⟨(.ok a, form'), (step.runFrom form w).state, (step.runFrom form w).events⟩ := by
    rw [← h.value]
  rw [Console.run_bind_ok hrun]
  exact (hk _ h.alike h.waits).after h.events

/-- A step before which nothing of the session happens. -/
theorem Mirrors.silent_bind {step : Console.Step α} {k : α → Console.Step β} {a : α} {b : β}
    {events : List Session.Event} (h : Mirrors (step.runFrom form w) a form' [] v input)
    (hk : ∀ w', v.Alike w' → w'.surface.Waits input →
      Mirrors ((k a).runFrom form' w') b form'' events v' rest) :
    Mirrors ((step >>= k).runFrom form w) b form'' events v' rest :=
  h.bind hk

theorem Mirrors.bind_silent {step : Console.Step α} {k : α → Console.Step β} {a : α} {b : β}
    {events : List Session.Event} (h : Mirrors (step.runFrom form w) a form' events v input)
    (hk : ∀ w', v.Alike w' → w'.surface.Waits input →
      Mirrors ((k a).runFrom form' w') b form'' [] v' rest) :
    Mirrors ((step >>= k).runFrom form w) b form'' events v' rest := by
  rw [← List.append_nil events]
  exact h.bind hk

theorem pure_mirrors (b : β) (hv : v.Alike w) (hw : w.surface.Waits rest) :
    Mirrors ((pure b : Console.Step β).runFrom form w) b form [] v rest :=
  ⟨rfl, rfl, hv, hw⟩

theorem say_mirrors (line : String) (hv : v.Alike w) (hw : w.surface.Waits rest) :
    Mirrors ((Console.say line).runFrom form w) () form [] v rest :=
  ⟨rfl, rfl, ⟨hv.ids, hv.outcomes, hv.drawn, hv.sent⟩, ⟨hw.input, hw.asks⟩⟩

theorem showReply_mirrors (reply : Reply) (hv : v.Alike w) (hw : w.surface.Waits rest) :
    Mirrors ((Console.showReply reply).runFrom form w) () form [] v rest := by
  refine ⟨rfl, rfl, ⟨hv.ids, hv.outcomes, hv.drawn, hv.sent⟩, ?_⟩
  change (w.surface.showReply reply).Waits rest
  rw [Terminal.showReply]
  split
  · exact ⟨hw.input, hw.asks⟩
  · exact ⟨hw.input, hw.asks⟩

/-- Where a line is read, or the end of the input, it is the answer to the prompt. -/
theorem prompt_mirrors {label : String} {line : Option String} (hv : v.Alike w)
    (hasks : w.surface.assumeYes = false)
    (hread : (w.surface.write label).readLine =
      (.ok line, { w.surface.write label with input := rest })) :
    Mirrors ((Console.prompt label).runFrom form w) line form [] v rest := by
  have hrun : (Console.prompt label).runFrom form w =
      ⟨(.ok line, form), { w with surface := { w.surface.write label with input := rest } },
        [⟨.prompt label, .ok line⟩]⟩ := by
    rw [← bind_pure (Console.prompt label), Console.Step.runFrom, Console.prompt_bind,
      Dialogue.run_ask]
    simp only [Console.answer, Terminal.prompt, hread]
    rfl
  rw [hrun]
  exact ⟨rfl, rfl, ⟨hv.ids, hv.outcomes, hv.drawn, hv.sent⟩, ⟨rfl, hasks⟩⟩

theorem prompt_line_mirrors {line : String} (hline : IsLine line) (label : String)
    (hv : v.Alike w) (hw : w.surface.Waits (lineBytes line ++ rest)) :
    Mirrors ((Console.prompt label).runFrom form w) (some line) form [] v rest :=
  prompt_mirrors hv hw.asks (Terminal.readLine_lineBytes hline hw.input)

end

variable {σ α β : Type} {S : Surface σ} {s : Session σ} {w : World Terminal}
  {rest : List UInt8}

/-- A step of an action does on the console what the action does in a session, as far as the
terminal answers its calls alike. -/
theorem lift_mirrors {a : Action} {step : Session.Step α} {f : α → Session.Result} {form : Form}
    (hstep : a.step s.table s.form = (f <$> step) form) (hS : S.Reliable s.world.surface)
    (hw : s.world.Alike w)
    (hcalls : S.Agrees Terminal.surface (calls (s.performing S a).events) s.world.surface w.surface)
    (hwaits : (Terminal.surface.after (calls (s.performing S a).events) w.surface).Waits rest) :
    let p := s.performing S a
    ∃ x, Mirrors ((Console.lift step).runFrom form w) x p.after p.events (s.perform S a).2.world
      rest := by
  intro p
  let first := step.runFrom form (World.answer Terminal.surface) w
  have hrun : (a.step s.table s.form).run (World.answer Terminal.surface) w =
      ⟨(first.value.1.map f, first.value.2), first.state, first.events⟩ := by
    rw [hstep]
    exact Session.run_map step f form _ w
  obtain ⟨hvalue, hevents, halike⟩ := Session.run_agrees (d := a.step s.table s.form) hw hcalls
  have hsurface := (Session.surface_chains Terminal.surface).run (a.step s.table s.form) w
  obtain ⟨result, hresult, -⟩ := Session.performing_completes hS a
  rw [hrun] at hvalue hevents halike hsurface
  have hform : first.value.2 = p.after := congrArg Prod.snd hvalue
  have hok : first.value.1.map f = .ok result := (congrArg Prod.fst hvalue).trans hresult
  have hfirst : first.events = p.events := hevents
  have hends : first.state.surface.Waits rest := by
    rw [hsurface, hfirst]
    exact hwaits
  cases hend : first.value.1 with
  | error e =>
    rw [hend] at hok
    cases hok
  | ok x =>
    refine ⟨x, ?_⟩
    rw [Console.run_lift rfl]
    refine ⟨Prod.ext hend hform, ?_, halike, hends⟩
    rw [← hfirst]
    exact Console.filterMap_session?_ofSession first.events

theorem lift_mirrors_of_no_question {a : Action} (ha : ∀ id, a ≠ .delete id)
    {step : Session.Step α} {f : α → Session.Result} {form : Form}
    (hstep : a.step s.table s.form = (f <$> step) form) (hS : S.Reliable s.world.surface)
    (hw : s.world.Alike w) (hwaits : w.surface.Waits rest) :
    let p := s.performing S a
    ∃ x, Mirrors ((Console.lift step).runFrom form w) x p.after p.events (s.perform S a).2.world
      rest := by
  obtain ⟨result, -, hcompletes⟩ := Session.performing_completes hS a
  have hnone := hcompletes.asks_nothing ha
  exact lift_mirrors hstep hS hw (Terminal.agrees_surface hS hnone _) (hwaits.after hnone)

theorem lift_delete_mirrors {id : Int64} {agreed : Nat → Bool}
    (hS : S.Answers s.world.surface agreed) (hw : s.world.Alike w)
    (hwaits : w.surface.Waits (lineBytes (answerLine (agreed 0)) ++ rest)) :
    let p := s.performing S (.delete id)
    ∃ x, Mirrors ((Console.lift (Session.delete s.table id)).runFrom s.form w) x p.after p.events
      (s.perform S (.delete id)).2.world rest := by
  intro p
  obtain ⟨result, -, hcompletes⟩ := Session.performing_completes hS.reliable (.delete id)
  obtain ⟨others, hcalls, hnone⟩ := hcompletes.asks_once
  obtain ⟨hanswer, hleft⟩ := Terminal.surface_confirm hwaits Session.deletePrompt
  have hagrees := Terminal.agrees_surface (hS.reliable.next (.confirm Session.deletePrompt)) hnone
    (Terminal.surface (.confirm Session.deletePrompt) w.surface).2
  refine lift_mirrors (f := .done) rfl hS.reliable hw ?_ ?_
  · rw [hcalls]
    exact ⟨(hS.answer _).trans hanswer.symm, hagrees⟩
  · rw [hcalls]
    exact hleft.after hnone

theorem refill_of_ne {typed : String} (h : typed ≠ "") (current : String) :
    refill typed current = typed := if_neg (by simpa using h)

/-- Both fields of the form are typed. A field where nothing is typed keeps what it holds. -/
theorem fillForm_mirrors {title content : String} (ht : IsLine title) (hc : IsLine content)
    (form : Form) {v : World σ} (hv : v.Alike w)
    (hw : w.surface.Waits (lineBytes title ++ (lineBytes content ++ rest))) :
    Mirrors (fillForm.runFrom form w) true ⟨refill title form.title, refill content form.content⟩
      [] v rest := by
  have hget : Mirrors ((get : Console.Step Form).runFrom form w) form form [] v _ :=
    ⟨rfl, rfl, hv, hw⟩
  refine hget.silent_bind fun w hv hw => ?_
  refine (prompt_line_mirrors ht _ hv hw).silent_bind fun w hv hw => ?_
  have hset : Mirrors ((set { form with title := refill title form.title } :
      Console.Step PUnit).runFrom form w) ⟨⟩ ⟨refill title form.title, form.content⟩ [] v
      (lineBytes content ++ rest) := ⟨rfl, rfl, hv, hw⟩
  refine hset.silent_bind fun w hv hw => ?_
  refine (prompt_line_mirrors hc _ hv hw).silent_bind fun w hv hw => ?_
  have hmodify : Mirrors ((modify fun form => { form with content := refill content form.content } :
      Console.Step PUnit).runFrom ⟨refill title form.title, form.content⟩ w) ⟨⟩
      ⟨refill title form.title, refill content form.content⟩ [] v rest := ⟨rfl, rfl, hv, hw⟩
  exact hmodify.silent_bind fun w hv hw => pure_mirrors true hv hw

/-- What follows the first line of an entry does what its action does in a session. -/
theorem obey_mirrors {e : Entry} (he : e.Typeable) {agreed : Nat → Bool}
    (hS : S.Answers s.world.surface agreed) (hagreed : ∀ b, e.agreed? = some b → agreed 0 = b)
    (hw : s.world.Alike w) (hwaits : w.surface.Waits (e.details.flatMap lineBytes ++ rest)) :
    let p := s.performing S e.action
    Mirrors ((obey s.table e.command).runFrom s.form w) .again p.after p.events
      (s.perform S e.action).2.world rest := by
  cases e with
  | list =>
    obtain ⟨_, h⟩ := lift_mirrors_of_no_question (a := .refresh) (f := .shown)
      (fun id => by simp) rfl hS.reliable hw hwaits
    exact h.bind_silent fun w hv hw => pure_mirrors Flow.again hv hw
  | sql statement =>
    obtain ⟨reply, h⟩ := lift_mirrors_of_no_question (a := .runSql statement) (f := .reply)
      (fun id => by simp) rfl hS.reliable hw hwaits
    refine h.bind_silent fun w hv hw => ?_
    exact (showReply_mirrors reply hv hw).silent_bind fun w hv hw => pure_mirrors Flow.again hv hw
  | delete id b =>
    have hb : agreed 0 = b := hagreed b rfl
    subst hb
    simp only [Entry.details, List.flatMap_cons, List.flatMap_nil, List.append_nil] at hwaits
    obtain ⟨_, h⟩ := lift_delete_mirrors hS hw hwaits
    exact h.bind_silent fun w hv hw => pure_mirrors Flow.again hv hw
  | add title content =>
    simp only [Entry.details, List.flatMap_cons, List.flatMap_nil, List.append_nil,
      List.append_assoc] at hwaits
    have hfill := fillForm_mirrors he.1.2 he.2.2 s.form hw hwaits
    rw [refill_of_ne he.1.1, refill_of_ne he.2.1] at hfill
    refine hfill.silent_bind fun w hw hwaits => ?_
    -- The typed fields replace whatever the form held, as the fields of a created note do.
    have hstep : (Action.create title content).step s.table s.form =
        (Session.Result.done <$> Session.submit s.table) ⟨title, content⟩ := rfl
    obtain ⟨_, h⟩ := lift_mirrors_of_no_question (fun id => by simp) hstep hS.reliable hw hwaits
    exact h.bind_silent fun w hv hw => pure_mirrors Flow.again hv hw

theorem turn_mirrors {e : Entry} (he : e.Typeable) {agreed : Nat → Bool}
    (hS : S.Answers s.world.surface agreed) (hagreed : ∀ b, e.agreed? = some b → agreed 0 = b)
    (hw : s.world.Alike w) (hwaits : w.surface.Waits (e.bytes ++ rest)) :
    let p := s.performing S e.action
    Mirrors ((turn s.table).runFrom s.form w) .again p.after p.events
      (s.perform S e.action).2.world rest := by
  rw [Entry.bytes, List.flatMap_cons, List.append_assoc] at hwaits
  refine (prompt_line_mirrors (Entry.isLine_line he) promptLabel hw hwaits).silent_bind
    fun w hw hwaits => ?_
  change Mirrors ((obeyLine s.table e.line).runFrom s.form w) _ _ _ _ _
  rw [obeyLine, Entry.parse_line he]
  exact obey_mirrors he hS hagreed hw hwaits

/-- An action asks as often as its entry has an answer. -/
theorem questions_action (hS : S.Reliable s.world.surface) (e : Entry) :
    Surface.questions (calls (s.performing S e.action).events) = e.agreed?.toList.length := by
  obtain ⟨result, -, hcompletes⟩ := Session.performing_completes hS e.action
  cases e with
  | list => exact hcompletes.asks_nothing fun id => by simp [Entry.action]
  | sql statement => exact hcompletes.asks_nothing fun id => by simp [Entry.action]
  | add title content => exact hcompletes.asks_nothing fun id => by simp [Entry.action]
  | delete id agreed =>
    obtain ⟨others, hcalls, hnone⟩ := Session.Action.Completes.asks_once hcompletes
    rw [hcalls, Surface.questions, List.countP_cons_of_pos (by decide)]
    exact congrArg (· + 1) hnone

/-- The answers that a surface still gives are those of the entries to come. -/
theorem answers_rest {e : Entry} {entries : List Entry} {agreed : Nat → Bool}
    (h : ∀ n b, ((e :: entries).filterMap Entry.agreed?)[n]? = some b → agreed n = b) (n : Nat)
    (b : Bool) (hb : (entries.filterMap Entry.agreed?)[n]? = some b) :
    agreed (n + e.agreed?.toList.length) = b := by
  apply h
  rw [List.filterMap_eq_flatMap_toList, List.flatMap_cons, ← List.filterMap_eq_flatMap_toList,
    List.getElem?_append_right (Nat.le_add_left ..), Nat.add_sub_cancel]
  exact hb

def Leaves (last : List UInt8) : Prop :=
  last = lineBytes "quit" ∨ last = Text.Utf8.encode "quit".toList

theorem leave_mirrors {table : String} {last : List UInt8} (hlast : Leaves last) {form : Form}
    {v : World σ} (hv : v.Alike w) (hw : w.surface.Waits last) :
    Mirrors ((turn table).runFrom form w) Flow.leave form [] v [] := by
  have hquit : IsLine "quit" := ⟨by decide, by decide⟩
  have hparse : Command.parse "quit" = .ok .quit := by decide
  have hread : (w.surface.write promptLabel).readLine =
      (.ok (some "quit"), { w.surface.write promptLabel with input := [] }) := by
    obtain rfl | rfl := hlast
    · exact Terminal.readLine_lineBytes hquit (hw.input.trans (List.append_nil _).symm)
    · exact Terminal.readLine_last hquit (by decide) hw.input
  refine (prompt_mirrors hv hw.asks hread).silent_bind fun w hv hw => ?_
  change Mirrors ((obeyLine table "quit").runFrom form w) _ _ _ _ _
  rw [obeyLine, hparse]
  exact pure_mirrors Flow.leave hv hw

section

variable {table : String} {form form' form'' : Form} {v v' : World σ} {input : List UInt8}
  {events events' : List Session.Event}

theorem loop_mirrors_of_leave
    (h : Mirrors ((turn table).runFrom form w) Flow.leave form' events v rest) :
    Mirrors (loop table form w) () form' events v rest := by
  have hform : ((turn table).runFrom form w).value.2 = form' := congrArg Prod.snd h.value
  rw [loop_of_leave (congrArg Prod.fst h.value)]
  exact ⟨congrArg (Except.ok (), ·) hform, h.events, h.alike, h.waits⟩

theorem loop_mirrors_of_again
    (h : Mirrors ((turn table).runFrom form w) Flow.again form' events v input)
    (hrest : ∀ w', v.Alike w' → w'.surface.Waits input →
      Mirrors (loop table form' w') () form'' events' v' rest) :
    Mirrors (loop table form w) () form'' (events ++ events') v' rest := by
  have hform : ((turn table).runFrom form w).value.2 = form' := congrArg Prod.snd h.value
  have hloop := hrest _ h.alike h.waits
  rw [← hform] at hloop
  rw [loop_of_again (congrArg Prod.fst h.value)]
  exact hloop.after h.events

theorem run_mirrors_of_opening
    (h : Mirrors ((opening table).runFrom form w) () form' events v input)
    (hrest : ∀ w', v.Alike w' → w'.surface.Waits input →
      Mirrors (loop table form' w') () form'' events' v' rest) :
    Mirrors (Shell.run table form w) () form'' (events ++ events') v' rest := by
  have hform : ((opening table).runFrom form w).value.2 = form' := congrArg Prod.snd h.value
  have hloop := hrest _ h.alike h.waits
  rw [← hform] at hloop
  rw [run_of_ok (congrArg Prod.fst h.value)]
  exact hloop.after h.events

end

/-- The turns do what the actions do one by one, and then the shell is left. -/
theorem loop_mirrors {entries : List Entry} (he : ∀ e ∈ entries, e.Typeable) {agreed : Nat → Bool}
    (hS : S.Answers s.world.surface agreed)
    (hagreed : ∀ n b, (entries.filterMap Entry.agreed?)[n]? = some b → agreed n = b)
    {last : List UInt8} (hlast : Leaves last) (hw : s.world.Alike w)
    (hwaits : w.surface.Waits (entries.flatMap Entry.bytes ++ last)) :
    let as := entries.map Entry.action
    Mirrors (loop s.table s.form w) () (s.performAll S as).2.form
      (Session.historyEvents (s.history S as)) (s.performAll S as).2.world [] := by
  -- The session goes on from the state that its first action leaves, with fewer answers to come, so
  -- the induction is for all sessions and answers.
  induction entries generalizing s w agreed with
  | nil => exact loop_mirrors_of_leave (leave_mirrors hlast hw hwaits)
  | cons e entries ih =>
    rw [List.forall_mem_cons] at he
    rw [List.flatMap_cons, List.append_assoc] at hwaits
    have hfirst : ∀ b, e.agreed? = some b → agreed 0 = b := by
      intro b hb
      exact hagreed 0 b (by simp [hb])
    have hS' := hS.after (calls (s.performing S e.action).events)
    rw [questions_action hS.reliable, ← Session.perform_surface] at hS'
    exact loop_mirrors_of_again (turn_mirrors he.1 hS hfirst hw hwaits) fun w hw hwaits =>
      ih (s := (s.perform S e.action).2) he.2 hS' (answers_rest hagreed) hw hwaits

/-- The shell creates the table and lists what is in it before its first turn. -/
theorem opening_mirrors (hS : S.Reliable s.world.surface) (hw : s.world.Alike w)
    (hwaits : w.surface.Waits rest) :
    let p := s.performing S .start
    Mirrors ((opening s.table).runFrom s.form w) () p.after p.events (s.perform S .start).2.world
      rest := by
  obtain ⟨_, h⟩ := lift_mirrors_of_no_question (a := .start) (f := .shown) (fun id => by simp) rfl
    hS hw hwaits
  exact h.bind_silent fun w hv hw => say_mirrors greeting hv hw

theorem run_mirrors {entries : List Entry} (he : ∀ e ∈ entries, e.Typeable) {agreed : Nat → Bool}
    (hS : S.Answers s.world.surface agreed)
    (hagreed : ∀ n b, (entries.filterMap Entry.agreed?)[n]? = some b → agreed n = b)
    {last : List UInt8} (hlast : Leaves last) (hw : s.world.Alike w)
    (hwaits : w.surface.Waits (entries.flatMap Entry.bytes ++ last)) :
    let as := .start :: entries.map Entry.action
    Mirrors (Shell.run s.table s.form w) () (s.performAll S as).2.form
      (Session.historyEvents (s.history S as)) (s.performAll S as).2.world [] := by
  obtain ⟨result, -, hcompletes⟩ := Session.performing_completes hS.reliable .start
  have hS' := hS.after (calls (s.performing S .start).events)
  rw [hcompletes.asks_nothing fun id => by simp, ← Session.perform_surface] at hS'
  exact run_mirrors_of_opening (opening_mirrors hS.reliable hw hwaits) fun w hw hwaits =>
    loop_mirrors (s := (s.perform S .start).2) he hS' hagreed hlast hw hwaits

/-- Whatever is typed for some actions, the shell reads all of it and ends as it should. It does
what a session does that starts and performs these actions on a surface which fails no call and
answers its questions as they are typed: it sends the same queries, shows the same listings and ends
with the same form. -/
theorem run_entries (S : Surface σ) {s : Session σ} {entries : List Entry}
    (he : ∀ e ∈ entries, e.Typeable) {agreed : Nat → Bool}
    (hS : S.Answers s.world.surface agreed)
    (hagreed : ∀ n b, (entries.filterMap Entry.agreed?)[n]? = some b → agreed n = b)
    {w : World Terminal} (hw : s.world.Alike w) (hasks : w.surface.assumeYes = false)
    {last : List UInt8} (hlast : Leaves last)
    (hinput : w.surface.input = entries.flatMap Entry.bytes ++ last) :
    let run := Shell.run s.table s.form w
    let as := .start :: entries.map Entry.action
    let done := Session.historyEvents (s.history S as)
    run.value = (.ok (), (s.performAll S as).2.form) ∧ run.state.surface.input = [] ∧
      (s.performAll S as).2.log = s.log ++ done ∧ sessionEvents run.events = done ∧
      Console.queries run.events = Session.queries done ∧
      Session.listings (sessionEvents run.events) = Session.listings done := by
  intro run as done
  have hrun := run_mirrors he hS hagreed hlast hw ⟨hinput, hasks⟩
  have hevents : sessionEvents run.events = done := hrun.events
  exact ⟨hrun.value, hrun.waits.input, Session.performAll_log s as, hevents,
    congrArg Session.queries hevents, congrArg Session.listings hevents⟩

/-- Notes that look like commands are typed. The first is rejected and the second is stored; one
deletion is declined and one is not. -/
theorem run_entries_rejected :
    let entries : List Entry := [.add "quit" "delete 1", .add "list" "y", .delete (-3) false,
      .sql "SELECT 1;", .delete 7 true]
    let outcomes : Nat → Outcome := fun n =>
      .connected (if n = 2 then .failed "Table is locked" else {})
    let s : Session Recorder :=
      ⟨"notes", {}, ⟨{ answers := [false, true] }, fun n => .ofNat n, outcomes, 0, 0⟩, []⟩
    let typed := entries.flatMap Entry.bytes ++ lineBytes "quit"
    let w : World Terminal := ⟨{ input := typed }, fun n => .ofNat n, outcomes, 0, 0⟩
    let run := Shell.run "notes" {} w
    Recorder.surface.Answers s.world.surface (fun n => [false, true][n]?.getD false) ∧
      s.world.Alike w ∧ (∀ e ∈ entries, e.Typeable) ∧
      run.value = (.ok (), Form.empty) ∧ run.state.surface.input = [] ∧
      Console.queries run.events =
        [.statement (.createTable "notes"), .statement (.select "notes"),
          .statement (.insert "notes" ⟨0, "quit", "delete 1"⟩),
          .statement (.insert "notes" ⟨1, "list", "y"⟩), .statement (.select "notes"),
          .raw "SELECT 1;", .statement (.delete "notes" 7), .statement (.select "notes")] := by
  intro entries outcomes s typed w run
  have hS : Recorder.surface.Answers s.world.surface fun n => [false, true][n]?.getD false :=
    Recorder.surface_answers rfl
  have hw : s.world.Alike w := ⟨rfl, rfl, rfl, rfl⟩
  have htext (text : String) (h : text ≠ "" ∧ '\n' ∉ text.toList ∧
      text.toList.getLast? ≠ some '\r') : text ≠ "" ∧ IsLine text := ⟨h.1, h.2.1, h.2.2⟩
  have hsql : (Entry.sql "SELECT 1;").Typeable := by
    refine ⟨by decide, by decide, ?_, ?_⟩
    · rintro c ⟨⟩
      decide
    · rintro c ⟨⟩
      decide
  have he : ∀ e ∈ entries, e.Typeable := by
    simp only [entries, List.forall_mem_cons]
    exact ⟨⟨htext _ (by decide), htext _ (by decide)⟩, ⟨htext _ (by decide), htext _ (by decide)⟩,
      trivial, hsql, trivial, by simp⟩
  have hagreed : ∀ (n : Nat) (b : Bool), (entries.filterMap Entry.agreed?)[n]? = some b →
      ([false, true][n]?).getD false = b := by
    intro n b hb
    exact congrArg (Option.getD · false) hb
  obtain ⟨hvalue, hinput, -, -, hqueries, -⟩ :=
    run_entries Recorder.surface he hS hagreed hw rfl (.inl rfl) rfl
  have hform : (s.performAll Recorder.surface (.start :: entries.map Entry.action)).2.form =
      Form.empty := by decide +kernel
  refine ⟨hS, hw, he, ?_, hinput, hqueries.trans ?_⟩
  · rw [hvalue, hform]
  · decide +kernel

end Shell
end RemoteNotebook
