import RemoteNotebook.Proofs.TurnLines

/-! The end of the shell. On every input it ends: each turn reads a line or is the last one, and so
what is sent is bounded by what is read. -/
namespace RemoteNotebook
namespace Shell

open Console (Event Hears ReadsTo reads queries)
open Text (inputLines)

/-- How the shell ends with these lines to come. It sends no more queries than it reads lines. It
ends well if it is left or comes to the end of the input, and it fails if a line that it reads is no
text: then that is the last thing it does. -/
structure Ended (lines : List (List UInt8)) (events : List Console.Event)
    (result : Except Failure Unit) : Prop where
  reads_pos : 0 < reads events
  sends : (queries events).length ≤ (lines.take (reads events)).length
  ok_iff : result = .ok () ↔ Quits events ∨ lines.length < reads events
  error_iff : ∀ e, result = .error e ↔
    e = .file .notText ∧ ∃ line ∈ lines.take (reads events), Text.Utf8.decode line = none
  fails_last : ∀ e, result = .error e → ∃ before last line, events = before ++ [last] ∧
    reads [last] = 1 ∧ lines.take (reads events) = lines.take (reads before) ++ [line] ∧
    Text.Utf8.decode line = none

section

variable {table : String} {form : Form} {events later : List Console.Event}
  {end_ : Except Failure Flow × Form} {lines : List (List UInt8)}

theorem Turned.sends (h : Turned table form events end_) (hhears : Hears lines events) :
    (queries events).length ≤ (lines.take (reads events)).length := by
  rw [List.length_take]
  by_cases hend : lines.length < reads events
  · rw [(h.ends hhears hend).1]
    exact Nat.zero_le _
  · have hsent := h.length_queries_le_reads hhears
    omega

/-- A turn in which all lines are texts does not fail, and any other does. -/
theorem Turned.error_iff (h : Turned table form events end_) (hhears : Hears lines events)
    (e : Failure) : end_.1 = .error e ↔
      e = .file .notText ∧ ∃ line ∈ lines.take (reads events), Text.Utf8.decode line = none := by
  constructor
  · intro hend
    obtain ⟨before, last, rfl, hlast⟩ := h.fails hend
    obtain ⟨rfl, -, -, line, htake, hdecode⟩ := hhears.unread hlast
    refine ⟨rfl, line, ?_, hdecode⟩
    rw [htake]
    exact List.mem_append_right _ (List.mem_singleton.mpr rfl)
  · rintro ⟨rfl, line, hline, hdecode⟩
    cases hend : end_.1 with
    | ok flow => exact absurd hdecode (hhears.decodes (h.unread?_eq_none hend) line hline)
    | error e =>
      obtain ⟨before, last, rfl, hlast⟩ := h.fails hend
      rw [(hhears.unread hlast).1]

/-- The shell ends with a turn after which it does not go on. -/
theorem Turned.last_ended (h : Turned table form events end_) (hhears : Hears lines events)
    (hend : end_.1 ≠ .ok .again) : Ended lines events (end_.1.map fun _ => ()) := by
  have herror (e : Failure) : end_.1.map (fun _ => ()) = .error e ↔ end_.1 = .error e := by
    cases end_.1 <;> simp [Except.map]
  refine ⟨h.reads_pos, h.sends hhears, ⟨fun hok => ?_, fun hdone => ?_⟩, fun e => ?_,
    fun e he => ?_⟩
  · have hleave : end_.1 = .ok .leave := by
      cases hflow : end_.1 with
      | error e =>
        rw [hflow] at hok
        cases hok
      | ok flow =>
        cases flow with
        | again => exact absurd hflow hend
        | leave => rfl
    exact h.quits_of_leave hhears hleave
  · have hleave : end_.1 = .ok .leave := by
      rcases hdone with hquits | hlt
      · exact h.leave_of_quits hquits
      · exact (h.ends hhears hlt).2.resolve_right fun hagain => hend hagain.1
    rw [hleave]
    rfl
  · rw [herror, h.error_iff hhears]
  · obtain ⟨before, last, rfl, hlast⟩ := h.fails ((herror e).mp he)
    obtain ⟨-, hone, -, line, htake, hdecode⟩ := hhears.unread hlast
    exact ⟨before, last, line, rfl, hone, htake, hdecode⟩

/-- After a turn the shell ends as it does with the lines that are left. -/
theorem Turned.again_ended (h : Turned table form events end_) (hhears : Hears lines events)
    (hagain : end_.1 = .ok .again) {result : Except Failure Unit}
    (hlater : Ended (lines.drop (reads events)) later result) :
    Ended lines (events ++ later) result := by
  have htake : lines.take (reads (events ++ later)) =
      lines.take (reads events) ++ (lines.drop (reads events)).take (reads later) := by
    rw [Console.reads_append, List.take_add]
  have hnotQuits : ¬ Quits events := by
    intro hquits
    cases hagain.symm.trans (h.leave_of_quits hquits)
  have htexts := hhears.decodes (h.unread?_eq_none hagain)
  have hpos := hlater.reads_pos
  refine ⟨?_, ?_, ?_, fun e => ?_, fun e he => ?_⟩
  · rw [Console.reads_append]
    omega
  · rw [htake, List.length_append, Console.queries_append, List.length_append]
    exact Nat.add_le_add (h.sends hhears) hlater.sends
  · rw [hlater.ok_iff, quits_append, Console.reads_append, List.length_drop,
      or_iff_right hnotQuits]
    -- Where the end was come to before, the next turn comes to it again.
    refine or_congr_right ?_
    omega
  · rw [hlater.error_iff, htake]
    refine and_congr_right fun _ => ⟨?_, ?_⟩
    · rintro ⟨line, hline, hdecode⟩
      exact ⟨line, List.mem_append_right _ hline, hdecode⟩
    · rintro ⟨line, hline, hdecode⟩
      rcases List.mem_append.mp hline with hline | hline
      · exact absurd hdecode (htexts line hline)
      · exact ⟨line, hline, hdecode⟩
  · obtain ⟨before, last, line, rfl, hone, hlast, hdecode⟩ := hlater.fails_last e he
    refine ⟨events ++ before, last, line, (List.append_assoc ..).symm, hone, ?_, hdecode⟩
    rw [htake, hlast, Console.reads_append, List.take_add, List.append_assoc]

end

structure Pass where
  form : Form
  world : World Terminal

namespace Pass

variable (table : String) (p : Pass)

def run : Console.Run Flow := (turn table).runFrom p.form p.world

def consumed : List (List UInt8) :=
  (inputLines p.world.surface.input).take (reads (p.run table).events)

structure UsesInput : Prop where
  input : p.world.surface.input =
    (p.consumed table).flatten ++ (p.run table).state.surface.input
  sends : (queries (p.run table).events).length ≤ (p.consumed table).length
  goesOn : (p.run table).value.1 = .ok .again → p.consumed table ≠ []
  ends : (inputLines p.world.surface.input).length < reads (p.run table).events →
    queries (p.run table).events = [] ∧ ((p.run table).value.1 = .ok .leave ∨
      (p.run table).value.1 = .ok .again ∧
        ⟨.session (.call (.confirm Session.deletePrompt)), .ok false⟩ ∈ (p.run table).events)

variable {table p}

theorem readsTo_run (hasks : p.world.surface.assumeYes = false) :
    ReadsTo p.world (p.run table).events (p.run table).state :=
  Console.readsTo_run (turn table p.form) hasks

theorem run_turned (p : Pass) : Turned table p.form (p.run table).events (p.run table).value :=
  turn_turned (Dialogue.run_yields _ _ _) (Console.run_onlyReadingFails _ _)

theorem usesInput (hasks : p.world.surface.assumeYes = false) : p.UsesInput table := by
  have hreads : ReadsTo p.world (p.run table).events (p.run table).state := readsTo_run hasks
  have hturned : Turned table p.form (p.run table).events (p.run table).value := p.run_turned
  refine ⟨hreads.input_eq, hturned.sends hreads.hears, fun hagain => ?_, hturned.ends hreads.hears⟩
  intro hnil
  rcases List.take_eq_nil_iff.mp hnil with hzero | hnil
  · exact absurd hzero hturned.reads_pos.ne'
  · exact hturned.ne_nil_of_again hreads.hears hagain hnil

end Pass

def passes (table : String) (form : Form) (w : World Terminal) : List Pass :=
  let run := (turn table).runFrom form w
  ⟨form, w⟩ ::
    match _h : run.value.1 with
    | .ok .again => passes table run.value.2 run.state
    | _ => []
termination_by unread w
decreasing_by exact unread_turn _h

section

variable {table : String} {form : Form} {w : World Terminal}

theorem passes_of_again (h : ((turn table).runFrom form w).value.1 = .ok .again) :
    passes table form w = ⟨form, w⟩ ::
      passes table ((turn table).runFrom form w).value.2 ((turn table).runFrom form w).state := by
  rw [passes]
  split
  next => rfl
  next hother => exact absurd h hother

theorem passes_of_ne (h : ((turn table).runFrom form w).value.1 ≠ .ok .again) :
    passes table form w = [⟨form, w⟩] := by
  rw [passes]
  split
  next hagain => exact absurd hagain h
  next => rfl

theorem passes_of_error {e : Failure} (h : ((turn table).runFrom form w).value.1 = .error e) :
    passes table form w = [⟨form, w⟩] :=
  passes_of_ne (by simp [h])

theorem passes_of_leave (h : ((turn table).runFrom form w).value.1 = .ok .leave) :
    passes table form w = [⟨form, w⟩] :=
  passes_of_ne (by simp [h])

structure LoopOf (table : String) (w : World Terminal) (run : Console.Run Unit) (ps : List Pass) :
    Prop where
  events : run.events = ps.flatMap fun p => (p.run table).events
  usesInput : ∀ p ∈ ps, p.UsesInput table
  goesOn : ∀ p ∈ ps.dropLast, (p.run table).value.1 = .ok .again
  consumed : (inputLines w.surface.input).take (reads run.events) =
    ps.flatMap fun p => p.consumed table
  ended : Ended (inputLines w.surface.input) run.events run.value.1
  readsTo : ReadsTo w run.events run.state

theorem loopOf_last (hasks : w.surface.assumeYes = false) {result : Except Failure Unit}
    (hend : ((turn table).runFrom form w).value.1 ≠ .ok .again)
    (hresult : result = ((turn table).runFrom form w).value.1.map fun _ => ()) :
    let run := (turn table).runFrom form w
    LoopOf table w ⟨(result, run.value.2), run.state, run.events⟩ [⟨form, w⟩] := by
  subst hresult
  let p : Pass := ⟨form, w⟩
  have hreads : ReadsTo w (p.run table).events (p.run table).state :=
    Pass.readsTo_run (p := p) hasks
  have hturned : Turned table form (p.run table).events (p.run table).value :=
    p.run_turned
  refine ⟨?_, ?_, by simp, ?_, hturned.last_ended hreads.hears hend, hreads⟩
  · rw [List.flatMap_singleton]
    rfl
  · exact List.forall_mem_singleton.mpr (Pass.usesInput hasks)
  · rw [List.flatMap_singleton]
    rfl

/-- The loop goes on with another pass as long as it should. -/
theorem loop_loopOf (hasks : w.surface.assumeYes = false) :
    LoopOf table w (loop table form w) (passes table form w) := by
  -- The induction is on the input that is unread, along the turns of the loop.
  induction form, w using loop.induct table with
  | case1 form w run e =>
    rename_i he
    have hend : ((turn table).runFrom form w).value.1 ≠ .ok .again := by
      intro hagain
      cases hagain.symm.trans he
    rw [loop_of_error he, passes_of_ne hend]
    exact loopOf_last hasks hend (by rw [he]; rfl)
  | case2 form w run =>
    rename_i hleave
    have hend : ((turn table).runFrom form w).value.1 ≠ .ok .again := by
      intro hagain
      cases hagain.symm.trans hleave
    rw [loop_of_leave hleave, passes_of_ne hend]
    exact loopOf_last hasks hend (by rw [hleave]; rfl)
  | case3 form w run =>
    rename_i hagain ih
    have hreads : ReadsTo w run.events run.state := Pass.readsTo_run (p := ⟨form, w⟩) hasks
    have hturned : Turned table form run.events run.value := Pass.run_turned ⟨form, w⟩
    have hrest := ih hreads.asks
    rw [loop_of_again hagain, passes_of_again hagain]
    have hne : passes table run.value.2 run.state ≠ [] := by
      rw [passes]
      exact List.cons_ne_nil _ _
    refine ⟨?_, ?_, ?_, ?_, ?_, hreads.trans hrest.readsTo⟩
    · rw [List.flatMap_cons, ← hrest.events]
      rfl
    · exact List.forall_mem_cons.mpr ⟨Pass.usesInput hasks, hrest.usesInput⟩
    · rw [List.dropLast_cons_of_ne_nil hne]
      exact List.forall_mem_cons.mpr ⟨hagain, hrest.goesOn⟩
    · have hlater := hrest.consumed
      rw [hreads.rest] at hlater
      rw [List.flatMap_cons, ← hlater, Console.reads_append, List.take_add]
      rfl
    · have hlater := hrest.ended
      rw [hreads.rest] at hlater
      exact hturned.again_ended hreads.hears hagain hlater

/-- Where nothing fails but reading, the opening starts the session and greets. -/
theorem opening_started {events : List Console.Event} {end_ : Except Failure Unit × Form}
    (h : (opening table form).Yields events end_) (hfail : Console.OnlyReadingFails events) :
    ∃ es listing form', Session.Action.start.Completes table form es (.shown listing) form' ∧
      events = es.map Event.ofSession ++ [⟨.say greeting, .ok ()⟩] ∧ end_ = (.ok (), form') := by
  have hcompositional := Session.Stops.fullyCompositional.toCompositional
  obtain ⟨es, listing, form', rest, hes, rfl, hrest⟩ := lift_yields_ok
    (Session.AsksNothing.start table) (hcompositional.start table) h hfail
  rw [← bind_pure (Console.say greeting)] at hrest
  obtain ⟨rest, rfl, hend⟩ := say_yields hrest (Console.onlyReadingFails_append.mp hfail).2
  obtain ⟨rfl, rfl⟩ := pure_yields hend
  exact ⟨es, listing, form', Session.Action.completes_of_yields (Session.map_yields hes), rfl, rfl⟩

theorem opening_goes {events : List Console.Event} {end_ : Except Failure Unit × Form}
    {lines : List (List UInt8)} (h : (opening table form).Yields events end_)
    (hhears : Hears lines events) :
    end_.1 = .ok () ∧ reads events = 0 ∧ (queries events).length = 2 ∧ ¬ Quits events := by
  obtain ⟨es, listing, form', hcompletes, rfl, rfl⟩ := opening_started h hhears.onlyReadingFails
  refine ⟨rfl, ?_, ?_, ?_⟩
  · rw [Console.reads_append, Console.reads_ofSession, hcompletes.asks_nothing fun id => by simp]
    rfl
  · rw [Console.queries_append, Console.queries_ofSession]
    cases hcompletes
    rfl
  · rw [quits_append, not_or]
    exact ⟨not_quits_ofSession es, by simp [Quits]⟩

end

/-- On every input, the shell ends on a terminal that asks its questions. It takes whole lines from
the front of the input, each pass but the last takes one at least, and it sends two queries and then
no more than it takes lines. It ends well if it is left, or if it asks for a line where the input is
at its end: nothing is sent in that pass, and a question is answered with no. It fails if a line
that it takes is no text, and reading that line is the last thing it does. -/
theorem run_ends (table : String) (form : Form) {w : World Terminal}
    (hasks : w.surface.assumeYes = false) :
    let run := Shell.run table form w
    let first := (opening table).runFrom form w
    let ps := passes table first.value.2 first.state
    let lines := inputLines w.surface.input
    let read := lines.take (reads run.events)
    (run.events = first.events ++ ps.flatMap (fun p => (p.run table).events) ∧
      (∀ p ∈ ps, p.UsesInput table) ∧ (∀ p ∈ ps.dropLast, p.consumed table ≠ []) ∧
      read = ps.flatMap fun p => p.consumed table) ∧
    (w.surface.input = read.flatten ++ run.state.surface.input ∧
      (run.state.surface.input = [] ∨ read.flatten.getLast? = some 10)) ∧
    (queries run.events).length ≤ 2 + read.length ∧
    (run.value.1 = .ok () ↔ Quits run.events ∨ lines.length < reads run.events) ∧
    (∀ e, run.value.1 = .error e ↔
      e = .file .notText ∧ ∃ line ∈ read, Text.Utf8.decode line = none) ∧
    ∀ e, run.value.1 = .error e → ∃ before last line, run.events = before ++ [last] ∧
      reads [last] = 1 ∧ read = lines.take (reads before) ++ [line] ∧
      Text.Utf8.decode line = none := by
  intro run first ps lines read
  have hfirst : ReadsTo w first.events first.state := Console.readsTo_run (opening table form) hasks
  obtain ⟨hok, hnone, htwo, hnotQuits⟩ : first.value.1 = .ok () ∧ reads first.events = 0 ∧
      (queries first.events).length = 2 ∧ ¬ Quits first.events :=
    opening_goes (Dialogue.run_yields _ _ _) hfirst.hears
  let rest := loop table first.value.2 first.state
  have hloop : LoopOf table first.state rest ps := loop_loopOf hfirst.asks
  have hrun : run = { rest with events := first.events ++ rest.events } := run_of_ok hok
  have hevents : run.events = first.events ++ rest.events := congrArg (·.events) hrun
  have hvalue : run.value.1 = rest.value.1 := congrArg (·.value.1) hrun
  have hlines : inputLines first.state.surface.input = lines := by
    rw [hfirst.rest, hnone, List.drop_zero]
  have hreads : reads run.events = reads rest.events := by
    rw [hevents, Console.reads_append, hnone, Nat.zero_add]
  have hreadsTo : ReadsTo w run.events run.state := by
    rw [hrun]
    exact hfirst.trans hloop.readsTo
  have hended : Ended lines rest.events rest.value.1 := hlines ▸ hloop.ended
  have hread : read = lines.take (reads rest.events) := congrArg (lines.take ·) hreads
  refine ⟨⟨?_, hloop.usesInput, fun p hp => ?_, ?_⟩, ⟨hreadsTo.input_eq, ?_⟩, ?_, ?_, fun e => ?_,
    fun e he => ?_⟩
  · rw [hevents, hloop.events]
  · exact (hloop.usesInput p (List.dropLast_subset ps hp)).goesOn (hloop.goesOn p hp)
  · rw [hread, ← hlines, hloop.consumed]
  · exact hreadsTo.input_ended (hreads ▸ hended.reads_pos)
  · rw [hevents, Console.queries_append, List.length_append, htwo, hread]
    exact Nat.add_le_add_left hended.sends 2
  · rw [hvalue, hended.ok_iff, hevents, quits_append, or_iff_right hnotQuits, ← hevents, hreads]
  · rw [hvalue, hended.error_iff, hread]
  · obtain ⟨before, last, line, hlast, hone, htake, hdecode⟩ :=
      hended.fails_last e (hvalue.symm.trans he)
    refine ⟨first.events ++ before, last, line, ?_, hone, ?_, hdecode⟩
    · rw [hevents, hlast, List.append_assoc]
    · rw [hread, htake, Console.reads_append, hnone, Nat.zero_add]

/-- A deletion is declined, and a line of the next note is no text: the shell fails there, and what
is typed after it is left. -/
theorem run_ends_unread :
    let before := [Terminal.lineBytes "delete 7", Terminal.lineBytes "n", Terminal.lineBytes "add",
      Terminal.lineBytes "T", [255, 10]]
    let input := before.flatten ++ Terminal.lineBytes "quit"
    let w : World Terminal := ⟨{ input := input }, fun _ => 7, fun _ => .offline, 0, 0⟩
    let run := Shell.run "notes" {} w
    w.surface.assumeYes = false ∧ run.value.1 = .error (.file .notText) ∧
      run.state.surface.input = Terminal.lineBytes "quit" ∧ (queries run.events).length ≤ 7 ∧
      ∃ events last, run.events = events ++ [last] ∧ reads [last] = 1 := by
  intro before input w run
  let first := (opening "notes").runFrom {} w
  let declined := (turn "notes").runFrom first.value.2 first.state
  let failed := (turn "notes").runFrom declined.value.2 declined.state
  have hagain : declined.value.1 = .ok .again := by decide +kernel
  have herror : failed.value.1 = .error (.file .notText) := by decide +kernel
  have hopened : run.events = first.events ++ (loop "notes" first.value.2 first.state).events :=
    congrArg (·.events) (run_of_ok rfl)
  have hgoesOn : (loop "notes" first.value.2 first.state).events =
      declined.events ++ (loop "notes" declined.value.2 declined.state).events :=
    congrArg (·.events) (loop_of_again hagain)
  have hends : (loop "notes" declined.value.2 declined.state).events = failed.events :=
    congrArg (·.events) (loop_of_error herror)
  have hreads : reads run.events = 5 := by
    rw [hopened, hgoesOn, hends]
    decide +kernel
  have hread : (inputLines w.surface.input).take 5 = before := by decide +kernel
  obtain ⟨-, ⟨hinput, -⟩, hsends, -, hfails, hlast⟩ := run_ends "notes" {} (w := w) rfl
  rw [hreads, hread] at hinput hsends
  have hvalue : run.value.1 = .error (.file .notText) := by
    refine (hfails _).mpr ⟨rfl, [255, 10], ?_, by decide +kernel⟩
    rw [hreads, hread]
    decide +kernel
  obtain ⟨events, last, line, hgoes, hone, -⟩ := hlast _ hvalue
  exact ⟨rfl, hvalue, (List.append_cancel_left hinput).symm, hsends, events, last, hgoes, hone⟩

end Shell
end RemoteNotebook
