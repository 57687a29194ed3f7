import RemoteNotebook.Proofs.PageOfRun
import RemoteNotebook.Proofs.ShellSimulation
import RemoteNotebook.Proofs.Submissions

/-! Rejected notes that are sent again. A note that is rejected stays in the form, and with nothing
typed into its fields it is sent once more as it was typed first. -/
namespace RemoteNotebook

namespace Session

variable {table : String} {form : Form} {id : Int64} {inserted listed : Outcome}

theorem queries_submissionEvents :
    queries (submissionEvents table form id inserted listed) =
      .statement (insertion table id form) ::
        if inserted.reply.error.isNone then [.statement (.select table)] else [] := by
  rw [submissionEvents]
  cases inserted.reply.error <;> rfl

theorem alerts_submissionEvents :
    alerts (submissionEvents table form id inserted listed) =
      (inserted.reply.error.map rejection).toList := by
  rw [submissionEvents]
  cases inserted.reply.error <;> rfl

theorem drawnIds_submissionEvents :
    drawnIds (submissionEvents table form id inserted listed) = [id] := by
  rw [submissionEvents]
  cases inserted.reply.error <;> rfl

theorem length_exchanges_submissionEvents :
    (exchanges (submissionEvents table form id inserted listed)).length =
      if inserted.reply.error.isNone then 2 else 1 := by
  rw [submissionEvents]
  cases inserted.reply.error <;> rfl

/-- What is done where a form is submitted until it was rejected some times, and once more. -/
def attempts (table : String) (form : Form) (ids : Nat → Int64) (outcomes : Nat → Outcome)
    (k : Nat) : List Event :=
  (List.range (k + 1)).flatMap fun i =>
    submissionEvents table form (ids i) (outcomes i) (outcomes (i + 1))

section

variable {ids : Nat → Int64} {outcomes : Nat → Outcome} {k : Nat}

theorem attempts_zero :
    attempts table form ids outcomes 0 =
      submissionEvents table form (ids 0) (outcomes 0) (outcomes 1) := List.flatMap_singleton ..

theorem attempts_succ :
    attempts table form ids outcomes (k + 1) =
      submissionEvents table form (ids 0) (outcomes 0) (outcomes 1) ++
        attempts table form (fun i => ids (i + 1)) (fun i => outcomes (i + 1)) k := by
  rw [attempts, List.range_succ_eq_map, List.flatMap_cons, List.flatMap_map]
  rfl

theorem queries_attempts (h : ∀ i < k, (outcomes i).reply.error ≠ none) :
    queries (attempts table form ids outcomes k) =
      (List.range (k + 1)).map (fun i => .statement (insertion table (ids i) form)) ++
        if (outcomes k).reply.error.isNone then [.statement (.select table)] else [] := by
  induction k generalizing ids outcomes with
  | zero =>
    rw [attempts_zero, queries_submissionEvents]
    rfl
  | succ k ih =>
    have hrejected : (outcomes 0).reply.error.isNone = false :=
      Option.isNone_eq_false_iff.mpr (Option.isSome_iff_ne_none.mpr (h 0 k.succ_pos))
    rw [attempts_succ, queries_append, queries_submissionEvents, hrejected,
      ih fun i hi => h (i + 1) (Nat.succ_lt_succ hi), List.range_succ_eq_map (n := k + 1),
      List.map_cons, List.map_map]
    rfl

theorem alerts_attempts {error : Nat → String}
    (h : ∀ i < k, (outcomes i).reply.error = some (error i)) :
    alerts (attempts table form ids outcomes k) =
      (List.range k).map (fun i => rejection (error i)) ++
        ((outcomes k).reply.error.map rejection).toList := by
  induction k generalizing ids outcomes error with
  | zero =>
    rw [attempts_zero, alerts_submissionEvents]
    rfl
  | succ k ih =>
    rw [attempts_succ, alerts_append, alerts_submissionEvents, h 0 k.succ_pos,
      ih fun i hi => h (i + 1) (Nat.succ_lt_succ hi), List.range_succ_eq_map, List.map_cons,
      List.map_map]
    rfl

end

/-- A submission uses up one id, and the outcomes of what it sends. -/
theorem run_submit_world {σ : Type} {S : Surface σ} {w : World σ} (hS : S.Reliable w.surface)
    (table : String) (form : Form) :
    let run := (submit table).runFrom form (World.answer S) w
    let stored := (w.outcomes w.sent).reply.error.isNone
    run.state.ids = w.ids ∧ run.state.outcomes = w.outcomes ∧ run.state.drawn = w.drawn + 1 ∧
      run.state.sent = w.sent + if stored then 2 else 1 := by
  intro run stored
  obtain ⟨hids, hdrawn, -⟩ : Draws w run.events run.state := (draws_chains S).run _ w
  obtain ⟨houtcomes, hsent, -⟩ : Consumes w run.events run.state := (consumes_chains S).run _ w
  have hevents : run.events = submissionEvents .. := (run_submit_eq hS table form).2
  rw [hevents, drawnIds_submissionEvents] at hdrawn
  rw [hevents, length_exchanges_submissionEvents] at hsent
  exact ⟨hids, houtcomes, hdrawn, hsent⟩

end Session

namespace Shell

open Console (sessionEvents)
open Session (attempts attempts_succ attempts_zero rejection)
open Terminal (IsLine lineBytes)

def addBytes (title content : String) : List UInt8 := ["add", title, content].flatMap lineBytes

variable {table : String} {form : Form} {v : World Page} {w : World Terminal} {rest : List UInt8}

def filled (title content : String) (form : Form) : Form :=
  ⟨refill title form.title, refill content form.content⟩

theorem filled_empty (form : Form) : filled "" "" form = form := rfl

/-- A turn that sends the form does what a submission does, of the fields as they are refilled. -/
theorem turn_add_mirrors (table : String) {title content : String} (ht : IsLine title)
    (hc : IsLine content) (form : Form) (hv : v.Alike w)
    (hw : w.surface.Waits (addBytes title content ++ rest)) :
    let sub := (Session.submit table).runFrom (filled title content form)
      (World.answer Page.surface) v
    Mirrors ((turn table).runFrom form w) .again sub.value.2 sub.events sub.state rest := by
  intro sub
  have hsub := Session.run_map (Session.submit table) Session.Result.done
    (filled title content form) (World.answer Page.surface) v
  have hadd : IsLine "add" := ⟨by decide, by decide⟩
  have hparse : Command.parse "add" = .ok .add := by decide
  simp only [addBytes, List.flatMap_cons, List.flatMap_nil, List.append_nil,
    List.append_assoc] at hw
  refine (prompt_line_mirrors hadd promptLabel hv hw).silent_bind fun w hv hw => ?_
  change Mirrors ((obeyLine table "add").runFrom form w) _ _ _ _ _
  rw [obeyLine, hparse]
  refine (fillForm_mirrors ht hc form hv hw).silent_bind fun w hv hw => ?_
  obtain ⟨_, h⟩ := lift_mirrors_of_no_question (s := ⟨table, filled title content form, v, []⟩)
    (a := .submit) (f := Session.Result.done) (fun id => by simp) rfl (Surface.page_reliable _) hv
    hw
  simp only [Session.performing, Session.perform, Session.take, Session.Action.step, hsub] at h
  exact h.bind_silent fun w hv hw => pure_mirrors Flow.again hv hw

theorem end_mirrors (hv : v.Alike w) (hw : w.surface.Waits []) :
    Mirrors ((turn table).runFrom form w) Flow.leave form [] v [] := by
  have hread : (w.surface.write promptLabel).readLine =
      (.ok none, { w.surface.write promptLabel with input := [] }) := by
    have hinput : (w.surface.write promptLabel).input = [] := hw.input
    rw [Terminal.readLine, hinput]
    rfl
  exact (prompt_mirrors hv hw.asks hread).silent_bind fun w hv hw => pure_mirrors Flow.leave hv hw

theorem isLine_empty : IsLine "" := ⟨by decide, by decide⟩

/-- A form that is sent is sent again, with nothing typed into it, as often as it is rejected. -/
theorem loop_retries (table : String) {title content : String} (ht : IsLine title)
    (hc : IsLine content) (form : Form) (k : Nat) (v : World Page)
    (hrejected : ∀ i < k, (v.outcomes (v.sent + i)).reply.error ≠ none) :
    let ids (i : Nat) := v.ids (v.drawn + i)
    let outcomes (i : Nat) := v.outcomes (v.sent + i)
    let stored := (v.outcomes (v.sent + k)).reply.error.isNone
    ∃ v' : World Page, ∀ w, v.Alike w → w.surface.Waits
        (addBytes title content ++ (List.replicate k (addBytes "" "")).flatten) →
      Mirrors (loop table form w) () (if stored then Form.empty else filled title content form)
        (attempts table (filled title content form) ids outcomes k) v' [] := by
  -- What was typed first is in the form before the next turn, and typing nothing leaves it there,
  -- so the induction is for all forms and for all that is typed into them.
  induction k generalizing form v title content with
  | zero =>
    intro ids outcomes stored
    obtain ⟨hvalue, hevents⟩ := Session.run_submit_eq (Surface.page_reliable v.surface) table
      (filled title content form)
    refine ⟨((Session.submit table).runFrom (filled title content form)
      (World.answer Page.surface) v).state, fun w hv hw => ?_⟩
    have hloop := loop_mirrors_of_again (turn_add_mirrors table ht hc form hv hw) fun w hv hw =>
      loop_mirrors_of_leave (end_mirrors hv hw)
    rw [hvalue, hevents, List.append_nil] at hloop
    rw [attempts_zero]
    exact hloop
  | succ k ih =>
    intro ids outcomes stored
    obtain ⟨hvalue, hevents⟩ := Session.run_submit_eq (Surface.page_reliable v.surface) table
      (filled title content form)
    obtain ⟨hids, houtcomes, hdrawn, hsent⟩ :=
      Session.run_submit_world (Surface.page_reliable v.surface) table (filled title content form)
    have hturn (w : World Terminal) (hv : v.Alike w) (hw : w.surface.Waits
        (addBytes title content ++ (List.replicate (k + 1) (addBytes "" "")).flatten)) :=
      turn_add_mirrors table ht hc form hv hw
    have herror : (v.outcomes v.sent).reply.error.isNone = false :=
      Option.isNone_eq_false_iff.mpr (Option.isSome_iff_ne_none.mpr (hrejected 0 k.succ_pos))
    rw [herror] at hsent hvalue
    generalize (Session.submit table).runFrom (filled title content form)
      (World.answer Page.surface) v = sub at *
    have hid (i : Nat) : sub.state.ids (sub.state.drawn + i) = v.ids (v.drawn + (i + 1)) := by
      rw [hids, hdrawn, Nat.add_assoc, Nat.add_comm 1]
    have hnext (i : Nat) :
        sub.state.outcomes (sub.state.sent + i) = v.outcomes (v.sent + (i + 1)) := by
      rw [houtcomes, hsent, Nat.add_comm i, ← Nat.add_assoc]
      rfl
    have hrejected' : ∀ i < k, (sub.state.outcomes (sub.state.sent + i)).reply.error ≠ none := by
      intro i hi
      rw [hnext]
      exact hrejected (i + 1) (Nat.succ_lt_succ hi)
    obtain ⟨v', hrest⟩ :=
      ih isLine_empty isLine_empty (filled title content form) sub.state hrejected'
    refine ⟨v', fun w hv hw => ?_⟩
    simp only [filled_empty, hid, hnext] at hrest
    have hfirst : Mirrors _ _ sub.value.2 sub.events sub.state _ := hturn w hv hw
    rw [hvalue, hevents] at hfirst
    rw [attempts_succ]
    exact loop_mirrors_of_again hfirst hrest

theorem refill_of_empty (typed : String) : refill typed "" = typed := by
  rw [refill]
  split
  next h => exact (String.isEmpty_iff.mp h).symm
  next => rfl

def retryLines (title content : String) (k : Nat) : List String :=
  ["add", title, content] ++ (List.replicate k ["add", "", ""]).flatten

theorem flatMap_retryLines (title content : String) (k : Nat) :
    (retryLines title content k).flatMap lineBytes =
      addBytes title content ++ (List.replicate k (addBytes "" "")).flatten := by
  rw [retryLines, List.flatMap_append, ← List.flatMap_id, List.flatMap_assoc,
    List.flatMap_replicate]
  rfl

/-- A note that is rejected is not lost. Typed once, it is sent again as often as the shell is told
to add a note with nothing typed for it: each time with the same text and the next id, and with
nothing sent in between. Each rejection is alerted, in order. As soon as the note is accepted the
notes are asked for and the form is empty; if it is rejected to the last, the form still has it. -/
theorem run_retries {title content : String} (ht : IsLine title) (hc : IsLine content) {k : Nat}
    {error : Nat → String} {w : World Terminal} (hasks : w.surface.assumeYes = false)
    (hrejected : ∀ i < k, (w.outcomes (w.sent + 2 + i)).reply.error = some (error i))
    (hinput : w.surface.input = (retryLines title content k).flatMap lineBytes) (table : String) :
    let run := Shell.run table Form.empty w
    let last := (w.outcomes (w.sent + 2 + k)).reply.error
    let note (i : Nat) : Note := ⟨w.ids (w.drawn + i), title, content⟩
    run.value = (.ok (), if last.isNone then Form.empty else ⟨title, content⟩) ∧
      run.state.surface.input = [] ∧
      Console.queries run.events =
        [.statement (.createTable table), .statement (.select table)] ++
          (List.range (k + 1)).map (fun i => .statement (.insert table (note i))) ++
          (if last.isNone then [.statement (.select table)] else []) ∧
      Session.alerts (sessionEvents run.events) =
        (List.range k).map (fun i => "Error: " ++ error i) ++ (last.map rejection).toList := by
  intro run last note
  let v : World Page := ⟨{}, w.ids, w.outcomes, w.drawn, w.sent⟩
  let s : Session Page := ⟨table, Form.empty, v, []⟩
  have hopening := opening_mirrors (s := s) (Surface.page_reliable v.surface) ⟨rfl, rfl, rfl, rfl⟩
    ⟨hinput, hasks⟩
  rw [flatMap_retryLines] at hopening
  have herrors : ∀ i < k, (w.outcomes (w.sent + 2 + i)).reply.error ≠ none := by
    intro i hi
    rw [hrejected i hi]
    exact Option.some_ne_none _
  obtain ⟨v', hloop⟩ :=
    loop_retries table ht hc Form.empty k (s.perform Page.surface .start).2.world herrors
  have hrun := run_mirrors_of_opening hopening hloop
  have hfilled : filled title content Form.empty = ⟨title, content⟩ := by
    rw [filled, Form.empty, refill_of_empty, refill_of_empty]
  rw [hfilled] at hrun
  have hevents : sessionEvents run.events =
      (s.performing Page.surface .start).events ++ attempts table ⟨title, content⟩
        (fun i => w.ids (w.drawn + i)) (fun i => w.outcomes (w.sent + 2 + i)) k := hrun.events
  refine ⟨hrun.value, hrun.waits.input, ?_, ?_⟩
  · have hqueries : Console.queries run.events = Session.queries (sessionEvents run.events) := rfl
    rw [hqueries, hevents, Session.queries_append, Session.queries_attempts herrors]
    rfl
  · rw [hevents, Session.alerts_append, Session.alerts_attempts hrejected]
    rfl

/-- A title that looks like a command and no content: the note is rejected, the database is offline,
and then the note is accepted. -/
theorem run_retries_twice :
    let outcomes : Nat → Outcome
      | 2 => .connected (.failed "full")
      | 3 => .offline
      | _ => .connected {}
    let w : World Terminal :=
      ⟨{ input := (retryLines "quit" "" 2).flatMap lineBytes }, fun n => .ofNat (5 + n), outcomes,
        0, 0⟩
    let run := Shell.run "notes" Form.empty w
    IsLine "quit" ∧ IsLine "" ∧ run.value = (.ok (), Form.empty) ∧
      Console.queries run.events =
        [.statement (.createTable "notes"), .statement (.select "notes"),
          .statement (.insert "notes" ⟨5, "quit", ""⟩),
          .statement (.insert "notes" ⟨6, "quit", ""⟩),
          .statement (.insert "notes" ⟨7, "quit", ""⟩), .statement (.select "notes")] ∧
      Session.alerts (sessionEvents run.events) =
        ["Error: full", "Error: Could not reach DB server"] := by
  intro outcomes w run
  let error : Nat → String
    | 0 => "full"
    | _ => "Could not reach DB server"
  have hquit : IsLine "quit" := ⟨by decide, by decide⟩
  have hrejected : ∀ i < 2, (w.outcomes (w.sent + 2 + i)).reply.error = some (error i)
    | 0, _ => rfl
    | 1, _ => rfl
  obtain ⟨hvalue, -, hqueries, halerts⟩ := run_retries hquit isLine_empty rfl hrejected rfl "notes"
  exact ⟨hquit, isLine_empty, hvalue, hqueries, halerts⟩

end Shell
end RemoteNotebook
