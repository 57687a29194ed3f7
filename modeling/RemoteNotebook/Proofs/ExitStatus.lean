import RemoteNotebook.Proofs.Completion
import RemoteNotebook.Proofs.ProgramRuns
import RemoteNotebook.Proofs.ReadableInput
import RemoteNotebook.Proofs.ReportedErrors
import RemoteNotebook.Proofs.Submissions

/-! How the program ends. Where its input is a text, only a note that is not stored and a statement
of the user that is answered with an error make it fail. -/
namespace RemoteNotebook

namespace Session

variable {σ : Type} {S : Surface σ} {w : World σ}

/-- A submission on a surface that fails no call succeeds if its INSERT is not answered with an
error, and then the notes are asked for. -/
theorem run_submit (hS : S.Reliable w.surface) (table : String) (form : Form) :
    let run := (submit table).runFrom form (World.answer S) w
    let insert := Sql.Query.statement (insertion table (w.ids w.drawn) form)
    let failed := (w.outcomes w.sent).reply.isError
    run.value.1 = .ok !failed ∧
      queries run.events = if failed then [insert] else [insert, .statement (.select table)] := by
  intro run insert failed
  obtain ⟨hvalue, hevents⟩ := run_submit_eq hS table form
  have hresult : run.value.1 = .ok (w.outcomes w.sent).reply.error.isNone :=
    congrArg Prod.fst hvalue
  have hqueries : queries run.events = queries (submissionEvents ..) := congrArg queries hevents
  rw [hresult, hqueries, submissionEvents]
  simp only [failed, Reply.isError]
  cases (w.outcomes w.sent).reply.error with
  | none => exact ⟨rfl, rfl⟩
  | some error => exact ⟨rfl, rfl⟩

/-- A query on a surface that fails no call ends with its reply. -/
theorem run_roundTrip (hS : S.Reliable w.surface) (query : Sql.Query) (form : Form) :
    let run := (roundTrip query).runFrom form (World.answer S) w
    let outcome := w.outcomes w.sent
    run.value = (.ok outcome.reply, form) ∧ queries run.events = [query] := by
  intro run outcome
  obtain ⟨⟨⟩, htold⟩ := hS.answers (.setStatus outcome.connectivity)
  let w' : World σ := { w with sent := w.sent + 1 }
  obtain ⟨w'', hrun⟩ : ∃ w'', run =
      ⟨(.ok outcome.reply, form), w'', tripEvents query outcome (.ok ())⟩ := by
    simp only [run, Step.runFrom]
    rw [← bind_pure (roundTrip query), roundTrip_bind, run_send, run_call (w := w') htold,
      orStop_ok]
    exact ⟨_, rfl⟩
  rw [hrun]
  exact ⟨rfl, rfl⟩

end Session

namespace Program

open Console (EndsWith)

variable {h : Host}

def Host.Readable (h : Host) : Prop := Text.Utf8.decode h.input ≠ none

/-- A command that ends well whatever the replies are. -/
def Unfailing : Command → Prop
  | .init | .list | .shell | .delete _ _ | .render none => True
  | _ => False

theorem take_result (hinput : h.Readable) (yes : Bool) {step : Console.Step Exit}
    (hstep : EndsWith (· = Exit.success) step) : (h.take yes step).result = .ok .success := by
  obtain ⟨⟨exit, hvalue, rfl⟩, -⟩ := hstep {} (h.terminal yes) hinput
  exact hvalue

theorem pageRun_ok (h : Host) (table : String) : ∃ text, (pageRun h table).1 = .ok text := by
  let s : Session Page := ⟨table, {}, ⟨{}, h.ids, h.outcomes, 0, 0⟩, []⟩
  have hpage : Page.surface.Reliable s.world.surface := Surface.page_reliable _
  obtain ⟨hvalue, -⟩ := Session.take_refresh hpage rfl
  have hrun : (pageRun h table).1 = (s.take Page.surface (Session.refresh table)).1.map fun _ =>
      (s.take Page.surface (Session.refresh table)).2.world.surface.text
        (s.take Page.surface (Session.refresh table)).2.form := rfl
  rw [hrun, hvalue]
  exact ⟨_, rfl⟩

theorem perform_unfailing (hinput : h.Readable) (table : String) {command : Command}
    (hcommand : Unfailing command) : (perform h table command).result = .ok .success := by
  have hsteps := EndsWith.compositional table
  cases command with
  | init => exact take_result hinput false (hsteps.start.bind fun _ _ => .pure rfl)
  | list => exact take_result hinput false (hsteps.refresh.bind fun _ _ => .pure rfl)
  | delete id yes =>
    refine take_result hinput yes ((hsteps.delete id).bind fun deleted _ => ?_)
    cases deleted with
    | true => exact .pure rfl
    | false => exact (hsteps.say _).bind fun _ _ => .pure rfl
  | shell =>
    have hrun := Shell.run_ok table {} (w := h.terminal false) hinput
    have hresult : (shell h table).result =
        (Shell.run table {} (h.terminal false)).value.1.map fun _ => .success := rfl
    exact hresult.trans (by rw [hrun]; rfl)
  | render output =>
    cases output with
    | none =>
      obtain ⟨text, hpage⟩ := pageRun_ok h table
      exact render_none hpage
    | some path => exact hcommand.elim
  | add title content => exact hcommand.elim
  | sql statement => exact hcommand.elim

/-- A command that takes one step in a session, and then tells of it and sends nothing more. -/
theorem take_lift {α : Type} (step : Session.Step α) (k : α → Console.Step Exit) {a : α}
    {exit : Exit}
    (hvalue : (step.runFrom {} (World.answer Terminal.surface) (h.terminal false)).value.1 = .ok a)
    (hrest : ∀ form w, let run := (k a).runFrom form w
      run.value.1 = .ok exit ∧ Console.queries run.events = []) :
    let report := h.take false (Console.lift step >>= k)
    report.result = .ok exit ∧ report.queries = Session.queries
      (step.runFrom {} (World.answer Terminal.surface) (h.terminal false)).events := by
  intro report
  have hreport : report = h.report ((Console.lift step >>= k).runFrom {} (h.terminal false)) := rfl
  rw [hreport, Console.run_lift_bind hvalue]
  obtain ⟨hexit, hquiet⟩ := hrest _ _
  refine ⟨hexit, ?_⟩
  rw [Host.report, Console.queries_append, Console.queries_ofSession, hquiet, List.append_nil]

/-- Adding a note fails if the note is not stored, and then nothing is sent after the INSERT. -/
theorem perform_add (hinput : h.Readable) (table title content : String) :
    let report := perform h table (.add title content)
    let insert := Sql.Query.statement (.insert table ⟨h.ids 0, title, content⟩)
    let failed := (h.outcomes 0).reply.isError
    report.result = .ok (.ofBool !failed) ∧
      report.queries = if failed then [insert] else [insert, .statement (.select table)] := by
  intro report insert failed
  have hreliable : Terminal.surface.Reliable (h.terminal false).surface :=
    Terminal.Readable.reliable hinput
  obtain ⟨hvalue, hqueries⟩ := Session.run_submit hreliable table ⟨title, content⟩
  obtain ⟨hresult, hsent⟩ := take_lift (Session.create table title content)
    (fun created => pure (Exit.ofBool created)) hvalue fun _ _ => ⟨rfl, rfl⟩
  exact ⟨hresult, hsent.trans hqueries⟩

/-- A statement of the user is all that is sent, and it fails if it is answered with an error. -/
theorem perform_sql (hinput : h.Readable) (table text : String) :
    let report := perform h table (.sql text)
    report.result = .ok (.ofBool !(h.outcomes 0).reply.isError) ∧ report.queries = [.raw text] := by
  intro report
  have hreliable : Terminal.surface.Reliable (h.terminal false).surface :=
    Terminal.Readable.reliable hinput
  obtain ⟨hvalue, hqueries⟩ := Session.run_roundTrip hreliable (.raw text) {}
  obtain ⟨hresult, hsent⟩ := take_lift (Session.runSql text)
    (fun reply => do Console.showReply reply; return Exit.ofBool !reply.isError)
    (congrArg Prod.fst hvalue) fun _ _ => ⟨rfl, rfl⟩
  exact ⟨hresult, hsent.trans hqueries⟩

/-- Whatever is replied, JSON of any kind or nothing at all, a program whose input is a text ends
well, but for two commands. Adding a note fails exactly if the reply to its INSERT reports an error,
and only if it does not, the notes are asked for. A statement of the user is the only one sent, and
it fails exactly if its reply reports an error. A reply reports one if the database could not be
reached, or if it is an object with one in either of two members, of which the first has the say;
and every exchange with the database has such a reply. -/
theorem perform_exit {h : Host} {bodies : Nat → Option Json}
    (hbodies : ∀ n, h.outcomes n = .ofBody (bodies n)) (hinput : h.Readable) (table : String) :
    let failed := ∃ m, Reported (bodies 0) m
    (∀ command, Unfailing command → (perform h table command).result = .ok .success) ∧
    (∀ title content, let report := perform h table (.add title content)
      let insert := Sql.Query.statement (.insert table ⟨h.ids 0, title, content⟩)
      (failed → report.result = .ok .failure ∧ report.queries = [insert]) ∧
      (¬failed → report.result = .ok .success ∧
        report.queries = [insert, .statement (.select table)])) ∧
    (∀ text, let report := perform h table (.sql text)
      report.queries = [.raw text] ∧ (failed → report.result = .ok .failure) ∧
      (¬failed → report.result = .ok .success)) ∧
    (∀ body m, (Outcome.ofBody body).reply.error = some m ↔ Reported body m) ∧
    (∀ body, (∃ m, Reported body m) ↔ body = none ∨ ∃ members, body = some (.obj members) ∧
      ∃ key ∈ ["error_message", "error"], ∃ v, Flagged members key v) ∧
    ∀ endpoint sql answer later,
      ∃ body, (Exchange.perform endpoint sql answer later).2 = .ofBody body := by
  intro failed
  have hfailed : (h.outcomes 0).reply.isError = true ↔ failed := by
    rw [hbodies]
    exact Reply.isError_ofBody_iff
  refine ⟨fun _ => perform_unfailing hinput table, ?_, ?_, fun _ _ => Reply.error_ofBody_iff,
    fun _ => exists_reported_iff, Exchange.exists_perform_eq⟩
  · intro title content report insert
    obtain ⟨hresult, hqueries⟩ := perform_add hinput table title content
    constructor
    · intro hyes
      rw [hfailed.mpr hyes] at hresult hqueries
      exact ⟨hresult, hqueries⟩
    · intro hno
      rw [Bool.eq_false_iff.mpr (hno ∘ hfailed.mp)] at hresult hqueries
      exact ⟨hresult, hqueries⟩
  · intro text report
    obtain ⟨hresult, hqueries⟩ := perform_sql hinput table text
    refine ⟨hqueries, fun hyes => ?_, fun hno => ?_⟩
    · rw [hfailed.mpr hyes] at hresult
      exact hresult
    · rw [Bool.eq_false_iff.mpr (hno ∘ hfailed.mp)] at hresult
      exact hresult

/-- An empty message says nothing, so the number in the other member is the error. -/
theorem perform_exit_shadowed :
    let body : Json := .obj [("error", .int 0), ("error_message", .str "")]
    let h : Host := { ids := fun _ => 1, outcomes := fun _ => .ofBody (some body) }
    let report := perform h "notes" (.add "t" "c")
    (∀ n, h.outcomes n = .ofBody (some body)) ∧ h.Readable ∧ Reported (some body) "0" ∧
      report.result = .ok .failure ∧
      report.queries = [.statement (.insert "notes" ⟨1, "t", "c"⟩)] ∧
      (perform h "notes" .shell).result = .ok .success := by
  intro body h report
  have hbodies : ∀ n, h.outcomes n = .ofBody (some body) := fun _ => rfl
  have hinput : h.Readable := Option.some_ne_none []
  obtain ⟨hunfailing, hadd, -, herror, -⟩ := perform_exit hbodies hinput "notes"
  have hreported : Reported (some body) "0" := (herror _ _).mp (by decide +kernel)
  obtain ⟨hresult, hqueries⟩ := (hadd "t" "c").1 ⟨"0", hreported⟩
  exact ⟨hbodies, hinput, hreported, hresult, hqueries, hunfailing .shell trivial⟩

end Program
end RemoteNotebook
