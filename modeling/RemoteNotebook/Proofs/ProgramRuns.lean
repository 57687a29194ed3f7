import RemoteNotebook.Program
import RemoteNotebook.Proofs.ShellRuns

/-! Commands of the program. What holds of the events of all console steps on a table holds of
those of every command on it, the page and the shell among them. -/
namespace RemoteNotebook

namespace Console.Compositional

open Program (Exit)

variable {table : String} {P : (α : Type) → Step α → Prop}

theorem initStep (h : Compositional table P) : P Exit (Program.initStep table) :=
  h.bind h.start fun _ => h.pure Exit.success

theorem listStep (h : Compositional table P) : P Exit (Program.listStep table) :=
  h.bind h.refresh fun _ => h.pure Exit.success

theorem addStep (h : Compositional table P) (title content : String) :
    P Exit (Program.addStep table title content) :=
  h.bind (h.create title content) fun created => h.pure (Exit.ofBool created)

theorem deleteStep (h : Compositional table P) (id : Int64) :
    P Exit (Program.deleteStep table id) := by
  apply h.bind (h.delete id)
  intro deleted
  cases deleted with
  | true => exact h.pure Exit.success
  | false => exact h.bind (h.say _) fun _ => h.pure Exit.success

theorem sqlStep (h : Compositional table P) (statement : String) :
    P Exit (Program.sqlStep statement) := by
  apply h.bind (h.runSql statement)
  intro reply
  exact h.bind (h.showReply reply) fun _ => h.pure (Exit.ofBool !reply.isError)

end Console.Compositional

namespace Program

variable {table : String} {P : List Console.Event → Prop}

/-- Whatever becomes of the page, its queries are told. -/
theorem render_queries (h : Host) (table : String) (output : Option String) :
    (render h table output).queries = (pageRun h table).2 := by
  unfold render
  cases pageRun h table with
  | mk page queries =>
    cases page with
    | error e => rfl
    | ok text =>
      cases output with
      | none => rfl
      | some path =>
        dsimp only
        cases h.storage.write path (Text.Utf8.encode text.toList) <;> rfl

theorem render_none {h : Host} {text : String} (hpage : (pageRun h table).1 = .ok text) :
    (render h table none).result = .ok .success := by
  unfold render
  cases hrun : pageRun h table with
  | mk page queries =>
    rw [hrun] at hpage
    cases hpage
    rfl

/-- The queries of a command are those of some events that all console steps may have. -/
theorem perform_queries (hP : Console.Cumulative table P) (h : Host) (command : Command) :
    ∃ events, P events ∧ (perform h table command).queries = Console.queries events := by
  have htake (yes : Bool) {step : Console.Step Exit} (hstep : Dialogue.Always P step) :
      ∃ events, P events ∧ (h.take yes step).queries = Console.queries events :=
    ⟨_, hstep (Dialogue.run_yields _ _ _), rfl⟩
  have hsteps := hP.compositional
  cases command with
  | init => exact htake false hsteps.initStep
  | list => exact htake false hsteps.listStep
  | add title content => exact htake false (hsteps.addStep title content)
  | delete id yes => exact htake yes (hsteps.deleteStep id)
  | sql statement => exact htake false (hsteps.sqlStep statement)
  | shell =>
    obtain ⟨flow, hreaches, -⟩ := Shell.run_reaches table {} (h.terminal false)
    exact ⟨_, hP.reaches hreaches, rfl⟩
  | render output =>
    let page := (Session.refresh table).runFrom {} (World.answer Page.surface)
      ⟨{}, h.ids, h.outcomes, 0, 0⟩
    have hevents : P (page.events.map Console.Event.ofSession) :=
      hP.perform .refresh (Session.map_yields (Dialogue.run_yields _ _ _))
    refine ⟨_, hevents, ?_⟩
    have hpage : (pageRun h table).2 = Session.queries page.events := rfl
    exact (render_queries h table output).trans
      (hpage.trans (Console.queries_ofSession page.events).symm)

end Program
end RemoteNotebook
