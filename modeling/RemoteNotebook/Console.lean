import RemoteNotebook.Session
import RemoteNotebook.Terminal

/-!
Sessions on a terminal. Besides what a step of a session asks, a console step can read a line, write
a line and write a reply. Each of these may fail, and the step then stops as at a call that fails.
-/

namespace RemoteNotebook.Console

inductive Request where
  | session (q : Session.Request)
  | prompt (label : String)
  | say (line : String)
  | showReply (r : Reply)

abbrev Request.Answer : Request → Type
  | session q => q.Answer
  | prompt _ => Except Failure (Option String)
  | say _ => Except Failure Unit
  | showReply _ => Except Failure Unit

abbrev Event := Dialogue.Event Request Request.Answer

abbrev Step := ExceptT Failure (StateT Form (Dialogue Request Request.Answer))

def lift {α : Type} (step : Session.Step α) : Step α :=
  fun form => (step form).widen Request.session fun _ answer => answer

def ask (q : Request) : StateT Form (Dialogue Request Request.Answer) q.Answer :=
  StateT.lift (Dialogue.request q)

def prompt (label : String) : Step (Option String) := ExceptT.mk (ask (.prompt label))

def say (line : String) : Step Unit := ExceptT.mk (ask (.say line))

def showReply (r : Reply) : Step Unit := ExceptT.mk (ask (.showReply r))

theorem prompt_bind {β : Type} (label : String) (k : Option String → Step β) (form : Form) :
    (prompt label >>= k) form = .ask (.prompt label) fun
      | .ok line => k line form
      | .error e => .done (.error e, form) := by
  refine congrArg (Dialogue.ask (Request.prompt label)) (funext fun line => ?_)
  cases line <;> rfl

/-- How a terminal and what is around it answer a request. -/
def answer : (q : Request) → World Terminal → q.Answer × World Terminal
  | .session q, w => w.answer Terminal.surface q
  | .prompt label, w =>
    let (line, terminal) := w.surface.prompt label
    (line, { w with surface := terminal })
  | .say line, w => (.ok (), { w with surface := w.surface.say line })
  | .showReply r, w => (.ok (), { w with surface := w.surface.showReply r })

abbrev Run (α : Type) :=
  Dialogue.Run Request Request.Answer (World Terminal) (Except Failure α × Form)

def Step.runFrom {α : Type} (step : Step α) (form : Form) (w : World Terminal) : Run α :=
  (step form).run answer w

def Event.session? : Event → Option Session.Event
  | ⟨.session q, a⟩ => some ⟨q, a⟩
  | _ => none

def queries (events : List Event) : List Sql.Query :=
  Session.queries (events.filterMap Event.session?)

end RemoteNotebook.Console
