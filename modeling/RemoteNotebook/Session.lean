import RemoteNotebook.Dialogue
import RemoteNotebook.Sql.Statement
import RemoteNotebook.Surface

/-!
Sessions of one user with one table of notes. A step of a session is a dialogue: it sends queries,
draws ids and calls the surface, and it stops at the first call that the surface fails. A reply
never stops a step, whatever it reports. After each query, the status line is brought up to date
before anything else happens.
-/

namespace RemoteNotebook

namespace Session

inductive Request where
  | send (query : Sql.Query)
  | newId
  | call (c : Call)

abbrev Request.Answer : Request → Type
  | send _ => Outcome
  | newId => Int64
  | call c => Except Failure c.Answer

abbrev Event := Dialogue.Event Request Request.Answer

/-- A step keeps the form, and it ends with a value or with the failure of a call. -/
abbrev Step := ExceptT Failure (StateT Form (Dialogue Request Request.Answer))

def ask (q : Request) : StateT Form (Dialogue Request Request.Answer) q.Answer :=
  StateT.lift (Dialogue.request q)

def send (query : Sql.Query) : Step Outcome := ExceptT.lift (ask (.send query))

def newId : Step Int64 := ExceptT.lift (ask .newId)

def call (c : Call) : Step c.Answer := ExceptT.mk (ask (.call c))

/-- Goes on from the answer of a call, or stops where the call failed and leaves the form. -/
def orStop {α β : Type} (form : Form)
    (k : α → Dialogue Request Request.Answer (Except Failure β × Form)) :
    Except Failure α → Dialogue Request Request.Answer (Except Failure β × Form)
  | .ok a => k a
  | .error e => .done (.error e, form)

section

variable {α β : Type} (form : Form)

theorem pure_apply (a : α) : (pure a : Step α) form = .done (.ok a, form) := rfl

theorem bind_apply (step : Step α) (k : α → Step β) :
    (step >>= k) form =
      (step form).bind fun end_ => orStop end_.2 (fun a => k a end_.2) end_.1 := by
  refine congrArg (Dialogue.bind (step form)) (funext fun end_ => ?_)
  obtain ⟨result, form⟩ := end_
  cases result <;> rfl

theorem send_bind (query : Sql.Query) (k : Outcome → Step β) :
    (send query >>= k) form = .ask (.send query) fun outcome => k outcome form := rfl

theorem newId_bind (k : Int64 → Step β) :
    (newId >>= k) form = .ask .newId fun id => k id form := rfl

theorem call_bind (c : Call) (k : c.Answer → Step β) :
    (call c >>= k) form = .ask (.call c) (orStop form fun answer => k answer form) := by
  refine congrArg (Dialogue.ask (Request.call c)) (funext fun answer => ?_)
  cases answer <;> rfl

theorem get_bind (k : Form → Step β) : ((get : Step Form) >>= k) form = k form form := rfl

theorem set_bind (f : Form) (k : PUnit → Step β) : ((set f : Step PUnit) >>= k) form = k ⟨⟩ f := rfl

end

def deletePrompt : String := "Are you sure you want to delete this from the database?"

def rejection (error : String) : String := "Error: " ++ error

/-- Sends a query and puts what its outcome says of the connection on the status line. -/
def roundTrip (query : Sql.Query) : Step Reply := do
  let outcome ← send query
  call (.setStatus outcome.connectivity)
  return outcome.reply

theorem roundTrip_bind {β : Type} (query : Sql.Query) (k : Reply → Step β) (form : Form) :
    (roundTrip query >>= k) form =
      .ask (.send query) fun outcome => .ask (.call (.setStatus outcome.connectivity)) <|
        orStop form fun _ => k outcome.reply form := by
  simp only [roundTrip, bind_assoc, pure_bind, send_bind, call_bind form (.setStatus _)]

def refresh (table : String) : Step Listing := do
  let reply ← roundTrip (.statement (.select table))
  let listing := Listing.ofReply reply
  call (.showNotes listing)
  return listing

theorem refresh_apply (table : String) (form : Form) :
    refresh table form =
      .ask (.send (.statement (.select table))) fun outcome =>
        .ask (.call (.setStatus outcome.connectivity)) <| orStop form fun _ =>
          .ask (.call (.showNotes (.ofReply outcome.reply))) <| orStop form fun _ =>
            .done (.ok (.ofReply outcome.reply), form) := by
  simp only [refresh, roundTrip_bind, call_bind form (.showNotes _), pure_apply]

/-- Creates the table and shows what is in it. Creating may fail, as it does when there is one. -/
def start (table : String) : Step Listing := do
  let _ ← roundTrip (.statement (.createTable table))
  refresh table

/-- Stores the note in the form. If it is stored, the form is emptied and the notes are shown; if
not, the error is shown and the form is left as it is. -/
def submit (table : String) : Step Bool := do
  let form ← get
  let id ← newId
  let reply ← roundTrip (.statement (.insert table ⟨id, form.title, form.content⟩))
  match reply.error with
  | none =>
    set Form.empty
    let _ ← refresh table
    return true
  | some error =>
    call (.alert (rejection error))
    return false

def create (table title content : String) : Step Bool := do
  set (Form.mk title content)
  submit table

def delete (table : String) (id : Int64) : Step Bool := do
  let agreed : Bool ← call (.confirm deletePrompt)
  if agreed then
    let _ ← roundTrip (.statement (.delete table id))
    let _ ← refresh table
    return true
  else
    return false

def runSql (text : String) : Step Reply := roundTrip (.raw text)

inductive Action where
  | start
  | refresh
  | submit
  | create (title content : String)
  | delete (id : Int64)
  | runSql (text : String)
  | setForm (form : Form)
  deriving DecidableEq, Repr

inductive Result where
  | shown (listing : Listing)
  | done (success : Bool)
  | reply (r : Reply)
  | nothing

def Action.step (table : String) : Action → Step Result
  | .start => .shown <$> Session.start table
  | .refresh => .shown <$> Session.refresh table
  | .submit => .done <$> Session.submit table
  | .create title content => .done <$> Session.create table title content
  | .delete id => .done <$> Session.delete table id
  | .runSql text => .reply <$> Session.runSql text
  | .setForm form => do
    set form
    return .nothing

end Session

structure World (σ : Type) where
  surface : σ
  ids : Nat → Int64
  outcomes : Nat → Outcome
  drawn : Nat := 0
  sent : Nat := 0

def World.answer {σ : Type} (S : Surface σ) : (q : Session.Request) → World σ → q.Answer × World σ
  | .send _, w => (w.outcomes w.sent, { w with sent := w.sent + 1 })
  | .newId, w => (w.ids w.drawn, { w with drawn := w.drawn + 1 })
  | .call c, w =>
    let (answer, surface) := S c w.surface
    (answer, { w with surface := surface })

structure Session (σ : Type) where
  table : String
  form : Form := {}
  world : World σ
  log : List Session.Event := []

namespace Session

variable {σ α : Type}

def Step.runFrom (step : Step α) (form : Form) (respond : (q : Request) → σ → q.Answer × σ)
    (s : σ) : Dialogue.Run Request Request.Answer σ (Except Failure α × Form) :=
  (step form).run respond s

def take (S : Surface σ) (step : Step α) (s : Session σ) : Except Failure α × Session σ :=
  let run := step.runFrom s.form (World.answer S) s.world
  (run.value.1, { s with form := run.value.2, world := run.state, log := s.log ++ run.events })

def perform (S : Surface σ) (a : Action) (s : Session σ) : Except Failure Result × Session σ :=
  s.take S (a.step s.table)

/-- Performs actions after one another. One that fails does not keep the next ones from being
performed. -/
def performAll (S : Surface σ) : List Action → Session σ → List (Except Failure Result) × Session σ
  | [], s => ([], s)
  | a :: as, s =>
    let (result, s) := s.perform S a
    let (results, s) := performAll S as s
    (result :: results, s)

def sent? (e : Event) : Option Sql.Query :=
  match e.request with
  | .send query => some query
  | _ => none

def queries (events : List Event) : List Sql.Query := events.filterMap sent?

end Session
end RemoteNotebook
