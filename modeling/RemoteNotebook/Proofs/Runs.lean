import RemoteNotebook.Page
import RemoteNotebook.Session

/-! Runs of steps. What a step does is told by its events, whoever answers them; on a surface that
fails no call, a refresh goes through to the listing. -/
namespace RemoteNotebook

namespace Dialogue

variable {Q : Type} {A : Q → Type} {α β σ : Type}

/-- With these events, the dialogue ends with this value, whoever gave the answers in them. -/
inductive Yields : Dialogue Q A α → List (Event Q A) → α → Prop
  | done (a : α) : Yields (.done a) [] a
  | ask {q : Q} {next : A q → Dialogue Q A α} (answer : A q) {events : List (Event Q A)} {a : α}
    (h : Yields (next answer) events a) : Yields (.ask q next) (⟨q, answer⟩ :: events) a

variable {events : List (Event Q A)} {b : β}

theorem run_yields (respond : (q : Q) → σ → A q × σ) (d : Dialogue Q A α) (s : σ) :
    d.Yields (d.run respond s).events (d.run respond s).value := by
  induction d generalizing s with
  | done a => exact .done a
  | ask q next ih => exact .ask _ (ih _ _)

theorem yields_done_iff {a a' : α} {events : List (Event Q A)} :
    (Dialogue.done a).Yields events a' ↔ events = [] ∧ a' = a := by
  constructor
  · rintro ⟨⟩
    exact ⟨rfl, rfl⟩
  · rintro ⟨rfl, rfl⟩
    exact .done _

theorem yields_ask_iff {q : Q} {next : A q → Dialogue Q A α} {a : α} :
    (Dialogue.ask q next).Yields events a ↔
      ∃ answer rest, events = ⟨q, answer⟩ :: rest ∧ (next answer).Yields rest a := by
  constructor
  · rintro ⟨⟩
    exact ⟨_, _, rfl, ‹_›⟩
  · rintro ⟨answer, rest, rfl, h⟩
    exact .ask answer h

/-- The events of two dialogues after one another are those of the first and then those of the
second. -/
theorem Yields.of_bind {d : Dialogue Q A α} {f : α → Dialogue Q A β}
    (h : (d.bind f).Yields events b) :
    ∃ first a rest, d.Yields first a ∧ (f a).Yields rest b ∧ events = first ++ rest := by
  induction d generalizing events with
  | done a => exact ⟨[], a, events, .done a, h, rfl⟩
  | ask q next ih =>
    obtain ⟨answer, rest, rfl, hrest⟩ := yields_ask_iff.mp h
    obtain ⟨first, a, second, hfirst, hsecond, rfl⟩ := ih answer hrest
    exact ⟨⟨q, answer⟩ :: first, a, second, .ask answer hfirst, hsecond, rfl⟩

/-- A step of any kind that keeps the form and may end with a failure: what comes after a failure is
nothing. -/
theorem step_bind_yields {step : ExceptT Failure (StateT Form (Dialogue Q A)) α}
    {k : α → ExceptT Failure (StateT Form (Dialogue Q A)) β} {form : Form}
    {events : List (Event Q A)} {end_ : Except Failure β × Form}
    (h : ((step >>= k) form).Yields events end_) :
    ∃ first result form' rest, (step form).Yields first (result, form') ∧
      events = first ++ rest ∧
      ((∃ e, result = .error e ∧ rest = [] ∧ end_ = (.error e, form')) ∨
        ∃ a, result = .ok a ∧ (k a form').Yields rest end_) := by
  obtain ⟨first, ⟨result, form'⟩, rest, hfirst, hrest, rfl⟩ := Yields.of_bind h
  refine ⟨first, result, form', rest, hfirst, rfl, ?_⟩
  cases result with
  | error e =>
    obtain ⟨rfl, rfl⟩ := yields_done_iff.mp hrest
    exact .inl ⟨e, rfl, rfl, rfl⟩
  | ok a => exact .inr ⟨a, rfl, hrest⟩

/-- A step whose events have a property, whoever answers it. -/
def Always (P : List (Event Q A) → Prop) (step : ExceptT Failure (StateT Form (Dialogue Q A)) α) :
    Prop :=
  ∀ ⦃form events end_⦄, (step form).Yields events end_ → P events

namespace Always

variable {P : List (Event Q A) → Prop} {step : ExceptT Failure (StateT Form (Dialogue Q A)) α}

theorem silent {end_ : Form → Except Failure α × Form}
    (hstep : ∀ form, step form = .done (end_ form)) (h : P []) : Always P step := by
  intro form events _ hyields
  rw [hstep] at hyields
  obtain ⟨rfl, -⟩ := yields_done_iff.mp hyields
  exact h

theorem ask {q : Q} {end_ : Form → A q → Except Failure α × Form}
    (hstep : ∀ form, step form = .ask q fun answer => .done (end_ form answer))
    (h : ∀ answer, P [⟨q, answer⟩]) : Always P step := by
  intro form events _ hyields
  rw [hstep] at hyields
  obtain ⟨answer, rest, rfl, hrest⟩ := yields_ask_iff.mp hyields
  obtain ⟨rfl, -⟩ := yields_done_iff.mp hrest
  exact h answer

protected theorem bind {k : α → ExceptT Failure (StateT Form (Dialogue Q A)) β}
    (happend : ∀ ⦃es fs⦄, P es → P fs → P (es ++ fs)) (h : Always P step)
    (hk : ∀ a, Always P (k a)) : Always P (step >>= k) := by
  intro form events end_ hyields
  obtain ⟨first, result, form', rest, hfirst, rfl, hrest⟩ := step_bind_yields hyields
  obtain ⟨e, -, rfl, -⟩ | ⟨a, -, hgoes⟩ := hrest
  · rw [List.append_nil]
    exact h hfirst
  · exact happend (h hfirst) (hk a hgoes)

end Always

end Dialogue

namespace Surface

variable {σ : Type} {S : Surface σ} {s : σ}

def after (S : Surface σ) (cs : List Call) (s : σ) : σ := cs.foldl (fun s c => (S c s).2) s

/-- From this state on, the surface fails no call. -/
def Reliable (S : Surface σ) (s : σ) : Prop :=
  ∀ cs c, ∃ answer, (S c (S.after cs s)).1 = .ok answer

theorem Reliable.answers (h : S.Reliable s) (c : Call) : ∃ answer, (S c s).1 = .ok answer :=
  h [] c

theorem Reliable.next (h : S.Reliable s) (c : Call) : S.Reliable (S c s).2 :=
  fun cs => h (c :: cs)

theorem page_reliable (p : Page) : Reliable Page.surface p := by
  intro cs c
  cases c <;> exact ⟨_, rfl⟩

end Surface

namespace Session

variable {σ α β : Type}

abbrev StepDialogue (α : Type) := Dialogue Request Request.Answer (Except Failure α × Form)

@[simp] theorem orStop_ok (form : Form) (k : α → StepDialogue β) (a : α) :
    orStop form k (.ok a) = k a := rfl

@[simp] theorem orStop_error (form : Form) (k : α → StepDialogue β) (e : Failure) :
    orStop form k (.error e) = .done (.error e, form) := rfl

section

variable {form : Form} {events : List Event}

theorem orStop_yields {k : α → StepDialogue β} {answer : Except Failure α}
    {end_ : Except Failure β × Form} (h : (orStop form k answer).Yields events end_) :
    (∃ e, answer = .error e ∧ events = [] ∧ end_ = (.error e, form)) ∨
      ∃ a, answer = .ok a ∧ (k a).Yields events end_ := by
  cases answer with
  | error e =>
    obtain ⟨rfl, rfl⟩ := Dialogue.yields_done_iff.mp h
    exact .inl ⟨e, rfl, rfl, rfl⟩
  | ok a => exact .inr ⟨a, rfl, h⟩

theorem call_yields {c : Call} {k : c.Answer → Step β} {end_ : Except Failure β × Form}
    (h : ((call c >>= k) form).Yields events end_) :
    ∃ answer rest, events = ⟨.call c, answer⟩ :: rest ∧
      (orStop form (fun a => k a form) answer).Yields rest end_ := by
  rw [call_bind] at h
  exact Dialogue.yields_ask_iff.mp h

def tripEvents (query : Sql.Query) (outcome : Outcome) (told : Except Failure Unit) : List Event :=
  [⟨.send query, outcome⟩, ⟨.call (.setStatus outcome.connectivity), told⟩]

theorem roundTrip_yields {query : Sql.Query} {k : Reply → Step β}
    {end_ : Except Failure β × Form} (h : ((roundTrip query >>= k) form).Yields events end_) :
    ∃ outcome told rest, events = tripEvents query outcome told ++ rest ∧
      (orStop form (fun _ => k outcome.reply form) told).Yields rest end_ := by
  rw [roundTrip_bind] at h
  obtain ⟨outcome, rest, rfl, hsend⟩ := Dialogue.yields_ask_iff.mp h
  obtain ⟨told, rest, rfl, htold⟩ := Dialogue.yields_ask_iff.mp hsend
  exact ⟨outcome, told, rest, rfl, htold⟩

theorem roundTrip_events {query : Sql.Query} {end_ : Except Failure Reply × Form}
    (h : (roundTrip query form).Yields events end_) :
    ∃ outcome told, events = tripEvents query outcome told := by
  rw [← bind_pure (roundTrip query)] at h
  obtain ⟨outcome, told, rest, rfl, hrest⟩ := roundTrip_yields h
  refine ⟨outcome, told, ?_⟩
  obtain ⟨e, -, rfl, -⟩ | ⟨-, -, hend⟩ := orStop_yields hrest
  · exact List.append_nil _
  · rw [(Dialogue.yields_done_iff.mp hend).1, List.append_nil]

/-- A refresh sends one query, and shows at most the listing of its reply. -/
theorem refresh_yields {table : String} {end_ : Except Failure Listing × Form}
    (h : (refresh table form).Yields events end_) :
    ∃ outcome told rest, events = tripEvents (.statement (.select table)) outcome told ++ rest ∧
      (rest = [] ∨ ∃ shown, rest = [⟨.call (.showNotes (.ofReply outcome.reply)), shown⟩]) := by
  obtain ⟨outcome, told, rest, rfl, htold⟩ := roundTrip_yields h
  refine ⟨outcome, told, rest, rfl, ?_⟩
  obtain ⟨e, -, rfl, -⟩ | ⟨-, -, hshow⟩ := orStop_yields htold
  · exact .inl rfl
  obtain ⟨shown, rest, rfl, hshown⟩ := call_yields hshow
  obtain ⟨e, -, rfl, -⟩ | ⟨-, -, hend⟩ := orStop_yields hshown
  · exact .inr ⟨_, rfl⟩
  · obtain ⟨rfl, -⟩ := Dialogue.yields_done_iff.mp hend
    exact .inr ⟨_, rfl⟩

def deletion (table : String) (id : Int64) : Step Bool := do
  let _ ← roundTrip (.statement (.delete table id))
  let _ ← refresh table
  return true

/-- The ways that a deletion goes from a form, whoever answers it. -/
inductive Deleted (table : String) (id : Int64) (form : Form) :
    List Event → Except Failure Bool × Form → Prop
  | unanswered (e : Failure) :
    Deleted table id form [⟨.call (.confirm deletePrompt), .error e⟩] (.error e, form)
  | declined : Deleted table id form [⟨.call (.confirm deletePrompt), .ok false⟩] (.ok false, form)
  | agreed {rest : List Event} {end_ : Except Failure Bool × Form}
    (h : (deletion table id form).Yields rest end_) :
    Deleted table id form (⟨.call (.confirm deletePrompt), .ok true⟩ :: rest) end_

theorem delete_yields {table : String} {id : Int64} {end_ : Except Failure Bool × Form}
    (h : (delete table id form).Yields events end_) : Deleted table id form events end_ := by
  obtain ⟨answer, rest, rfl, hrest⟩ := call_yields h
  obtain ⟨e, rfl, rfl, rfl⟩ | ⟨agreed, rfl, hgoes⟩ := orStop_yields hrest
  · exact .unanswered e
  · cases (agreed : Bool) with
    | false =>
      obtain ⟨rfl, rfl⟩ := Dialogue.yields_done_iff.mp hgoes
      exact .declined
    | true => exact .agreed hgoes

end

/-- A property of the pieces that handlers are made of, and of steps that are made of steps with
it. -/
structure Compositional (P : (α : Type) → Step α → Prop) : Prop where
  pure : ∀ {α : Type} (a : α), P α (pure a)
  bind : ∀ {α β : Type} {step : Step α} {k : α → Step β},
    P α step → (∀ a, P β (k a)) → P β (step >>= k)
  roundTrip : ∀ query, P Reply (Session.roundTrip query)
  showNotes : ∀ reply, P Unit (Session.call (.showNotes (.ofReply reply)))
  confirm : P Bool (Session.call (.confirm deletePrompt))

namespace Compositional

variable {P : (α : Type) → Step α → Prop}

theorem of_requests (hpure : ∀ {α : Type} (a : α), P α (Pure.pure a))
    (hbind : ∀ {α β : Type} {step : Step α} {k : α → Step β},
      P α step → (∀ a, P β (k a)) → P β (step >>= k))
    (hsend : ∀ query, P Outcome (Session.send query))
    (hcall : ∀ c : Call, P c.Answer (Session.call c)) : Compositional P where
  pure := hpure
  bind := hbind
  roundTrip query := by
    apply hbind (hsend query)
    intro outcome
    exact hbind (hcall (.setStatus outcome.connectivity)) fun _ => hpure _
  showNotes reply := hcall (.showNotes (.ofReply reply))
  confirm := hcall (.confirm deletePrompt)

theorem map (hP : Compositional P) (f : α → β) {step : Step α} (h : P α step) :
    P β (f <$> step) := by
  rw [map_eq_pure_bind]
  exact hP.bind h fun a => hP.pure (f a)

theorem refresh (hP : Compositional P) (table : String) :
    P Listing (Session.refresh table) := by
  apply hP.bind (hP.roundTrip _)
  intro reply
  exact hP.bind (hP.showNotes reply) fun _ => hP.pure _

theorem start (hP : Compositional P) (table : String) : P Listing (Session.start table) :=
  hP.bind (hP.roundTrip _) fun _ => hP.refresh table

theorem delete (hP : Compositional P) (table : String) (id : Int64) :
    P Bool (Session.delete table id) := by
  apply hP.bind hP.confirm
  intro agreed
  cases (agreed : Bool) with
  | true => exact hP.bind (hP.roundTrip _) fun _ => hP.bind (hP.refresh table) fun _ => hP.pure true
  | false => exact hP.pure false

end Compositional

structure FullyCompositional (P : (α : Type) → Step α → Prop) : Prop extends Compositional P where
  get : P Form MonadState.get
  set : ∀ form : Form, P PUnit (MonadStateOf.set form)
  newId : P Int64 Session.newId
  alert : ∀ error, P Unit (Session.call (.alert (rejection error)))

namespace FullyCompositional

variable {P : (α : Type) → Step α → Prop}

theorem submit (hP : FullyCompositional P) (table : String) : P Bool (Session.submit table) := by
  apply hP.bind hP.get
  intro form
  apply hP.bind hP.newId
  intro id
  apply hP.bind (hP.roundTrip _)
  intro reply
  cases reply.error with
  | none =>
    exact hP.bind (hP.set Form.empty) fun _ => hP.bind (hP.refresh table) fun _ => hP.pure true
  | some error => exact hP.bind (hP.alert error) fun _ => hP.pure false

theorem create (hP : FullyCompositional P) (table title content : String) :
    P Bool (Session.create table title content) :=
  hP.bind (hP.set ⟨title, content⟩) fun _ => hP.submit table

theorem step (hP : FullyCompositional P) (table : String) (a : Action) :
    P Result (a.step table) := by
  cases a with
  | start => exact hP.map _ (hP.start table)
  | refresh => exact hP.map _ (hP.refresh table)
  | submit => exact hP.map _ (hP.submit table)
  | create title content => exact hP.map _ (hP.create table title content)
  | delete id => exact hP.map _ (hP.delete table id)
  | runSql text => exact hP.map _ (hP.roundTrip _)
  | setForm form => exact hP.bind (hP.set form) fun _ => hP.pure _

/-- A property of events that those of queries and of calls have, and so those of all handlers. -/
theorem of_events {P : List Event → Prop} (hnil : P [])
    (happend : ∀ ⦃es fs⦄, P es → P fs → P (es ++ fs))
    (htrip : ∀ query outcome told, P (tripEvents query outcome told))
    (hnewId : ∀ id, P [⟨.newId, id⟩])
    (hshow : ∀ reply shown, P [⟨.call (.showNotes (.ofReply reply)), shown⟩])
    (halert : ∀ error alerted, P [⟨.call (.alert (rejection error)), alerted⟩])
    (hconfirm : ∀ agreed, P [⟨.call (.confirm deletePrompt), agreed⟩]) :
    FullyCompositional fun _ => Dialogue.Always P where
  pure _ := .silent (fun _ => rfl) hnil
  bind := .bind happend
  roundTrip query := by
    intro form events end_ h
    obtain ⟨outcome, told, rfl⟩ := roundTrip_events h
    exact htrip query outcome told
  showNotes reply := .ask (fun _ => rfl) (hshow reply)
  confirm := .ask (fun _ => rfl) hconfirm
  get := .silent (fun _ => rfl) hnil
  set _ := .silent (fun _ => rfl) hnil
  newId := .ask (fun _ => rfl) hnewId
  alert error := .ask (fun _ => rfl) (halert error)

end FullyCompositional

abbrev StepRun (σ α : Type) := Dialogue.Run Request Request.Answer σ α

def precede (e : Event) (run : StepRun σ α) : StepRun σ α := { run with events := e :: run.events }

theorem run_send (S : Surface σ) (w : World σ) (query : Sql.Query)
    (next : Outcome → Dialogue Request Request.Answer α) :
    (Dialogue.ask (.send query) next).run (World.answer S) w =
      precede ⟨.send query, w.outcomes w.sent⟩
        ((next (w.outcomes w.sent)).run (World.answer S) { w with sent := w.sent + 1 }) := rfl

theorem run_call {S : Surface σ} {w : World σ} {c : Call} {answer : Except Failure c.Answer}
    (h : (S c w.surface).1 = answer)
    (next : Except Failure c.Answer → Dialogue Request Request.Answer α) :
    (Dialogue.ask (.call c) next).run (World.answer S) w =
      precede ⟨.call c, answer⟩
        ((next answer).run (World.answer S) { w with surface := (S c w.surface).2 }) := by
  subst h
  rfl

def refreshEvents (table : String) (outcome : Outcome) : List Event :=
  [⟨.send (.statement (.select table)), outcome⟩,
    ⟨.call (.setStatus outcome.connectivity), .ok ()⟩,
    ⟨.call (.showNotes (.ofReply outcome.reply)), .ok ()⟩]

theorem run_refresh {S : Surface σ} {w : World σ} (h : S.Reliable w.surface) (table : String)
    (form : Form) :
    let outcome := w.outcomes w.sent
    ∃ w', (refresh table).runFrom form (World.answer S) w =
      ⟨(.ok (.ofReply outcome.reply), form), w', refreshEvents table outcome⟩ := by
  intro outcome
  obtain ⟨⟨⟩, hstatus⟩ := h.answers (.setStatus outcome.connectivity)
  obtain ⟨⟨⟩, hnotes⟩ := (h.next (.setStatus outcome.connectivity)).answers
    (.showNotes (.ofReply outcome.reply))
  let w₁ : World σ := { w with sent := w.sent + 1 }
  let w₂ : World σ := { w₁ with surface := (S (.setStatus outcome.connectivity) w.surface).2 }
  rw [Step.runFrom, refresh_apply, run_send, run_call (w := w₁) hstatus, orStop_ok,
    run_call (w := w₂) hnotes, orStop_ok]
  exact ⟨_, rfl⟩

theorem take_refresh {S : Surface σ} {s : Session σ} {outcome : Outcome}
    (h : S.Reliable s.world.surface) (ho : s.world.outcomes s.world.sent = outcome) :
    (s.take S (refresh s.table)).1 = .ok (.ofReply outcome.reply) ∧
      (s.take S (refresh s.table)).2.log = s.log ++ refreshEvents s.table outcome := by
  obtain ⟨w', hrun⟩ := run_refresh h s.table s.form
  rw [take, hrun, ho]
  exact ⟨rfl, rfl⟩

def pageSession (body : Json) : Session Page :=
  ⟨"notes", {}, ⟨{}, fun _ => 1, fun _ => .connected (.ofJson body), 0, 0⟩, []⟩

end Session
end RemoteNotebook
