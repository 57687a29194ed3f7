import RemoteNotebook.Proofs.Completion
import RemoteNotebook.Proofs.InputLines
import RemoteNotebook.Proofs.SameAnswers

/-! Turns of the shell on a terminal. There are thirteen ways a turn can go where only reading can
fail, and each is told by its events: the lines that it asks for, and then what it does in the
session. -/
namespace RemoteNotebook

namespace Session

variable {α β : Type} {table : String} {form : Form} {events : List Event}

def AsksNothing (step : Step α) : Prop :=
  Dialogue.Always (fun events => Surface.questions (calls events) = 0) step

namespace AsksNothing

protected theorem bind {step : Step α} {k : α → Step β} (h : AsksNothing step)
    (hk : ∀ a, AsksNothing (k a)) : AsksNothing (step >>= k) := by
  refine Dialogue.Always.bind (fun es fs hes hfs => ?_) h hk
  rw [calls_append, Surface.questions_append, hes, hfs]

protected theorem pure (a : α) : AsksNothing (pure a : Step α) :=
  .silent (fun _ => rfl) rfl

theorem call {c : Call} (hc : c.kind ≠ .confirm) : AsksNothing (Session.call c) := by
  refine Dialogue.Always.ask (fun _ => rfl) fun answer => ?_
  rw [calls_call, Surface.questions, List.countP_cons_of_neg (by simpa using hc)]
  rfl

theorem roundTrip (query : Sql.Query) : AsksNothing (Session.roundTrip query) := by
  have hsend : AsksNothing (send query) := .ask (fun _ => rfl) fun _ => rfl
  refine hsend.bind fun outcome => ?_
  exact (call (by simp [Call.kind])).bind fun _ => .pure _

theorem refresh (table : String) : AsksNothing (Session.refresh table) := by
  refine (roundTrip _).bind fun reply => ?_
  exact (call (by simp [Call.kind])).bind fun _ => .pure _

theorem start (table : String) : AsksNothing (Session.start table) :=
  (roundTrip _).bind fun _ => refresh table

theorem submit (table : String) : AsksNothing (Session.submit table) := by
  have hget : AsksNothing (get : Step Form) := .silent (fun _ => rfl) rfl
  have hset : AsksNothing (set Form.empty : Step PUnit) := .silent (fun _ => rfl) rfl
  have hid : AsksNothing newId := .ask (fun _ => rfl) fun _ => rfl
  refine hget.bind fun form => hid.bind fun id => (roundTrip _).bind fun reply => ?_
  cases reply.error with
  | none => exact hset.bind fun _ => (refresh table).bind fun _ => .pure true
  | some error => exact (call (by simp [Call.kind])).bind fun _ => .pure false

end AsksNothing

def OnlyQuestionsFail (events : List Event) : Prop :=
  ∀ c e, ⟨.call c, .error e⟩ ∈ events → c.kind = .confirm

/-- A step that asks no question goes through, where nothing else fails. -/
theorem AsksNothing.ends_ok {step : Step α} (h : AsksNothing step) (hstops : Stops step)
    {end_ : Except Failure α × Form} (hyields : (step form).Yields events end_)
    (hfail : OnlyQuestionsFail events) : ∃ a, end_.1 = .ok a := by
  cases hend : end_.1 with
  | ok a => exact ⟨a, rfl⟩
  | error e =>
    obtain ⟨c, hc⟩ := ((hstops form).error_iff hyields e).mp hend
    have hcalled : c ∈ calls events := List.mem_filterMap.mpr ⟨_, hc, rfl⟩
    have hnone : Surface.questions (calls events) = 0 := h hyields
    rw [Surface.questions, List.countP_eq_zero] at hnone
    exact absurd (hfail c e hc) (by simpa using hnone c hcalled)

/-- A deletion goes through, where nothing fails but its question. -/
theorem delete_goes {id : Int64} {end_ : Except Failure Bool × Form}
    (hyields : (delete table id form).Yields events end_) (hfail : OnlyQuestionsFail events) :
    (∃ e, events = [⟨.call (.confirm deletePrompt), .error e⟩] ∧ end_ = (.error e, form)) ∨
      ∃ success, end_.1 = .ok success ∧
        Action.Completes table (.delete id) form events (.done success) end_.2 := by
  obtain ⟨result, form'⟩ := end_
  cases result with
  | ok success => exact .inr ⟨success, rfl, delete_completes hyields⟩
  | error e =>
    generalize hend : (Except.error e, form') = end_ at hyields
    cases delete_yields hyields with
    | unanswered e' => exact .inl ⟨e', rfl, rfl⟩
    | declined => cases hend
    | agreed hgoes =>
      -- After an answer nothing can fail, so the step could not have ended with a failure.
      subst hend
      have hfail' : OnlyQuestionsFail _ := fun c e hc => hfail c e (.tail _ hc)
      have hcompositional := Stops.fullyCompositional.toCompositional
      have hdeletion : AsksNothing (deletion table id) :=
        (AsksNothing.roundTrip _).bind fun _ => (AsksNothing.refresh table).bind fun _ => .pure true
      have hstops : Stops (deletion table id) :=
        Stops.bind (hcompositional.roundTrip _) fun _ =>
          Stops.bind (hcompositional.refresh table) fun _ => Stops.pure true
      obtain ⟨_, hok⟩ := hdeletion.ends_ok hstops hgoes hfail'
      cases hok

def Action.quota : Action → Nat
  | refresh => 1
  | runSql _ => 1
  | setForm _ => 0
  | _ => 2

theorem Action.Completes.length_queries_le {a : Action} {form' : Form} {result : Result}
    (h : a.Completes table form events result form') : (queries events).length ≤ a.quota := by
  induction h with
  | rejected => exact Nat.le_succ 1
  | create _ _ _ _ _ _ _ ih => exact ih
  | declined => exact Nat.zero_le 2
  | _ => exact Nat.le_refl _

end Session

namespace Console

/-- What an event asks for was done, unless it was a line that is to be read. -/
def Event.Granted : Event → Prop
  | ⟨.session (.call c), answer⟩ => c.kind = .confirm ∨ ∃ a, answer = .ok a
  | ⟨.say _, said⟩ => said = .ok ()
  | ⟨.showReply _, shown⟩ => shown = .ok ()
  | _ => True

def OnlyReadingFails (events : List Event) : Prop := ∀ e ∈ events, e.Granted

theorem onlyReadingFails_cons {e : Event} {es : List Event} :
    OnlyReadingFails (e :: es) ↔ e.Granted ∧ OnlyReadingFails es :=
  List.forall_mem_cons

theorem onlyReadingFails_append {es fs : List Event} :
    OnlyReadingFails (es ++ fs) ↔ OnlyReadingFails es ∧ OnlyReadingFails fs :=
  List.forall_mem_append

theorem OnlyReadingFails.onlyQuestionsFail {es : List Session.Event}
    (h : OnlyReadingFails (es.map Event.ofSession)) : Session.OnlyQuestionsFail es := by
  intro c e hc
  obtain hconfirm | ⟨_, ⟨⟩⟩ := h _ (List.mem_map_of_mem hc)
  exact hconfirm

theorem Hears.onlyReadingFails {lines : List (List UInt8)} {es : List Event} (h : Hears lines es) :
    OnlyReadingFails es := by
  induction es generalizing lines with
  | nil => exact List.forall_mem_nil _
  | cons e es ih =>
    obtain ⟨he, hes⟩ := h
    refine onlyReadingFails_cons.mpr ⟨?_, ih hes⟩
    obtain ⟨q, answer⟩ := e
    cases q with
    | session q =>
      cases q with
      | send query => trivial
      | newId => trivial
      | call c => cases c with
        | confirm question => exact .inl rfl
        | _ => exact .inr he
    | prompt label => trivial
    | say line => exact he
    | showReply r => exact he

theorem answer_granted (q : Request) (w : World Terminal) : Event.Granted ⟨q, (answer q w).1⟩ := by
  cases q with
  | session q =>
    cases q with
    | send query => trivial
    | newId => trivial
    | call c =>
      cases c with
      | confirm question => exact .inl rfl
      | setStatus status => exact .inr ⟨_, rfl⟩
      | showNotes listing => exact .inr ⟨_, rfl⟩
      | alert message => exact .inr ⟨_, rfl⟩
  | prompt label => trivial
  | say line => rfl
  | showReply r => rfl

theorem run_onlyReadingFails {α : Type} (d : Dialogue Request Request.Answer α)
    (w : World Terminal) : OnlyReadingFails (d.run answer w).events := by
  induction d generalizing w with
  | done a => exact List.forall_mem_nil _
  | ask q next ih => exact onlyReadingFails_cons.mpr ⟨answer_granted q w, ih _ _⟩

end Console

namespace Shell

open Console (Event OnlyReadingFails onlyReadingFails_append onlyReadingFails_cons lift)
open Session (Action calls)

abbrev typed (line : String) : Console.Event := ⟨.prompt promptLabel, .ok (some line)⟩

/-- How both fields of a form are asked for. A field that is typed stays typed, whatever comes after
it. -/
inductive Fills (form : Form) : List Console.Event → Except Failure Bool × Form → Prop
  | filled (title content : String) :
    Fills form [⟨.prompt (fieldLabel "Title" form.title), .ok (some title)⟩,
      ⟨.prompt (fieldLabel "Content" form.content), .ok (some content)⟩]
      (.ok true, ⟨refill title form.title, refill content form.content⟩)
  | noTitle : Fills form [⟨.prompt (fieldLabel "Title" form.title), .ok none⟩] (.ok false, form)
  | noContent (title : String) :
    Fills form [⟨.prompt (fieldLabel "Title" form.title), .ok (some title)⟩,
      ⟨.prompt (fieldLabel "Content" form.content), .ok none⟩]
      (.ok false, ⟨refill title form.title, form.content⟩)
  | unreadTitle (e : Failure) :
    Fills form [⟨.prompt (fieldLabel "Title" form.title), .error e⟩] (.error e, form)
  | unreadContent (title : String) (e : Failure) :
    Fills form [⟨.prompt (fieldLabel "Title" form.title), .ok (some title)⟩,
      ⟨.prompt (fieldLabel "Content" form.content), .error e⟩]
      (.error e, ⟨refill title form.title, form.content⟩)

/-- How a turn goes where nothing fails but reading. -/
inductive Turned (table : String) (form : Form) :
    List Console.Event → Except Failure Flow × Form → Prop
  | unread (e : Failure) : Turned table form [⟨.prompt promptLabel, .error e⟩] (.error e, form)
  | ended : Turned table form [⟨.prompt promptLabel, .ok none⟩] (.ok .leave, form)
  | misread (line : String) (misread : Misread) (h : Command.parse line = .error misread) :
    Turned table form [typed line, ⟨.say misread.failure.userMessage, .ok ()⟩] (.ok .again, form)
  | empty (line : String) (h : Command.parse line = .ok .empty) :
    Turned table form [typed line] (.ok .again, form)
  | help (line : String) (h : Command.parse line = .ok .help) :
    Turned table form [typed line, ⟨.say helpText, .ok ()⟩] (.ok .again, form)
  | quit (line : String) (h : Command.parse line = .ok .quit) :
    Turned table form [typed line] (.ok .leave, form)
  | listed (line : String) (h : Command.parse line = .ok .list) (es : List Session.Event)
    (listing : Listing) (form' : Form)
    (hes : Action.refresh.Completes table form es (.shown listing) form') :
    Turned table form (typed line :: es.map Event.ofSession) (.ok .again, form')
  | ran (line statement : String) (h : Command.parse line = .ok (.sql statement))
    (es : List Session.Event) (reply : Reply) (form' : Form)
    (hes : (Action.runSql statement).Completes table form es (.reply reply) form') :
    Turned table form (typed line :: (es.map Event.ofSession ++ [⟨.showReply reply, .ok ()⟩]))
      (.ok .again, form')
  | asked (line : String) (id : Int64) (h : Command.parse line = .ok (.delete id))
    (es : List Session.Event) (success : Bool) (form' : Form)
    (hes : (Action.delete id).Completes table form es (.done success) form') :
    Turned table form (typed line :: es.map Event.ofSession) (.ok .again, form')
  | unanswered (line : String) (id : Int64) (h : Command.parse line = .ok (.delete id))
    (e : Failure) :
    Turned table form
      [typed line, ⟨.session (.call (.confirm Session.deletePrompt)), .error e⟩] (.error e, form)
  | added (line : String) (h : Command.parse line = .ok .add) (fields : List Console.Event)
    (filled : Form) (hfields : Fills form fields (.ok true, filled)) (es : List Session.Event)
    (success : Bool) (form' : Form)
    (hes : Action.submit.Completes table filled es (.done success) form') :
    Turned table form (typed line :: (fields ++ es.map Event.ofSession)) (.ok .again, form')
  | unfilled (line : String) (h : Command.parse line = .ok .add) (fields : List Console.Event)
    (form' : Form) (hfields : Fills form fields (.ok false, form')) :
    Turned table form (typed line :: fields) (.ok .leave, form')
  | unfillable (line : String) (h : Command.parse line = .ok .add) (fields : List Console.Event)
    (e : Failure) (form' : Form) (hfields : Fills form fields (.error e, form')) :
    Turned table form (typed line :: fields) (.error e, form')

section

variable {α β : Type} {table : String} {form : Form} {events : List Console.Event}

theorem prompt_yields {label : String} {k : Option String → Console.Step β}
    {end_ : Except Failure β × Form}
    (h : ((Console.prompt label >>= k) form).Yields events end_) :
    (∃ e, events = [⟨.prompt label, .error e⟩] ∧ end_ = (.error e, form)) ∨
      ∃ line rest, events = ⟨.prompt label, .ok line⟩ :: rest ∧ (k line form).Yields rest end_ := by
  rw [Console.prompt_bind] at h
  obtain ⟨answer, rest, rfl, hrest⟩ := Dialogue.yields_ask_iff.mp h
  cases answer with
  | error e =>
    obtain ⟨rfl, rfl⟩ := Dialogue.yields_done_iff.mp hrest
    exact .inl ⟨e, rfl, rfl⟩
  | ok line => exact .inr ⟨line, rest, rfl, hrest⟩

/-- A step of a session that goes through is followed by what comes after it. -/
theorem lift_yields {step : Session.Step α} {k : α → Console.Step β}
    {end_ : Except Failure β × Form} (h : ((lift step >>= k) form).Yields events end_)
    (hfail : OnlyReadingFails events) :
    ∃ es result form' rest, (step form).Yields es (result, form') ∧ Session.OnlyQuestionsFail es ∧
      events = es.map Event.ofSession ++ rest ∧
      ((∃ e, result = .error e ∧ rest = [] ∧ end_ = (.error e, form')) ∨
        ∃ a, result = .ok a ∧ (k a form').Yields rest end_) := by
  obtain ⟨first, result, form', rest, hfirst, rfl, hrest⟩ := Dialogue.step_bind_yields h
  obtain ⟨es, hes, rfl⟩ := Console.yields_lift hfirst
  have hquestions := (onlyReadingFails_append.mp hfail).1.onlyQuestionsFail
  exact ⟨es, result, form', rest, hes, hquestions, rfl, hrest⟩

theorem lift_yields_ok {step : Session.Step α} {k : α → Console.Step β}
    {end_ : Except Failure β × Form} (hasks : Session.AsksNothing step)
    (hstops : Session.Stops step) (h : ((lift step >>= k) form).Yields events end_)
    (hfail : OnlyReadingFails events) :
    ∃ es a form' rest, (step form).Yields es (.ok a, form') ∧
      events = es.map Event.ofSession ++ rest ∧ (k a form').Yields rest end_ := by
  obtain ⟨es, result, form', rest, hes, hquestions, rfl, hrest⟩ := lift_yields h hfail
  obtain ⟨a, hok⟩ := hasks.ends_ok hstops hes hquestions
  obtain rfl : result = .ok a := hok
  rcases hrest with ⟨_, ⟨⟩, -, -⟩ | ⟨a, ⟨⟩, hgoes⟩
  exact ⟨es, a, form', rest, hes, rfl, hgoes⟩

theorem pure_yields {a : α} {end_ : Except Failure α × Form}
    (h : ((pure a : Console.Step α) form).Yields events end_) :
    events = [] ∧ end_ = (.ok a, form) :=
  Dialogue.yields_done_iff.mp h

theorem say_yields {line : String} {k : Unit → Console.Step β} {end_ : Except Failure β × Form}
    (h : ((Console.say line >>= k) form).Yields events end_) (hfail : OnlyReadingFails events) :
    ∃ rest, events = ⟨.say line, .ok ()⟩ :: rest ∧ (k () form).Yields rest end_ := by
  obtain ⟨said, rest, rfl, hrest⟩ := Dialogue.yields_ask_iff.mp h
  obtain rfl : said = .ok () := (onlyReadingFails_cons.mp hfail).1
  exact ⟨rest, rfl, hrest⟩

theorem showReply_yields {r : Reply} {k : Unit → Console.Step β} {end_ : Except Failure β × Form}
    (h : ((Console.showReply r >>= k) form).Yields events end_) (hfail : OnlyReadingFails events) :
    ∃ rest, events = ⟨.showReply r, .ok ()⟩ :: rest ∧ (k () form).Yields rest end_ := by
  obtain ⟨shown, rest, rfl, hrest⟩ := Dialogue.yields_ask_iff.mp h
  obtain rfl : shown = .ok () := (onlyReadingFails_cons.mp hfail).1
  exact ⟨rest, rfl, hrest⟩

theorem fillForm_fills {end_ : Except Failure Bool × Form}
    (h : (fillForm form).Yields events end_) : Fills form events end_ := by
  change ((Console.prompt (fieldLabel "Title" form.title) >>= _) form).Yields events end_ at h
  rcases prompt_yields h with ⟨e, rfl, rfl⟩ | ⟨title, rest, rfl, htitle⟩
  · exact .unreadTitle e
  cases title with
  | none =>
    obtain ⟨rfl, rfl⟩ := pure_yields htitle
    exact .noTitle
  | some title =>
    change ((Console.prompt (fieldLabel "Content" form.content) >>= _)
      { form with title := refill title form.title }).Yields rest end_ at htitle
    rcases prompt_yields htitle with ⟨e, rfl, rfl⟩ | ⟨content, rest, rfl, hcontent⟩
    · exact .unreadContent title e
    cases content with
    | none =>
      obtain ⟨rfl, rfl⟩ := pure_yields hcontent
      exact .noContent title
    | some content =>
      obtain ⟨rfl, rfl⟩ := Dialogue.yields_done_iff.mp hcontent
      exact .filled title content

/-- Whatever a turn does on a terminal is one of the ways that there are. -/
theorem obey_turned {line : String} {command : Command} (hparse : Command.parse line = .ok command)
    {end_ : Except Failure Flow × Form} (h : (obey table command form).Yields events end_)
    (hfail : OnlyReadingFails events) : Turned table form (typed line :: events) end_ := by
  have hcompositional := Session.Stops.fullyCompositional.toCompositional
  cases command with
  | empty =>
    obtain ⟨rfl, rfl⟩ := pure_yields h
    exact .empty line hparse
  | quit =>
    obtain ⟨rfl, rfl⟩ := pure_yields h
    exact .quit line hparse
  | help =>
    obtain ⟨rest, rfl, hrest⟩ := say_yields h hfail
    obtain ⟨rfl, rfl⟩ := pure_yields hrest
    exact .help line hparse
  | list =>
    obtain ⟨es, listing, form', rest, hes, rfl, hrest⟩ := lift_yields_ok
      (Session.AsksNothing.refresh table) (hcompositional.refresh table) h hfail
    obtain ⟨rfl, rfl⟩ := pure_yields hrest
    rw [List.append_nil]
    exact .listed line hparse es listing form' (Action.completes_of_yields (Session.map_yields hes))
  | sql statement =>
    obtain ⟨es, reply, form', rest, hes, rfl, hrest⟩ := lift_yields_ok
      (Session.AsksNothing.roundTrip (.raw statement)) (hcompositional.roundTrip _) h hfail
    obtain ⟨rest, rfl, hshown⟩ := showReply_yields hrest (onlyReadingFails_append.mp hfail).2
    obtain ⟨rfl, rfl⟩ := pure_yields hshown
    exact .ran line statement hparse es reply form'
      (Action.completes_of_yields (Session.map_yields hes))
  | delete id =>
    obtain ⟨es, result, form', rest, hes, hquestions, rfl, hrest⟩ := lift_yields h hfail
    rcases Session.delete_goes hes hquestions with ⟨e, rfl, hend⟩ | ⟨success, hok, hcompletes⟩
    · obtain ⟨rfl, rfl⟩ := Prod.mk.inj hend
      rcases hrest with ⟨e, ⟨⟩, rfl, rfl⟩ | ⟨a, ⟨⟩, -⟩
      exact .unanswered line id hparse e
    · obtain rfl : result = .ok success := hok
      rcases hrest with ⟨_, ⟨⟩, -, -⟩ | ⟨_, ⟨⟩, hgoes⟩
      obtain ⟨rfl, rfl⟩ := pure_yields hgoes
      rw [List.append_nil]
      exact .asked line id hparse es success form' hcompletes
  | add =>
    obtain ⟨fields, result, filled, rest, hfields, rfl, hrest⟩ := Dialogue.step_bind_yields h
    have hfills := fillForm_fills hfields
    rcases hrest with ⟨e, rfl, rfl, rfl⟩ | ⟨full, rfl, hgoes⟩
    · rw [List.append_nil]
      exact .unfillable line hparse fields e filled hfills
    cases (full : Bool) with
    | false =>
      obtain ⟨rfl, rfl⟩ := pure_yields hgoes
      rw [List.append_nil]
      exact .unfilled line hparse fields filled hfills
    | true =>
      obtain ⟨es, success, form', rest, hes, rfl, hrest⟩ := lift_yields_ok
        (Session.AsksNothing.submit table) (Session.Stops.fullyCompositional.submit table) hgoes
        (onlyReadingFails_append.mp hfail).2
      obtain ⟨rfl, rfl⟩ := pure_yields hrest
      rw [List.append_nil]
      exact .added line hparse fields filled hfills es success form'
        (Session.submit_completes hes)

/-- A turn on a terminal goes one of the ways that there are. -/
theorem turn_turned {end_ : Except Failure Flow × Form}
    (h : (turn table form).Yields events end_) (hfail : OnlyReadingFails events) :
    Turned table form events end_ := by
  rcases prompt_yields h with ⟨e, rfl, rfl⟩ | ⟨line, rest, rfl, hline⟩
  · exact .unread e
  cases line with
  | none =>
    obtain ⟨rfl, rfl⟩ := pure_yields hline
    exact .ended
  | some line =>
    change (obeyLine table line form).Yields rest end_ at hline
    rw [obeyLine] at hline
    cases hparse : Command.parse line with
    | error misread =>
      rw [hparse] at hline
      obtain ⟨rest, rfl, hrest⟩ := say_yields hline (onlyReadingFails_cons.mp hfail).2
      obtain ⟨rfl, rfl⟩ := pure_yields hrest
      exact .misread line misread hparse
    | ok command =>
      rw [hparse] at hline
      exact obey_turned hparse hline (onlyReadingFails_cons.mp hfail).2

end

end Shell
end RemoteNotebook
