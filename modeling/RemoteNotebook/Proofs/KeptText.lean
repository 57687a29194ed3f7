import RemoteNotebook.Proofs.History

/-! Text in the form over a whole run. It stays there until the user puts other text in its place,
or until a note with exactly this text is stored. -/
namespace RemoteNotebook
namespace Session

structure Submission where
  id : Int64
  outcome : Outcome
  told : Except Failure Unit
  rest : List Event

namespace Submission

def events (sub : Submission) (table : String) (form : Form) : List Event :=
  ⟨.newId, sub.id⟩ ::
    (tripEvents (.statement (.insert table ⟨sub.id, form.title, form.content⟩)) sub.outcome
      sub.told ++ sub.rest)

/-- The note is stored, and the surface takes the status that tells so. -/
def Accepted (sub : Submission) : Prop := sub.outcome.reply.error = none ∧ sub.told = .ok ()

end Submission

def IsInsert (e : Event) : Prop := ∃ table note, e.request = .send (.statement (.insert table note))

/-- What a submission of the text in a form does. It sends one note with this text, and it leaves
the form empty exactly if that is accepted, even where the listing that follows fails. -/
def Submits (table : String) (form : Form) (events : List Event)
    (end_ : Except Failure Bool × Form) : Prop :=
  ∃ sub : Submission, events = sub.events table form ∧ (∀ e ∈ sub.rest, ¬IsInsert e) ∧
    (sub.Accepted → end_.2 = Form.empty ∧ (end_.1 = .ok true ∨ ∃ e, end_.1 = .error e)) ∧
    (¬sub.Accepted → end_.2 = form)

variable {σ : Type} {table : String} {form : Form} {events : List Event}

theorem not_isInsert_call (c : Call) (answer : Except Failure c.Answer) :
    ¬IsInsert ⟨.call c, answer⟩ := by
  rintro ⟨_, _, ⟨⟩⟩

theorem refresh_not_isInsert {end_ : Except Failure Listing × Form}
    (h : (refresh table form).Yields events end_) : ∀ e ∈ events, ¬IsInsert e := by
  obtain ⟨outcome, told, rest, rfl, hrest⟩ := refresh_yields h
  have hselect : ¬IsInsert ⟨.send (.statement (.select table)), outcome⟩ := by
    rintro ⟨_, _, ⟨⟩⟩
  have hstatus : ¬IsInsert ⟨.call (.setStatus outcome.connectivity), told⟩ := not_isInsert_call _ _
  obtain rfl | ⟨shown, rfl⟩ := hrest
  · simp [tripEvents, hselect, hstatus]
  · simp [tripEvents, hselect, hstatus, not_isInsert_call]

theorem accepted_events_iff (sub : Submission) :
    accepted (sub.events table form) = true ↔ sub.Accepted := by
  obtain ⟨id, outcome, told, rest⟩ := sub
  cases told with
  | error e => simp [Submission.events, Submission.Accepted, tripEvents, accepted]
  | ok _ => simp [Submission.events, Submission.Accepted, tripEvents, accepted]

/-- A submission empties the form if it is accepted, and else leaves it. -/
theorem submission_form (sub : Submission) {end_ : Except Failure Bool × Form}
    (h : (submit table form).Yields (sub.events table form) end_) :
    (sub.Accepted → end_.2 = Form.empty) ∧ (¬sub.Accepted → end_.2 = form) := by
  have hform := submit_form h
  constructor
  · intro haccepted
    rw [hform, if_pos ((accepted_events_iff sub).mpr haccepted)]
  · intro hrejected
    rw [hform, if_neg (hrejected ∘ (accepted_events_iff sub).mp)]

theorem submit_submits {end_ : Except Failure Bool × Form}
    (h : (submit table form).Yields events end_) : Submits table form events end_ := by
  cases submit_yields h with
  | untold id inserted e =>
    let sub : Submission := ⟨id, inserted, .error e, []⟩
    obtain ⟨hempty, hkept⟩ := submission_form sub h
    exact ⟨sub, rfl, by simp [sub], fun haccepted => ⟨hempty haccepted, .inr ⟨e, rfl⟩⟩, hkept⟩
  | rejected id inserted error herror alerted =>
    let sub : Submission := ⟨id, inserted, .ok (), [⟨.call (.alert (rejection error)), alerted⟩]⟩
    obtain ⟨-, hkept⟩ := submission_form sub h
    have hrejected : ¬sub.Accepted := fun haccepted => by cases herror.symm.trans haccepted.1
    refine ⟨sub, rfl, ?_, fun haccepted => absurd haccepted hrejected, hkept⟩
    simp [sub, not_isInsert_call]
  | stored id inserted hnone rest listed form' hrest =>
    let sub : Submission := ⟨id, inserted, .ok (), rest⟩
    obtain ⟨hempty, hkept⟩ := submission_form sub h
    refine ⟨sub, rfl, refresh_not_isInsert hrest, fun haccepted => ⟨hempty haccepted, ?_⟩, hkept⟩
    cases listed with
    | ok listing => exact .inl rfl
    | error e => exact .inr ⟨e, rfl⟩

def Performed.FormRule (table : String) (p : Performed) : Prop :=
  match p.action with
  | .start | .refresh | .delete _ | .runSql _ => p.after = p.before
  | .submit =>
    ∃ result, p.result = result.map .done ∧ Submits table p.before p.events (result, p.after)
  | .create title content =>
    ∃ result, p.result = result.map .done ∧
      Submits table ⟨title, content⟩ p.events (result, p.after)
  | .setForm form => p.after = form

/-- Creating a note is filling the form and submitting it. -/
theorem perform_create (S : Surface σ) (s : Session σ) (title content : String) :
    s.perform S (.create title content) =
      { s with form := ⟨title, content⟩ }.perform S .submit := rfl

theorem formRule_of_yields {p : Performed}
    (h : (p.action.step table p.before).Yields p.events (p.result, p.after)) :
    p.FormRule table := by
  have hform := Action.step_form h
  obtain ⟨a, before, result, events, after⟩ := p
  cases a with
  | start => exact hform
  | refresh => exact hform
  | submit =>
    obtain ⟨result', hstep, hresult⟩ := yields_map h
    exact ⟨result', hresult, submit_submits hstep⟩
  | create title content =>
    obtain ⟨result', hstep, hresult⟩ := yields_map h
    have hsubmit : (submit table ⟨title, content⟩).Yields events (result', after) := hstep
    exact ⟨result', hresult, submit_submits hsubmit⟩
  | delete id => exact hform
  | runSql text => exact hform
  | setForm form => exact hform

/-- An action that takes the text out of the form: the user puts other text there, or the text is
stored as a note. -/
def Performed.Replaces (table : String) (p : Performed) : Prop :=
  (∃ form, p.action = .setForm form) ∨ (∃ title content, p.action = .create title content) ∨
    p.action = .submit ∧ ∃ sub : Submission, sub.Accepted ∧ p.events = sub.events table p.before

theorem Performed.FormRule.kept_or_replaces {p : Performed} (h : p.FormRule table) :
    p.after = p.before ∨ p.Replaces table := by
  obtain ⟨a, before, result, events, after⟩ := p
  cases a with
  | start => exact .inl h
  | refresh => exact .inl h
  | submit =>
    obtain ⟨result', -, sub, hevents, -, -, hkept⟩ := h
    by_cases haccepted : sub.Accepted
    · exact .inr (.inr (.inr ⟨rfl, sub, haccepted, hevents⟩))
    · exact .inl (hkept haccepted)
  | create title content => exact .inr (.inr (.inl ⟨title, content, rfl⟩))
  | delete id => exact .inl h
  | runSql text => exact .inl h
  | setForm form => exact .inr (.inl ⟨form, rfl⟩)

/-- After a run the form holds its text still, or the run has a first action that took it out. -/
theorem performAll_kept_or_replaced {S : Surface σ} (s : Session σ) (as : List Action) :
    (s.performAll S as).2.form = s.form ∨
      ∃ first p rest, s.history S as = first ++ p :: rest ∧ p.before = s.form ∧
        p.Replaces s.table := by
  induction as generalizing s with
  | nil => exact .inl rfl
  | cons a as ih =>
    have hrule : (s.performing S a).FormRule s.table := formRule_of_yields (performing_yields a s)
    obtain hkept | hreplaces := hrule.kept_or_replaces
    · have hform : (s.perform S a).2.form = s.form := hkept
      obtain hstill | ⟨first, p, rest, hhistory, hbefore, hreplaces⟩ := ih (s.perform S a).2
      · exact .inl (hstill.trans hform)
      · refine .inr ⟨s.performing S a :: first, p, rest, ?_, hbefore.trans hform, hreplaces⟩
        rw [history_cons, hhistory, List.cons_append]
    · exact .inr ⟨[], s.performing S a, _, history_cons a as s, rfl, hreplaces⟩

/-- Over a run on any surface, a form loses its text only to other text or to a note with exactly
this text that is stored. Only submitting and filling a form change it, and creating a note is
filling the form and then submitting it. -/
theorem performAll_keeps_text (S : Surface σ) (s : Session σ) (as : List Action) :
    (∀ p ∈ s.history S as, p.FormRule s.table) ∧
    (∀ (now : Session σ) (title content : String), now.perform S (.create title content) =
      { now with form := ⟨title, content⟩ }.perform S .submit) ∧
    ((s.performAll S as).2.form = s.form ∨
      ∃ first p rest, s.history S as = first ++ p :: rest ∧ p.before = s.form ∧
        p.Replaces s.table) :=
  ⟨fun _ hp => formRule_of_yields (history_yields hp), perform_create S,
    performAll_kept_or_replaced s as⟩

/-- A note is stored and the listing after it fails: the form is empty nevertheless. -/
theorem performAll_keeps_text_unlisted :
    let unlisted : Recorder := { failing := some (.showNotes, 0, .input "closed") }
    let s : Session Recorder :=
      ⟨"notes", {}, ⟨unlisted, fun _ => 7, fun _ => .connected {}, 0, 0⟩, []⟩
    ∃ p ∈ s.history Recorder.surface [.create "t" "c"], p.FormRule "notes" ∧
      p.result = .error (.input "closed") ∧ p.after = Form.empty := by
  intro unlisted s
  have hrules := (performAll_keeps_text Recorder.surface s [.create "t" "c"]).1
  exact ⟨_, .head _, hrules _ (.head _), rfl, rfl⟩

end Session
end RemoteNotebook
