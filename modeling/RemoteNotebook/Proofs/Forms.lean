import RemoteNotebook.Proofs.Runs

/-! The form of a session. Only a submission that is answered without an error empties it, and only
once the status line tells of the answer. -/
namespace RemoteNotebook
namespace Session

variable {α β : Type} {form : Form} {events : List Event}

/-- A step that is mapped goes as the step and ends with its value mapped. -/
theorem yields_map {step : Step α} {f : α → β} {end_ : Except Failure β × Form}
    (h : ((f <$> step) form).Yields events end_) :
    ∃ result, (step form).Yields events (result, end_.2) ∧ end_.1 = result.map f := by
  rw [map_eq_pure_bind, bind_apply] at h
  obtain ⟨first, ⟨result, form'⟩, rest, hfirst, hrest, rfl⟩ := h.of_bind
  cases result with
  | ok a =>
    obtain ⟨rfl, rfl⟩ := Dialogue.yields_done_iff.mp hrest
    rw [List.append_nil]
    exact ⟨_, hfirst, rfl⟩
  | error e =>
    obtain ⟨rfl, rfl⟩ := Dialogue.yields_done_iff.mp hrest
    rw [List.append_nil]
    exact ⟨_, hfirst, rfl⟩

theorem map_yields {step : Step α} {f : α → β} {result : Except Failure α} {form' : Form}
    (h : (step form).Yields events (result, form')) :
    ((f <$> step) form).Yields events (result.map f, form') := by
  rw [map_eq_pure_bind, bind_apply]
  generalize step form = d at h
  induction d generalizing events with
  | done end_ =>
    obtain ⟨rfl, rfl⟩ := Dialogue.yields_done_iff.mp h
    cases result <;> exact .done _
  | ask q next ih =>
    obtain ⟨answer, rest, rfl, hrest⟩ := Dialogue.yields_ask_iff.mp h
    exact .ask answer (ih answer hrest)

/-- The ways that a submission goes from a form, whoever answers it: the surface does not take the
status, the note is rejected, or it is stored and the notes are listed. -/
inductive Submitted (table : String) (form : Form) :
    List Event → Except Failure Bool × Form → Prop
  | untold (id : Int64) (inserted : Outcome) (e : Failure) :
    Submitted table form
      (⟨.newId, id⟩ :: tripEvents (.statement (.insert table ⟨id, form.title, form.content⟩))
        inserted (.error e))
      (.error e, form)
  | rejected (id : Int64) (inserted : Outcome) (error : String)
    (h : inserted.reply.error = some error) (alerted : Except Failure Unit) :
    Submitted table form
      (⟨.newId, id⟩ :: (tripEvents (.statement (.insert table ⟨id, form.title, form.content⟩))
        inserted (.ok ()) ++ [⟨.call (.alert (rejection error)), alerted⟩]))
      (alerted.map fun _ => false, form)
  | stored (id : Int64) (inserted : Outcome) (h : inserted.reply.error = none)
    (rest : List Event) (listed : Except Failure Listing) (form' : Form)
    (hrest : (refresh table Form.empty).Yields rest (listed, form')) :
    Submitted table form
      (⟨.newId, id⟩ :: (tripEvents (.statement (.insert table ⟨id, form.title, form.content⟩))
        inserted (.ok ()) ++ rest))
      (listed.map fun _ => true, form')

theorem submit_yields {table : String} {end_ : Except Failure Bool × Form}
    (h : (submit table form).Yields events end_) : Submitted table form events end_ := by
  rw [submit, get_bind, newId_bind] at h
  obtain ⟨id, rest, rfl, hid⟩ := Dialogue.yields_ask_iff.mp h
  obtain ⟨inserted, told, rest, rfl, hrest⟩ := roundTrip_yields hid
  obtain ⟨e, rfl, rfl, rfl⟩ | ⟨⟨⟩, rfl, hreply⟩ := orStop_yields hrest
  · rw [List.append_nil]
    exact .untold id inserted e
  cases herror : inserted.reply.error with
  | some error =>
    rw [herror] at hreply
    obtain ⟨alerted, rest, rfl, halert⟩ := call_yields hreply
    cases alerted with
    | error e =>
      obtain ⟨rfl, rfl⟩ := Dialogue.yields_done_iff.mp halert
      exact .rejected id inserted error herror (.error e)
    | ok _ =>
      obtain ⟨rfl, rfl⟩ := Dialogue.yields_done_iff.mp halert
      exact .rejected id inserted error herror (.ok ())
  | none =>
    rw [herror] at hreply
    have hlist : (((fun _ => true) <$> refresh table) Form.empty).Yields rest end_ := by
      rw [map_eq_pure_bind]
      exact hreply
    obtain ⟨listed, hrefresh, hend⟩ := yields_map hlist
    obtain ⟨result, form'⟩ := end_
    obtain rfl : result = _ := hend
    exact .stored id inserted herror rest listed form' hrefresh

/-- A step that leaves the form as it is, whatever is answered to it. -/
def Keeps (step : Step α) : Prop :=
  ∀ ⦃form events end_⦄, (step form).Yields events end_ → end_.2 = form

namespace Keeps

protected theorem pure (a : α) : Keeps (pure a : Step α) := by
  intro form events end_ h
  obtain ⟨-, rfl⟩ := Dialogue.yields_done_iff.mp h
  rfl

protected theorem bind {step : Step α} {k : α → Step β} (h : Keeps step) (hk : ∀ a, Keeps (k a)) :
    Keeps (step >>= k) := by
  intro form events end_ hyields
  obtain ⟨first, result, form', rest, hfirst, -, hrest⟩ := Dialogue.step_bind_yields hyields
  have hform : form' = form := h hfirst
  subst hform
  obtain ⟨e, -, -, rfl⟩ | ⟨a, -, hgoes⟩ := hrest
  · rfl
  · exact hk a hgoes

theorem send (query : Sql.Query) : Keeps (Session.send query) := by
  intro form events end_ h
  obtain ⟨outcome, rest, -, hrest⟩ := Dialogue.yields_ask_iff.mp h
  obtain ⟨-, rfl⟩ := Dialogue.yields_done_iff.mp hrest
  rfl

theorem call (c : Call) : Keeps (Session.call c) := by
  intro form events end_ h
  obtain ⟨answer, rest, -, hrest⟩ := Dialogue.yields_ask_iff.mp h
  obtain ⟨-, rfl⟩ := Dialogue.yields_done_iff.mp hrest
  rfl

theorem compositional : Compositional fun _ => Keeps :=
  .of_requests Keeps.pure Keeps.bind send call

end Keeps

/-- A submission is accepted in some events if its INSERT is answered without an error there and
the status line tells so. -/
def accepted : List Event → Bool
  | ⟨.newId, _⟩ :: ⟨.send (.statement (.insert _ _)), outcome⟩ ::
      ⟨.call (.setStatus _), .ok _⟩ :: _ => outcome.reply.error.isNone
  | _ => false

theorem submit_form {table : String} {end_ : Except Failure Bool × Form}
    (h : (submit table form).Yields events end_) :
    end_.2 = if accepted events then Form.empty else form := by
  cases submit_yields h with
  | untold id inserted e => rfl
  | rejected id inserted error herror alerted =>
    have haccepted : accepted (⟨.newId, id⟩ :: (tripEvents (.statement (.insert table
        ⟨id, form.title, form.content⟩)) inserted (.ok ()) ++
          [⟨.call (.alert (rejection error)), alerted⟩])) = inserted.reply.error.isNone := rfl
    rw [haccepted, herror]
    rfl
  | stored id inserted hnone rest listed form' hrest =>
    have haccepted : accepted (⟨.newId, id⟩ :: (tripEvents (.statement (.insert table
        ⟨id, form.title, form.content⟩)) inserted (.ok ()) ++ rest)) =
        inserted.reply.error.isNone := rfl
    rw [haccepted, hnone]
    exact Keeps.compositional.refresh table hrest

/-- A call that fails is not what a submission is accepted by. -/
theorem accepted_append_error (before : List Event) (c : Call) (e : Failure) :
    accepted (before ++ [⟨.call c, .error e⟩]) = accepted before := by
  fun_cases accepted before with
  | case1 => rfl
  | case2 =>
    unfold accepted
    split
    next h _ answer table note outcome status stored tail heq =>
      -- The failed call is the last event, so it is neither of the events of an acceptance.
      exfalso
      obtain rfl | ⟨tail, last, rfl⟩ := tail.eq_nil_or_concat
      · have hsplit : before ++ [_] = [_, _] ++ [_] := heq
        cases (List.append_inj' hsplit rfl).2
      · rw [List.concat_eq_append] at heq
        have hsplit : before ++ [_] = (_ :: _ :: _ :: tail) ++ [last] := heq
        exact h answer table note outcome status stored tail (List.append_inj' hsplit rfl).1
    next => rfl

/-- The form once an action has come as far as in some events. -/
def Action.formAfter (form : Form) (events : List Event) : Action → Form
  | .submit => if accepted events then Form.empty else form
  | .create title content => if accepted events then Form.empty else ⟨title, content⟩
  | .setForm form => form
  | .start | .refresh | .delete _ | .runSql _ => form

theorem Action.formAfter_append_error (a : Action) (form : Form) (before : List Event) (c : Call)
    (e : Failure) :
    a.formAfter form (before ++ [⟨.call c, .error e⟩]) = a.formAfter form before := by
  cases a <;> simp only [formAfter, accepted_append_error]

theorem Action.step_form {a : Action} {table : String} {end_ : Except Failure Result × Form}
    (h : (a.step table form).Yields events end_) : end_.2 = a.formAfter form events := by
  cases a with
  | start =>
    obtain ⟨result, hstep, -⟩ := yields_map h
    exact Keeps.compositional.start table hstep
  | refresh =>
    obtain ⟨result, hstep, -⟩ := yields_map h
    exact Keeps.compositional.refresh table hstep
  | submit =>
    obtain ⟨result, hstep, -⟩ := yields_map h
    exact submit_form hstep
  | create title content =>
    obtain ⟨result, hstep, -⟩ := yields_map h
    have hsubmit : (Session.submit table ⟨title, content⟩).Yields events (result, end_.2) := hstep
    exact submit_form hsubmit
  | delete id =>
    obtain ⟨result, hstep, -⟩ := yields_map h
    exact Keeps.compositional.delete table id hstep
  | runSql text =>
    obtain ⟨result, hstep, -⟩ := yields_map h
    exact Keeps.compositional.roundTrip _ hstep
  | setForm form' =>
    rw [step, set_bind, pure_apply] at h
    obtain ⟨-, rfl⟩ := Dialogue.yields_done_iff.mp h
    rfl

end Session
end RemoteNotebook
