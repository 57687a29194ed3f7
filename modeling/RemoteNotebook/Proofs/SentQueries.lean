import RemoteNotebook.Proofs.Forms

/-! What actions send. Each action has a script of queries, and whoever answers it, it sends the
script from the front as far as it comes; only a submission draws an id, and that before it sends
anything. -/
namespace RemoteNotebook
namespace Session

variable {α β : Type} {table : String} {form : Form} {events : List Event}

def drawn? : Event → Option Int64
  | ⟨.newId, id⟩ => some id
  | _ => none

def drawnIds (events : List Event) : List Int64 := events.filterMap drawn?

theorem drawnIds_append (es fs : List Event) : drawnIds (es ++ fs) = drawnIds es ++ drawnIds fs :=
  List.filterMap_append

theorem queries_append (es fs : List Event) : queries (es ++ fs) = queries es ++ queries fs :=
  List.filterMap_append

/-- A step that draws no id and sends these queries from the front, and all of them unless it
fails. -/
def Sends (qs : List Sql.Query) (step : Step α) : Prop :=
  ∀ ⦃form events end_⦄, (step form).Yields events end_ →
    drawnIds events = [] ∧ queries events <+: qs ∧ ∀ a, end_.1 = .ok a → queries events = qs

namespace Sends

variable {qs rs : List Sql.Query}

protected theorem pure (a : α) : Sends [] (pure a : Step α) := by
  intro form events end_ h
  obtain ⟨rfl, -⟩ := Dialogue.yields_done_iff.mp h
  exact ⟨rfl, List.prefix_rfl, fun _ _ => rfl⟩

protected theorem bind {step : Step α} {k : α → Step β} (h : Sends qs step)
    (hk : ∀ a, Sends rs (k a)) : Sends (qs ++ rs) (step >>= k) := by
  intro form events end_ hyields
  obtain ⟨first, result, form', rest, hfirst, rfl, hrest⟩ := Dialogue.step_bind_yields hyields
  obtain ⟨hids, hfront, hall⟩ := h hfirst
  obtain ⟨e, -, rfl, rfl⟩ | ⟨a, rfl, hgoes⟩ := hrest
  · rw [List.append_nil]
    refine ⟨hids, hfront.trans (List.prefix_append qs rs), ?_⟩
    rintro a ⟨⟩
  · obtain ⟨hids', hfront', hall'⟩ := hk a hgoes
    rw [drawnIds_append, queries_append, hids, hall a rfl, List.nil_append]
    refine ⟨hids', (List.prefix_append_right_inj qs).mpr hfront', fun b hb => ?_⟩
    rw [hall' b hb]

theorem call (c : Call) : Sends [] (Session.call c) := by
  intro form events end_ h
  obtain ⟨answer, rest, rfl, hrest⟩ := Dialogue.yields_ask_iff.mp h
  obtain ⟨rfl, -⟩ := Dialogue.yields_done_iff.mp hrest
  exact ⟨rfl, List.prefix_rfl, fun _ _ => rfl⟩

theorem set (form : Form) : Sends [] (set form : Step PUnit) := by
  intro form' events end_ h
  obtain ⟨rfl, -⟩ := Dialogue.yields_done_iff.mp h
  exact ⟨rfl, List.prefix_rfl, fun _ _ => rfl⟩

theorem send (query : Sql.Query) : Sends [query] (Session.send query) := by
  intro form events end_ h
  obtain ⟨outcome, rest, rfl, hrest⟩ := Dialogue.yields_ask_iff.mp h
  obtain ⟨rfl, -⟩ := Dialogue.yields_done_iff.mp hrest
  exact ⟨rfl, List.prefix_rfl, fun _ _ => rfl⟩

theorem roundTrip (query : Sql.Query) : Sends [query] (Session.roundTrip query) :=
  (send query).bind fun _ => (call _).bind fun _ => .pure _

theorem refresh (table : String) :
    Sends [.statement (.select table)] (Session.refresh table) :=
  (roundTrip _).bind fun _ => (call _).bind fun _ => .pure _

theorem start (table : String) :
    Sends [.statement (.createTable table), .statement (.select table)] (Session.start table) :=
  (roundTrip _).bind fun _ => refresh table

theorem deletion (table : String) (id : Int64) :
    Sends [.statement (.delete table id), .statement (.select table)]
      (Session.deletion table id) :=
  (roundTrip _).bind fun _ => (refresh table).bind fun _ => .pure true

end Sends

/-- All queries of an action that goes through, from a form and with an id for its note. -/
def Action.script (table : String) (form : Form) (id : Int64) : Action → List Sql.Query
  | .start => [.statement (.createTable table), .statement (.select table)]
  | .refresh => [.statement (.select table)]
  | .submit =>
    [.statement (.insert table ⟨id, form.title, form.content⟩), .statement (.select table)]
  | .create title content =>
    [.statement (.insert table ⟨id, title, content⟩), .statement (.select table)]
  | .delete note => [.statement (.delete table note), .statement (.select table)]
  | .runSql text => [.raw text]
  | .setForm _ => []

def Action.submitted? (form : Form) : Action → Option Form
  | .submit => some form
  | .create title content => some ⟨title, content⟩
  | _ => none

/-- A submission draws an id and sends the note with it. -/
theorem submit_sends {end_ : Except Failure Bool × Form}
    (h : (submit table form).Yields events end_) :
    ∃ id, drawnIds events = [id] ∧
      queries events <+: Action.submit.script table form id ∧ queries events ≠ [] := by
  cases submit_yields h with
  | untold id inserted e =>
    exact ⟨id, rfl, List.cons_prefix_cons.mpr ⟨rfl, List.nil_prefix⟩, List.cons_ne_nil _ _⟩
  | rejected id inserted error herror alerted =>
    exact ⟨id, rfl, List.cons_prefix_cons.mpr ⟨rfl, List.nil_prefix⟩, List.cons_ne_nil _ _⟩
  | stored id inserted hnone rest listed form' hrest =>
    obtain ⟨hids, hfront, -⟩ := Sends.refresh table hrest
    exact ⟨id, congrArg (id :: ·) hids, List.cons_prefix_cons.mpr ⟨rfl, hfront⟩,
      List.cons_ne_nil _ _⟩

theorem delete_sends {id : Int64} {end_ : Except Failure Bool × Form}
    (h : (delete table id form).Yields events end_) :
    drawnIds events = [] ∧
      queries events <+: [.statement (.delete table id), .statement (.select table)] := by
  cases delete_yields h with
  | unanswered e => exact ⟨rfl, List.nil_prefix⟩
  | declined => exact ⟨rfl, List.nil_prefix⟩
  | agreed hgoes =>
    obtain ⟨hids, hfront, -⟩ := Sends.deletion table id hgoes
    exact ⟨hids, hfront⟩

/-- Whoever answers it, an action sends its script from the front. A submission draws one id, and
its first query is sent; no other action draws one. -/
theorem Action.step_sends {a : Action} {end_ : Except Failure Result × Form}
    (h : (a.step table form).Yields events end_) :
    ∃ id, queries events <+: a.script table form id ∧
      drawnIds events = (a.submitted? form).toList.map (fun _ => id) ∧
      (a.submitted? form ≠ none → queries events ≠ []) := by
  have hquiet {qs : List Sql.Query} (h : drawnIds events = [] ∧ queries events <+: qs) :
      ∃ _ : Int64, queries events <+: qs ∧ drawnIds events = [] ∧
        ((none : Option Form) ≠ none → queries events ≠ []) :=
    ⟨0, h.2, h.1, fun hne => absurd rfl hne⟩
  have hsubmits {form' : Form} {end_ : Except Failure Bool × Form}
      (h : (Session.submit table form').Yields events end_) :
      ∃ id, queries events <+: Action.submit.script table form' id ∧ drawnIds events = [id] ∧
        (some form' ≠ none → queries events ≠ []) := by
    obtain ⟨id, hids, hfront, hne⟩ := submit_sends h
    exact ⟨id, hfront, hids, fun _ => hne⟩
  cases a with
  | start =>
    obtain ⟨result, hstep, -⟩ := yields_map h
    obtain ⟨hids, hfront, -⟩ := Sends.start table hstep
    exact hquiet ⟨hids, hfront⟩
  | refresh =>
    obtain ⟨result, hstep, -⟩ := yields_map h
    obtain ⟨hids, hfront, -⟩ := Sends.refresh table hstep
    exact hquiet ⟨hids, hfront⟩
  | submit =>
    obtain ⟨result, hstep, -⟩ := yields_map h
    exact hsubmits hstep
  | create title content =>
    obtain ⟨result, hstep, -⟩ := yields_map h
    have hsubmit : (Session.submit table ⟨title, content⟩).Yields events (result, end_.2) := hstep
    exact hsubmits hsubmit
  | delete id =>
    obtain ⟨result, hstep, -⟩ := yields_map h
    exact hquiet (delete_sends hstep)
  | runSql text =>
    obtain ⟨result, hstep, -⟩ := yields_map h
    obtain ⟨hids, hfront, -⟩ := Sends.roundTrip (.raw text) hstep
    exact hquiet ⟨hids, hfront⟩
  | setForm new =>
    rw [step, set_bind, pure_apply] at h
    obtain ⟨rfl, -⟩ := Dialogue.yields_done_iff.mp h
    exact hquiet ⟨rfl, List.nil_prefix⟩

end Session
end RemoteNotebook
