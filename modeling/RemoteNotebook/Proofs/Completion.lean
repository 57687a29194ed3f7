import RemoteNotebook.Proofs.History

/-! Actions that no call of them fails. There are nine ways such an action can go, and each is told
by its events: what it sends with the outcomes, and what it calls with the answers. -/
namespace RemoteNotebook
namespace Session

/-- How an action goes that no call of it fails, from a form: its events, its result and the form
after it. -/
inductive Action.Completes (table : String) : Action → Form → List Event → Result → Form → Prop
  | start (form : Form) (created listed : Outcome) :
    Completes table .start form
      (tripEvents (.statement (.createTable table)) created (.ok ()) ++ refreshEvents table listed)
      (.shown (.ofReply listed.reply)) form
  | refresh (form : Form) (listed : Outcome) :
    Completes table .refresh form (refreshEvents table listed) (.shown (.ofReply listed.reply)) form
  | stored (form : Form) (id : Int64) (inserted listed : Outcome)
    (h : inserted.reply.error = none) :
    Completes table .submit form
      (⟨.newId, id⟩ :: (tripEvents (.statement (.insert table ⟨id, form.title, form.content⟩))
        inserted (.ok ()) ++ refreshEvents table listed))
      (.done true) Form.empty
  | rejected (form : Form) (id : Int64) (inserted : Outcome) (error : String)
    (h : inserted.reply.error = some error) :
    Completes table .submit form
      (⟨.newId, id⟩ :: (tripEvents (.statement (.insert table ⟨id, form.title, form.content⟩))
        inserted (.ok ()) ++ [⟨.call (.alert (rejection error)), .ok ()⟩]))
      (.done false) form
  | create (title content : String) (form form' : Form) (events : List Event) (result : Result)
    (h : Completes table .submit ⟨title, content⟩ events result form') :
    Completes table (.create title content) form events result form'
  | deleted (form : Form) (id : Int64) (deleted listed : Outcome) :
    Completes table (.delete id) form
      (⟨.call (.confirm deletePrompt), .ok true⟩ ::
        (tripEvents (.statement (.delete table id)) deleted (.ok ()) ++ refreshEvents table listed))
      (.done true) form
  | declined (form : Form) (id : Int64) :
    Completes table (.delete id) form [⟨.call (.confirm deletePrompt), .ok false⟩] (.done false)
      form
  | ran (form : Form) (text : String) (outcome : Outcome) :
    Completes table (.runSql text) form (tripEvents (.raw text) outcome (.ok ()))
      (.reply outcome.reply) form
  | filled (form form' : Form) : Completes table (.setForm form') form [] .nothing form'

variable {σ α β : Type} {table : String} {form form' : Form} {events : List Event}

theorem orStop_yields_ok {k : α → StepDialogue β} {answer : Except Failure α} {b : β}
    (h : (orStop form k answer).Yields events (.ok b, form')) :
    ∃ a, answer = .ok a ∧ (k a).Yields events (.ok b, form') := by
  obtain ⟨e, -, -, ⟨⟩⟩ | hgoes := orStop_yields h
  exact hgoes

theorem call_yields_ok {c : Call} {k : c.Answer → Step β} {b : β}
    (h : ((call c >>= k) form).Yields events (.ok b, form')) :
    ∃ answer rest, events = ⟨.call c, .ok answer⟩ :: rest ∧
      (k answer form).Yields rest (.ok b, form') := by
  obtain ⟨result, rest, rfl, hrest⟩ := call_yields h
  obtain ⟨answer, rfl, hanswer⟩ := orStop_yields_ok hrest
  exact ⟨answer, rest, rfl, hanswer⟩

theorem roundTrip_yields_ok {query : Sql.Query} {k : Reply → Step β} {b : β}
    (h : ((roundTrip query >>= k) form).Yields events (.ok b, form')) :
    ∃ outcome rest, events = tripEvents query outcome (.ok ()) ++ rest ∧
      (k outcome.reply form).Yields rest (.ok b, form') := by
  obtain ⟨outcome, told, rest, rfl, hrest⟩ := roundTrip_yields h
  obtain ⟨⟨⟩, rfl, hreply⟩ := orStop_yields_ok hrest
  exact ⟨outcome, rest, rfl, hreply⟩

/-- A refresh in a step goes through to the listing, and then the step goes on. -/
theorem refresh_yields_ok {k : Listing → Step β} {b : β}
    (h : ((refresh table >>= k) form).Yields events (.ok b, form')) :
    ∃ listed rest, events = refreshEvents table listed ++ rest ∧
      (k (.ofReply listed.reply) form).Yields rest (.ok b, form') := by
  rw [refresh, bind_assoc] at h
  obtain ⟨listed, rest, rfl, hreply⟩ := roundTrip_yields_ok h
  rw [bind_assoc] at hreply
  obtain ⟨⟨⟩, rest, rfl, hshown⟩ := call_yields_ok hreply
  exact ⟨listed, rest, rfl, hshown⟩

theorem pure_yields {a b : α} (h : ((pure a : Step α) form).Yields events (.ok b, form')) :
    events = [] ∧ b = a ∧ form' = form := by
  obtain ⟨rfl, heq⟩ := Dialogue.yields_done_iff.mp h
  cases heq
  exact ⟨rfl, rfl, rfl⟩

theorem submit_completes {success : Bool}
    (h : (submit table form).Yields events (.ok success, form')) :
    Action.Completes table .submit form events (.done success) form' := by
  generalize hend : (Except.ok success, form') = end_ at h
  cases submit_yields h with
  | untold id inserted e => cases hend
  | rejected id inserted error herror alerted =>
    cases alerted with
    | error e => cases hend
    | ok _ =>
      cases hend
      exact .rejected _ id inserted error herror
  | stored id inserted hnone rest listed _ hrest =>
    cases listed with
    | error e => cases hend
    | ok listing =>
      cases hend
      rw [← bind_pure (refresh table)] at hrest
      obtain ⟨listed, rest, rfl, hlast⟩ := refresh_yields_ok hrest
      obtain ⟨rfl, rfl, rfl⟩ := pure_yields hlast
      rw [List.append_nil]
      exact .stored _ id inserted listed hnone

theorem delete_completes {id : Int64} {success : Bool}
    (h : (delete table id form).Yields events (.ok success, form')) :
    Action.Completes table (.delete id) form events (.done success) form' := by
  generalize hend : (Except.ok success, form') = end_ at h
  cases delete_yields h with
  | unanswered e => cases hend
  | declined =>
    cases hend
    exact .declined _ id
  | agreed hgoes =>
    subst hend
    obtain ⟨deleted, rest, rfl, hdeleted⟩ := roundTrip_yields_ok hgoes
    obtain ⟨listed, rest, rfl, hlast⟩ := refresh_yields_ok hdeleted
    obtain ⟨rfl, rfl, rfl⟩ := pure_yields hlast
    rw [List.append_nil]
    exact .deleted _ id deleted listed

theorem yields_map_ok {step : Step α} {f : α → β} {b : β}
    (h : ((f <$> step) form).Yields events (.ok b, form')) :
    ∃ a, (step form).Yields events (.ok a, form') ∧ b = f a := by
  obtain ⟨result, hstep, hresult⟩ := yields_map h
  cases result with
  | error e => cases hresult
  | ok a =>
    cases hresult
    exact ⟨a, hstep, rfl⟩

theorem Action.completes_of_yields {a : Action} {result : Result}
    (h : (a.step table form).Yields events (.ok result, form')) :
    a.Completes table form events result form' := by
  cases a with
  | start =>
    obtain ⟨shown, hstep, rfl⟩ := yields_map_ok h
    obtain ⟨created, rest, rfl, hcreated⟩ := roundTrip_yields_ok hstep
    rw [← bind_pure (Session.refresh table)] at hcreated
    obtain ⟨listed, rest, rfl, hend⟩ := refresh_yields_ok hcreated
    obtain ⟨rfl, rfl, rfl⟩ := pure_yields hend
    rw [List.append_nil]
    exact .start _ created listed
  | refresh =>
    obtain ⟨shown, hstep, rfl⟩ := yields_map_ok h
    rw [← bind_pure (Session.refresh table)] at hstep
    obtain ⟨listed, rest, rfl, hend⟩ := refresh_yields_ok hstep
    obtain ⟨rfl, rfl, rfl⟩ := pure_yields hend
    rw [List.append_nil]
    exact .refresh _ listed
  | submit =>
    obtain ⟨success, hstep, rfl⟩ := yields_map_ok h
    exact submit_completes hstep
  | create title content =>
    obtain ⟨success, hstep, rfl⟩ := yields_map_ok h
    have hsubmit : (Session.submit table ⟨title, content⟩).Yields events (.ok success, form') :=
      hstep
    exact .create title content form form' events _ (submit_completes hsubmit)
  | delete id =>
    obtain ⟨success, hstep, rfl⟩ := yields_map_ok h
    exact delete_completes hstep
  | runSql text =>
    obtain ⟨reply, hstep, rfl⟩ := yields_map_ok h
    have hreply : ((roundTrip (.raw text) >>= pure) form).Yields events (.ok reply, form') := by
      rw [bind_pure]
      exact hstep
    obtain ⟨outcome, rest, rfl, hend⟩ := roundTrip_yields_ok hreply
    obtain ⟨rfl, rfl, rfl⟩ := pure_yields hend
    rw [List.append_nil]
    exact .ran _ text outcome
  | setForm new =>
    rw [step, set_bind] at h
    obtain ⟨rfl, rfl, rfl⟩ := pure_yields h
    exact .filled _ _

/-- On a surface that fails no call, every action of a run completes. -/
theorem performing_completes {S : Surface σ} {s : Session σ} (hS : S.Reliable s.world.surface)
    (a : Action) :
    let p := s.performing S a
    ∃ result, p.result = .ok result ∧ a.Completes s.table s.form p.events result p.after := by
  intro p
  obtain ⟨result, hresult⟩ := (a.step_stops s.table s.form).run_ok hS
  have hyields : (a.step s.table s.form).Yields p.events (p.result, p.after) :=
    performing_yields a s
  have hok : p.result = .ok result := hresult
  rw [hok] at hyields
  exact ⟨result, hok, a.completes_of_yields hyields⟩

theorem history_completes {S : Surface σ} {s : Session σ} (hS : S.Reliable s.world.surface)
    {as : List Action} {p : Performed} (hp : p ∈ s.history S as) :
    ∃ result, p.result = .ok result ∧
      p.action.Completes s.table p.before p.events result p.after := by
  induction as generalizing s with
  | nil => cases hp
  | cons a as ih =>
    rw [history_cons, List.mem_cons] at hp
    obtain rfl | hp := hp
    · exact performing_completes hS a
    · exact ih (s := (s.perform S a).2) (perform_reliable hS a) hp

end Session
end RemoteNotebook
