import RemoteNotebook.Proofs.Completion
import RemoteNotebook.Proofs.KeptText
import RemoteNotebook.Proofs.SentQueries

/-! Submissions over whole runs. Each draws the next id of the source and sends one note with it,
with the text that the form has at that time; whatever came before, no note is sent twice and no id
is drawn for anything else. -/
namespace RemoteNotebook
namespace Session

variable {σ : Type} {S : Surface σ} {table : String} {id : Int64} {form : Form}

/-- The INSERT that a query is. Text that is sent as it was given is none. -/
def insert? : Sql.Query → Option Sql.Statement
  | .statement (.insert table note) => some (.insert table note)
  | _ => none

def inserts (events : List Event) : List Sql.Statement := (queries events).filterMap insert?

theorem inserts_append (es fs : List Event) : inserts (es ++ fs) = inserts es ++ inserts fs := by
  rw [inserts, queries_append, List.filterMap_append]
  rfl

def insertion (table : String) (id : Int64) (form : Form) : Sql.Statement :=
  .insert table ⟨id, form.title, form.content⟩

theorem id_eq_of_insertion_eq {id' : Int64} {form' : Form}
    (h : insertion table id form = insertion table id' form') : id = id' := by
  injection h with _ hnote
  exact congrArg Note.id hnote

def Performed.submitted? (p : Performed) : Option Form := p.action.submitted? p.before

def submissions (ps : List Performed) : List Form := ps.filterMap Performed.submitted?

theorem submissions_append (ps qs : List Performed) :
    submissions (ps ++ qs) = submissions ps ++ submissions qs :=
  List.filterMap_append

/-- An action that submits a form draws the id and sends the INSERT of this form with it; any other
draws no id and sends no INSERT. -/
def Performed.Inserts (table : String) (id : Int64) (p : Performed) : Prop :=
  match p.submitted? with
  | some form => drawnIds p.events = [id] ∧ inserts p.events = [insertion table id form]
  | none => drawnIds p.events = [] ∧ inserts p.events = []

/-- As much of a submission as begins with its INSERT sends no other one. -/
theorem inserts_of_script {events : List Event}
    (hfront : queries events <+: Action.submit.script table form id) (hsent : queries events ≠ []) :
    inserts events = [insertion table id form] := by
  obtain ⟨query, rest, hqueries⟩ := List.exists_cons_of_ne_nil hsent
  rw [hqueries] at hfront
  obtain ⟨rfl, hrest⟩ := List.cons_prefix_cons.mp hfront
  have hnone : rest.filterMap insert? = [] := List.prefix_nil.mp (hrest.filterMap insert?)
  rw [inserts, hqueries]
  exact congrArg (insertion table id form :: ·) hnone

theorem performed_inserts {p : Performed}
    (h : (p.action.step table p.before).Yields p.events (p.result, p.after)) :
    ∃ id, p.Inserts table id := by
  obtain ⟨id, hfront, hids, hsent⟩ := Action.step_sends h
  have hinserts := hfront.filterMap insert?
  refine ⟨id, ?_⟩
  obtain ⟨a, before, result, events, after⟩ := p
  cases a with
  | submit => exact ⟨hids, inserts_of_script hfront (hsent (Option.some_ne_none _))⟩
  | create title content =>
    exact ⟨hids, inserts_of_script hfront (hsent (Option.some_ne_none _))⟩
  | start => exact ⟨hids, List.prefix_nil.mp hinserts⟩
  | refresh => exact ⟨hids, List.prefix_nil.mp hinserts⟩
  | delete note => exact ⟨hids, List.prefix_nil.mp hinserts⟩
  | runSql text => exact ⟨hids, List.prefix_nil.mp hinserts⟩
  | setForm form => exact ⟨hids, List.prefix_nil.mp hinserts⟩

/-- Actions draw an id for each form that they submit and pair them up in their INSERTs. -/
theorem inserts_historyEvents {ps : List Performed} (h : ∀ p ∈ ps, ∃ id, p.Inserts table id) :
    (drawnIds (historyEvents ps)).length = (submissions ps).length ∧
      inserts (historyEvents ps) =
        List.zipWith (insertion table) (drawnIds (historyEvents ps)) (submissions ps) := by
  induction ps with
  | nil => exact ⟨rfl, rfl⟩
  | cons p ps ih =>
    obtain ⟨⟨id, hp⟩, hps⟩ := List.forall_mem_cons.mp h
    obtain ⟨hlength, hinserts⟩ := ih hps
    have hevents : historyEvents (p :: ps) = p.events ++ historyEvents ps := List.flatMap_cons
    rw [hevents, drawnIds_append, inserts_append, hinserts, submissions]
    rw [Performed.Inserts] at hp
    cases hform : p.submitted? with
    | none =>
      rw [hform] at hp
      rw [hp.1, hp.2, List.filterMap_cons_none hform]
      exact ⟨hlength, rfl⟩
    | some form =>
      rw [hform] at hp
      rw [hp.1, hp.2, List.filterMap_cons_some hform]
      exact ⟨congrArg (· + 1) hlength, rfl⟩

def Draws (w : World σ) (events : List Event) (w' : World σ) : Prop :=
  w'.ids = w.ids ∧ w'.drawn = w.drawn + (drawnIds events).length ∧
    drawnIds events = (List.range' w.drawn (drawnIds events).length).map w.ids

theorem Draws.trans {w w' w'' : World σ} {es fs : List Event} (h : Draws w es w')
    (h' : Draws w' fs w'') : Draws w (es ++ fs) w'' := by
  obtain ⟨hsource, hdrawn, hes⟩ := h
  obtain ⟨hsource', hdrawn', hfs⟩ := h'
  rw [hsource, hdrawn] at hfs
  refine ⟨hsource'.trans hsource, ?_, ?_⟩
  · rw [drawnIds_append, List.length_append, hdrawn', hdrawn, Nat.add_assoc]
  · rw [drawnIds_append, List.length_append, ← List.range'_append_1, List.map_append, ← hes, ← hfs]

theorem draws_chains (S : Surface σ) : Chains S Draws where
  nil _ := ⟨rfl, rfl, rfl⟩
  request q w := by cases q <;> exact ⟨rfl, rfl, rfl⟩
  trans := Draws.trans

/-- What a submission does on a surface that fails no call: it sends the note, and then it asks for
the notes if that was accepted, and alerts if it was not. -/
def submissionEvents (table : String) (form : Form) (id : Int64) (inserted listed : Outcome) :
    List Event :=
  ⟨.newId, id⟩ :: (tripEvents (.statement (insertion table id form)) inserted (.ok ()) ++
    match inserted.reply.error with
    | none => refreshEvents table listed
    | some error => [⟨.call (.alert (rejection error)), .ok ()⟩])

/-- A submission on a surface that fails no call draws the next id, goes by the outcome to come, and
empties the form if that is not an error. -/
theorem run_submit_eq {w : World σ} (hS : S.Reliable w.surface) (table : String) (form : Form) :
    let run := (submit table).runFrom form (World.answer S) w
    let inserted := w.outcomes w.sent
    let stored := inserted.reply.error.isNone
    run.value = (.ok stored, if stored then Form.empty else form) ∧
      run.events = submissionEvents table form (w.ids w.drawn) inserted
        (w.outcomes (w.sent + 1)) := by
  intro run inserted stored
  obtain ⟨success, hok⟩ := (Stops.fullyCompositional.submit table form).run_ok hS
  have hvalue : run.value = (.ok success, run.value.2) := Prod.ext hok rfl
  have hyields : (submit table form).Yields run.events run.value := Dialogue.run_yields _ _ _
  rw [hvalue] at hyields ⊢
  have hcompletes := submit_completes hyields
  have hconsumes : Consumes w run.events run.state := (consumes_chains S).run _ w
  have hdraws : Draws w run.events run.state := (draws_chains S).run _ w
  generalize run.events = events, run.value.2 = form' at hcompletes hconsumes hdraws ⊢
  cases hcompletes with
  | stored _ id inserted' listed hnone =>
    have hids : [id] = [w.ids w.drawn] := hdraws.2.2
    have houtcomes : [inserted', listed] = [inserted, w.outcomes (w.sent + 1)] := hconsumes.2.2
    obtain ⟨rfl, -⟩ := List.cons.inj hids
    obtain ⟨rfl, hlisted⟩ := List.cons.inj houtcomes
    obtain ⟨rfl, -⟩ := List.cons.inj hlisted
    have hstored : stored = true := by simp only [stored, hnone]; rfl
    rw [hstored, submissionEvents, hnone]
    exact ⟨rfl, rfl⟩
  | rejected _ id inserted' error hsome =>
    have hids : [id] = [w.ids w.drawn] := hdraws.2.2
    have houtcomes : [inserted'] = [inserted] := hconsumes.2.2
    obtain ⟨rfl, -⟩ := List.cons.inj hids
    obtain ⟨rfl, -⟩ := List.cons.inj houtcomes
    have hrejected : stored = false := by simp only [stored, hsome]; rfl
    rw [hrejected, submissionEvents, hsome]
    exact ⟨rfl, rfl⟩

/-- In a run, an action takes the id behind those of the submissions before it. -/
theorem inserts_next {ids : Nat → Int64} {n : Nat} {before after : List Performed} {p : Performed}
    (h : ∀ q ∈ before ++ p :: after, ∃ id, q.Inserts table id)
    (hdrawn : drawnIds (historyEvents (before ++ p :: after)) =
      (List.range' n (submissions (before ++ p :: after)).length).map ids) :
    p.Inserts table (ids (n + (submissions before).length)) := by
  obtain ⟨hbefore, hrest⟩ := List.forall_mem_append.mp h
  obtain ⟨id, hp⟩ := hrest p (.head _)
  have hlength := (inserts_historyEvents hbefore).1
  have hevents : historyEvents (before ++ p :: after) =
      historyEvents before ++ (p.events ++ historyEvents after) := by
    rw [historyEvents, List.flatMap_append, List.flatMap_cons]
    rfl
  rw [Performed.Inserts] at hp ⊢
  cases hform : p.submitted? with
  | none => rwa [hform] at hp
  | some form =>
    rw [hform] at hp
    have hforms : submissions (before ++ p :: after) =
        submissions before ++ form :: submissions after := by
      rw [submissions_append, submissions, submissions, List.filterMap_cons_some hform]
      rfl
    rw [hevents, drawnIds_append, drawnIds_append, hp.1, hforms] at hdrawn
    have hid : id = ids (n + (submissions before).length) := by
      have hnext := congrArg (·[(submissions before).length]?) hdrawn
      simpa [← hlength] using hnext
    rwa [← hid]

/-- Over a run on any surface, every submission draws the next id of the source and sends one note
with it, with the text that the form has then. So no INSERT is sent twice unless the source repeats
an id. Nothing else draws an id or sends an INSERT, but for one that the user words himself. -/
theorem performAll_submissions (S : Surface σ) (s : Session σ) (as : List Action) :
    let ps := s.history S as
    let log := historyEvents ps
    let id := fun k => s.world.ids (s.world.drawn + k)
    (s.performAll S as).2.log = s.log ++ log ∧
    inserts log = (submissions ps).mapIdx (fun k form => insertion s.table (id k) form) ∧
    drawnIds log = (List.range (submissions ps).length).map id ∧
    (s.performAll S as).2.world.drawn = s.world.drawn + (submissions ps).length ∧
    (∀ before p after, ps = before ++ p :: after →
      p.Inserts s.table (id (submissions before).length)) ∧
    ((drawnIds log).Nodup → (inserts log).Nodup) ∧
    (∀ p ∈ ps, ∀ text, p.action = .runSql text → queries p.events = [.raw text]) ∧
    ∀ (now : Session σ) (title content : String), now.perform S (.create title content) =
      { now with form := ⟨title, content⟩ }.perform S .submit := by
  intro ps log id
  have hps : ∀ p ∈ ps, ∃ id, p.Inserts s.table id := fun p hp =>
    performed_inserts (history_yields hp)
  obtain ⟨hlength, hpaired⟩ := inserts_historyEvents hps
  obtain ⟨-, hcount, hdrawn⟩ : Draws s.world (historyEvents ps) (s.performAll S as).2.world :=
    (draws_chains S).history s as
  rw [hlength] at hcount hdrawn
  have hinserts : inserts log =
      (submissions ps).mapIdx fun k form => insertion s.table (id k) form := by
    rw [hpaired, hdrawn]
    apply List.ext_getElem <;> simp [id]
  have hids : drawnIds log = (List.range (submissions ps).length).map id := by
    rw [hdrawn, List.range'_eq_map_range, List.map_map]
    rfl
  refine ⟨performAll_log s as, hinserts, hids, hcount, ?_, ?_, ?_, perform_create S⟩
  · intro before p after hsplit
    rw [hsplit] at hps hdrawn
    exact inserts_next hps hdrawn
  · intro hnodup
    rw [hids, List.Nodup, List.pairwise_iff_getElem] at hnodup
    rw [hinserts, List.Nodup, List.pairwise_iff_getElem]
    intro i j hi hj hlt heq
    rw [List.getElem_mapIdx, List.getElem_mapIdx] at heq
    have hne := hnodup i j (by simpa using hi) (by simpa using hj) hlt
    rw [List.getElem_map, List.getElem_map, List.getElem_range, List.getElem_range] at hne
    exact hne (id_eq_of_insertion_eq heq)
  · rintro ⟨a, before, result, events, after⟩ hp text rfl
    obtain ⟨reply, hstep, -⟩ := yields_map (history_yields hp)
    obtain ⟨outcome, told, rfl⟩ := roundTrip_events hstep
    rfl

/-- A note is rejected, then sent again while the database is offline, and then once more, when the
surface fails. These are three INSERTs with three ids; one that the user words himself is none of
them. -/
theorem performAll_submissions_repeated :
    let outcomes : Nat → Outcome
      | 0 => .connected (.failed "full")
      | 1 => .offline
      | _ => .connected {}
    let closing : Recorder := { failing := some (.setStatus, 3, .input "closed") }
    let w : World Recorder := ⟨closing, fun n => .ofNat (7 + n), outcomes, 0, 0⟩
    let s : Session Recorder := ⟨"notes", {}, w, []⟩
    let as : List Action :=
      [.create "t" "c", .submit, .runSql "INSERT INTO notes VALUES (1, 'a', 'b');", .submit]
    let ps := s.history Recorder.surface as
    inserts (historyEvents ps) = [insertion "notes" 7 ⟨"t", "c"⟩, insertion "notes" 8 ⟨"t", "c"⟩,
        insertion "notes" 9 ⟨"t", "c"⟩] ∧
      (inserts (historyEvents ps)).Nodup ∧ ps.map (·.after) = List.replicate 4 ⟨"t", "c"⟩ := by
  intro outcomes closing w s as ps
  obtain ⟨-, hinserts, -, -, -, hnodup, -, -⟩ := performAll_submissions Recorder.surface s as
  exact ⟨hinserts.trans (by decide +kernel), hnodup (by decide +kernel), by decide +kernel⟩

end Session
end RemoteNotebook
