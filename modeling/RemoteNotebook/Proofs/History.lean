import RemoteNotebook.Proofs.Stopping

/-! Whole runs of a session. A run is told action by action, each with the form before and after it,
what it ended with and its own events. Whatever surface a run is on, each of its actions goes as its
step does. -/
namespace RemoteNotebook
namespace Session

variable {σ α β : Type} {S : Surface σ}

structure Performed where
  action : Action
  before : Form
  result : Except Failure Result
  events : List Event
  after : Form

def performing (S : Surface σ) (a : Action) (s : Session σ) : Performed :=
  let run := (a.step s.table).runFrom s.form (World.answer S) s.world
  ⟨a, s.form, run.value.1, run.events, run.value.2⟩

def history (S : Surface σ) : List Action → Session σ → List Performed
  | [], _ => []
  | a :: as, s => s.performing S a :: history S as (s.perform S a).2

theorem history_cons (a : Action) (as : List Action) (s : Session σ) :
    s.history S (a :: as) = s.performing S a :: (s.perform S a).2.history S as := rfl

def historyEvents (ps : List Performed) : List Event := ps.flatMap (·.events)

theorem performAll_cons (a : Action) (as : List Action) (s : Session σ) :
    s.performAll S (a :: as) =
      ((s.perform S a).1 :: ((s.perform S a).2.performAll S as).1,
        ((s.perform S a).2.performAll S as).2) := rfl

theorem performAll_log (s : Session σ) (as : List Action) :
    (s.performAll S as).2.log = s.log ++ historyEvents (s.history S as) := by
  induction as generalizing s with
  | nil => exact (List.append_nil _).symm
  | cons a as ih =>
    rw [performAll_cons, history_cons, historyEvents, List.flatMap_cons, ih,
      ← List.append_assoc]
    rfl

theorem performAll_results (s : Session σ) (as : List Action) :
    (s.performAll S as).1 = (s.history S as).map (·.result) := by
  induction as generalizing s with
  | nil => rfl
  | cons a as ih =>
    rw [performAll_cons, history_cons, List.map_cons, ih]
    rfl

/-- What is read alike off the events of each action is read alike off those of a run. -/
theorem historyEvents_congr {f g : List Event → List β}
    (hf : ∀ es fs, f (es ++ fs) = f es ++ f fs) (hg : ∀ es fs, g (es ++ fs) = g es ++ g fs)
    {ps : List Performed} (h : ∀ p ∈ ps, f p.events = g p.events) :
    f (historyEvents ps) = g (historyEvents ps) := by
  induction ps with
  | nil =>
    have hnil {k : List Event → List β} (hk : ∀ es fs, k (es ++ fs) = k es ++ k fs) : k [] = [] :=
      List.self_eq_append_left.mp (hk [] [])
    exact (hnil hf).trans (hnil hg).symm
  | cons p ps ih =>
    rw [List.forall_mem_cons] at h
    rw [historyEvents, List.flatMap_cons, hf, hg, h.1]
    exact congrArg (g p.events ++ ·) (ih h.2)

/-- What holds of every action that is performed in a session with the table holds of every action
of a run. -/
theorem history_induction {P : Performed → Prop} {table : String}
    (hP : ∀ (a : Action) (s : Session σ), s.table = table → P (s.performing S a))
    {s : Session σ} (hs : s.table = table) (as : List Action) :
    ∀ p ∈ s.history S as, P p := by
  induction as generalizing s with
  | nil => simp [history]
  | cons a as ih =>
    rw [history_cons, List.forall_mem_cons]
    exact ⟨hP a s hs, ih (s := (s.perform S a).2) hs⟩

theorem performing_yields (a : Action) (s : Session σ) :
    let p := s.performing S a
    (a.step s.table p.before).Yields p.events (p.result, p.after) :=
  Dialogue.run_yields _ _ _

theorem history_yields {s : Session σ} {as : List Action} {p : Performed}
    (hp : p ∈ s.history S as) :
    (p.action.step s.table p.before).Yields p.events (p.result, p.after) := by
  refine history_induction (P := fun p =>
    (p.action.step s.table p.before).Yields p.events (p.result, p.after)) ?_ rfl as p hp
  intro a s' hs'
  rw [← hs']
  exact performing_yields a s'

/-- A relation between the surroundings before and after some events. If it holds of each request
and of whatever comes after one another, it holds of all that is run. -/
structure Chains (S : Surface σ) (R : World σ → List Event → World σ → Prop) : Prop where
  nil : ∀ w, R w [] w
  request : ∀ (q : Request) (w : World σ),
    R w [⟨q, (World.answer S q w).1⟩] (World.answer S q w).2
  trans : ∀ {w w' w'' : World σ} {es fs : List Event},
    R w es w' → R w' fs w'' → R w (es ++ fs) w''

namespace Chains

variable {R : World σ → List Event → World σ → Prop}

theorem run (h : Chains S R) (d : Dialogue Request Request.Answer α) (w : World σ) :
    let run := d.run (World.answer S) w
    R w run.events run.state := by
  induction d generalizing w with
  | done a => exact h.nil w
  | ask q next ih => exact h.trans (h.request q w) (ih _ _)

theorem history (h : Chains S R) (s : Session σ) (as : List Action) :
    R s.world (historyEvents (s.history S as)) (s.performAll S as).2.world := by
  induction as generalizing s with
  | nil => exact h.nil s.world
  | cons a as ih => exact h.trans (h.run (a.step s.table s.form) s.world) (ih (s.perform S a).2)

end Chains

def exchange? : Event → Option (Sql.Query × Outcome)
  | ⟨.send query, outcome⟩ => some (query, outcome)
  | _ => none

def exchanges (events : List Event) : List (Sql.Query × Outcome) := events.filterMap exchange?

def listing? : Event → Option Listing
  | ⟨.call (.showNotes listing), _⟩ => some listing
  | _ => none

def listings (events : List Event) : List Listing := events.filterMap listing?

section

variable (es : List Event)

@[simp] theorem exchanges_nil : exchanges [] = [] := rfl

@[simp] theorem exchanges_send (query : Sql.Query) (outcome : Outcome) :
    exchanges (⟨.send query, outcome⟩ :: es) = (query, outcome) :: exchanges es := rfl

@[simp] theorem exchanges_newId (id : Int64) :
    exchanges (⟨.newId, id⟩ :: es) = exchanges es := rfl

@[simp] theorem exchanges_call (c : Call) (answer : Except Failure c.Answer) :
    exchanges (⟨.call c, answer⟩ :: es) = exchanges es := rfl

@[simp] theorem listings_nil : listings [] = [] := rfl

@[simp] theorem listings_send (query : Sql.Query) (outcome : Outcome) :
    listings (⟨.send query, outcome⟩ :: es) = listings es := rfl

@[simp] theorem listings_newId (id : Int64) : listings (⟨.newId, id⟩ :: es) = listings es := rfl

@[simp] theorem listings_showNotes (listing : Listing) (answer : Except Failure Unit) :
    listings (⟨.call (.showNotes listing), answer⟩ :: es) = listing :: listings es := rfl

@[simp] theorem listings_setStatus (status : Connectivity) (answer : Except Failure Unit) :
    listings (⟨.call (.setStatus status), answer⟩ :: es) = listings es := rfl

@[simp] theorem listings_alert (message : String) (answer : Except Failure Unit) :
    listings (⟨.call (.alert message), answer⟩ :: es) = listings es := rfl

@[simp] theorem listings_confirm (prompt : String) (answer : Except Failure Bool) :
    listings (⟨.call (.confirm prompt), answer⟩ :: es) = listings es := rfl

end

theorem exchanges_append (es fs : List Event) :
    exchanges (es ++ fs) = exchanges es ++ exchanges fs :=
  List.filterMap_append

theorem listings_append (es fs : List Event) :
    listings (es ++ fs) = listings es ++ listings fs :=
  List.filterMap_append

/-- The queries in some events take the outcomes to come one by one. -/
def Consumes (w : World σ) (events : List Event) (w' : World σ) : Prop :=
  w'.outcomes = w.outcomes ∧ w'.sent = w.sent + (exchanges events).length ∧
    (exchanges events).map (·.2) =
      (List.range' w.sent (exchanges events).length).map w.outcomes

theorem Consumes.trans {w w' w'' : World σ} {es fs : List Event} (h : Consumes w es w')
    (h' : Consumes w' fs w'') : Consumes w (es ++ fs) w'' := by
  obtain ⟨houtcomes, hsent, hes⟩ := h
  obtain ⟨houtcomes', hsent', hfs⟩ := h'
  rw [houtcomes, hsent] at hfs
  refine ⟨houtcomes'.trans houtcomes, ?_, ?_⟩
  · rw [exchanges_append, List.length_append, hsent', hsent, Nat.add_assoc]
  · rw [exchanges_append, List.map_append, List.length_append, hes, hfs, ← List.map_append,
      List.range'_append_1]

theorem consumes_chains (S : Surface σ) : Chains S Consumes where
  nil _ := ⟨rfl, rfl, rfl⟩
  request q w := by cases q <;> exact ⟨rfl, rfl, rfl⟩
  trans := Consumes.trans

theorem history_consumes (s : Session σ) (as : List Action) :
    Consumes s.world (historyEvents (s.history S as)) (s.performAll S as).2.world :=
  (consumes_chains S).history s as

end Session

namespace Surface

variable {σ : Type} {S : Surface σ} {s : σ}

theorem after_append (cs ds : List Call) : S.after (cs ++ ds) s = S.after ds (S.after cs s) :=
  List.foldl_append

theorem Reliable.after (h : S.Reliable s) (cs : List Call) : S.Reliable (S.after cs s) := by
  intro ds c
  rw [← after_append]
  exact h (cs ++ ds) c

end Surface

namespace Session

variable {σ : Type} {S : Surface σ}

theorem calls_append (es fs : List Event) : calls (es ++ fs) = calls es ++ calls fs :=
  List.filterMap_append

theorem surface_chains (S : Surface σ) :
    Chains S fun w events w' => w'.surface = S.after (calls events) w.surface where
  nil _ := rfl
  request q w := by cases q <;> rfl
  trans := by
    intro w w' w'' es fs hes hfs
    rw [hfs, hes, calls_append, Surface.after_append]

theorem perform_surface (s : Session σ) (a : Action) :
    (s.perform S a).2.world.surface = S.after (calls (s.performing S a).events) s.world.surface :=
  (surface_chains S).run (a.step s.table s.form) s.world

theorem performAll_surface (s : Session σ) (as : List Action) :
    (s.performAll S as).2.world.surface =
      S.after (calls (historyEvents (s.history S as))) s.world.surface :=
  (surface_chains S).history s as

theorem perform_reliable {s : Session σ} (h : S.Reliable s.world.surface) (a : Action) :
    S.Reliable (s.perform S a).2.world.surface := by
  rw [perform_surface]
  exact h.after _

end Session
end RemoteNotebook
