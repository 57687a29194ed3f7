import RemoteNotebook.Proofs.SameAnswers
import RemoteNotebook.Terminal

/-! The traffic of a session on any surface. On two surfaces that fail no call and answer their
questions alike, a session sends the same queries, and its actions end with the same results. -/
namespace RemoteNotebook

def Recorder.answering (agreed : Bool) : Surface (List Call) := fun c calls =>
  (.ok (c.reply agreed), calls ++ [c])

namespace Session

variable {σ τ α : Type} {S : Surface σ} {T : Surface τ}

def agreed? : Event → Option Bool
  | ⟨.call (.confirm _), .ok agreed⟩ => some agreed
  | _ => none

def agreements (events : List Event) : List Bool := events.filterMap agreed?

theorem agreements_append (es fs : List Event) :
    agreements (es ++ fs) = agreements es ++ agreements fs :=
  List.filterMap_append

/-- Answers that are the same as far as both go. -/
def Concur (as bs : List Bool) : Prop := as <+: bs ∨ bs <+: as

namespace Concur

variable {a b : Bool} {as as' bs bs' : List Bool}

theorem of_append (h : Concur (as ++ as') (bs ++ bs')) : Concur as bs := by
  obtain h | h := h
  · exact List.prefix_or_prefix_of_prefix ((List.prefix_append as as').trans h)
      (List.prefix_append bs bs')
  · exact List.prefix_or_prefix_of_prefix (List.prefix_append as as')
      ((List.prefix_append bs bs').trans h)

theorem of_append_self (h : Concur (as ++ as') (as ++ bs')) : Concur as' bs' :=
  h.imp (List.prefix_append_right_inj as).mp (List.prefix_append_right_inj as).mp

theorem of_cons (h : Concur (a :: as) (b :: bs)) : a = b ∧ Concur as bs := by
  obtain h | h := h
  · obtain ⟨rfl, hrest⟩ := List.cons_prefix_cons.mp h
    exact ⟨rfl, .inl hrest⟩
  · obtain ⟨rfl, hrest⟩ := List.cons_prefix_cons.mp h
    exact ⟨rfl, .inr hrest⟩

theorem of_forall_eq (has : ∀ a ∈ as, a = b) (hbs : ∀ a ∈ bs, a = b) : Concur as bs := by
  rw [List.eq_replicate_of_mem has, List.eq_replicate_of_mem hbs, Concur,
    List.prefix_replicate_iff, List.prefix_replicate_iff]
  simpa using Nat.le_total as.length bs.length

end Concur

/-- One call is answered alike where the answers concur from there on. -/
theorem eq_of_concur {c : Call} {a b : c.Answer} {es fs : List Event}
    (h : Concur (agreements (⟨.call c, .ok a⟩ :: es)) (agreements (⟨.call c, .ok b⟩ :: fs))) :
    a = b ∧ Concur (agreements es) (agreements fs) := by
  cases c with
  | setStatus status => exact ⟨rfl, h⟩
  | showNotes listing => exact ⟨rfl, h⟩
  | alert message => exact ⟨rfl, h⟩
  | confirm prompt => exact h.of_cons

/-- Surfaces that fail no call answer all calls of a run alike if they answer its questions so. -/
theorem agrees_of_concur {d : Dialogue Request Request.Answer α} {w : World σ} {v : World τ}
    (h : w.Alike v) (hS : S.Reliable w.surface) (hT : T.Reliable v.surface)
    (hconcur : Concur (agreements (d.run (World.answer S) w).events)
      (agreements (d.run (World.answer T) v).events)) :
    S.Agrees T (calls (d.run (World.answer S) w).events) w.surface v.surface := by
  induction d generalizing w v with
  | done a => trivial
  | ask q next ih =>
    cases q with
    | send query =>
      simp only [Dialogue.run_ask, World.answer, h.next_outcome] at hconcur
      have hrest := ih (w.outcomes w.sent) h.send hS hT hconcur
      exact hrest
    | newId =>
      simp only [Dialogue.run_ask, World.answer, h.next_id] at hconcur
      have hrest := ih (w.ids w.drawn) h.draw hS hT hconcur
      exact hrest
    | call c =>
      obtain ⟨a, ha⟩ := hS.answers c
      obtain ⟨b, hb⟩ := hT.answers c
      rw [run_call ha, run_call hb] at hconcur
      obtain ⟨rfl, hrest⟩ := eq_of_concur hconcur
      rw [run_call ha]
      refine ⟨ha.trans hb.symm, ?_⟩
      exact ih (.ok a) (h.call (S c w.surface).2 (T c v.surface).2) (hS.next c) (hT.next c) hrest

structure SameStart (s : Session σ) (t : Session τ) : Prop where
  table : t.table = s.table
  form : t.form = s.form
  world : s.world.Alike t.world

theorem SameStart.perform {s : Session σ} {t : Session τ} (h : s.SameStart t)
    (hS : S.Reliable s.world.surface) (hT : T.Reliable t.world.surface) {a : Action}
    (hconcur : Concur (agreements (s.performing S a).events)
      (agreements (t.performing T a).events)) :
    t.performing T a = s.performing S a ∧ (s.perform S a).2.SameStart (t.perform T a).2 := by
  obtain ⟨table, form, w, log⟩ := s
  obtain ⟨table', form', v, log'⟩ := t
  obtain ⟨rfl, rfl, hworld⟩ := h
  obtain ⟨hvalue, hevents, hstate⟩ := run_agrees hworld (agrees_of_concur hworld hS hT hconcur)
  refine ⟨?_, rfl, congrArg Prod.snd hvalue, hstate⟩
  simp only [performing, Step.runFrom, hvalue, hevents]

theorem SameStart.performAll {s : Session σ} {t : Session τ} (h : s.SameStart t)
    (hS : S.Reliable s.world.surface) (hT : T.Reliable t.world.surface) {as : List Action}
    (hconcur : Concur (agreements (historyEvents (s.history S as)))
      (agreements (historyEvents (t.history T as)))) :
    t.history T as = s.history S as ∧ (t.performAll T as).2.form = (s.performAll S as).2.form := by
  induction as generalizing s t with
  | nil => exact ⟨rfl, h.form⟩
  | cons a as ih =>
    simp only [history_cons, historyEvents, List.flatMap_cons, agreements_append] at hconcur
    obtain ⟨hfirst, hnext⟩ := h.perform hS hT hconcur.of_append
    rw [hfirst] at hconcur
    obtain ⟨hhistory, hform⟩ :=
      ih hnext (perform_reliable hS a) (perform_reliable hT a) hconcur.of_append_self
    rw [history_cons, history_cons, hfirst, hhistory]
    exact ⟨rfl, hform⟩

/-- Two sessions go the same way with some actions: they send the same queries, what they do is the
same call by call, and so are the results of the actions and the form in the end. -/
structure GoAlike (S : Surface σ) (s : Session σ) (T : Surface τ) (t : Session τ)
    (as : List Action) : Prop where
  queries : queries (historyEvents (t.history T as)) = queries (historyEvents (s.history S as))
  log : ∃ done, (s.performAll S as).2.log = s.log ++ done ∧
    (t.performAll T as).2.log = t.log ++ done
  results : (t.performAll T as).1 = (s.performAll S as).1
  form : (t.performAll T as).2.form = (s.performAll S as).2.form

theorem SameStart.goAlike {s : Session σ} {t : Session τ} (h : s.SameStart t)
    (hS : S.Reliable s.world.surface) (hT : T.Reliable t.world.surface) {as : List Action}
    (hconcur : Concur (agreements (historyEvents (s.history S as)))
      (agreements (historyEvents (t.history T as)))) :
    GoAlike S s T t as := by
  obtain ⟨hhistory, hform⟩ := h.performAll hS hT hconcur
  refine ⟨by rw [hhistory], ⟨_, performAll_log s as, ?_⟩, ?_, hform⟩
  · rw [performAll_log, hhistory]
  · rw [performAll_results, performAll_results, hhistory]

section

variable {b : Bool}

theorem eq_of_mem_agreements_call {c : Call} {es : List Event} {x : Bool}
    (h : x ∈ agreements (⟨.call c, .ok (c.reply b)⟩ :: es)) : x = b ∨ x ∈ agreements es := by
  cases c with
  | setStatus status => exact .inr h
  | showNotes listing => exact .inr h
  | alert message => exact .inr h
  | confirm prompt => exact List.mem_cons.mp h

theorem eq_of_mem_agreements_run {d : Dialogue Request Request.Answer α} {w : World σ}
    (h : S.Answers w.surface fun _ => b) {x : Bool}
    (hx : x ∈ agreements (d.run (World.answer S) w).events) : x = b := by
  induction d generalizing w with
  | done a => cases hx
  | ask q next ih =>
    cases q with
    | send query => exact ih _ (w := { w with sent := w.sent + 1 }) h hx
    | newId => exact ih _ (w := { w with drawn := w.drawn + 1 }) h hx
    | call c =>
      rw [run_call (h.answer c)] at hx
      obtain rfl | hrest := eq_of_mem_agreements_call hx
      · rfl
      · exact ih _ (w := { w with surface := (S c w.surface).2 }) (h.after [c]) hrest

theorem eq_of_mem_agreements {s : Session σ} (h : S.Answers s.world.surface fun _ => b)
    {as : List Action} {x : Bool} (hx : x ∈ agreements (historyEvents (s.history S as))) :
    x = b := by
  induction as generalizing s with
  | nil => cases hx
  | cons a as ih =>
    rw [history_cons, historyEvents, List.flatMap_cons, agreements_append, List.mem_append] at hx
    obtain hx | hx := hx
    · exact eq_of_mem_agreements_run h hx
    · refine ih (s := (s.perform S a).2) ?_ hx
      rw [perform_surface]
      exact h.after _

/-- Sessions on surfaces that answer every question alike, and both in the same way. -/
theorem SameStart.goAlike_of_answers {s : Session σ} {t : Session τ} (h : s.SameStart t)
    (hS : S.Answers s.world.surface fun _ => b) (hT : T.Answers t.world.surface fun _ => b)
    (as : List Action) : GoAlike S s T t as :=
  h.goAlike hS.reliable hT.reliable <|
    .of_forall_eq (fun _ => eq_of_mem_agreements hS) fun _ => eq_of_mem_agreements hT

end

end Session

namespace Surface

variable {σ : Type} {S : Surface σ} {s : σ} {b : Bool}

/-- A surface that in each of some states answers so, and stays among these states. -/
theorem answers_of_forall {P : σ → Prop}
    (hP : ∀ s c, P s → (S c s).1 = .ok (c.reply b) ∧ P (S c s).2) (h : P s) :
    S.Answers s fun _ => b := by
  intro cs c
  induction cs generalizing s with
  | nil => exact (hP s c h).1
  | cons d ds ih => exact ih (hP s d h).2

theorem answering_answers (calls : List Call) :
    (Recorder.answering b).Answers calls fun _ => b :=
  answers_of_forall (P := fun _ => True) (fun _ _ _ => ⟨rfl, trivial⟩) trivial

theorem page_answers (p : Page) : Page.surface.Answers p fun _ => false := by
  refine answers_of_forall (P := fun _ => True) (fun p c _ => ⟨?_, trivial⟩) trivial
  cases c <;> rfl

end Surface

namespace Terminal

variable {t : Terminal}

/-- A terminal that takes every question for agreed reads nothing. -/
theorem surface_assumeYes (h : t.assumeYes = true) (c : Call) :
    (surface c t).1 = .ok (c.reply true) ∧ (surface c t).2.assumeYes = true ∧
      (surface c t).2.input = t.input := by
  cases c with
  | setStatus status => exact ⟨rfl, h, rfl⟩
  | showNotes listing => exact ⟨rfl, h, rfl⟩
  | alert message => exact ⟨rfl, h, rfl⟩
  | confirm prompt =>
    have hconfirm : surface (.confirm prompt) t = (.ok true, t) := if_pos h
    rw [hconfirm]
    exact ⟨rfl, h, rfl⟩

theorem surface_answers_yes (h : t.assumeYes = true) : surface.Answers t fun _ => true := by
  refine Surface.answers_of_forall (P := fun t => t.assumeYes = true) (fun t c ht => ?_) h
  obtain ⟨hanswer, hyes, -⟩ := surface_assumeYes ht c
  exact ⟨hanswer, hyes⟩

theorem after_input (h : t.assumeYes = true) (cs : List Call) :
    (surface.after cs t).input = t.input := by
  induction cs generalizing t with
  | nil => rfl
  | cons c cs ih =>
    obtain ⟨-, hyes, hinput⟩ := surface_assumeYes h c
    exact (ih hyes).trans hinput

end Terminal

namespace Session

/-- What a session does depends on its surface by nothing but the answers to its questions. On two
surfaces that fail no call and give the same answers in order, two sessions that start alike go the
same way. A page goes like a recorder that always answers no, and a terminal that takes every
question for agreed goes like one that always answers yes, and reads nothing. -/
theorem performAll_goAlike (as : List Action) :
    (∀ {σ τ : Type} (S : Surface σ) (T : Surface τ) (s : Session σ) (t : Session τ),
      s.SameStart t → S.Reliable s.world.surface → T.Reliable t.world.surface →
      Concur (agreements (historyEvents (s.history S as)))
        (agreements (historyEvents (t.history T as))) →
      GoAlike S s T t as) ∧
    (∀ (s : Session Page) (t : Session (List Call)), s.SameStart t →
      GoAlike Page.surface s (Recorder.answering false) t as) ∧
    ∀ (s : Session Terminal) (t : Session (List Call)), s.SameStart t →
      s.world.surface.assumeYes = true →
      GoAlike Terminal.surface s (Recorder.answering true) t as ∧
        (s.performAll Terminal.surface as).2.world.surface.input = s.world.surface.input := by
  refine ⟨?_, ?_, ?_⟩
  · intro σ τ S T s t h hS hT hconcur
    exact h.goAlike hS hT hconcur
  · intro s t h
    exact h.goAlike_of_answers (Surface.page_answers _) (Surface.answering_answers _) as
  · intro s t h hyes
    refine ⟨h.goAlike_of_answers (Terminal.surface_answers_yes hyes)
      (Surface.answering_answers _) as, ?_⟩
    rw [performAll_surface]
    exact Terminal.after_input hyes _

/-- Of two deletions the first is agreed to. A recorder whose answers are used up goes on with no,
and a terminal that takes every question for agreed leaves what was typed unread. -/
theorem performAll_goAlike_deletions :
    let as : List Action := [.delete 1, .create "t" "c", .delete 2]
    let session {σ : Type} (x : σ) : Session σ := ⟨"notes", {}, ⟨x, fun _ => 7, fun n =>
      if n = 2 then .connected (.failed "Table is locked") else .offline, 0, 0⟩, []⟩
    let asked : Recorder := { answers := [true, false] }
    let once : Recorder := { answers := [true] }
    let typed : Terminal := { input := [110, 10], assumeYes := true }
    Recorder.surface.Reliable asked ∧ Recorder.surface.Reliable once ∧
      GoAlike Recorder.surface (session asked) Recorder.surface (session once) as ∧
      queries (historyEvents ((session once).history Recorder.surface as)) =
        [.statement (.delete "notes" 1), .statement (.select "notes"),
          .statement (.insert "notes" ⟨7, "t", "c"⟩)] ∧
      GoAlike Page.surface (session {}) (Recorder.answering false) (session []) as ∧
      GoAlike Terminal.surface (session typed) (Recorder.answering true) (session []) as ∧
      ((session typed).performAll Terminal.surface as).2.world.surface.input = [110, 10] := by
  intro as session asked once typed
  have hstart {σ τ : Type} (x : σ) (y : τ) : (session x).SameStart (session y) :=
    ⟨rfl, rfl, rfl, rfl, rfl, rfl⟩
  have hreliable {r : Recorder} (h : r.failing = none) : Recorder.surface.Reliable r :=
    (Recorder.surface_answers h).reliable
  have hconcur : Concur (agreements (historyEvents ((session asked).history Recorder.surface as)))
      (agreements (historyEvents ((session once).history Recorder.surface as))) :=
    .inl (by decide +kernel)
  obtain ⟨hany, hpage, hterminal⟩ := performAll_goAlike as
  have hlike := hany Recorder.surface Recorder.surface _ _ (hstart asked once) (hreliable rfl)
    (hreliable rfl) hconcur
  obtain ⟨hyes, hinput⟩ := hterminal (session typed) (session []) (hstart _ _) rfl
  exact ⟨hreliable rfl, hreliable rfl, hlike, by decide +kernel, hpage _ _ (hstart _ _), hyes,
    hinput⟩

end Session
end RemoteNotebook
