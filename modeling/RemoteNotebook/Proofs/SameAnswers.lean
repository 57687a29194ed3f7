import RemoteNotebook.Proofs.History

/-! Runs among different surroundings. What a run does depends on the answers to its calls, the ids
it draws and the outcomes that come, and on nothing else of what is around it. -/
namespace RemoteNotebook

def Call.reply (agreed : Bool) : (c : Call) → c.Answer
  | setStatus _ => ()
  | showNotes _ => ()
  | alert _ => ()
  | confirm _ => agreed

structure World.Alike {σ τ : Type} (w : World σ) (v : World τ) : Prop where
  ids : v.ids = w.ids
  outcomes : v.outcomes = w.outcomes
  drawn : v.drawn = w.drawn
  sent : v.sent = w.sent

namespace World.Alike

variable {σ τ υ : Type} {w : World σ} {v : World τ} {u : World υ}

theorem trans (h : w.Alike v) (h' : v.Alike u) : w.Alike u where
  ids := h'.ids.trans h.ids
  outcomes := h'.outcomes.trans h.outcomes
  drawn := h'.drawn.trans h.drawn
  sent := h'.sent.trans h.sent

theorem next_outcome (h : w.Alike v) : v.outcomes v.sent = w.outcomes w.sent := by
  rw [h.outcomes, h.sent]

theorem next_id (h : w.Alike v) : v.ids v.drawn = w.ids w.drawn := by
  rw [h.ids, h.drawn]

theorem send (h : w.Alike v) :
    World.Alike { w with sent := w.sent + 1 } { v with sent := v.sent + 1 } :=
  ⟨h.ids, h.outcomes, h.drawn, congrArg (· + 1) h.sent⟩

theorem draw (h : w.Alike v) :
    World.Alike { w with drawn := w.drawn + 1 } { v with drawn := v.drawn + 1 } :=
  ⟨h.ids, h.outcomes, congrArg (· + 1) h.drawn, h.sent⟩

theorem call (h : w.Alike v) (s : σ) (t : τ) :
    World.Alike { w with surface := s } { v with surface := t } :=
  ⟨h.ids, h.outcomes, h.drawn, h.sent⟩

end World.Alike

namespace Surface

variable {σ τ : Type}

def Agrees (S : Surface σ) (T : Surface τ) : List Call → σ → τ → Prop
  | [], _, _ => True
  | c :: cs, s, t => (S c s).1 = (T c t).1 ∧ Agrees S T cs (S c s).2 (T c t).2

def questions (cs : List Call) : Nat := cs.countP (·.kind = .confirm)

theorem questions_append (cs ds : List Call) :
    questions (cs ++ ds) = questions cs + questions ds :=
  List.countP_append

theorem questions_cons_eq_zero {c : Call} {cs : List Call} (h : questions (c :: cs) = 0) :
    c.kind ≠ .confirm ∧ questions cs = 0 := by
  simpa [questions] using h

/-- From this state on, the surface fails no call and answers its questions in order. -/
def Answers (S : Surface σ) (s : σ) (agreed : Nat → Bool) : Prop :=
  ∀ cs c, (S c (S.after cs s)).1 = .ok (c.reply (agreed (questions cs)))

variable {S : Surface σ} {T : Surface τ} {s : σ} {t : τ} {agreed : Nat → Bool}

namespace Answers

theorem reliable (h : S.Answers s agreed) : S.Reliable s := fun cs c => ⟨_, h cs c⟩

theorem answer (h : S.Answers s agreed) (c : Call) : (S c s).1 = .ok (c.reply (agreed 0)) := h [] c

protected theorem after (h : S.Answers s agreed) (cs : List Call) :
    S.Answers (S.after cs s) fun n => agreed (n + questions cs) := by
  intro ds c
  rw [← after_append, h (cs ++ ds) c, questions_append, Nat.add_comm]

end Answers

end Surface

namespace Session

variable {σ τ α β : Type} {S : Surface σ} {T : Surface τ}

/-- A run on a surface that answers alike goes the same way. -/
theorem run_agrees {d : Dialogue Request Request.Answer α} {w : World σ} {v : World τ}
    (h : w.Alike v)
    (hcalls : S.Agrees T (calls (d.run (World.answer S) w).events) w.surface v.surface) :
    let run := d.run (World.answer S) w
    let run' := d.run (World.answer T) v
    run'.value = run.value ∧ run'.events = run.events ∧ run.state.Alike run'.state := by
  -- Both are asked the same as long as they answer the same, so the answers to come are compared in
  -- the states after each request.
  induction d generalizing w v with
  | done a => exact ⟨rfl, rfl, h⟩
  | ask q next ih =>
    cases q with
    | send query =>
      simp only [Dialogue.run_ask, World.answer, h.next_outcome]
      obtain ⟨hvalue, hevents, hstate⟩ := ih (w.outcomes w.sent) h.send hcalls
      exact ⟨hvalue, congrArg _ hevents, hstate⟩
    | newId =>
      simp only [Dialogue.run_ask, World.answer, h.next_id]
      obtain ⟨hvalue, hevents, hstate⟩ := ih (w.ids w.drawn) h.draw hcalls
      exact ⟨hvalue, congrArg _ hevents, hstate⟩
    | call c =>
      obtain ⟨hanswer, hrest⟩ := hcalls
      simp only [Dialogue.run_ask, World.answer, ← hanswer]
      obtain ⟨hvalue, hevents, hstate⟩ := ih (S c w.surface).1
        (h.call (S c w.surface).2 (T c v.surface).2) hrest
      exact ⟨hvalue, congrArg _ hevents, hstate⟩

/-- The value of a step is mapped, and the run is the same. -/
theorem run_map (step : Step α) (f : α → β) (form : Form)
    (respond : (q : Request) → σ → q.Answer × σ) (s : σ) :
    let run := step.runFrom form respond s
    Step.runFrom (f <$> step) form respond s =
      ⟨(run.value.1.map f, run.value.2), run.state, run.events⟩ := by
  intro run
  have hbind : Step.runFrom (f <$> step) form respond s =
      ((step form).bind fun end_ => orStop end_.2 (fun a => .done (.ok (f a), end_.2)) end_.1).run
        respond s := by
    rw [map_eq_pure_bind, Step.runFrom, bind_apply]
    rfl
  refine hbind.trans ((Dialogue.run_bind respond (step form) _ s).trans ?_)
  have hrun : (step form).run respond s = run := rfl
  rw [hrun]
  obtain ⟨⟨result, form'⟩, s', events⟩ := run
  cases result with
  | error e => simp [Except.map]
  | ok a => simp [Except.map]

end Session

namespace Recorder

/-- A recorder that fails no call keeps each, and answers questions from its list. -/
theorem surface_eq {r : Recorder} (h : r.failing = none) (c : Call) :
    surface c r = (.ok (c.reply (r.answers[0]?.getD false)),
      { r.record c with answers := r.answers.drop (Surface.questions [c]) }) := by
  have hfailure (kind : Call.Kind) : r.failure? kind = none := by rw [failure?, h]
  cases c with
  | setStatus status => simp only [surface, hfailure]; rfl
  | showNotes listing => simp only [surface, hfailure]; rfl
  | alert message => simp only [surface, hfailure]; rfl
  | confirm prompt =>
    simp only [surface, hfailure, nextAnswer, List.headD_eq_head?_getD, List.head?_eq_getElem?,
      ← List.drop_one]
    rfl

theorem surface_answers {r : Recorder} (h : r.failing = none) :
    surface.Answers r fun n => r.answers[n]?.getD false := by
  intro cs c
  induction cs generalizing r with
  | nil => exact congrArg Prod.fst (surface_eq h c)
  | cons d ds ih =>
    let r' : Recorder := { r.record d with answers := r.answers.drop (Surface.questions [d]) }
    have hnext : (surface d r).2 = r' := congrArg Prod.snd (surface_eq h d)
    have hrest : (surface c (surface.after ds r')).1 =
        .ok (c.reply (r'.answers[Surface.questions ds]?.getD false)) := ih h
    rw [List.getElem?_drop, ← Surface.questions_append, ← hnext] at hrest
    exact hrest

end Recorder

end RemoteNotebook
