import RemoteNotebook.Proofs.Forms

/-! Steps on surfaces that fail a call. A step ends where the first call fails, and up to there it
is the step on a surface that does not fail. -/
namespace RemoteNotebook

namespace Surface

variable {σ : Type}

/-- The surface that fails the call after `n` others and else does what `S` does. Its state counts
the calls, and a fault may leave the surface as it likes. -/
def failAt (S : Surface σ) (n : Nat) (fault : Call → σ → Failure × σ) : Surface (σ × Nat) :=
  fun c s =>
    if s.2 = n then (.error (fault c s.1).1, (fault c s.1).2, s.2 + 1)
    else ((S c s.1).1, (S c s.1).2, s.2 + 1)

variable (S : Surface σ) {n : Nat} (fault : Call → σ → Failure × σ) (c : Call) (s : σ)

theorem failAt_self : S.failAt n fault c (s, n) =
    (.error (fault c s).1, (fault c s).2, n + 1) := if_pos rfl

theorem failAt_of_ne {k : Nat} (h : k ≠ n) :
    S.failAt n fault c (s, k) = ((S c s).1, (S c s).2, k + 1) := if_neg h

end Surface

def World.withSurface {σ τ : Type} (w : World σ) (t : τ) : World τ :=
  ⟨t, w.ids, w.outcomes, w.drawn, w.sent⟩

namespace Session

variable {σ α β : Type}

/-- A dialogue that ends with a value unless a call fails, and ends with the failure of that call
at once if one does. -/
inductive StopsAtFailure : StepDialogue α → Prop
  | done (a : α) (form : Form) : StopsAtFailure (.done (.ok a, form))
  | send (query : Sql.Query) {next : Outcome → StepDialogue α}
    (h : ∀ outcome, StopsAtFailure (next outcome)) : StopsAtFailure (.ask (.send query) next)
  | newId {next : Int64 → StepDialogue α}
    (h : ∀ id, StopsAtFailure (next id)) : StopsAtFailure (.ask .newId next)
  | call (c : Call) (form : Form) {next : c.Answer → StepDialogue α}
    (h : ∀ answer, StopsAtFailure (next answer)) :
    StopsAtFailure (.ask (.call c) (orStop form next))

def Stops (step : Step α) : Prop := ∀ form, StopsAtFailure (step form)

theorem StopsAtFailure.bind {d : StepDialogue α} (h : StopsAtFailure d)
    {k : α → Form → StepDialogue β} (hk : ∀ a form, StopsAtFailure (k a form)) :
    StopsAtFailure (d.bind fun end_ => orStop end_.2 (fun a => k a end_.2) end_.1) := by
  induction h with
  | done a form => exact hk a form
  | send query _ ih => exact .send query ih
  | newId _ ih => exact .newId ih
  | @call c form next _ ih =>
    have heq : (Dialogue.ask (.call c) (orStop form next)).bind
        (fun end_ => orStop end_.2 (fun a => k a end_.2) end_.1) =
        .ask (.call c) (orStop form fun answer =>
          (next answer).bind fun end_ => orStop end_.2 (fun a => k a end_.2) end_.1) := by
      refine congrArg (Dialogue.ask (Request.call c)) (funext fun answer => ?_)
      cases answer <;> rfl
    rw [heq]
    exact .call c form ih

namespace Stops

protected theorem pure (a : α) : Stops (pure a : Step α) := fun form => .done a form

protected theorem bind {step : Step α} {k : α → Step β} (h : Stops step)
    (hk : ∀ a, Stops (k a)) : Stops (step >>= k) := by
  intro form
  rw [bind_apply]
  exact (h form).bind hk

theorem get : Stops (get : Step Form) := fun form => .done form form

theorem set (form : Form) : Stops (set form : Step PUnit) := fun _ =>
  .done PUnit.unit form

theorem send (query : Sql.Query) : Stops (Session.send query) := fun form =>
  .send query fun outcome => .done outcome form

theorem newId : Stops Session.newId := fun form => .newId fun id => .done id form

theorem call (c : Call) : Stops (Session.call c) := by
  intro form
  have h := call_bind form c pure
  rw [bind_pure] at h
  rw [h]
  exact .call c form fun answer => .done answer form

theorem fullyCompositional : FullyCompositional fun _ => Stops :=
  { Compositional.of_requests Stops.pure Stops.bind send call with
    get := get
    set := set
    newId := newId
    alert := fun error => call (.alert (rejection error)) }

end Stops

theorem Action.step_stops (a : Action) (table : String) : Stops (a.step table) :=
  Stops.fullyCompositional.step table a

def called? (e : Event) : Option Call :=
  match e.request with
  | .call c => some c
  | _ => none

def calls (events : List Event) : List Call := events.filterMap called?

theorem calls_call (c : Call) (answer : Except Failure c.Answer) (events : List Event) :
    calls (⟨.call c, answer⟩ :: events) = c :: calls events := rfl

theorem StopsAtFailure.run_ok {d : StepDialogue α} (h : StopsAtFailure d) {S : Surface σ}
    {w : World σ} (hS : S.Reliable w.surface) :
    ∃ a, (d.run (World.answer S) w).value.1 = .ok a := by
  induction h generalizing w with
  | done a form => exact ⟨a, rfl⟩
  | send query _ ih => exact ih _ hS
  | newId _ ih => exact ih _ hS
  | @call c form next _ ih =>
    obtain ⟨answer, hanswer⟩ := hS.answers c
    rw [run_call hanswer]
    exact ih answer (hS.next c)

section Failing

variable {d : StepDialogue α} {S : Surface σ} {n k : Nat} (fault : Call → σ → Failure × σ)

abbrev counting (w : World σ) (k : Nat) : World (σ × Nat) := w.withSurface (w.surface, k)

theorem run_call_failAt_self {w : World σ} (c : Call)
    (next : Except Failure c.Answer → Dialogue Request Request.Answer β) :
    ∃ w', (Dialogue.ask (.call c) next).run (World.answer (S.failAt n fault)) (counting w n) =
      precede ⟨.call c, .error (fault c w.surface).1⟩
        ((next (.error (fault c w.surface).1)).run (World.answer (S.failAt n fault)) w') := by
  have hfault := congrArg Prod.fst (S.failAt_self (n := n) fault c w.surface)
  exact ⟨_, run_call (w := counting w n) hfault next⟩

theorem run_call_failAt {w : World σ} {c : Call} {answer : Except Failure c.Answer}
    (hk : k ≠ n) (h : (S c w.surface).1 = answer)
    (next : Except Failure c.Answer → Dialogue Request Request.Answer β) :
    (Dialogue.ask (.call c) next).run (World.answer (S.failAt n fault)) (counting w k) =
      precede ⟨.call c, answer⟩ ((next answer).run (World.answer (S.failAt n fault))
        (counting { w with surface := (S c w.surface).2 } (k + 1))) := by
  have hstep := S.failAt_of_ne fault c w.surface hk
  rw [run_call (w := counting w k) ((congrArg Prod.fst hstep).trans h)]
  have hsurface : (S.failAt n fault c (counting w k).surface).2 = ((S c w.surface).2, k + 1) :=
    congrArg Prod.snd hstep
  rw [hsurface]
  rfl

theorem length_calls_precede (c : Call) (answer : Except Failure c.Answer) (run : StepRun σ β) :
    (calls (precede ⟨.call c, answer⟩ run).events).length = (calls run.events).length + 1 := rfl

/-- A failing call that is reached ends the run, which until then went as without a failure. -/
theorem StopsAtFailure.run_failAt (h : StopsAtFailure d) {w : World σ}
    (hS : S.Reliable w.surface) (hk : k ≤ n)
    (hn : n < k + (calls (d.run (World.answer S) w).events).length) :
    let run := d.run (World.answer (S.failAt n fault)) (counting w k)
    ∃ before c answer after form,
      (d.run (World.answer S) w).events = before ++ ⟨.call c, answer⟩ :: after ∧
      k + (calls before).length = n ∧
      run.events = before ++ [⟨.call c, .error (fault c (S.after (calls before) w.surface)).1⟩] ∧
      run.value = (.error (fault c (S.after (calls before) w.surface)).1, form) := by
  induction h generalizing w k with
  | done a form =>
    change n < k + 0 at hn
    omega
  | send query _ ih =>
    obtain ⟨before, c, answer, after, form, hgoes, hreached, hends, hvalue⟩ :=
      ih (w.outcomes w.sent) (w := { w with sent := w.sent + 1 }) hS hk hn
    exact ⟨⟨.send query, w.outcomes w.sent⟩ :: before, c, answer, after, form,
      congrArg _ hgoes, hreached, congrArg _ hends, hvalue⟩
  | newId _ ih =>
    obtain ⟨before, c, answer, after, form, hgoes, hreached, hends, hvalue⟩ :=
      ih (w.ids w.drawn) (w := { w with drawn := w.drawn + 1 }) hS hk hn
    exact ⟨⟨.newId, w.ids w.drawn⟩ :: before, c, answer, after, form,
      congrArg _ hgoes, hreached, congrArg _ hends, hvalue⟩
  | @call c form next _ ih =>
    obtain ⟨answer, hanswer⟩ := hS.answers c
    rw [run_call hanswer] at hn ⊢
    rw [length_calls_precede, orStop_ok] at hn
    by_cases hkn : k = n
    · subst hkn
      obtain ⟨w', hfails⟩ := run_call_failAt_self (n := k) (S := S) fault c (orStop form next)
      rw [hfails]
      exact ⟨[], c, .ok answer, _, form, rfl, rfl, rfl, rfl⟩
    · obtain ⟨before, c', answer', after, form', hgoes, hreached, hends, hvalue⟩ :=
        ih answer (w := { w with surface := (S c w.surface).2 }) (hS.next c) (k := k + 1)
          (by omega) (by omega)
      rw [run_call_failAt fault hkn hanswer]
      refine ⟨⟨.call c, .ok answer⟩ :: before, c', answer', after, form', congrArg _ hgoes, ?_,
        congrArg _ hends, hvalue⟩
      rw [calls_call, List.length_cons]
      omega

/-- A failing call that is not reached leaves the run as it is. -/
theorem StopsAtFailure.run_failAt_of_le (h : StopsAtFailure d) {w : World σ}
    (hS : S.Reliable w.surface)
    (hn : k + (calls (d.run (World.answer S) w).events).length ≤ n) :
    d.run (World.answer (S.failAt n fault)) (counting w k) =
      let run := d.run (World.answer S) w
      ⟨run.value, counting run.state (k + (calls run.events).length), run.events⟩ := by
  induction h generalizing w k with
  | done a form => rfl
  | send query _ ih => exact congrArg (precede _) (ih _ (w := { w with sent := w.sent + 1 }) hS hn)
  | newId _ ih => exact congrArg (precede _) (ih _ (w := { w with drawn := w.drawn + 1 }) hS hn)
  | @call c form next _ ih =>
    obtain ⟨answer, hanswer⟩ := hS.answers c
    rw [run_call hanswer] at hn ⊢
    rw [length_calls_precede, orStop_ok] at hn
    rw [run_call_failAt fault (by omega) hanswer, orStop_ok, ih answer (hS.next c) (by omega)]
    simp only [precede, calls_call, List.length_cons, Nat.add_assoc, Nat.add_comm 1]

end Failing

theorem error_mem_ok_cons_iff {c c' : Call} {answer : c.Answer} {e : Failure}
    {events : List Event} :
    ⟨.call c', .error e⟩ ∈ (⟨.call c, .ok answer⟩ :: events : List Event) ↔
      ⟨.call c', .error e⟩ ∈ events := by
  rw [List.mem_cons, or_iff_right]
  rintro ⟨⟩

/-- A dialogue ends with a failure if a call in it fails with that, and in no other way. -/
theorem StopsAtFailure.error_iff {d : StepDialogue α} (h : StopsAtFailure d) {events : List Event}
    {end_ : Except Failure α × Form} (hd : d.Yields events end_) (e : Failure) :
    end_.1 = .error e ↔ ∃ c, ⟨.call c, .error e⟩ ∈ events := by
  induction h generalizing events with
  | done a form =>
    obtain ⟨rfl, rfl⟩ := Dialogue.yields_done_iff.mp hd
    simp
  | send query _ ih =>
    obtain ⟨outcome, rest, rfl, hrest⟩ := Dialogue.yields_ask_iff.mp hd
    simpa using ih outcome hrest
  | newId _ ih =>
    obtain ⟨id, rest, rfl, hrest⟩ := Dialogue.yields_ask_iff.mp hd
    simpa using ih id hrest
  | @call c form next _ ih =>
    obtain ⟨answer, rest, rfl, hrest⟩ := Dialogue.yields_ask_iff.mp hd
    cases answer with
    | ok answer =>
      simp only [error_mem_ok_cons_iff]
      exact ih answer hrest
    | error e' =>
      obtain ⟨rfl, rfl⟩ := Dialogue.yields_done_iff.mp hrest
      constructor
      · rintro ⟨⟩
        exact ⟨c, .head _⟩
      · rintro ⟨c', hc'⟩
        obtain ⟨⟩ := List.mem_singleton.mp hc'
        rfl

/-- A step on a surface that fails no call ends with a value. If the surface fails a call that the
step makes, nothing is done after it: the step ends with that failure, and the form is as it was
then. A failure of a later call changes nothing. On whatever surface, a step fails with nothing but
the failure of a call. -/
theorem Action.step_failAt (a : Action) (table : String) (form : Form) {S : Surface σ}
    {w : World σ} (hS : S.Reliable w.surface) (fault : Call → σ → Failure × σ) (n : Nat) :
    let run := (a.step table).runFrom form (World.answer S) w
    let failing := (a.step table).runFrom form (World.answer (S.failAt n fault)) (counting w 0)
    (∃ result, run.value = (.ok result, a.formAfter form run.events)) ∧
    (n < (calls run.events).length → ∃ before c answer after,
      run.events = before ++ ⟨.call c, answer⟩ :: after ∧ (calls before).length = n ∧
      let e := (fault c (S.after (calls before) w.surface)).1
      failing.events = before ++ [⟨.call c, .error e⟩] ∧
      failing.value = (.error e, a.formAfter form before)) ∧
    ((calls run.events).length ≤ n →
      failing = ⟨run.value, counting run.state (calls run.events).length, run.events⟩) ∧
    ∀ {τ : Type} (T : Surface τ) (v : World τ) (e : Failure),
      let run := (a.step table).runFrom form (World.answer T) v
      run.value.1 = .error e ↔ ∃ c, ⟨.call c, .error e⟩ ∈ run.events := by
  have hstops := a.step_stops table form
  intro run failing
  refine ⟨?_, ?_, ?_, ?_⟩
  · obtain ⟨result, hresult⟩ := hstops.run_ok hS
    have hform := step_form (Dialogue.run_yields (World.answer S) (a.step table form) w)
    exact ⟨result, Prod.ext hresult hform⟩
  · intro hn
    have hn' : n < 0 + (calls run.events).length := by omega
    obtain ⟨before, c, answer, after, form', hgoes, hreached, hends, hvalue⟩ :=
      hstops.run_failAt fault hS n.zero_le hn'
    have hform := step_form (Dialogue.run_yields (World.answer (S.failAt n fault))
      (a.step table form) (counting w 0))
    rw [hends, formAfter_append_error] at hform
    have hfailure := congrArg Prod.fst hvalue
    exact ⟨before, c, answer, after, hgoes, (Nat.zero_add _).symm.trans hreached, hends,
      Prod.ext hfailure hform⟩
  · intro hn
    have hn' : 0 + (calls run.events).length ≤ n := by omega
    have hrun := hstops.run_failAt_of_le fault hS hn'
    simp only [Nat.zero_add] at hrun
    exact hrun
  · intro τ T v e run'
    exact hstops.error_iff (Dialogue.run_yields _ _ _) e

/-- A note is created and accepted. A failure of the status line in the first query keeps the note
in the form, and one in the second query does not. -/
theorem Action.step_failAt_created :
    let s := pageSession (.obj [])
    let closed : Call → Page → Failure × Page := fun _ p => (.input "closed", p)
    let failing n := ((Action.create "t" "c").step s.table).runFrom s.form
      (World.answer (Page.surface.failAt n closed)) (counting s.world 0)
    Page.surface.Reliable s.world.surface ∧
      (failing 0).value = (.error (.input "closed"), ⟨"t", "c"⟩) ∧
      (failing 1).value = (.error (.input "closed"), Form.empty) := by
  intro s closed failing
  have hpage : Page.surface.Reliable s.world.surface := Surface.page_reliable _
  have hfailing (n : Nat) := step_failAt (.create "t" "c") s.table s.form hpage closed n
  refine ⟨hpage, ?_, ?_⟩
  · obtain ⟨before, c, answer, after, -, -, -, hvalue⟩ := (hfailing 0).2.1 (by decide)
    have hfailure := congrArg Prod.fst hvalue
    exact Prod.ext hfailure rfl
  · obtain ⟨before, c, answer, after, -, -, -, hvalue⟩ := (hfailing 1).2.1 (by decide)
    have hfailure := congrArg Prod.fst hvalue
    exact Prod.ext hfailure rfl

end Session
end RemoteNotebook
