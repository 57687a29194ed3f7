/-!
Dialogues: computations that put requests to their surroundings and go on from the answers. What a
dialogue does is fixed by the answers alone, so it can be run against any surroundings, and a run
keeps the requests with their answers, in order, as its events.
-/

namespace RemoteNotebook

/-- A computation that is done, or makes a request and goes on from its answer. -/
inductive Dialogue (Q : Type) (A : Q → Type) (α : Type) where
  | done (value : α)
  | ask (request : Q) (next : A request → Dialogue Q A α)

namespace Dialogue

variable {Q R : Type} {A : Q → Type} {B : R → Type} {α β σ : Type}

def request (q : Q) : Dialogue Q A (A q) := .ask q .done

protected def bind : Dialogue Q A α → (α → Dialogue Q A β) → Dialogue Q A β
  | .done a, f => f a
  | .ask q next, f => .ask q fun answer => (next answer).bind f

instance : Monad (Dialogue Q A) where
  pure := .done
  bind := Dialogue.bind

@[simp] theorem pure_eq (a : α) : (pure a : Dialogue Q A α) = .done a := rfl

@[simp] theorem done_bind (a : α) (f : α → Dialogue Q A β) : (Dialogue.done a >>= f) = f a := rfl

@[simp] theorem ask_bind (q : Q) (next : A q → Dialogue Q A α) (f : α → Dialogue Q A β) :
    (Dialogue.ask q next >>= f) = .ask q fun answer => next answer >>= f := rfl

theorem bind_done (d : Dialogue Q A α) : d.bind .done = d := by
  induction d with
  | done a => rfl
  | ask q next ih => simp only [Dialogue.bind, ih]

theorem bind_bind {γ : Type} (d : Dialogue Q A α) (f : α → Dialogue Q A β)
    (g : β → Dialogue Q A γ) : (d.bind f).bind g = d.bind fun a => (f a).bind g := by
  induction d with
  | done a => rfl
  | ask q next ih => simp only [Dialogue.bind, ih]

instance : LawfulMonad (Dialogue Q A) := LawfulMonad.mk' (Dialogue Q A)
  bind_done (fun _ _ => rfl) bind_bind

structure Event (Q : Type) (A : Q → Type) where
  request : Q
  answer : A request

structure Run (Q : Type) (A : Q → Type) (σ α : Type) where
  value : α
  state : σ
  events : List (Event Q A)

/-- Runs a dialogue in surroundings that answer each request and change with it. -/
def run (respond : (q : Q) → σ → A q × σ) : Dialogue Q A α → σ → Run Q A σ α
  | .done a, s => ⟨a, s, []⟩
  | .ask q next, s =>
    let (answer, s) := respond q s
    let rest := (next answer).run respond s
    { rest with events := ⟨q, answer⟩ :: rest.events }

@[simp] theorem run_done (respond : (q : Q) → σ → A q × σ) (a : α) (s : σ) :
    (Dialogue.done a).run respond s = ⟨a, s, []⟩ := rfl

@[simp] theorem run_ask (respond : (q : Q) → σ → A q × σ) (q : Q) (next : A q → Dialogue Q A α)
    (s : σ) :
    (Dialogue.ask q next).run respond s =
      ⟨((next (respond q s).1).run respond (respond q s).2).value,
        ((next (respond q s).1).run respond (respond q s).2).state,
        ⟨q, (respond q s).1⟩ :: ((next (respond q s).1).run respond (respond q s).2).events⟩ := rfl

/-- A run of two dialogues after one another is the run of the first and then of the second. -/
theorem run_bind (respond : (q : Q) → σ → A q × σ) (d : Dialogue Q A α)
    (f : α → Dialogue Q A β) (s : σ) :
    (d >>= f).run respond s =
      let first := d.run respond s
      let second := (f first.value).run respond first.state
      ⟨second.value, second.state, first.events ++ second.events⟩ := by
  induction d generalizing s with
  | done a => rfl
  | ask q next ih => simp [ih]

/-- Runs a dialogue where answers come as effects of a monad. -/
def runIn {m : Type → Type} [Monad m] (respond : (q : Q) → m (A q)) : Dialogue Q A α → m α
  | .done a => pure a
  | .ask q next => respond q >>= fun answer => (next answer).runIn respond

/-- The dialogue among surroundings that are asked in a wider language. -/
def widen (out : Q → R) (back : (q : Q) → B (out q) → A q) : Dialogue Q A α → Dialogue R B α
  | .done a => .done a
  | .ask q next => .ask (out q) fun answer => (next (back q answer)).widen out back

end Dialogue
end RemoteNotebook
