import RemoteNotebook.Failure
import RemoteNotebook.Listing

/-!
Surfaces: whatever shows a session to its user. A surface takes four kinds of calls, and it may
fail any of them.
-/

namespace RemoteNotebook

inductive Call where
  /-- Replaces the status line. -/
  | setStatus (status : Connectivity)
  /-- Replaces the whole list of notes. -/
  | showNotes (listing : Listing)
  /-- Gives a message to the user. -/
  | alert (message : String)
  /-- Asks a question to be answered with yes or no. -/
  | confirm (prompt : String)
  deriving DecidableEq, Repr

namespace Call

abbrev Answer : Call → Type
  | confirm _ => Bool
  | _ => Unit

inductive Kind where
  | setStatus
  | showNotes
  | alert
  | confirm
  deriving DecidableEq, Repr

def kind : Call → Kind
  | setStatus _ => .setStatus
  | showNotes _ => .showNotes
  | alert _ => .alert
  | confirm _ => .confirm

end Call

/-- How surfaces with states in `σ` answer calls. -/
def Surface (σ : Type) : Type := (c : Call) → σ → Except Failure c.Answer × σ

/-- A surface that keeps the calls made on it. Questions are answered from a list, and with no when
the list is used up. -/
structure Recorder where
  calls : List Call := []
  answers : List Bool := []
  /-- A kind of calls that fail from some number of them on, and their failure. -/
  failing : Option (Call.Kind × Nat × Failure) := none
  deriving Repr

namespace Recorder

def failure? (r : Recorder) (kind : Call.Kind) : Option Failure :=
  match r.failing with
  | some (k, limit, failure) =>
    if k = kind ∧ limit ≤ r.calls.countP (·.kind = kind) then some failure else none
  | none => none

def record (r : Recorder) (c : Call) : Recorder := { r with calls := r.calls ++ [c] }

def nextAnswer (r : Recorder) : Bool × Recorder :=
  (r.answers.headD false, { r with answers := r.answers.tail })

/-- A call that fails is not kept. -/
def surface : Surface Recorder := fun c r =>
  match r.failure? c.kind with
  | some failure => (.error failure, r)
  | none =>
    match c with
    | .setStatus s => (.ok (), r.record (.setStatus s))
    | .showNotes l => (.ok (), r.record (.showNotes l))
    | .alert m => (.ok (), r.record (.alert m))
    | .confirm p =>
      let (answer, r) := (r.record (.confirm p)).nextAnswer
      (.ok answer, r)

end Recorder
end RemoteNotebook
