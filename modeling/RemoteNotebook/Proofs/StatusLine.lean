import RemoteNotebook.Proofs.Exchanges
import RemoteNotebook.Proofs.History
import RemoteNotebook.Proofs.ShellRuns

/-! The status line in step with the traffic. Each query is followed at once by the status that its
outcome tells, and the status is told at no other time, in sessions and in the shell. -/
namespace RemoteNotebook

inductive Mark where
  | sent (status : Connectivity)
  | told (status : Connectivity)
  | other

def Call.status? : Call → Option Connectivity
  | setStatus status => some status
  | _ => none

/-- Whatever is sent is told next, and nothing else is told. -/
inductive Lockstep : List Mark → Prop
  | nil : Lockstep []
  | trip (status : Connectivity) {marks : List Mark} (h : Lockstep marks) :
    Lockstep (.sent status :: .told status :: marks)
  | other {marks : List Mark} (h : Lockstep marks) : Lockstep (.other :: marks)

namespace Mark

def sent? : Mark → Option Connectivity
  | sent status => some status
  | _ => none

def told? : Mark → Option Connectivity
  | told status => some status
  | _ => none

end Mark

namespace Lockstep

theorem append {ms ns : List Mark} (hms : Lockstep ms) (hns : Lockstep ns) :
    Lockstep (ms ++ ns) := by
  induction hms with
  | nil => exact hns
  | trip status _ ih => exact .trip status ih
  | other _ ih => exact .other ih

theorem told_eq_sent {ms : List Mark} (h : Lockstep ms) :
    ms.filterMap Mark.told? = ms.filterMap Mark.sent? := by
  induction h with
  | nil => rfl
  | trip status _ ih => exact congrArg (status :: ·) ih
  | other _ ih => exact ih

end Lockstep

section Steps

variable {Q : Type} {A : Q → Type} {α : Type} {mark : Dialogue.Event Q A → Mark}

theorem Lockstep.append_map {es fs : List (Dialogue.Event Q A)} (hes : Lockstep (es.map mark))
    (hfs : Lockstep (fs.map mark)) : Lockstep ((es ++ fs).map mark) := by
  rw [List.map_append]
  exact hes.append hfs

def InStep (mark : Dialogue.Event Q A → Mark)
    (step : ExceptT Failure (StateT Form (Dialogue Q A)) α) : Prop :=
  Dialogue.Always (fun events => Lockstep (events.map mark)) step

end Steps

namespace Session

def mark : Event → Mark
  | ⟨.send _, outcome⟩ => .sent outcome.connectivity
  | ⟨.call (.setStatus status), _⟩ => .told status
  | _ => .other

/-- The statuses told in some events, in order, whether or not the surface took them. -/
def statuses (events : List Event) : List Connectivity := (calls events).filterMap Call.status?

theorem told?_mark (e : Event) : (mark e).told? = (called? e).bind Call.status? := by
  obtain ⟨q, answer⟩ := e
  cases q with
  | send query => rfl
  | newId => rfl
  | call c => cases c <;> rfl

theorem sent?_mark (e : Event) : (mark e).sent? = (exchange? e).map fun x => x.2.connectivity := by
  obtain ⟨q, answer⟩ := e
  cases q with
  | send query => rfl
  | newId => rfl
  | call c => cases c <;> rfl

theorem filterMap_told? (events : List Event) :
    (events.map mark).filterMap Mark.told? = statuses events := by
  rw [statuses, calls, List.filterMap_map, List.filterMap_filterMap]
  exact congrArg (List.filterMap · events) (funext told?_mark)

theorem filterMap_sent? (events : List Event) :
    (events.map mark).filterMap Mark.sent? =
      (exchanges events).map fun x => x.2.connectivity := by
  rw [exchanges, List.filterMap_map, List.map_filterMap]
  exact congrArg (List.filterMap · events) (funext sent?_mark)

theorem statuses_eq {events : List Event} (h : Lockstep (events.map mark)) :
    statuses events = (exchanges events).map fun x => x.2.connectivity := by
  rw [← filterMap_told?, ← filterMap_sent?]
  exact h.told_eq_sent

theorem fullyCompositional_inStep : FullyCompositional fun _ => InStep mark :=
  .of_events .nil (fun _ _ => .append_map) (fun _ outcome _ => .trip outcome.connectivity .nil)
    (fun _ => .other .nil) (fun _ _ => .other .nil) (fun _ _ => .other .nil) fun _ => .other .nil

variable {σ : Type} {S : Surface σ}

theorem history_inStep (s : Session σ) (as : List Action) :
    Lockstep ((historyEvents (s.history S as)).map mark) := by
  induction as generalizing s with
  | nil => exact .nil
  | cons a as ih =>
    have hfirst : Lockstep ((s.performing S a).events.map mark) :=
      fullyCompositional_inStep.step s.table a (performing_yields a s)
    rw [history_cons, historyEvents, List.flatMap_cons, List.map_append]
    exact hfirst.append (ih (s.perform S a).2)

end Session

namespace Console

def mark : Event → Mark
  | ⟨.session q, answer⟩ => Session.mark ⟨q, answer⟩
  | _ => .other

/-- What is no event of a session is neither sent nor told. -/
theorem filterMap_mark {f : Mark → Option Connectivity} (hf : f .other = none)
    (events : List Event) :
    (events.map mark).filterMap f = ((sessionEvents events).map Session.mark).filterMap f := by
  rw [sessionEvents, List.map_filterMap, List.filterMap_filterMap, List.filterMap_map]
  refine congrArg (List.filterMap · events) (funext fun e => ?_)
  obtain ⟨q, answer⟩ := e
  cases q with
  | session q => rfl
  | prompt label => exact hf
  | say line => exact hf
  | showReply r => exact hf

theorem statuses_eq {events : List Event} (h : Lockstep (events.map mark)) :
    Session.statuses (sessionEvents events) =
      (Session.exchanges (sessionEvents events)).map fun x => x.2.connectivity := by
  have htold := h.told_eq_sent
  rw [filterMap_mark rfl, filterMap_mark rfl] at htold
  rw [← Session.filterMap_told?, ← Session.filterMap_sent?]
  exact htold

end Console

namespace Surface

variable {σ : Type} {S : Surface σ} {status : σ → Connectivity}

/-- The status can be read off a surface: it is the one told last. -/
def ShowsStatus (S : Surface σ) (status : σ → Connectivity) : Prop :=
  ∀ c s answer, (S c s).1 = .ok answer → status (S c s).2 = c.status?.getD (status s)

theorem ShowsStatus.after (h : S.ShowsStatus status) {s : σ} (hS : S.Reliable s)
    (cs : List Call) :
    status (S.after cs s) = ((cs.filterMap Call.status?).getLast?).getD (status s) := by
  induction cs generalizing s with
  | nil => rfl
  | cons c cs ih =>
    obtain ⟨answer, hanswer⟩ := hS.answers c
    have hrest : status (S.after (c :: cs) s) =
        ((cs.filterMap Call.status?).getLast?).getD (status (S c s).2) := ih (hS.next c)
    rw [hrest, h c s answer hanswer]
    cases hstatus : c.status? with
    | none => simp [hstatus]
    | some told => simp [hstatus, List.getLast?_cons]

end Surface

namespace Exchange

variable {endpoint : Endpoint} {sql : String} {answer : Answer} {later : Nat → Answer}

end Exchange

end RemoteNotebook
