import RemoteNotebook.Dialogue
import RemoteNotebook.Exchange.Request

/-!
One exchange with the database: a query is posted once, answers that point to another address are
followed, and what comes back in the end is the outcome of the query. An answer counts if its body
is JSON, whatever its status is; everything else is a database that could not be reached. So is one
for whose address no request can be written.
-/

namespace RemoteNotebook.Exchange

inductive Answer where
  /-- Nothing listens at the address, so that nothing is sent. -/
  | refused
  /-- The connection is closed after the request. -/
  | dropped
  | answered (status : Nat) (body : List UInt8) (location : Option (List UInt8) := none)
  deriving DecidableEq, Repr

/-- Whether an answer with this status has its body read. Interim answers and those that say that
there is no content have none. -/
def carriesBody (status : Nat) : Bool :=
  200 ≤ status && status ≤ 999 && status != 204 && status != 304

def replyOf? (body : List UInt8) : Option Reply :=
  (Text.Utf8.decode body).bind fun cs => Reply.decode? (String.ofList cs)

namespace Answer

def outcome : Answer → Outcome
  | answered status body _ =>
    if carriesBody status then (replyOf? body).elim .offline .connected else .offline
  | refused => .offline
  | dropped => .offline

def arrives : Answer → Bool
  | refused => false
  | _ => true

end Answer

structure Trip where
  address : Endpoint
  request : Request

abbrev Exchanging := Dialogue Trip fun _ => Answer

/-- The address that a location names, seen from another one. -/
def locate? (address : Endpoint) (location : List UInt8) : Option Endpoint :=
  (Text.Utf8.decode location).bind fun cs =>
    (address.join (String.ofList cs)).toOption.filter isAddress

namespace Trip

def next? (t : Trip) : Answer → Option Trip
  | .answered status _ (some location) =>
    (t.request.again? status).bind fun r =>
      (locate? t.address location).map fun there => ⟨there, r.moved t.address there⟩
  | _ => none

/-- Makes a trip and at most so many others, as the answers point. To be led further, or to where
there is no http, is as good as to get no answer. -/
def follow : Nat → Trip → Exchanging Outcome
  | 0, t => .ask t fun answer =>
    .done (if (t.next? answer).isSome then .offline else answer.outcome)
  | n + 1, t => .ask t fun answer =>
    match t.next? answer with
    | some t' => if isHttp t'.address then follow n t' else .done .offline
    | none => .done answer.outcome

end Trip

/-- To how many addresses the answers to one query may point. -/
def maxMoves : Nat := 10

def firstTrip (endpoint : Endpoint) (sql : String) : Trip :=
  ⟨addressOf endpoint, request endpoint sql⟩

def query (endpoint : Endpoint) (sql : String) : Exchanging Outcome :=
  if isWritable endpoint then (firstTrip endpoint sql).follow maxMoves else .done .offline

def inTurn (answer : Answer) (later : Nat → Answer) : Nat → Answer
  | 0 => answer
  | n + 1 => later n

def runWith (answers : Nat → Answer) (d : Exchanging Outcome) (place : Nat) :
    Dialogue.Run Trip (fun _ => Answer) Nat Outcome :=
  d.run (fun _ n => (answers n, n + 1)) place

def arrived (events : List (Dialogue.Event Trip fun _ => Answer)) : List Request :=
  events.filterMap fun e => if e.answer.arrives then some e.request.request else none

/-- The requests that arrive at the other side for a query, and the outcome of the query. -/
def perform (endpoint : Endpoint) (sql : String) (answer : Answer)
    (later : Nat → Answer := fun _ => .refused) : List Request × Outcome :=
  let run := runWith (inTurn answer later) (query endpoint sql) 0
  (arrived run.events, run.value)

end RemoteNotebook.Exchange
