import Mathlib.Data.List.TakeDrop
import RemoteNotebook.Exchange
import RemoteNotebook.Proofs.Utf8

/-! Exchanges as they run. A query is posted at its endpoint if a request can be written for it, and
each request after that is the one before once more, or asks for what is there without a body. The
user is told to one host and port only. -/
namespace RemoteNotebook

namespace Endpoint

/-- A reference without a scheme, and with less than two slashes in front, keeps the host. -/
theorem join_stays {base : Endpoint} {reference : String}
    (hscheme : splitScheme (trimmed reference.toList) = none)
    (hslashes : (((withoutBreaks (trimmed reference.toList)).takeWhile
      (!isPathEnd ·)).takeWhile (isSlash .web)).length < 2) :
    ∃ e, base.join reference = .ok e ∧ e.scheme = base.scheme ∧ e.host = base.host ∧
      e.port = base.port := by
  rw [join, hscheme]
  simp only [parseRelative, List.span_eq_takeWhile_dropWhile]
  split
  · exact ⟨_, rfl, rfl, rfl, rfl⟩
  · exact ⟨_, rfl, rfl, rfl, rfl⟩
  · exact ⟨_, rfl, rfl, rfl, rfl⟩
  next slashes rest _ hnone hone hspan =>
    rw [(Prod.mk.inj hspan).1] at hslashes
    match slashes with
    | [] => cases hnone rfl
    | [c] => cases hone c rfl

end Endpoint

namespace Exchange

/-- The same request once more, or one without a body. -/
def Request.Follows (r r' : Request) : Prop :=
  (r'.method = r.method ∧ r'.body = r.body) ∨ (r'.method = "GET" ∧ r'.body = "")

namespace Request

variable {r r' r'' : Request} {here there : Endpoint} {field : String × String}

theorem Follows.refl (r : Request) : r.Follows r := .inl ⟨rfl, rfl⟩

theorem Follows.trans (h : r.Follows r') (h' : r'.Follows r'') : r.Follows r'' := by
  rcases h' with ⟨hmethod, hbody⟩ | h'
  · rw [Follows, hmethod, hbody]
    exact h
  · exact .inr h'

theorem again?_follows {status : Nat} (h : r.again? status = some r') :
    r.Follows r' ∧ ∀ field ∈ r'.fields, field ∈ r.fields := by
  rw [again?] at h
  split at h
  · cases h
    exact ⟨.inr ⟨rfl, rfl⟩, fun _ hfield => (List.mem_filter.mp hfield).1⟩
  · split at h
    · cases h
      exact ⟨.refl r, fun _ => id⟩
    · cases h

theorem follows_moved (r : Request) (here there : Endpoint) : r.Follows (r.moved here there) := by
  refine .inl ?_
  simp only [moved, referredFrom, keptFor]
  split <;> split <;> exact ⟨rfl, rfl⟩

theorem mem_keptFor (h : field ∈ (r.keptFor here there).fields) (hname : field.1 = "authorization") :
    field ∈ r.fields ∧ here.host = there.host ∧ here.knownPort? = there.knownPort? := by
  rw [keptFor] at h
  split at h
  next hsame => exact ⟨h, hsame⟩
  next => simp [without, hname] at h

theorem mem_referredFrom (h : field ∈ (r.referredFrom here there).fields)
    (hname : field.1 ≠ "referer") : field ∈ r.fields := by
  rw [referredFrom] at h
  split at h
  · exact h
  · rcases List.mem_append.mp h with h | h
    · exact (List.mem_filter.mp h).1
    · exact absurd (congrArg Prod.fst (List.mem_singleton.mp h)) hname

/-- What tells the user is not taken to another host or port. -/
theorem mem_moved (h : field ∈ (r.moved here there).fields) (hname : field.1 = "authorization") :
    field ∈ r.fields ∧ here.host = there.host ∧ here.knownPort? = there.knownPort? :=
  mem_keptFor (mem_referredFrom h (by simp [hname])) hname

end Request

def Answer.location? : Answer → Option (List UInt8)
  | answered _ _ location => location
  | _ => none

namespace Trip

/-- The answer in which a trip ends, among those that come in turn from a place on: it points
nowhere, and those before it, which are not too many, each to an http or https address. -/
inductive Ends (answers : Nat → Answer) : Nat → Nat → Trip → Answer → Prop
  | stays {n place : Nat} {t : Trip} (h : t.next? (answers place) = none) :
    Ends answers n place t (answers place)
  | moves {n place : Nat} {t t' : Trip} {answer : Answer}
    (h : t.next? (answers place) = some t') (hhttp : isHttp t'.address = true)
    (hrest : Ends answers n (place + 1) t' answer) : Ends answers (n + 1) place t answer

def SameHost (t t' : Trip) : Prop :=
  t.address.host = t'.address.host ∧ t.address.knownPort? = t'.address.knownPort?

variable {answers : Nat → Answer} {n place : Nat} {t t' : Trip} {answer : Answer}

theorem exists_of_next? (h : t.next? answer = some t') :
    ∃ status r, t.request.again? status = some r ∧
      t' = ⟨t'.address, r.moved t.address t'.address⟩ := by
  cases answer with
  | refused => cases h
  | dropped => cases h
  | answered status body location =>
    cases location with
    | none => cases h
    | some location =>
      obtain ⟨r, hagain, h⟩ := Option.bind_eq_some_iff.mp h
      obtain ⟨there, -, rfl⟩ := Option.map_eq_some_iff.mp h
      exact ⟨status, r, hagain, rfl⟩

theorem next?_eq_none (h : answer.location? = none) : t.next? answer = none := by
  cases answer with
  | refused => rfl
  | dropped => rfl
  | answered status body location =>
    cases h
    rfl

theorem next?_follows (h : t.next? answer = some t') : t.request.Follows t'.request := by
  obtain ⟨status, r, hagain, ht'⟩ := exists_of_next? h
  rw [ht']
  exact (Request.again?_follows hagain).1.trans (r.follows_moved _ _)

/-- All that a trip can come to: it ends with its own answer, or it goes on to another one, or where
it should go on to is too far away. -/
theorem run_follow (answers : Nat → Answer) (n place : Nat) (t : Trip) :
    let run := runWith answers (follow n t) place
    (t.next? (answers place) = none ∧
      run = ⟨(answers place).outcome, place + 1, [⟨t, answers place⟩]⟩) ∨
    (∃ n' t', n = n' + 1 ∧ t.next? (answers place) = some t' ∧ isHttp t'.address = true ∧
      let rest := runWith answers (follow n' t') (place + 1)
      run = ⟨rest.value, rest.state, ⟨t, answers place⟩ :: rest.events⟩) ∨
    (∃ t', t.next? (answers place) = some t' ∧ (n = 0 ∨ isHttp t'.address = false) ∧
      run = ⟨.offline, place + 1, [⟨t, answers place⟩]⟩) := by
  intro run
  cases hnext : t.next? (answers place) with
  | none =>
    refine .inl ⟨rfl, ?_⟩
    cases n <;> simp [run, runWith, follow, hnext]
  | some t' =>
    refine .inr ?_
    cases n with
    | zero => exact .inr ⟨t', rfl, .inl rfl, by simp [run, runWith, follow, hnext]⟩
    | succ n =>
      cases hhttp : isHttp t'.address with
      | true => exact .inl ⟨n, t', rfl, rfl, hhttp, by simp [run, runWith, follow, hnext, hhttp]⟩
      | false => exact .inr ⟨t', rfl, .inr hhttp, by simp [run, runWith, follow, hnext, hhttp]⟩

theorem value_of_ends (h : Ends answers n place t answer) :
    (runWith answers (follow n t) place).value = answer.outcome := by
  induction h with
  | @stays n place t h =>
    obtain ⟨-, hrun⟩ | ⟨_, _, -, hnext, -⟩ | ⟨_, hnext, -⟩ := run_follow answers n place t
    · rw [hrun]
    · cases h.symm.trans hnext
    · cases h.symm.trans hnext
  | @moves n place t t' answer h hhttp _ ih =>
    obtain ⟨hnext, -⟩ | ⟨n', t'', hn, hnext, -, hrun⟩ | ⟨t'', hnext, hfar, -⟩ :=
      run_follow answers (n + 1) place t
    · cases h.symm.trans hnext
    · cases h.symm.trans hnext
      cases hn
      rw [hrun]
      exact ih
    · cases h.symm.trans hnext
      simp [hhttp] at hfar

theorem value_of_not_ends (h : ∀ answer, ¬Ends answers n place t answer) :
    (runWith answers (follow n t) place).value = .offline := by
  -- on how many trips may still come: where one does, fewer may come after it
  induction n using Nat.strongRecOn generalizing place t with
  | ind n ih =>
    obtain ⟨hnext, -⟩ | ⟨n, t', rfl, hnext, hhttp, hrun⟩ | ⟨_, -, -, hrun⟩ :=
      run_follow answers n place t
    · exact absurd (.stays hnext) (h _)
    · rw [hrun]
      exact ih n (Nat.lt_succ_self n) fun answer hends => h answer (.moves hnext hhttp hends)
    · rw [hrun]

/-- The answers to a trip end in one, whose outcome it has, or they lead too far. -/
theorem follow_value (answers : Nat → Answer) (n place : Nat) (t : Trip) :
    let value := (runWith answers (follow n t) place).value
    (∃ last, Ends answers n place t last ∧ value = last.outcome) ∨
      ((∀ last, ¬Ends answers n place t last) ∧ value = .offline) := by
  intro value
  by_cases hends : ∃ last, Ends answers n place t last
  · obtain ⟨last, hends⟩ := hends
    exact .inl ⟨last, hends, value_of_ends hends⟩
  · exact .inr ⟨not_exists.mp hends, value_of_not_ends (not_exists.mp hends)⟩

/-- What holds of the first trip, and of each one that an answer leads to from another, holds of all
the trips that are made. -/
theorem of_mem_follow {P : Trip → Prop}
    (hstep : ∀ t answer t', P t → t.next? answer = some t' → P t') (h : P t) :
    ∀ e ∈ (runWith answers (follow n t) place).events, P e.request := by
  induction n using Nat.strongRecOn generalizing place t with
  | ind n ih =>
    obtain ⟨-, hrun⟩ | ⟨n, t', rfl, hnext, -, hrun⟩ | ⟨_, -, -, hrun⟩ :=
      run_follow answers n place t
    · simpa [hrun] using h
    · have hrest : ∀ e ∈ (runWith answers (follow n t') (place + 1)).events, P e.request :=
        ih n (Nat.lt_succ_self n) (hstep t _ t' h hnext)
      simpa [hrun] using ⟨h, hrest⟩
    · simpa [hrun] using h

theorem follow_events (answers : Nat → Answer) (n place : Nat) (t : Trip) :
    ∃ rest, (runWith answers (follow n t) place).events = ⟨t, answers place⟩ :: rest ∧
      (t.next? (answers place) = none → rest = []) := by
  obtain ⟨-, hrun⟩ | ⟨_, _, -, hnext, -, hrun⟩ | ⟨_, -, -, hrun⟩ := run_follow answers n place t
  · exact ⟨_, by rw [hrun], fun _ => rfl⟩
  · exact ⟨_, by rw [hrun], fun h => by cases h.symm.trans hnext⟩
  · exact ⟨_, by rw [hrun], fun _ => rfl⟩

end Trip

section Queries

variable {endpoint : Endpoint} {answers : Nat → Answer} {later : Nat → Answer} {answer : Answer}

theorem mem_arrived {events : List (Dialogue.Event Trip fun _ => Answer)} {r : Request}
    (h : r ∈ arrived events) : ∃ e ∈ events, e.request.request = r := by
  obtain ⟨e, he, hr⟩ := List.mem_filterMap.mp h
  refine ⟨e, he, ?_⟩
  split at hr
  · exact Option.some_inj.mp hr
  · cases hr

theorem perform_of_not_writable (h : isWritable endpoint = false) (sql : String)
    (answer : Answer) (later : Nat → Answer) :
    perform endpoint sql answer later = ([], .offline) := by
  simp [perform, query, h, runWith, arrived]

theorem perform_of_writable (h : isWritable endpoint = true) (sql : String) (answer : Answer)
    (later : Nat → Answer) :
    let run := runWith (inTurn answer later) ((firstTrip endpoint sql).follow maxMoves) 0
    perform endpoint sql answer later = (arrived run.events, run.value) := by
  intro run
  rw [perform, query, if_pos h]

/-- Whatever comes of a query is the outcome of one answer, or that of none. -/
theorem perform_outcome (endpoint : Endpoint) (sql : String) (answer : Answer)
    (later : Nat → Answer) :
    (perform endpoint sql answer later).2 = .offline ∨
      ∃ last : Answer, (perform endpoint sql answer later).2 = last.outcome := by
  cases h : isWritable endpoint with
  | false => exact .inl (by rw [perform_of_not_writable h])
  | true =>
    rw [perform_of_writable h]
    obtain ⟨last, -, hvalue⟩ | ⟨-, hvalue⟩ :=
      Trip.follow_value (inTurn answer later) maxMoves 0 (firstTrip endpoint sql)
    · exact .inr ⟨last, hvalue⟩
    · exact .inl hvalue

/-- A query that can be written, and whose request is taken, is posted. What is sent after it, if
anything, follows it. -/
theorem perform_posts (h : isWritable endpoint = true) (sql : String)
    (harrives : answer.arrives = true) (later : Nat → Answer) :
    ∃ moved, (perform endpoint sql answer later).1 = request endpoint sql :: moved ∧
      (answer.location? = none → moved = []) ∧
      ∀ sent ∈ moved, (request endpoint sql).Follows sent := by
  obtain ⟨rest, hevents, hrest⟩ :=
    Trip.follow_events (inTurn answer later) maxMoves 0 (firstTrip endpoint sql)
  have hfollows : ∀ e ∈ (runWith (inTurn answer later)
      ((firstTrip endpoint sql).follow maxMoves) 0).events,
      (request endpoint sql).Follows e.request.request :=
    Trip.of_mem_follow (P := fun t => (request endpoint sql).Follows t.request)
      (fun _ _ _ ht hnext => ht.trans (Trip.next?_follows hnext)) (.refl _)
  refine ⟨arrived rest, ?_, fun hlocation => ?_, fun sent hsent => ?_⟩
  · rw [perform_of_writable h, hevents]
    simp [arrived, inTurn, harrives, firstTrip]
  · rw [hrest (Trip.next?_eq_none hlocation)]
    rfl
  · obtain ⟨e, he, rfl⟩ := mem_arrived hsent
    exact hfollows e (hevents ▸ List.mem_cons_of_mem _ he)

theorem perform_of_refused (endpoint : Endpoint) (sql : String) (later : Nat → Answer) :
    (perform endpoint sql .refused later).1 = [] := by
  cases h : isWritable endpoint with
  | false => rw [perform_of_not_writable h]
  | true =>
    obtain ⟨rest, hevents, hrest⟩ :=
      Trip.follow_events (inTurn .refused later) maxMoves 0 (firstTrip endpoint sql)
    rw [perform_of_writable h, hevents, hrest rfl]
    rfl

/-- Different users are told differently. -/
theorem authorization_injective {login login' : String}
    (h : authorization login = authorization login') : login = login' := by
  have hchars := String.ofList_injective (String.append_right_inj _ |>.mp h)
  exact String.toList_inj.mp (Text.Utf8.encode_injective (Text.Base64.encode_injective hchars))

/-- The user of an endpoint is told to its host and port only, wherever the answers point. -/
theorem query_tells_at_home (endpoint : Endpoint) (sql : String) (answers : Nat → Answer) :
    ∀ e ∈ (runWith answers (query endpoint sql) 0).events, ∀ field ∈ e.request.request.fields,
      field.1 = "authorization" → (firstTrip endpoint sql).SameHost e.request := by
  rw [query]
  split
  · refine Trip.of_mem_follow (P := fun t => ∀ field ∈ t.request.fields,
      field.1 = "authorization" → (firstTrip endpoint sql).SameHost t) ?_ fun _ _ _ => ⟨rfl, rfl⟩
    intro t answer t' ht hnext field hfield hname
    obtain ⟨status, r, hagain, ht'⟩ := Trip.exists_of_next? hnext
    rw [ht'] at hfield
    -- the request before told the user too, so that it was at home, and this one is where it was
    obtain ⟨hmem, hhost, hport⟩ := Request.mem_moved hfield hname
    obtain ⟨hhome, hhomePort⟩ := ht field ((Request.again?_follows hagain).2 field hmem) hname
    exact ⟨hhome.trans hhost, hhomePort.trans hport⟩
  · intro e he
    cases he

end Queries
end Exchange
end RemoteNotebook
