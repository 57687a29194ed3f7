import RemoteNotebook.Proofs.Exchanges

/-! Errors that replies report. A member reports one unless its value is null, false or the empty
text; of the two members that may, the first one that does gives the message. -/
namespace RemoteNotebook

namespace Json

def Flags (v : Json) : Prop := v ≠ .null ∧ v ≠ .bool false ∧ v ≠ .str ""

/-- The message of a value: a text is its own, and any other value is written compactly. -/
def message : Json → String
  | .str s => s
  | v => v.compact

end Json

def Flagged (members : List (String × Json)) (key : String) (v : Json) : Prop :=
  members.lookup key = some v ∧ v.Flags

/-- The error that a body reports, where no body stands for a round trip that failed. -/
inductive Reported : Option Json → String → Prop
  | offline : Reported none "Could not reach DB server"
  | named {members : List (String × Json)} {v : Json} (h : Flagged members "error_message" v) :
    Reported (some (.obj members)) v.message
  | plain {members : List (String × Json)} {v : Json}
    (hnamed : ∀ v, ¬Flagged members "error_message" v) (h : Flagged members "error" v) :
    Reported (some (.obj members)) v.message

/-- The outcome of a round trip with this body, or of one that failed. -/
def Outcome.ofBody : Option Json → Outcome
  | some body => .connected (.ofJson body)
  | none => .offline

theorem Exchange.Answer.exists_outcome_eq (answer : Answer) :
    ∃ body, answer.outcome = .ofBody body := by
  cases answer with
  | refused => exact ⟨none, rfl⟩
  | dropped => exact ⟨none, rfl⟩
  | answered status bytes =>
    simp only [outcome]
    split
    next =>
      cases hdecode : replyOf? bytes with
      | none => exact ⟨none, rfl⟩
      | some reply =>
        obtain ⟨cs, -, hcs⟩ := Option.bind_eq_some_iff.mp hdecode
        obtain ⟨body, -, rfl⟩ := Option.map_eq_some_iff.mp hcs
        exact ⟨some body, rfl⟩
    next => exact ⟨none, rfl⟩

/-- Whatever comes of an exchange is the outcome of some body or of none. -/
theorem Exchange.exists_perform_eq (endpoint : Endpoint) (sql : String) (answer : Answer)
    (later : Nat → Answer) : ∃ body, (perform endpoint sql answer later).2 = .ofBody body := by
  obtain hoffline | ⟨last, hlast⟩ := perform_outcome endpoint sql answer later
  · exact ⟨none, hoffline⟩
  · rw [hlast]
    exact last.exists_outcome_eq

namespace Reply

theorem errorText?_eq_some_iff {v : Json} {m : String} :
    errorText? v = some m ↔ v.Flags ∧ v.message = m := by
  cases v with
  | null => simp [errorText?, Json.Flags]
  | bool b => cases b <;> simp [errorText?, Json.Flags, Json.message]
  | str s => by_cases hs : s = "" <;> simp [errorText?, Json.Flags, Json.message, hs]
  | int i => simp [errorText?, Json.Flags, Json.message]
  | double x => simp [errorText?, Json.Flags, Json.message]
  | arr items => simp [errorText?, Json.Flags, Json.message]
  | obj members => simp [errorText?, Json.Flags, Json.message]

theorem member_eq_some_iff {members : List (String × Json)} {key m : String} :
    (members.lookup key).bind errorText? = some m ↔
      ∃ v, Flagged members key v ∧ v.message = m := by
  simp only [Option.bind_eq_some_iff, errorText?_eq_some_iff, Flagged, and_assoc]

theorem member_eq_none_iff {members : List (String × Json)} {key : String} :
    (members.lookup key).bind errorText? = none ↔ ∀ v, ¬Flagged members key v := by
  rw [Option.eq_none_iff_forall_not_mem]
  simp only [Option.mem_def, member_eq_some_iff]
  constructor
  · intro h v hv
    exact h v.message ⟨v, hv, rfl⟩
  · rintro h m ⟨v, hv, -⟩
    exact h v hv

theorem error_ofBody_iff {body : Option Json} {m : String} :
    (Outcome.ofBody body).reply.error = some m ↔ Reported body m := by
  cases body with
  | none =>
    have herror : (Outcome.ofBody none).reply.error = some "Could not reach DB server" := rfl
    rw [herror, Option.some.injEq]
    constructor
    · rintro rfl
      exact .offline
    · rintro ⟨⟩
      rfl
  | some body =>
    cases body with
    | obj members =>
      have herror : (Outcome.ofBody (some (.obj members))).reply.error =
          ((members.lookup "error_message").bind errorText?).or
            ((members.lookup "error").bind errorText?) := rfl
      rw [herror, Option.or_eq_some_iff, member_eq_some_iff, member_eq_some_iff, member_eq_none_iff]
      constructor
      · rintro (⟨v, hv, rfl⟩ | ⟨hnamed, v, hv, rfl⟩)
        · exact .named hv
        · exact .plain hnamed hv
      · rintro (_ | ⟨hv⟩ | ⟨hnamed, hv⟩)
        · exact .inl ⟨_, hv, rfl⟩
        · exact .inr ⟨hnamed, _, hv, rfl⟩
    | _ =>
      constructor
      · rintro ⟨⟩
      · rintro ⟨⟩

theorem isError_ofBody_iff {body : Option Json} :
    (Outcome.ofBody body).reply.isError = true ↔ ∃ m, Reported body m := by
  simp only [isError, Option.isSome_iff_exists, error_ofBody_iff]

end Reply

/-- An error is reported by what could not be reached, and by an object in one of two members. -/
theorem exists_reported_iff {body : Option Json} :
    (∃ m, Reported body m) ↔ body = none ∨ ∃ members, body = some (.obj members) ∧
      ∃ key ∈ ["error_message", "error"], ∃ v, Flagged members key v := by
  constructor
  · rintro ⟨m, _ | ⟨hv⟩ | ⟨-, hv⟩⟩
    · exact .inl rfl
    · exact .inr ⟨_, rfl, _, .head _, _, hv⟩
    · exact .inr ⟨_, rfl, _, .tail _ (.head _), _, hv⟩
  · rintro (rfl | ⟨members, rfl, key, hkey, v, hv⟩)
    · exact ⟨_, .offline⟩
    · by_cases hnamed : ∃ v, Flagged members "error_message" v
      · obtain ⟨v, hv⟩ := hnamed
        exact ⟨_, .named hv⟩
      · simp only [List.mem_cons, List.not_mem_nil, or_false] at hkey
        rcases hkey with rfl | rfl
        · exact absurd ⟨v, hv⟩ hnamed
        · exact ⟨_, .plain (not_exists.mp hnamed) hv⟩

end RemoteNotebook
