import RemoteNotebook.Proofs.LineParts
import RemoteNotebook.Proofs.TableNames

/-! Overrides that fail. The endpoint is read before the table is looked at, and the first fault
that is found is the one that is reported; but an endpoint that was read stays in the settings when
the table behind it is refused. -/
namespace RemoteNotebook.Settings

/-- The fault of the first check that has one. -/
inductive FirstFault : List (Failure → Prop) → Failure → Prop
  | here {check : Failure → Prop} {checks : List (Failure → Prop)} {e : Failure} (h : check e) :
    FirstFault (check :: checks) e
  | later {check : Failure → Prop} {checks : List (Failure → Prop)} {e : Failure}
    (hnone : ∀ e, ¬check e) (h : FirstFault checks e) : FirstFault (check :: checks) e

inductive RefusesName (text : String) : TableFault → Prop
  | empty (h : Text.Blanks text.toList) : RefusesName text .empty
  | notAName {name : String} (h : Text.TrimsTo text.toList name.toList) (hne : name ≠ "")
    (hname : ¬Sql.IsIdentifier name.toList) : RefusesName text (.notAName name)

inductive RefusesTable : Option String → Failure → Prop
  | refused {text : String} {fault : TableFault} (h : RefusesName text fault) :
    RefusesTable (some text) (.settings fault.message)

variable (parse : String → Except Endpoint.Fault Endpoint)

inductive RefusesEndpoint : Option String → Failure → Prop
  | unreadable {text : String} {fault : Endpoint.Fault} (h : parse text = .error fault) :
    RefusesEndpoint (some text) (.endpoint fault)

/-- What an override is checked for, in this order. -/
def Override.checks (o : Override) : List (Failure → Prop) :=
  [RefusesEndpoint parse o.endpoint, RefusesTable o.table]

/-- The endpoint of settings on which an override was made: the one that it gives, if that can be
read, and else the one before. -/
def Override.endpointOn (o : Override) (s : Settings) : Endpoint :=
  (o.endpoint.bind fun text => (parse text).toOption).getD s.endpoint

variable {parse} {s : Settings} {o : Override} {e : Failure} {given : Option String}

theorem trim_eq_iff {text name : String} :
    Text.trim text = name ↔ Text.TrimsTo text.toList name.toList := by
  rw [← Text.trimBlanks_eq_iff, Text.trim, ← String.toList_inj, String.toList_ofList]

theorem trim_eq_empty_iff {text : String} : Text.trim text = "" ↔ Text.Blanks text.toList := by
  rw [trim_eq_iff, ← Text.trimBlanks_eq_iff]
  refine ⟨fun h => ?_, Text.trimBlanks_of_blanks⟩
  obtain ⟨before, after, htext, hbefore, hafter, -⟩ := Text.trimBlanks_eq_iff.mp h
  rw [htext]
  exact (hbefore.append (by simp [Text.Blanks])).append hafter

theorem tableName_error_iff {text : String} {fault : TableFault} :
    tableName text = .error fault ↔ RefusesName text fault := by
  constructor
  · intro h
    simp only [tableName] at h
    split at h
    next hempty =>
      cases h
      exact .empty (trim_eq_empty_iff.mp (String.isEmpty_iff.mp hempty))
    next hne =>
      split at h
      next => cases h
      next hname =>
        cases h
        rw [Sql.isTableName_iff] at hname
        exact .notAName (trim_eq_iff.mp rfl) (hne ∘ String.isEmpty_iff.mpr) hname
  · rintro (hblanks | ⟨htrims, hne, hname⟩)
    · rw [tableName, trim_eq_empty_iff.mpr hblanks]
      rfl
    · simp only [tableName, trim_eq_iff.mpr htrims, String.isEmpty_iff, hne, if_false,
        Sql.isTableName_iff, hname]

theorem overrideTable_error_iff :
    (overrideTable s given).result = .error e ↔ RefusesTable given e := by
  cases given with
  | none => exact iff_of_false (by simp [overrideTable]) nofun
  | some text =>
    constructor
    · intro h
      rw [overrideTable] at h
      split at h
      next => cases h
      next fault hfault =>
        cases h
        exact .refused (tableName_error_iff.mp hfault)
    · rintro ⟨hfault⟩
      rw [overrideTable, tableName_error_iff.mpr hfault]

theorem overrideTable_endpoint (s : Settings) (given : Option String) :
    (overrideTable s given).settings.endpoint = s.endpoint := by
  cases given with
  | none => rfl
  | some text =>
    rw [overrideTable]
    split <;> rfl

theorem firstFault_singleton_iff {check : Failure → Prop} : FirstFault [check] e ↔ check e := by
  refine ⟨fun h => ?_, .here⟩
  cases h with
  | here h => exact h
  | later _ h => cases h

theorem firstFault_cons_iff {check : Failure → Prop} {checks : List (Failure → Prop)}
    (hnone : ∀ e, ¬check e) : FirstFault (check :: checks) e ↔ FirstFault checks e := by
  refine ⟨fun h => ?_, .later hnone⟩
  cases h with
  | here h => exact absurd h (hnone e)
  | later _ h => exact h

/-- How an override goes that gives no endpoint, or one that can be read. -/
theorem overrideWith_of_endpoint {s' : Settings}
    (h : overrideEndpoint parse s o.endpoint = ⟨s', .ok ()⟩) :
    overrideWith parse s o.endpoint o.table = overrideTable s' o.table := by
  rw [overrideWith, h]

/-- The endpoint of an override is refused and the settings stay, or it is taken. -/
theorem overrideEndpoint_or (parse : String → Except Endpoint.Fault Endpoint) (s : Settings)
    (o : Override) :
    (∃ fault, overrideEndpoint parse s o.endpoint = ⟨s, .error (.endpoint fault)⟩ ∧
      (∀ e, RefusesEndpoint parse o.endpoint e ↔ e = .endpoint fault) ∧
      o.endpointOn parse s = s.endpoint) ∨
    overrideEndpoint parse s o.endpoint = ⟨{ s with endpoint := o.endpointOn parse s }, .ok ()⟩ ∧
      ∀ e, ¬RefusesEndpoint parse o.endpoint e := by
  obtain ⟨endpoint, table⟩ := o
  cases endpoint with
  | none => exact .inr ⟨rfl, nofun⟩
  | some text =>
    cases hparse : parse text with
    | error fault =>
      refine .inl ⟨fault, by rw [overrideEndpoint, hparse], fun e => ⟨?_, ?_⟩, ?_⟩
      · rintro ⟨h⟩
        rw [hparse] at h
        cases h
        rfl
      · rintro rfl
        exact .unreadable hparse
      · simp [Override.endpointOn, hparse, Except.toOption]
    | ok found =>
      refine .inr ⟨?_, ?_⟩
      · simp [overrideEndpoint, Override.endpointOn, hparse, Except.toOption]
      · rintro _ ⟨h⟩
        rw [hparse] at h
        cases h

/-- An override fails with the first fault that is found in it. -/
theorem overrideWith_error_iff :
    (overrideWith parse s o.endpoint o.table).result = .error e ↔
      FirstFault (o.checks parse) e := by
  obtain ⟨fault, hrefused, hfault, -⟩ | ⟨htaken, hnone⟩ := overrideEndpoint_or parse s o
  · rw [overrideWith, hrefused, Except.error.injEq, eq_comm, ← hfault]
    refine ⟨.here, fun h => ?_⟩
    cases h with
    | here h => exact h
    | later hnone => exact absurd ((hfault _).mpr rfl) (hnone _)
  · rw [overrideWith_of_endpoint htaken, overrideTable_error_iff, Override.checks,
      firstFault_cons_iff hnone, firstFault_singleton_iff]

/-- An endpoint is taken as soon as it is read, whatever becomes of the table. -/
theorem overrideWith_endpoint (s : Settings) (o : Override) :
    (overrideWith parse s o.endpoint o.table).settings.endpoint = o.endpointOn parse s := by
  obtain ⟨fault, hrefused, -, hkept⟩ | ⟨htaken, -⟩ := overrideEndpoint_or parse s o
  · rw [overrideWith, hrefused, hkept]
  · rw [overrideWith_of_endpoint htaken, overrideTable_endpoint]

/-- The endpoint stays just if the one that is given cannot be read, or is the same. -/
theorem endpointOn_eq_iff : o.endpointOn parse s = s.endpoint ↔
    ∀ text ∈ o.endpoint, ∀ found, parse text = .ok found → found = s.endpoint := by
  rw [Override.endpointOn]
  cases o.endpoint with
  | none => simp
  | some text => cases hparse : parse text <;> simp [hparse, Except.toOption]

/-- An override that fails is refused for the first fault in it, and no settings come of it. The
table is what it was before, and so is the endpoint if it is the one that was refused; but if the
table was, an endpoint that could be read has taken the place of the one before. So the settings are
as they were just if no other endpoint was given that can be read. -/
theorem overrideWith_failed (parse : String → Except Endpoint.Fault Endpoint) {s : Settings}
    {endpoint table : Option String} {e : Failure}
    (h : (overrideWith parse s endpoint table).result = .error e) :
    let o : Override := ⟨endpoint, table⟩
    let after := overrideWith parse s endpoint table
    FirstFault (o.checks parse) e ∧ after.toExcept = .error e ∧
      after.settings = ⟨o.endpointOn parse s, s.table⟩ ∧
      (RefusesEndpoint parse endpoint e → after.settings = s) ∧
      (after.settings = s ↔
        ∀ text ∈ endpoint, ∀ found, parse text = .ok found → found = s.endpoint) := by
  intro o after
  have htable : after.settings.table = s.table := by
    obtain ⟨-, hok, -⟩ | ⟨-, -, hkept⟩ := attempt_takes parse s o
    · cases h.symm.trans hok
    · exact hkept
  have hsettings : after.settings = ⟨o.endpointOn parse s, s.table⟩ :=
    congrArg₂ Settings.mk (overrideWith_endpoint s o) htable
  have hstays : after.settings = s ↔
      ∀ text ∈ endpoint, ∀ found, parse text = .ok found → found = s.endpoint := by
    rw [hsettings, ← endpointOn_eq_iff (o := o)]
    exact ⟨congrArg Settings.endpoint, fun hsame => by rw [hsame]⟩
  refine ⟨overrideWith_error_iff.mp h, ?_, hsettings, ?_, hstays⟩
  · rw [Overridden.toExcept, h]
    rfl
  · rintro ⟨hparse⟩
    refine hstays.mpr fun text htext found hfound => ?_
    obtain rfl := Option.some.inj htext
    cases hparse.symm.trans hfound

def halfGood : Override := ⟨some "http://[::1]:9000/query", some "my notes"⟩

theorem halfGood_firstFault : FirstFault (halfGood.checks Endpoint.parse)
    (.settings (TableFault.notAName "my notes").message) := by
  have hread : (Endpoint.parse "http://[::1]:9000/query").toBool = true := by decide +kernel
  have hendpoint : ∀ e, ¬RefusesEndpoint Endpoint.parse halfGood.endpoint e := by
    rintro _ ⟨hparse⟩
    rw [hparse] at hread
    cases hread
  have hname : ¬Sql.IsIdentifier "my notes".toList := by
    rw [← Sql.isTableName_iff]
    decide
  have htrims : Text.TrimsTo "my notes".toList "my notes".toList :=
    Text.trimBlanks_eq_iff.mp (by decide)
  exact .later hendpoint (.here (.refused (.notAName htrims (by decide) hname)))

theorem overrideWith_failed_halfway :
    let after := overrideWith Endpoint.parse default halfGood.endpoint halfGood.table
    let refused := Failure.settings (TableFault.notAName "my notes").message
    after.result = .error refused ∧ after.toExcept = .error refused ∧
      after.settings.endpoint.text = "http://[::1]:9000/query" ∧
      after.settings.table = "notes" := by
  intro after refused
  have hrefused : after.result = .error refused := overrideWith_error_iff.mpr halfGood_firstFault
  obtain ⟨-, hnone, hsettings, -⟩ := overrideWith_failed Endpoint.parse hrefused
  refine ⟨hrefused, hnone, ?_, ?_⟩
  · have htext : (halfGood.endpointOn Endpoint.parse default).text = "http://[::1]:9000/query" := by
      decide +kernel
    rw [hsettings]
    exact htext
  · rw [hsettings]
    rfl

/-- The override fails, and yet the settings are others. -/
theorem override_failed_changes :
    let after := default.override halfGood.endpoint halfGood.table
    (∃ e, after.result = .error e) ∧ after.settings ≠ default := by
  intro after
  have hother : halfGood.endpointOn Endpoint.parse default ≠ default.endpoint := by decide +kernel
  refine ⟨⟨_, overrideWith_error_iff.mpr halfGood_firstFault⟩, fun hsame => hother ?_⟩
  exact (overrideWith_endpoint default halfGood).symm.trans (congrArg Settings.endpoint hsame)

end RemoteNotebook.Settings
