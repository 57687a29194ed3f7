import RemoteNotebook.Proofs.OverrideFaults
import RemoteNotebook.Proofs.SettingsFiles

/-! Where settings come from. A file is put on top of the defaults and the flags of a command line
on top of both, each source with all that it gives: a field is the flag's, else the file's, else the
default, and what is overridden has to be in order all the same. -/
namespace RemoteNotebook

namespace Settings

/-- A value from the first source that gives a text for it, or else the one to fall back on. -/
inductive FirstGiven {α : Type} (Read : String → α → Prop) (fallback : α) :
    List (Option String) → α → Prop
  | nowhere : FirstGiven Read fallback [] fallback
  | here {text : String} {x : α} {sources : List (Option String)} (h : Read text x) :
    FirstGiven Read fallback (some text :: sources) x
  | later {x : α} {sources : List (Option String)} (h : FirstGiven Read fallback sources x) :
    FirstGiven Read fallback (none :: sources) x

structure FromFirst (parse : String → Except Endpoint.Fault Endpoint) (sources : List Override)
    (s : Settings) : Prop where
  endpoint : FirstGiven (fun text found => parse text = .ok found) default.endpoint
    (sources.map Override.endpoint) s.endpoint
  table : FirstGiven (fun text name => Text.trim text = name) default.table
    (sources.map Override.table) s.table

/-- A file whose text writes an endpoint and a table, as far as each is given. -/
def Gives (file : FileBytes) (given : Override) : Prop :=
  ∃ text, file.text = .ok text ∧ FileText given.endpoint given.table text.toList

inductive RefusesFile (file : FileBytes) : Failure → Prop
  | unreadable {fault : FileFault} (h : file.text = .error fault) : RefusesFile file (.file fault)
  | malformed {text detail : String} (h : file.text = .ok text)
    (hform : ∀ endpoint table, ¬FileText endpoint table text.toList) :
    RefusesFile file (.format detail)

variable (parse : String → Except Endpoint.Fault Endpoint)

def ofSourcesWith (file : FileBytes) (flags : Override) : Except Failure Settings :=
  (ofFileWith parse file).bind fun s => (overrideWith parse s flags.endpoint flags.table).toExcept

def sourceChecks (file : FileBytes) (flags : Override) : List (Failure → Prop) :=
  [RefusesFile file,
    fun e => ∃ given, Gives file given ∧ RefusesEndpoint parse given.endpoint e,
    fun e => ∃ given, Gives file given ∧ RefusesTable given.table e,
    RefusesEndpoint parse flags.endpoint,
    RefusesTable flags.table]

variable {parse} {s s' : Settings} {o given flags : Override} {file : FileBytes} {e : Failure}
  {checks others : List (Failure → Prop)}

theorem FirstFault.append (h : FirstFault checks e) : FirstFault (checks ++ others) e := by
  induction h with
  | here h => exact .here h
  | later hnone _ ih => exact .later hnone ih

theorem not_firstFault_iff :
    (∀ e, ¬FirstFault checks e) ↔ ∀ check ∈ checks, ∀ e, ¬check e := by
  induction checks with
  | nil => exact iff_of_true nofun nofun
  | cons check checks ih =>
    rw [List.forall_mem_cons, ← ih]
    constructor
    · intro h
      have hnone : ∀ e, ¬check e := fun e hcheck => h e (.here hcheck)
      exact ⟨hnone, fun e hlater => h e (.later hnone hlater)⟩
    · rintro ⟨hnone, hlater⟩ e h
      rw [firstFault_cons_iff hnone] at h
      exact hlater e h

theorem FirstFault.append_right (hnone : ∀ check ∈ checks, ∀ e, ¬check e)
    (h : FirstFault others e) : FirstFault (checks ++ others) e := by
  induction checks with
  | nil => exact h
  | cons check checks ih =>
    obtain ⟨hcheck, hnone⟩ := List.forall_mem_cons.mp hnone
    exact .later hcheck (ih hnone)

theorem toExcept_error_iff {o : Overridden} : o.toExcept = .error e ↔ o.result = .error e := by
  obtain ⟨settings, result⟩ := o
  cases result with
  | error e => exact Iff.of_eq (by simp [Overridden.toExcept, Except.map])
  | ok _ => constructor <;> rintro ⟨⟩

/-- An override goes well just if it fits, and then gives settings with what is in it on top. -/
theorem overrideWith_ok_iff :
    (overrideWith parse s o.endpoint o.table).toExcept = .ok s' ↔
      o.Fits parse ∧ s' = ⟨o.endpointOn parse s, (o.table.map Text.trim).getD s.table⟩ := by
  have hendpoint : (overrideWith parse s o.endpoint o.table).settings.endpoint =
      o.endpointOn parse s := overrideWith_endpoint s o
  obtain ⟨hfits, hok, htable⟩ | ⟨hfits, ⟨e, herror⟩, -⟩ := attempt_takes parse s o
  · have hafter : (overrideWith parse s o.endpoint o.table).toExcept =
        .ok (overrideWith parse s o.endpoint o.table).settings := by
      rw [Overridden.toExcept]
      exact congrArg (Except.map _) hok
    rw [hafter, Except.ok.injEq, eq_comm, and_iff_right hfits]
    refine iff_of_eq (congrArg (s' = ·) (congrArg₂ Settings.mk hendpoint htable))
  · have hafter := toExcept_error_iff.mpr herror
    refine iff_of_false (fun hok => ?_) fun h => hfits h.1
    cases hafter.symm.trans hok

theorem FromFirst.nowhere : FromFirst parse [] default := ⟨.nowhere, .nowhere⟩

/-- What an override puts on top comes first, and what was there before comes next. -/
theorem FromFirst.override {sources : List Override} (hs : FromFirst parse sources s)
    (h : (overrideWith parse s o.endpoint o.table).toExcept = .ok s') :
    FromFirst parse (o :: sources) s' := by
  obtain ⟨hfits, rfl⟩ := overrideWith_ok_iff.mp h
  obtain ⟨endpoint, table⟩ := o
  constructor
  · cases endpoint with
    | none => exact .later hs.endpoint
    | some text =>
      obtain ⟨found, hfound⟩ := hfits.1 text rfl
      refine .here (hfound.trans (congrArg Except.ok ?_))
      simp [Override.endpointOn, hfound, Except.toOption]
  · cases table with
    | none => exact .later hs.table
    | some text => exact .here rfl

theorem Gives.unique {other : Override} (h : Gives file given) (hother : Gives file other) :
    other = given := by
  obtain ⟨text, htext, hgiven⟩ := h
  obtain ⟨text', htext', hother⟩ := hother
  cases htext.symm.trans htext'
  have hsame := hother.ofFileText?.symm.trans hgiven.ofFileText?
  rw [Option.some.injEq, Prod.mk.injEq] at hsame
  exact congrArg₂ Override.mk hsame.1 hsame.2

theorem ofFileWith_of_gives (h : Gives file given) :
    ofFileWith parse file = (overrideWith parse default given.endpoint given.table).toExcept := by
  obtain ⟨text, htext, hgiven⟩ := h
  rw [ofFileWith, htext]
  simp only [hgiven.ofFileText?]

/-- A file gives something, or there are no settings for a fault in the file itself. -/
theorem gives_or (parse : String → Except Endpoint.Fault Endpoint) (file : FileBytes) :
    (∃ given, Gives file given ∧ ∀ e, ¬RefusesFile file e) ∨
      (∀ given, ¬Gives file given) ∧
        ∃ e, RefusesFile file e ∧ ofFileWith parse file = .error e := by
  cases htext : file.text with
  | error fault =>
    refine .inr ⟨?_, .file fault, .unreadable htext, by rw [ofFileWith, htext]⟩
    rintro given ⟨text, hok, -⟩
    cases htext.symm.trans hok
  | ok text =>
    cases hfile : ofFileText? text with
    | none =>
      have hform (endpoint table : Option String) : ¬FileText endpoint table text.toList := by
        rw [← ofFileText?_eq_some_iff, hfile]
        exact Option.some_ne_none _ ∘ Eq.symm
      obtain ⟨detail, hdetail⟩ : ∃ detail, ofFileWith parse file = .error (.format detail) := by
        rw [ofFileWith, htext]
        exact ⟨_, by simp only [hfile]; rfl⟩
      refine .inr ⟨?_, _, .malformed htext hform, hdetail⟩
      rintro given ⟨text', hok, hgiven⟩
      cases htext.symm.trans hok
      exact hform _ _ hgiven
    | some given =>
      have hgiven := ofFileText?_eq_some_iff.mp hfile
      refine .inl ⟨⟨given.1, given.2⟩, ⟨text, htext, hgiven⟩, ?_⟩
      rintro _ (hfault | ⟨hok, hform⟩)
      · cases htext.symm.trans hfault
      · cases htext.symm.trans hok
        exact hform _ _ hgiven

/-- When a file gives something, its own checks are those of an override with that. -/
theorem sourceChecks_of_gives (h : Gives file given) : sourceChecks parse file flags =
    RefusesFile file :: (given.checks parse ++ flags.checks parse) := by
  have hiff (P : Override → Prop) : (∃ other, Gives file other ∧ P other) ↔ P given := by
    constructor
    · rintro ⟨other, hother, hP⟩
      rwa [h.unique hother] at hP
    · exact fun hP => ⟨given, h, hP⟩
  simp only [sourceChecks, hiff]
  rfl

/-- There are settings just if the file and the flags are in order, and each field is from the first
of the two that gives it. -/
theorem ofSourcesWith_ok (h : ofSourcesWith parse file flags = .ok s) :
    ∃ given, Gives file given ∧ given.Fits parse ∧ flags.Fits parse ∧
      FromFirst parse [flags, given] s := by
  obtain ⟨given, hgiven, -⟩ | ⟨-, e, -, hfile⟩ := gives_or parse file
  · rw [ofSourcesWith, ofFileWith_of_gives hgiven] at h
    cases hstart : (overrideWith parse default given.endpoint given.table).toExcept with
    | error e =>
      rw [hstart] at h
      cases h
    | ok start =>
      rw [hstart] at h
      exact ⟨given, hgiven, (overrideWith_ok_iff.mp hstart).1, (overrideWith_ok_iff.mp h).1,
        (FromFirst.nowhere.override hstart).override h⟩
  · rw [ofSourcesWith, hfile] at h
    cases h

theorem ofSourcesWith_of_fits (hgiven : Gives file given) (hfits : given.Fits parse)
    (hflags : flags.Fits parse) : ∃ s, ofSourcesWith parse file flags = .ok s := by
  have hstart := (overrideWith_ok_iff (s := default)).mpr ⟨hfits, rfl⟩
  rw [ofSourcesWith, ofFileWith_of_gives hgiven, hstart]
  exact ⟨_, overrideWith_ok_iff.mpr ⟨hflags, rfl⟩⟩

theorem ofSourcesWith_error (h : ofSourcesWith parse file flags = .error e) :
    FirstFault (sourceChecks parse file flags) e := by
  obtain ⟨given, hgiven, hnone⟩ | ⟨-, e', hrefuses, hfile⟩ := gives_or parse file
  · rw [ofSourcesWith, ofFileWith_of_gives hgiven] at h
    rw [sourceChecks_of_gives hgiven]
    refine .later hnone ?_
    cases hstart : (overrideWith parse default given.endpoint given.table).toExcept with
    | error e' =>
      rw [hstart] at h
      cases h
      exact (overrideWith_error_iff.mp (toExcept_error_iff.mp hstart)).append
    | ok start =>
      rw [hstart] at h
      -- Nothing is wrong with what the file gives, so the fault is in the flags.
      have hfound := overrideWith_error_iff.mp (toExcept_error_iff.mp h)
      refine .append_right (not_firstFault_iff.mp fun e he => ?_) hfound
      have herror := toExcept_error_iff.mpr ((overrideWith_error_iff (s := default)).mpr he)
      cases hstart.symm.trans herror
  · rw [ofSourcesWith, hfile] at h
    cases h
    exact .here hrefuses

end Settings

namespace Program

open Settings

def settingsFile (h : Host) (line : CommandLine) : Option FileBytes :=
  match line.config with
  | some path => some (h.storage.find path)
  | none =>
    let home := h.storage.find homePath
    if home.isThere then some home else none

theorem settings_of_file {h : Host} {line : CommandLine} {file : FileBytes}
    (hfile : settingsFile h line = some file) :
    settings (line.config.map h.storage.find) (h.storage.find homePath) line =
      ofSourcesWith Endpoint.parse file ⟨line.endpoint, line.table⟩ := by
  have hload : load (line.config.map h.storage.find) (h.storage.find homePath) = ofFile file := by
    unfold settingsFile at hfile
    split at hfile
    next path hpath =>
      cases hfile
      rw [hpath]
      rfl
    next hnone =>
      rw [hnone, Option.map_none, load]
      simp only at hfile ⊢
      split at hfile
      next hthere =>
        cases hfile
        rw [if_pos hthere]
      · cases hfile
  rw [settings, hload]
  rfl

/-- Settings come of a file and flags just if the file is written as a settings file, and all that
it gives and all flags can be read, whether it is overridden or not. Then each field is that of the
flag if there is one, else that of the file if it gives one, else the default. Otherwise the fault
is that of the first check that finds one: of the file itself, of the endpoint and the table that it
gives, and of those of the flags. These are the settings of a run with this file and these flags,
which ends with the fault if there is one and then sends nothing. -/
theorem ofSourcesWith_resolves (parse : String → Except Endpoint.Fault Endpoint) (file : FileBytes)
    (flags : Override) :
    let result := ofSourcesWith parse file flags
    ((∃ s, result = .ok s) ↔
      ∃ given, Gives file given ∧ given.Fits parse ∧ flags.Fits parse) ∧
    (∀ s, result = .ok s → ∃ given, Gives file given ∧ FromFirst parse [flags, given] s) ∧
    (∀ e, result = .error e → FirstFault (sourceChecks parse file flags) e) ∧
    ∀ (h : Host) (line : CommandLine), settingsFile h line = some file →
      Override.mk line.endpoint line.table = flags →
      settings (line.config.map h.storage.find) (h.storage.find homePath) line =
          ofSourcesWith Endpoint.parse file flags ∧
        ∀ e, ofSourcesWith Endpoint.parse file flags = .error e →
          run h line = { result := .error e, queries := [], storage := h.storage } := by
  intro result
  refine ⟨⟨?_, ?_⟩, ?_, fun e => ofSourcesWith_error, ?_⟩
  · rintro ⟨s, hs⟩
    obtain ⟨given, hgiven, hfits, hflags, -⟩ := ofSourcesWith_ok hs
    exact ⟨given, hgiven, hfits, hflags⟩
  · rintro ⟨given, hgiven, hfits, hflags⟩
    exact ofSourcesWith_of_fits hgiven hfits hflags
  · intro s hs
    obtain ⟨given, hgiven, -, -, hfirst⟩ := ofSourcesWith_ok hs
    exact ⟨given, hgiven, hfirst⟩
  · rintro h line hfile rfl
    have hsettings := settings_of_file hfile
    refine ⟨hsettings, fun e he => ?_⟩
    rw [run, hsettings, he]

/-- A flag names the endpoint. A file that gives none may name the table, with an escape in it; but
a file with an endpoint that cannot be read is refused, and a run with it sends nothing. -/
theorem ofSourcesWith_resolves_overridden :
    let flags : Override := ⟨some "http://[::1]:9000/query", none⟩
    let there : Endpoint :=
      { defaultEndpoint with host := some (.ipv6 [0, 0, 0, 0, 0, 0, 0, 1]), port := some 9000 }
    let good : FileBytes :=
      .ok (Text.Utf8.encode "\x7b \"table\": \"\\u0061b \", \"endpoint\": null \x7d".toList)
    let bad := Text.Utf8.encode "[\"nowhere\", null]".toList
    let h : Host :=
      { storage := ⟨[(["c.json"], bad)]⟩, ids := fun _ => 0, outcomes := fun _ => .offline }
    let line : CommandLine := { endpoint := flags.endpoint, config := some "c.json" }
    (∃ given, Gives good given) ∧ ofSourcesWith Endpoint.parse good flags = .ok ⟨there, "ab"⟩ ∧
      FirstFault (sourceChecks Endpoint.parse (.ok bad) flags) (.endpoint .relative) ∧
      run h line =
        { result := .error (.endpoint .relative), queries := [], storage := h.storage } := by
  intro flags there good bad h line
  obtain ⟨-, hgood, -⟩ := ofSourcesWith_resolves Endpoint.parse good flags
  obtain ⟨-, -, hfault, hrun⟩ := ofSourcesWith_resolves Endpoint.parse (.ok bad) flags
  have hread : ofSourcesWith Endpoint.parse good flags = .ok ⟨there, "ab"⟩ := by decide +kernel
  have hrefused : ofSourcesWith Endpoint.parse (.ok bad) flags = .error (.endpoint .relative) := by
    decide +kernel
  obtain ⟨given, hgiven, -⟩ := hgood _ hread
  exact ⟨⟨given, hgiven⟩, hread, hfault _ hrefused, (hrun h line (by rfl) rfl).2 _ hrefused⟩

end Program
end RemoteNotebook
