import RemoteNotebook.Proofs.DistinctStatements
import RemoteNotebook.Proofs.History
import RemoteNotebook.Proofs.ProgramRuns
import RemoteNotebook.Proofs.SentQueries

/-! Names of tables. Whatever overrides the settings, the table in them is an identifier; and it is
what stands between the words of every statement that is sent, so it ends no word of these. -/
namespace RemoteNotebook

namespace Settings

structure Override where
  endpoint : Option String := none
  table : Option String := none

structure Attempt where
  override : Override
  before : Settings
  after : Overridden

variable (parse : String → Except Endpoint.Fault Endpoint)

def attempt (s : Settings) (o : Override) : Attempt :=
  ⟨o, s, overrideWith parse s o.endpoint o.table⟩

/-- How overrides go after one another. One that fails does not keep the next ones from being
made. -/
def attempts : Settings → List Override → List Attempt
  | _, [] => []
  | s, o :: os => s.attempt parse o :: attempts (s.attempt parse o).after.settings os

def overrideAll (s : Settings) (os : List Override) : Settings :=
  os.foldl (fun s o => (s.attempt parse o).after.settings) s

/-- An override that can be made: its endpoint can be read, and its table is an identifier with
blanks around it. -/
def Override.Fits (o : Override) : Prop :=
  (∀ text ∈ o.endpoint, ∃ e, parse text = .ok e) ∧
    ∀ text ∈ o.table, Sql.IsIdentifier (Text.trim text).toList

/-- Settings to start from: the defaults, or those of any file that can be read. -/
def Initial (s : Settings) : Prop := s = default ∨ ∃ file, ofFileWith parse file = .ok s

def Attempt.named? (a : Attempt) : Option String :=
  match a.after.result with
  | .ok _ => a.override.table.map Text.trim
  | .error _ => none

variable {s : Settings}

theorem tableName_eq (text : String) :
    (Sql.IsIdentifier (Text.trim text).toList ∧ tableName text = .ok (Text.trim text)) ∨
      ¬Sql.IsIdentifier (Text.trim text).toList ∧ ∃ fault, tableName text = .error fault := by
  rw [← Sql.isTableName_iff]
  simp only [tableName]
  split
  next hempty =>
    refine .inr ⟨?_, _, rfl⟩
    rw [String.isEmpty_iff.mp hempty]
    decide
  next =>
    split
    next hname => exact .inl ⟨hname, rfl⟩
    next hname => exact .inr ⟨hname, _, rfl⟩

/-- What fits goes well, and then a table that is given is taken. What does not fit fails, and then
the table stays. -/
def TakesTable (fits : Prop) (given : Option String) (s : Settings) (after : Overridden) : Prop :=
  (fits ∧ after.result = .ok () ∧ after.settings.table = (given.map Text.trim).getD s.table) ∨
    ¬fits ∧ (∃ e, after.result = .error e) ∧ after.settings.table = s.table

theorem overrideTable_takes (s : Settings) (given : Option String) :
    TakesTable (∀ text ∈ given, Sql.IsIdentifier (Text.trim text).toList) given s
      (overrideTable s given) := by
  cases given with
  | none => exact .inl ⟨by simp, rfl, rfl⟩
  | some text =>
    simp only [Option.mem_def, Option.some.injEq, forall_eq']
    obtain ⟨hname, htable⟩ | ⟨hname, fault, htable⟩ := tableName_eq text
    · rw [overrideTable, htable]
      exact .inl ⟨hname, rfl, rfl⟩
    · rw [overrideTable, htable]
      exact .inr ⟨hname, ⟨_, rfl⟩, rfl⟩

/-- The table of an override stays where the override fails, even if the endpoint in it is taken. -/
theorem attempt_takes (s : Settings) (o : Override) :
    TakesTable (o.Fits parse) o.table s (s.attempt parse o).after := by
  obtain ⟨endpoint, table⟩ := o
  cases endpoint with
  | none =>
    have hafter : (s.attempt parse ⟨none, table⟩).after = overrideTable s table := rfl
    have hfits : Override.Fits parse ⟨none, table⟩ ↔
        ∀ text ∈ table, Sql.IsIdentifier (Text.trim text).toList := by simp [Override.Fits]
    rw [hafter, hfits]
    exact overrideTable_takes s table
  | some text =>
    cases hparse : parse text with
    | error fault =>
      have hafter : (s.attempt parse ⟨some text, table⟩).after =
          ⟨s, .error (.endpoint fault)⟩ := by
        simp only [attempt, overrideWith, overrideEndpoint, hparse]
      have hfits : ¬Override.Fits parse ⟨some text, table⟩ := by simp [Override.Fits, hparse]
      rw [hafter]
      exact .inr ⟨hfits, ⟨_, rfl⟩, rfl⟩
    | ok e =>
      have hafter : (s.attempt parse ⟨some text, table⟩).after =
          overrideTable { s with endpoint := e } table := by
        simp only [attempt, overrideWith, overrideEndpoint, hparse]
      have hfits : Override.Fits parse ⟨some text, table⟩ ↔
          ∀ text ∈ table, Sql.IsIdentifier (Text.trim text).toList := by
        simp [Override.Fits, hparse]
      rw [hafter, hfits]
      exact overrideTable_takes { s with endpoint := e } table

theorem attempt_table (s : Settings) (o : Override) :
    let a := s.attempt parse o
    a.after.settings.table = a.named?.getD s.table ∧
      (Sql.IsIdentifier s.table.toList → Sql.IsIdentifier a.after.settings.table.toList) := by
  intro a
  obtain ⟨hfits, hresult, htable⟩ | ⟨-, ⟨e, hresult⟩, htable⟩ := attempt_takes parse s o
  · have hnamed : a.named? = o.table.map Text.trim := by
      rw [Attempt.named?, hresult]
      rfl
    rw [hnamed]
    refine ⟨htable, fun hs => ?_⟩
    rw [htable]
    cases htext : o.table with
    | none => exact hs
    | some text => exact hfits.2 text htext
  · have hnamed : a.named? = none := by rw [Attempt.named?, hresult]
    rw [hnamed]
    refine ⟨htable, fun hs => ?_⟩
    rw [htable]
    exact hs

variable {parse}

theorem overrideAll_identifier (hs : Sql.IsIdentifier s.table.toList) (os : List Override) :
    Sql.IsIdentifier (s.overrideAll parse os).table.toList := by
  induction os generalizing s with
  | nil => exact hs
  | cons o os ih => exact ih ((attempt_table parse s o).2 hs)

theorem overrideAll_table (s : Settings) (os : List Override) :
    (s.overrideAll parse os).table =
      ((s.attempts parse os).filterMap Attempt.named?).getLast?.getD s.table := by
  induction os generalizing s with
  | nil => rfl
  | cons o os ih =>
    have hrest : (s.overrideAll parse (o :: os)).table = _ := ih (s.attempt parse o).after.settings
    rw [hrest, attempts, (attempt_table parse s o).1]
    cases hnamed : (s.attempt parse o).named? with
    | none => simp [List.filterMap_cons_none hnamed]
    | some name => simp [List.filterMap_cons_some hnamed, List.getLast?_cons]

/-- Overrides after one another are each made on settings with an identifier for a table. -/
theorem attempts_spec (hs : Sql.IsIdentifier s.table.toList) {os : List Override} {a : Attempt}
    (ha : a ∈ s.attempts parse os) :
    a = a.before.attempt parse a.override ∧ Sql.IsIdentifier a.before.table.toList := by
  induction os generalizing s with
  | nil => cases ha
  | cons o os ih =>
    obtain rfl | ha := List.mem_cons.mp ha
    · exact ⟨rfl, hs⟩
    · exact ih ((attempt_table parse s o).2 hs) ha

theorem eq_of_toExcept {o : Overridden} (h : o.toExcept = .ok s) : o = ⟨s, .ok ()⟩ := by
  obtain ⟨settings, result⟩ := o
  cases result with
  | error e => cases h
  | ok _ =>
    cases h
    rfl

/-- The settings of a file are the defaults with one override that went well. -/
theorem exists_attempt_of_ofFileWith {file : FileBytes} (h : ofFileWith parse file = .ok s) :
    ∃ o, (default.attempt parse o).after = ⟨s, .ok ()⟩ := by
  rw [ofFileWith] at h
  split at h
  next => cases h
  next text _ =>
    split at h
    next => cases h
    next endpoint table _ =>
      exact ⟨⟨endpoint, table⟩, eq_of_toExcept h⟩

theorem Initial.identifier (h : Initial parse s) : Sql.IsIdentifier s.table.toList := by
  have hdefault : Sql.IsIdentifier default.table.toList := Sql.isTableName_iff.mp (by decide)
  obtain rfl | ⟨file, hfile⟩ := h
  · exact hdefault
  · obtain ⟨o, hafter⟩ := exists_attempt_of_ofFileWith hfile
    have htable := (attempt_table parse default o).2 hdefault
    rwa [hafter] at htable

end Settings

def OnTable (table : String) (qs : List Sql.Query) : Prop :=
  ∀ st, .statement st ∈ qs → st.table = table

namespace OnTable

variable {table : String} {qs rs : List Sql.Query}

theorem nil : OnTable table [] := fun _ => List.not_mem_nil.elim

theorem cons {s : Sql.Statement} (hs : s.table = table) (h : OnTable table qs) :
    OnTable table (.statement s :: qs) := by
  intro st hst
  obtain ⟨⟨⟩⟩ | hst := List.mem_cons.mp hst
  · exact hs
  · exact h st hst

theorem raw (text : String) : OnTable table [.raw text] := by
  intro st hst
  cases List.mem_singleton.mp hst

theorem append (hqs : OnTable table qs) (hrs : OnTable table rs) : OnTable table (qs ++ rs) :=
  fun st hst => (List.mem_append.mp hst).elim (hqs st) (hrs st)

theorem script (a : Session.Action) (form : Form) (id : Int64) :
    OnTable table (a.script table form id) := by
  cases a with
  | start | submit | create _ _ | delete _ => exact .cons rfl (.cons rfl .nil)
  | refresh => exact .cons rfl .nil
  | runSql text => exact .raw text
  | setForm form => exact .nil

/-- Whoever answers it, an action sends statements on its table only. -/
theorem step {a : Session.Action} {form : Form} {events : List Session.Event}
    {end_ : Except Failure Session.Result × Form} (h : (a.step table form).Yields events end_) :
    OnTable table (Session.queries events) := by
  obtain ⟨id, hfront, -⟩ := Session.Action.step_sends h
  intro st hst
  exact script a form id st (hfront.subset hst)

theorem history {σ : Type} (S : Surface σ) (s : Session σ) (as : List Session.Action) :
    OnTable s.table (Session.queries (Session.historyEvents (s.history S as))) := by
  intro st hst
  obtain ⟨e, he, hsent⟩ := List.mem_filterMap.mp hst
  obtain ⟨p, hp, hep⟩ := List.mem_flatMap.mp he
  exact step (Session.history_yields hp) st (List.mem_filterMap.mpr ⟨e, hep, hsent⟩)

theorem cumulative (table : String) :
    Console.Cumulative table fun events => OnTable table (Console.queries events) where
  nil := .nil
  append es fs hes hfs := by
    rw [Console.queries_append]
    exact hes.append hfs
  prompt _ _ := .nil
  say _ _ := .nil
  showReply _ _ := .nil
  perform a _ _ _ h := by
    rw [Console.queries_ofSession]
    exact step h

end OnTable

def separators : List Char := ['\'', '"', ' ', ',', '(', ')', ';']

theorem not_mem_of_separator {table : String} (h : Sql.IsIdentifier table.toList) {c : Char}
    (hc : c ∈ separators) : c ∉ table.toList := by
  have hseparators : separators.all (!Sql.isNameChar ·) = true := by decide
  have hother : Sql.isNameChar c = false := by simpa using List.all_eq_true.mp hseparators c hc
  exact Sql.not_mem_of_isTableName (Sql.isTableName_iff.mpr h) hother

namespace Settings

/-- The settings that a command line asks for are made of initial ones by an override. -/
theorem initial_of_settings {named : Option FileBytes} {home : FileBytes} {line : CommandLine}
    {s : Settings} (h : Program.settings named home line = .ok s) :
    ∃ start, Initial Endpoint.parse start ∧
      s = start.overrideAll Endpoint.parse [⟨line.endpoint, line.table⟩] := by
  rw [Program.settings] at h
  cases hload : load named home with
  | error e =>
    rw [hload] at h
    cases h
  | ok start =>
    rw [hload] at h
    have hafter := congrArg Overridden.settings (eq_of_toExcept h)
    refine ⟨start, ?_, hafter.symm⟩
    cases named with
    | some file => exact .inr ⟨file, hload⟩
    | none =>
      rw [load] at hload
      split at hload
      next => exact .inr ⟨home, hload⟩
      next =>
        cases hload
        exact .inl rfl

end Settings

namespace Program

theorem perform_onTable (h : Host) (table : String) (command : Command) :
    OnTable table (perform h table command).queries := by
  obtain ⟨events, hevents, hqueries⟩ := perform_queries (OnTable.cumulative table) h command
  rw [hqueries]
  exact hevents

theorem run_identifier (h : Host) (line : CommandLine) (st : Sql.Statement)
    (hst : .statement st ∈ (run h line).queries) : Sql.IsIdentifier st.table.toList := by
  rw [run] at hst
  split at hst
  next => cases hst
  next s hs =>
    obtain ⟨start, hstart, rfl⟩ := Settings.initial_of_settings hs
    rw [perform_onTable h _ line.command st hst]
    exact Settings.overrideAll_identifier hstart.identifier _

end Program

/-- However initial settings are overridden, by calls that go well and calls that fail, the table in
them is an identifier: the one that was named last in a call that went well. A call goes well just
if its table is an identifier with blanks around it and its endpoint can be read, and a call that
fails leaves the table. So all statements of a session with these settings, on any surface, and of a
command of the program have this name behind their first words, and it holds none of the characters
that would end it there. -/
theorem overrideAll_names (parse : String → Except Endpoint.Fault Endpoint) {start : Settings}
    (hstart : start.Initial parse) (os : List Settings.Override) :
    let attempts := start.attempts parse os
    let table := (start.overrideAll parse os).table
    Sql.IsIdentifier table.toList ∧ (∀ c ∈ separators, c ∉ table.toList) ∧
    table = (attempts.filterMap Settings.Attempt.named?).getLast?.getD start.table ∧
    (∀ a ∈ attempts, Sql.IsIdentifier a.after.settings.table.toList ∧
      (a.after.result = .ok () ↔ a.override.Fits parse) ∧
      (a.after.result ≠ .ok () → a.after.settings.table = a.before.table)) ∧
    (∀ {σ : Type} (S : Surface σ) (s : Session σ) (as : List Session.Action), s.table = table →
      OnTable table (Session.queries (Session.historyEvents (s.history S as)))) ∧
    (∀ (h : Program.Host) (command : Command),
      OnTable table (Program.perform h table command).queries) ∧
    (∀ (h : Program.Host) (line : CommandLine) (st : Sql.Statement),
      .statement st ∈ (Program.run h line).queries → Sql.IsIdentifier st.table.toList) ∧
    ∀ st : Sql.Statement, st.text = st.lead ++ st.table ++ st.trail := by
  intro attempts table
  have hidentifier := hstart.identifier
  have htable : Sql.IsIdentifier table.toList := Settings.overrideAll_identifier hidentifier os
  refine ⟨htable, fun c => not_mem_of_separator htable, Settings.overrideAll_table start os, ?_, ?_,
    fun h => Program.perform_onTable h table, Program.run_identifier, Sql.Statement.text_eq⟩
  · intro a ha
    obtain ⟨hmade, hbefore⟩ := Settings.attempts_spec hidentifier ha
    have htakes := Settings.attempt_takes parse a.before a.override
    have hafter := (Settings.attempt_table parse a.before a.override).2 hbefore
    rw [← hmade] at htakes hafter
    refine ⟨hafter, ?_⟩
    obtain ⟨hfits, hresult, -⟩ | ⟨hfits, ⟨e, hresult⟩, hkept⟩ := htakes
    · exact ⟨iff_of_true hresult hfits, fun hne => absurd hresult hne⟩
    · exact ⟨iff_of_false (by simp [hresult]) hfits, fun _ => hkept⟩
  · intro σ S s as hs
    exact hs ▸ OnTable.history S s as

/-- A file names the table `a`, then a call names another one. Neither a call whose endpoint cannot
be read nor one whose table only looks like a name changes it. -/
theorem overrideAll_names_refused :
    let file : FileBytes := .ok (Text.Utf8.encode "\x7b\"table\":\"a\"\x7d".toList)
    let start : Settings := ⟨Settings.defaultEndpoint, "a"⟩
    let os : List Settings.Override :=
      [⟨none, some "\u00A0notes2 "⟩, ⟨some "x", some "other"⟩, ⟨some "a:b", some "nötes"⟩]
    Settings.ofFileWith Endpoint.parse file = .ok start ∧
      (start.overrideAll Endpoint.parse os).table = "notes2" ∧
      (start.attempts Endpoint.parse os).map (·.after.result.toBool) = [true, false, false] := by
  intro file start os
  have hread : (Settings.ofFileWith Endpoint.parse file).toOption = some start := by
    decide +kernel
  have hfile : Settings.ofFileWith Endpoint.parse file = .ok start := by
    cases hresult : Settings.ofFileWith Endpoint.parse file with
    | error e =>
      rw [hresult] at hread
      cases hread
    | ok s =>
      rw [hresult] at hread
      exact congrArg Except.ok (Option.some.inj hread)
  obtain ⟨-, -, htable, -⟩ := overrideAll_names Endpoint.parse (.inr ⟨file, hfile⟩) os
  exact ⟨hfile, htable.trans (by decide +kernel), by decide +kernel⟩

end RemoteNotebook
