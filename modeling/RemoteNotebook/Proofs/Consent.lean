import RemoteNotebook.Program
import RemoteNotebook.Proofs.AsciiWords
import RemoteNotebook.Proofs.LineParts
import RemoteNotebook.Proofs.ShellRuns

/-! Consent to a deletion. Only a first line of input that is a yes lets a note be deleted, unless
that was agreed to on the command line; and no more of the input is read than that line. -/
namespace RemoteNotebook

namespace Text

structure FirstLine (input line rest : List UInt8) : Prop where
  input_eq : input = line ++ rest
  ended : (∃ text, line = text ++ [10] ∧ 10 ∉ text) ∨ (10 ∉ line ∧ rest = [])

variable {input line rest : List UInt8}

theorem FirstLine.splitLine_eq (h : FirstLine input line rest) :
    splitLine input = (line, rest) := by
  obtain ⟨rfl, ⟨text, rfl, htext⟩ | ⟨hline, rfl⟩⟩ := h
  · rw [List.append_assoc]
    exact splitLine_feed htext rest
  · rw [List.append_nil]
    exact splitLine_of_not_mem hline

theorem firstLine_splitLine (bs : List UInt8) :
    FirstLine bs (splitLine bs).1 (splitLine bs).2 := by
  refine ⟨(splitLine_append bs).symm, ?_⟩
  induction bs with
  | nil => exact .inr ⟨List.not_mem_nil, rfl⟩
  | cons b bs ih =>
    rw [splitLine]
    split
    next hb => exact .inl ⟨[], by simp [hb], List.not_mem_nil⟩
    next hb =>
      have hmem {cs : List UInt8} (hcs : 10 ∉ cs) : 10 ∉ b :: cs :=
        List.not_mem_cons_of_ne_of_not_mem (Ne.symm hb) hcs
      obtain ⟨text, hline, htext⟩ | ⟨hline, hrest⟩ := ih
      · exact .inl ⟨b :: text, by rw [hline, List.cons_append], hmem htext⟩
      · exact .inr ⟨hmem hline, hrest⟩

theorem firstLine_iff : FirstLine input line rest ↔ splitLine input = (line, rest) := by
  refine ⟨FirstLine.splitLine_eq, fun h => ?_⟩
  have hfirst := firstLine_splitLine input
  rw [h] at hfirst
  exact hfirst

/-- What is at the end of a line does not matter to a text that is trimmed. -/
theorem trimBlanks_chomp (cs : List Char) : trimBlanks (chomp cs) = trimBlanks cs := by
  obtain ⟨ending, hcs, hending, -⟩ := chomps_chomp cs
  have hends : Blanks ending := by
    intro c hc
    rcases hending c hc with rfl | rfl <;> decide
  obtain ⟨before, after, hchomp, hbefore, hafter, hcore⟩ := trimsTo_trimBlanks (chomp cs)
  refine (TrimsTo.trimBlanks_eq ⟨before, after ++ ending, ?_, hbefore,
    hafter.append hends, hcore⟩).symm
  rw [← List.append_assoc, ← hchomp]
  exact hcs

end Text

namespace Terminal

open Text (FirstLine SpellsOneOf TrimsTo chomp)
open Text.Utf8 (encode encode_injective)

/-- A line that is a yes: a text that is `y` or `yes` in letters of either case, between blanks. -/
def Consents (line : List UInt8) : Prop :=
  ∃ cs core, line = encode cs ∧ TrimsTo cs core ∧ SpellsOneOf ["y", "yes"] core

theorem isYes_chomp_iff {cs : List Char} : isYes (String.ofList (chomp cs)) = true ↔
    ∃ core, TrimsTo cs core ∧ SpellsOneOf ["y", "yes"] core := by
  have hplain : Text.IsPlainWord "y" ∧ Text.IsPlainWord "yes" := by decide
  have hcore : isYes (String.ofList (chomp cs)) = true ↔
      SpellsOneOf ["y", "yes"] (Text.trimBlanks cs) := by
    simp only [isYes, Bool.or_eq_true, decide_eq_true_eq, Text.lowercase_eq_iff hplain.1,
      Text.lowercase_eq_iff hplain.2, Text.trim, String.toList_ofList, Text.trimBlanks_chomp,
      SpellsOneOf, List.mem_cons, List.not_mem_nil, or_false, exists_eq_or_imp, exists_eq_left]
  rw [hcore]
  constructor
  · exact fun h => ⟨_, Text.trimsTo_trimBlanks cs, h⟩
  · rintro ⟨core, htrims, h⟩
    exact htrims.trimBlanks_eq ▸ h

theorem consents_encode_iff {cs : List Char} :
    Consents (encode cs) ↔ isYes (String.ofList (chomp cs)) = true := by
  rw [isYes_chomp_iff]
  constructor
  · rintro ⟨ds, core, hds, h⟩
    exact ⟨core, encode_injective hds ▸ h⟩
  · rintro ⟨core, h⟩
    exact ⟨cs, core, rfl, h⟩

theorem Consents.exists_text {line : List UInt8} (h : Consents line) : ∃ cs, line = encode cs := by
  obtain ⟨cs, -, hcs, -⟩ := h
  exact ⟨cs, hcs⟩

theorem consents_or (line : List UInt8) :
    Consents line ∨ ((∃ cs, line = encode cs) ∧ ¬Consents line) ∨ ∀ cs, line ≠ encode cs := by
  by_cases htext : ∃ cs, line = encode cs
  · by_cases hconsents : Consents line
    · exact .inl hconsents
    · exact .inr (.inl ⟨htext, hconsents⟩)
  · exact .inr (.inr (not_exists.mp htext))

/-- The only characters outside of ASCII in a yes are blanks. -/
theorem Consents.ascii {cs : List Char} (h : Consents (encode cs)) :
    ∀ c ∈ cs, Text.isBlank c = true ∨ c.toNat < 0x80 := by
  obtain ⟨ds, core, hds, ⟨before, after, hcs, hbefore, hafter, -⟩, word, hword, hspells⟩ := h
  have hplain : ∀ word ∈ ["y", "yes"], Text.IsPlainWord word := by decide
  intro c hc
  rw [encode_injective hds, hcs, List.mem_append, List.mem_append] at hc
  obtain (hc | hc) | hc := hc
  · exact .inl (hbefore c hc)
  · exact .inr (hspells.ascii (hplain word hword) c hc)
  · exact .inl (hafter c hc)

variable {line rest : List UInt8} {t : Terminal}

def answerOf (line : List UInt8) : Except Failure Bool := (lineText line).map (·.any isYes)

/-- A terminal that asks its questions is answered by the first line of its input. -/
theorem confirm_of_firstLine (h : FirstLine t.input line rest) (hasks : t.assumeYes = false)
    (question : String) : t.confirm question =
      (answerOf line, { t with input := rest, out := t.out ++ questionLabel question }) := by
  simp only [confirm, hasks, prompt, readLine, write, h.splitLine_eq, answerOf]
  rfl

theorem answerOf_encode (cs : List Char) :
    answerOf (encode cs) = .ok (isYes (String.ofList (chomp cs))) := by
  cases cs with
  | nil => rfl
  | cons c cs =>
    rw [answerOf, lineText_encode (List.cons_ne_nil c cs), Except.map, Option.any]

theorem answerOf_of_consents (h : Consents line) : answerOf line = .ok true := by
  obtain ⟨cs, core, rfl, hyes⟩ := h
  rw [answerOf_encode, isYes_chomp_iff.mpr ⟨core, hyes⟩]

theorem answerOf_of_not_consents (htext : ∃ cs, line = encode cs) (h : ¬Consents line) :
    answerOf line = .ok false := by
  obtain ⟨cs, rfl⟩ := htext
  rw [answerOf_encode, Bool.eq_false_iff.mpr (h ∘ consents_encode_iff.mpr)]

theorem answerOf_of_not_text (h : ∀ cs, line ≠ encode cs) :
    answerOf line = .error (.file .notText) := by
  have hdecode : Text.Utf8.decode line = none := by
    by_contra hsome
    obtain ⟨cs, hcs⟩ := Option.ne_none_iff_exists'.mp hsome
    exact h cs (Text.Utf8.decode_eq_some_iff.mp hcs)
  have hne : line.isEmpty = false := by
    rw [List.isEmpty_eq_false_iff]
    exact h []
  rw [answerOf, lineText, hne, hdecode]
  rfl

def deletionText (deleted listed : Outcome) : String :=
  statusLine deleted.connectivity ++ "\n" ++ (statusLine listed.connectivity ++ "\n") ++
    textOf (listingLines (.ofReply listed.reply))

end Terminal

namespace Session

section

variable {σ : Type} {S : Surface σ} {w : World σ} {s : σ}

theorem run_delete_agreed (h : S (.confirm deletePrompt) w.surface = (.ok true, s))
    (table : String) (id : Int64) (form : Form) :
    (delete table id).runFrom form (World.answer S) w =
      precede ⟨.call (.confirm deletePrompt), .ok true⟩
        ((deletion table id).runFrom form (World.answer S) { w with surface := s }) := by
  rw [Step.runFrom, delete, call_bind, run_call (congrArg Prod.fst h), h]
  rfl

theorem run_delete_declined (h : S (.confirm deletePrompt) w.surface = (.ok false, s))
    (table : String) (id : Int64) (form : Form) :
    (delete table id).runFrom form (World.answer S) w =
      ⟨(.ok false, form), { w with surface := s },
        [⟨.call (.confirm deletePrompt), .ok false⟩]⟩ := by
  rw [Step.runFrom, delete, call_bind, run_call (congrArg Prod.fst h), h]
  rfl

theorem run_delete_unanswered {e : Failure}
    (h : S (.confirm deletePrompt) w.surface = (.error e, s)) (table : String) (id : Int64)
    (form : Form) :
    (delete table id).runFrom form (World.answer S) w =
      ⟨(.error e, form), { w with surface := s },
        [⟨.call (.confirm deletePrompt), .error e⟩]⟩ := by
  rw [Step.runFrom, delete, call_bind, run_call (congrArg Prod.fst h), h]
  rfl

end

/-- A terminal fails no call of a deletion that was agreed to, whatever its input is. -/
theorem run_deletion (table : String) (id : Int64) (form : Form) (w : World Terminal) :
    let run := (deletion table id).runFrom form (World.answer Terminal.surface) w
    let deleted := w.outcomes w.sent
    let listed := w.outcomes (w.sent + 1)
    run.value = (.ok true, form) ∧
      run.state.surface =
        { w.surface with out := w.surface.out ++ Terminal.deletionText deleted listed } ∧
      run.events =
        tripEvents (.statement (.delete table id)) deleted (.ok ()) ++
          refreshEvents table listed := by
  intro run deleted listed
  refine ⟨rfl, ?_, rfl⟩
  rw [Terminal.deletionText, ← String.append_assoc, ← String.append_assoc]
  rfl

end Session

namespace Program

variable {h : Host} {yes : Bool} {t : Terminal}

/-- How the question that a deletion begins with is answered. -/
def Asked (h : Host) (yes : Bool) (answer : Except Failure Bool) (t : Terminal) : Prop :=
  Terminal.surface (.confirm Session.deletePrompt) (h.terminal yes).surface = (answer, t)

theorem Asked.agreed (hasked : Asked h yes (.ok true) t) (table : String) (id : Int64) :
    let run := (deleteStep table id).runFrom {} (h.terminal yes)
    let text := Terminal.deletionText (h.outcomes 0) (h.outcomes 1)
    perform h table (.delete id yes) =
        { result := .ok .success, out := t.out ++ text, err := t.err,
          queries := [.statement (.delete table id), .statement (.select table)],
          storage := h.storage } ∧
      run.state.surface.input = t.input := by
  have hdelete := Session.run_delete_agreed hasked table id {}
  obtain ⟨hvalue, hsurface, hevents⟩ := Session.run_deletion table id {}
    { h.terminal yes with surface := t }
  intro run text
  have hrun : run = _ := Console.run_lift_bind (a := true) (by
    rw [hdelete]
    exact congrArg Prod.fst hvalue)
  have hreport : perform h table (.delete id yes) = h.report run := rfl
  rw [hdelete] at hrun
  have hafter : run.state.surface = { t with out := t.out ++ text } := hrun ▸ hsurface
  rw [hreport, Host.report, hafter, hrun]
  exact ⟨rfl, rfl⟩

theorem Asked.declined (hasked : Asked h yes (.ok false) t) (table : String) (id : Int64) :
    let run := (deleteStep table id).runFrom {} (h.terminal yes)
    perform h table (.delete id yes) =
        { result := .ok .success, out := t.out ++ "Nothing deleted.\n", err := t.err,
          storage := h.storage } ∧
      run.state.surface.input = t.input := by
  have hdelete := Session.run_delete_declined hasked table id {}
  intro run
  have hrun : run = _ := Console.run_lift_bind (a := false) (by rw [hdelete])
  have hreport : perform h table (.delete id yes) = h.report run := rfl
  rw [hreport, hrun, hdelete]
  exact ⟨rfl, rfl⟩

theorem Asked.unanswered {e : Failure} (hasked : Asked h yes (.error e) t) (table : String)
    (id : Int64) :
    let run := (deleteStep table id).runFrom {} (h.terminal yes)
    perform h table (.delete id yes) =
        { result := .error e, out := t.out, err := t.err, storage := h.storage } ∧
      run.state.surface.input = t.input := by
  have hdelete := Session.run_delete_unanswered hasked table id {}
  intro run
  have hrun : run = _ := Console.run_lift_bind_error (e := e) (by rw [hdelete])
  have hreport : perform h table (.delete id yes) = h.report run := rfl
  rw [hreport, hrun, hdelete]
  exact ⟨rfl, rfl⟩

open Text (FirstLine)
open Text.Utf8 (encode)
open Terminal (Consents)

variable {line rest : List UInt8}

/-- Where questions are asked, the first line of the input is the answer, and it is used up. -/
theorem asked_of_firstLine (hline : FirstLine h.input line rest) :
    Asked h false (Terminal.answerOf line)
      { input := rest,
        out := "Are you sure you want to delete this from the database? [y/N] " } := by
  have hconfirm := Terminal.confirm_of_firstLine (t := (h.terminal false).surface) hline rfl
    Session.deletePrompt
  rw [Host.terminal, String.empty_append] at hconfirm
  exact hconfirm

/-- A note is deleted, and the notes are asked for after it, if that was agreed to on the command
line or if the first line of the input is a yes; whatever comes in, nothing is sent otherwise. What
was agreed to on the command line reads nothing of the input and does not depend on it, and else
the first line is read and no more. A line that is another text, or none at all at the end of the
input, only gets told that nothing was deleted; and a line that is no text is a failure. -/
theorem perform_delete (hline : FirstLine h.input line rest) (table : String) (id : Int64)
    (yes : Bool) :
    let report := perform h table (.delete id yes)
    let run := (deleteStep table id).runFrom {} (h.terminal yes)
    let label := "Are you sure you want to delete this from the database? [y/N] "
    let delete := "DELETE FROM " ++ table ++ " WHERE id = " ++ Decimal.int id.toInt ++ ";"
    let select := "SELECT * FROM " ++ table ++ ";"
    let sent := report.queries.map Sql.Query.text
    let agreed := yes = true ∨ Consents line
    report = h.report run ∧
    (delete ∈ sent ↔ agreed) ∧
    (agreed → sent = [delete, select] ∧ report.result = .ok .success) ∧
    (yes = true → run.state.surface.input = h.input ∧
      ∀ input, perform { h with input } table (.delete id true) = report) ∧
    (yes = false → run.state.surface.input = rest ∧
      ((∃ cs, line = encode cs) → ¬Consents line → report =
        { result := .ok .success, out := label ++ "Nothing deleted.\n",
          storage := h.storage }) ∧
      ((∀ cs, line ≠ encode cs) → report =
        { result := .error (.file .notText), out := label, storage := h.storage })) ∧
    ∀ cs, line = encode cs → Consents line → ∀ c ∈ cs, Text.isBlank c = true ∨ c.toNat < 0x80 := by
  intro report run label delete select sent agreed
  have hascii : ∀ cs, line = encode cs → Consents line →
      ∀ c ∈ cs, Text.isBlank c = true ∨ c.toNat < 0x80 := by
    rintro cs rfl hconsents
    exact hconsents.ascii
  have hsends {answer : Report} (hreport : report = answer) :
      sent = answer.queries.map Sql.Query.text := congrArg (·.queries.map Sql.Query.text) hreport
  refine ⟨rfl, ?_⟩
  cases yes with
  | true =>
    have hasked (input : List UInt8) :
        Asked { h with input } true (.ok true) { input, assumeYes := true } := rfl
    obtain ⟨hreport, hinput⟩ := (hasked h.input).agreed table id
    have hsent : sent = [delete, select] := hsends hreport
    refine ⟨iff_of_true (hsent ▸ List.mem_cons_self ..) (.inl rfl), fun _ => ⟨hsent, ?_⟩,
      fun _ => ⟨hinput, fun input => ?_⟩, nofun, hascii⟩
    · exact congrArg (·.result) hreport
    · exact ((hasked input).agreed table id).1.trans hreport.symm
  | false =>
    have hasked := asked_of_firstLine hline
    have hagreed : agreed → Consents line := fun h => h.resolve_left nofun
    obtain hconsents | ⟨⟨cs, hcs⟩, hconsents⟩ | hnot := Terminal.consents_or line
    · obtain ⟨cs, hcs⟩ := hconsents.exists_text
      rw [Terminal.answerOf_of_consents hconsents] at hasked
      obtain ⟨hreport, hinput⟩ := hasked.agreed table id
      have hsent : sent = [delete, select] := hsends hreport
      exact ⟨iff_of_true (hsent ▸ List.mem_cons_self ..) (.inr hconsents),
        fun _ => ⟨hsent, congrArg (·.result) hreport⟩, nofun,
        fun _ => ⟨hinput, fun _ hno => absurd hconsents hno, fun hall => absurd hcs (hall cs)⟩,
        hascii⟩
    · rw [Terminal.answerOf_of_not_consents ⟨cs, hcs⟩ hconsents] at hasked
      obtain ⟨hreport, hinput⟩ := hasked.declined table id
      have hsent : sent = [] := hsends hreport
      exact ⟨iff_of_false (hsent ▸ List.not_mem_nil) (hconsents ∘ hagreed),
        fun h => absurd (hagreed h) hconsents, nofun,
        fun _ => ⟨hinput, fun _ _ => hreport, fun hall => absurd hcs (hall cs)⟩, hascii⟩
    · have hconsents : ¬Consents line := fun h => h.exists_text.elim hnot
      rw [Terminal.answerOf_of_not_text hnot] at hasked
      obtain ⟨hreport, hinput⟩ := hasked.unanswered table id
      have hsent : sent = [] := hsends hreport
      exact ⟨iff_of_false (hsent ▸ List.not_mem_nil) (hconsents ∘ hagreed),
        fun h => absurd (hagreed h) hconsents, nofun,
        fun _ => ⟨hinput, fun h => (h.elim hnot).elim, fun _ => hreport⟩, hascii⟩

/-- The line is a yes in mixed case after a wide space, and what comes after it is no text; a wide
letter is no yes, and all that is written then is the question and that nothing was deleted. -/
theorem perform_delete_wide :
    let host (input : List UInt8) : Host :=
      { input, ids := fun _ => 0, outcomes := fun _ => .offline }
    let line := encode "\u3000yEs\r\n".toList
    let report := perform (host (line ++ [0xFF])) "notes" (.delete (-7) false)
    FirstLine (line ++ [0xFF]) line [0xFF] ∧ Consents line ∧
      report.queries.map Sql.Query.text =
        ["DELETE FROM notes WHERE id = -7;", "SELECT * FROM notes;"] ∧
      perform (host (encode "ｙ".toList)) "notes" (.delete (-7) false) =
        { result := .ok .success, queries := [], err := "", storage := {},
          out := "Are you sure you want to delete this from the database? [y/N] " ++
            "Nothing deleted.\n" } := by
  intro host line report
  have hline : FirstLine (line ++ [0xFF]) line [0xFF] := Text.firstLine_iff.mpr (by decide +kernel)
  have hconsents : Consents line :=
    Terminal.consents_encode_iff.mpr (by decide +kernel)
  obtain ⟨-, -, hsent, -⟩ := perform_delete (h := host (line ++ [0xFF])) hline "notes" (-7) false
  have hwide : FirstLine (encode "ｙ".toList) (encode "ｙ".toList) [] :=
    Text.firstLine_iff.mpr (by decide +kernel)
  have hno : ¬Consents (encode "ｙ".toList) := by
    rw [Terminal.consents_encode_iff]
    decide +kernel
  obtain ⟨-, -, -, -, hunsent, -⟩ :=
    perform_delete (h := host (encode "ｙ".toList)) hwide "notes" (-7) false
  obtain ⟨-, hrefused, -⟩ := hunsent rfl
  exact ⟨hline, hconsents, (hsent (.inr hconsents)).1.trans (by decide +kernel),
    hrefused ⟨_, rfl⟩ hno⟩

end Program
end RemoteNotebook
