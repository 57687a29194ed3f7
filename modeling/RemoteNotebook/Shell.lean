import RemoteNotebook.Shell.Turn

/-!
The shell: turns until one leaves or fails. Each turn uses up a line of the input unless it leaves,
so the shell ends on every input.
-/

namespace RemoteNotebook.Shell

def unread (w : World Terminal) : Nat := w.surface.input.length

theorem unread_readLine (t : Terminal) : t.readLine.2.input.length ≤ t.input.length := by
  have h := congrArg List.length (Text.splitLine_append t.input)
  simp only [List.length_append] at h
  simp only [Terminal.readLine]
  omega

theorem unread_answer (q : Console.Request) (w : World Terminal) :
    unread (Console.answer q w).2 ≤ unread w := by
  cases q with
  | session q =>
    cases q with
    | send _ => exact Nat.le_refl _
    | newId => exact Nat.le_refl _
    | call c =>
      cases c with
      | setStatus _ => exact Nat.le_refl _
      | showNotes _ => exact Nat.le_refl _
      | alert _ => exact Nat.le_refl _
      | confirm p =>
        simp only [Console.answer, World.answer, Terminal.surface, Terminal.confirm, unread]
        split
        · exact Nat.le_refl _
        · exact unread_readLine (w.surface.write (Terminal.questionLabel p))
  | prompt label => exact unread_readLine (w.surface.write label)
  | say _ => exact Nat.le_refl _
  | showReply r =>
    simp only [Console.answer, Terminal.showReply, unread]
    split <;> exact Nat.le_refl _

theorem unread_run {α : Type} (d : Dialogue Console.Request Console.Request.Answer α)
    (w : World Terminal) : unread (d.run Console.answer w).state ≤ unread w := by
  induction d generalizing w with
  | done _ => exact Nat.le_refl _
  | ask q next ih => exact Nat.le_trans (ih _ _) (unread_answer q w)

def afterLine (table : String) (line : Except Failure (Option String)) (form : Form) :
    Dialogue Console.Request Console.Request.Answer (Except Failure Flow × Form) :=
  match line with
  | .error e => .done (.error e, form)
  | .ok none => .done (.ok .leave, form)
  | .ok (some line) => obeyLine table line form

theorem turn_eq (table : String) (form : Form) :
    turn table form = .ask (.prompt promptLabel) fun line => afterLine table line form := by
  rw [turn, Console.prompt_bind]
  congr 1
  funext line
  match line with
  | .error _ => rfl
  | .ok none => rfl
  | .ok (some _) => rfl

/-- A turn after which the shell goes on has read a line. -/
theorem unread_turn {table : String} {form : Form} {w : World Terminal}
    (h : ((turn table).runFrom form w).value.1 = .ok .again) :
    unread ((turn table).runFrom form w).state < unread w := by
  simp only [Console.Step.runFrom, turn_eq, Dialogue.run_ask] at h ⊢
  refine Nat.lt_of_le_of_lt (unread_run _ _) ?_
  cases hw : w.surface.input with
  | nil =>
    simp [Console.answer, Terminal.prompt, Terminal.readLine, Terminal.write, hw, Text.splitLine,
      Terminal.lineText, afterLine] at h
  | cons b bs =>
    have := Text.splitLine_rest_lt (List.cons_ne_nil b bs)
    simpa [unread, Console.answer, Terminal.prompt, Terminal.readLine, Terminal.write, hw]
      using this

/-- Takes turns until one leaves or fails. -/
def loop (table : String) (form : Form) (w : World Terminal) : Console.Run Unit :=
  let run := (turn table).runFrom form w
  match _h : run.value.1 with
  | .error e => ⟨(.error e, run.value.2), run.state, run.events⟩
  | .ok .leave => ⟨(.ok (), run.value.2), run.state, run.events⟩
  | .ok .again =>
    let rest := loop table run.value.2 run.state
    { rest with events := run.events ++ rest.events }
termination_by unread w
decreasing_by exact unread_turn _h

def run (table : String) (form : Form) (w : World Terminal) : Console.Run Unit :=
  let first := (opening table).runFrom form w
  match first.value.1 with
  | .error _ => first
  | .ok () =>
    let rest := loop table first.value.2 first.state
    { rest with events := first.events ++ rest.events }

end RemoteNotebook.Shell
