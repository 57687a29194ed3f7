import RemoteNotebook.Proofs.History
import RemoteNotebook.Proofs.InputLines
import RemoteNotebook.Proofs.Utf8

/-! Terminals whose input is a text. Every line of it can be read, so nothing fails on them: what
is run there ends with a value, and what is left of the input is a text again. -/
namespace RemoteNotebook

namespace Text

open Utf8 (decode)

/-- A line that is split off a text is a text, and so is the rest. -/
theorem splitLine_decodes {bs : List UInt8} (h : decode bs ≠ none) :
    decode (splitLine bs).1 ≠ none ∧ decode (splitLine bs).2 ≠ none := by
  have happend := splitLine_append bs
  obtain hfeed | hrest := splitLine_ends bs
  · obtain ⟨front, hline⟩ := List.getLast?_eq_some_iff.mp hfeed
    rw [hline, List.append_assoc] at happend
    rw [hline]
    exact Utf8.decode_cut h happend.symm
  · rw [hrest, List.append_nil] at happend
    rw [hrest, happend]
    exact ⟨h, by decide⟩

end Text

namespace Surface

variable {σ : Type} {S : Surface σ}

/-- A surface fails no call if it fails none in states that it does not leave. -/
theorem reliable_of_invariant {I : σ → Prop}
    (h : ∀ s, I s → ∀ c, (∃ answer, (S c s).1 = .ok answer) ∧ I (S c s).2) {s : σ} (hs : I s) :
    S.Reliable s := by
  intro cs
  induction cs generalizing s with
  | nil => exact fun c => (h s hs c).1
  | cons c cs ih => exact ih (h s hs c).2

theorem after_of_invariant {I : σ → Prop} (h : ∀ s, I s → ∀ c, I (S c s).2) {s : σ} (hs : I s)
    (cs : List Call) : I (S.after cs s) := by
  induction cs generalizing s with
  | nil => exact hs
  | cons c cs ih => exact ih (h s hs c)

end Surface

namespace Terminal

def Readable (t : Terminal) : Prop := Text.Utf8.decode t.input ≠ none

namespace Readable

variable {t : Terminal}

theorem readLine (h : t.Readable) :
    (∃ line, t.readLine.1 = .ok line) ∧ t.readLine.2.Readable := by
  obtain ⟨hline, hrest⟩ := Text.splitLine_decodes h
  refine ⟨?_, hrest⟩
  simp only [Terminal.readLine, lineText]
  split
  next => exact ⟨none, rfl⟩
  next =>
    obtain ⟨cs, hcs⟩ := Option.ne_none_iff_exists'.mp hline
    rw [hcs]
    exact ⟨_, rfl⟩

theorem prompt (h : t.Readable) (label : String) :
    (∃ line, (t.prompt label).1 = .ok line) ∧ (t.prompt label).2.Readable :=
  readLine (t := t.write label) h

theorem answers (h : t.Readable) (c : Call) :
    (∃ answer, (surface c t).1 = .ok answer) ∧ (surface c t).2.Readable := by
  cases c with
  | setStatus status => exact ⟨⟨(), rfl⟩, h⟩
  | showNotes listing => exact ⟨⟨(), rfl⟩, h⟩
  | alert message => exact ⟨⟨(), rfl⟩, h⟩
  | confirm question =>
    simp only [surface, confirm]
    split
    next => exact ⟨⟨true, rfl⟩, h⟩
    next =>
      obtain ⟨⟨line, hline⟩, hrest⟩ := h.prompt (questionLabel question)
      rw [hline]
      exact ⟨⟨_, rfl⟩, hrest⟩

theorem reliable (h : t.Readable) : surface.Reliable t :=
  Surface.reliable_of_invariant (fun _ => answers) h

theorem after (h : t.Readable) (cs : List Call) : (surface.after cs t).Readable :=
  Surface.after_of_invariant (I := Readable) (fun _ hs c => (answers hs c).2) h cs

theorem showReply (h : t.Readable) (r : Reply) : (t.showReply r).Readable := by
  rw [Terminal.showReply]
  split <;> exact h

end Readable

end Terminal

namespace Console

variable {α β : Type}

/-- On every terminal whose input is a text, the step ends with a value that has the property, and
what is left of the input is a text. -/
def EndsWith (Q : α → Prop) (step : Step α) : Prop :=
  ∀ (form : Form) (w : World Terminal), w.surface.Readable →
    let run := step.runFrom form w
    (∃ a, run.value.1 = .ok a ∧ Q a) ∧ run.state.surface.Readable

namespace EndsWith

variable {Q : α → Prop} {R : β → Prop}

theorem silent {step : Step α} {value : Form → α} {after : Form → Form}
    (hstep : ∀ form, step form = .done (.ok (value form), after form))
    (hvalue : ∀ form, Q (value form)) :
    EndsWith Q step := by
  intro form w hw
  rw [Step.runFrom, hstep]
  exact ⟨⟨_, rfl, hvalue form⟩, hw⟩

theorem pure {a : α} (h : Q a) : EndsWith Q (Pure.pure a : Step α) :=
  silent (fun _ => rfl) fun _ => h

theorem bind {step : Step α} {k : α → Step β} (h : EndsWith Q step)
    (hk : ∀ a, Q a → EndsWith R (k a)) : EndsWith R (step >>= k) := by
  intro form w hw
  obtain ⟨⟨a, hvalue, ha⟩, hleft⟩ := h form w hw
  have hrun : step.runFrom form w =
      let run := step.runFrom form w
      ⟨(.ok a, run.value.2), run.state, run.events⟩ := by rw [← hvalue]
  rw [run_bind_ok hrun]
  exact hk a ha _ _ hleft

theorem prompt (label : String) : EndsWith (fun _ => True) (Console.prompt label) := by
  intro form w hw
  obtain ⟨⟨line, hline⟩, hleft⟩ := hw.prompt label
  exact ⟨⟨line, hline, trivial⟩, hleft⟩

theorem say (line : String) : EndsWith (fun _ => True) (Console.say line) :=
  fun _ _ hw => ⟨⟨(), rfl, trivial⟩, hw⟩

theorem showReply (r : Reply) : EndsWith (fun _ => True) (Console.showReply r) :=
  fun _ _ hw => ⟨⟨(), rfl, trivial⟩, hw.showReply r⟩

theorem lift {step : Session.Step α} (h : Session.Stops step) :
    EndsWith (fun _ => True) (Console.lift step) := by
  intro form w hw
  obtain ⟨a, ha⟩ := (h form).run_ok hw.reliable
  have hleft : ((step form).run (World.answer Terminal.surface) w).state.surface.Readable := by
    rw [(Session.surface_chains Terminal.surface).run (step form) w]
    exact hw.after _
  rw [run_lift rfl]
  exact ⟨⟨a, ha, trivial⟩, hleft⟩

theorem compositional (table : String) :
    Compositional table fun α => EndsWith fun _ : α => True where
  silent _ _ hstep := silent hstep fun _ => trivial
  bind hstep hk := hstep.bind fun a _ => hk a
  prompt := prompt
  say := say
  showReply := showReply
  lift _ _ _ _ _ hstops := lift hstops

end EndsWith

end Console

namespace Shell

theorem run_ok (table : String) (form : Form) {w : World Terminal} (hw : w.surface.Readable) :
    (Shell.run table form w).value.1 = .ok () := by
  have hsteps := Console.EndsWith.compositional table
  have hloop (form : Form) {w : World Terminal} (hw : w.surface.Readable) :
      (loop table form w).value.1 = .ok () := by
    induction form, w using loop.induct table with
    | case1 form w run e he =>
      obtain ⟨⟨flow, hflow, -⟩, -⟩ := hsteps.turn form w hw
      cases hflow.symm.trans he
    | case2 form w run hleave => rw [loop_of_leave hleave]
    | case3 form w run hagain ih =>
      rw [loop_of_again hagain]
      exact ih (hsteps.turn form w hw).2
  obtain ⟨⟨⟨⟩, hopened, -⟩, hleft⟩ := hsteps.opening form w hw
  rw [run_of_ok hopened]
  exact hloop _ hleft

end Shell
end RemoteNotebook
