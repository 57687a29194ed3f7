import Mathlib.Data.List.Infix
import RemoteNotebook.Proofs.PageReading
import RemoteNotebook.Proofs.PageTags

/-! The cards on a page. The notes whose cards are found in the text of a page are the notes that it
lists, each with its own id, in order. No other part of the page looks like a card, whatever the
texts in it are. -/
namespace RemoteNotebook

def Listing.notes : Listing → List Note
  | placeholder => []
  | cards notes => notes

namespace Markup

def before? (mark : List Char) : List Char → Option (List Char × List Char)
  | [] => none
  | c :: cs =>
    match (c :: cs).dropPrefix? mark with
    | some rest => some ([], rest)
    | none => (before? mark cs).map fun (cs', rest) => (c :: cs', rest)

theorem before?_append {d : Char} {xs : List Char} (h : d ∉ xs) (mark ys : List Char) :
    before? (d :: mark) (xs ++ (d :: mark ++ ys)) = some (xs, ys) := by
  induction xs with
  | nil =>
    have hdrop : (d :: mark ++ ys).dropPrefix? (d :: mark) = some ys :=
      List.dropPrefix?_append_of_beq _ BEq.rfl
    rw [List.nil_append, List.cons_append, before?, ← List.cons_append, hdrop]
  | cons x xs ih =>
    rw [List.mem_cons, not_or] at h
    have hdrop : (x :: (xs ++ (d :: mark ++ ys))).dropPrefix? (d :: mark) = none := by
      rw [List.dropPrefix?, if_neg]
      simpa using Ne.symm h.1
    rw [List.cons_append, before?, hdrop, ih h.2]
    rfl

end Markup

namespace Page

open Markup

def cardMark : List Char := "<div class=\"note-card\">\n<h3>".toList

/-- The note whose card a text begins with: the texts up to the end of its title and of its content,
and the id in the button. -/
def noteAt? (cs : List Char) : Option Note := do
  let cs ← cs.dropPrefix? cardMark
  let (title, cs) ← before? "</h3>\n<p>".toList cs
  let (content, cs) ←
    before? "</p>\n<div class=\"actions\">\n<button class=\"delete-btn\" data-note-id=\"".toList cs
  let (id, _) ← before? "\">".toList cs
  let id ← Decimal.int64? (unescape id)
  some ⟨id, String.ofList (unescape title), String.ofList (unescape content)⟩

def notesIn (cs : List Char) : List Note := cs.tails.filterMap noteAt?

/-- Whether the mark of a card may begin in a text, depending on what follows. -/
def mayOpenCard : List Char → Bool
  | [] => false
  | c :: cs =>
    cardMark.isPrefixOf (c :: cs) || (c :: cs).isPrefixOf cardMark || mayOpenCard cs

theorem cardMark_eq : cardMark = '<' :: "div class=\"note-card\">\n<h3>".toList := by cbv

/-- A text in which no card begins, whatever follows it. -/
def NoCard (xs : List Char) : Prop := ∀ ys, notesIn (xs ++ ys) = notesIn ys

theorem noteAt?_eq_none {cs : List Char} (h : ¬ cardMark <+: cs) : noteAt? cs = none := by
  have hdrop : cs.dropPrefix? cardMark = none := by
    rw [Option.eq_none_iff_forall_not_mem]
    intro rest hrest
    obtain ⟨mark, rfl, hmark⟩ := List.dropPrefix?_eq_some_iff.mp hrest
    obtain rfl : mark = cardMark := eq_of_beq hmark
    exact h (List.prefix_append ..)
  rw [noteAt?, hdrop]
  rfl

theorem notesIn_nil : notesIn [] = [] := by cbv

theorem notesIn_cons (c : Char) (cs : List Char) :
    notesIn (c :: cs) = (noteAt? (c :: cs)).toList ++ notesIn cs := by
  rw [notesIn, List.tails_cons, List.filterMap_cons]
  cases noteAt? (c :: cs) <;> rfl

theorem notesIn_cons_of_not_prefix {c : Char} {cs : List Char} (h : ¬ cardMark <+: c :: cs) :
    notesIn (c :: cs) = notesIn cs := by
  rw [notesIn_cons, noteAt?_eq_none h]
  rfl

namespace NoCard

variable {xs ys : List Char}

theorem nil : NoCard [] := fun _ => rfl

theorem append (hxs : NoCard xs) (hys : NoCard ys) : NoCard (xs ++ ys) := by
  intro zs
  rw [List.append_assoc, hxs, hys]

theorem flatMap {α : Type} {f : α → List Char} (h : ∀ a, NoCard (f a)) (as : List α) :
    NoCard (as.flatMap f) := by
  induction as with
  | nil => exact nil
  | cons a as ih => exact (h a).append ih

theorem of_mayOpenCard (h : mayOpenCard xs = false) : NoCard xs := by
  intro ys
  induction xs with
  | nil => rfl
  | cons x xs ih =>
    rw [mayOpenCard, Bool.or_eq_false_iff, Bool.or_eq_false_iff] at h
    obtain ⟨⟨hmark, hpart⟩, hrest⟩ := h
    rw [← Bool.not_eq_true, List.isPrefixOf_iff_prefix] at hmark hpart
    have hnone : ¬ cardMark <+: x :: (xs ++ ys) := by
      intro hopen
      have hparts := List.prefix_or_prefix_of_prefix hopen (List.prefix_append (x :: xs) ys)
      exact hparts.elim hmark hpart
    rw [List.cons_append, notesIn_cons_of_not_prefix hnone, ih hrest]

theorem of_not_mem (h : '<' ∉ xs) : NoCard xs := by
  intro ys
  induction xs with
  | nil => rfl
  | cons x xs ih =>
    rw [List.mem_cons, not_or] at h
    have hnone : ¬ cardMark <+: x :: (xs ++ ys) := by
      intro hopen
      rw [cardMark_eq] at hopen
      exact h.1 (List.cons_prefix_cons.mp hopen).1
    rw [List.cons_append, notesIn_cons_of_not_prefix hnone, ih h.2]

end NoCard

def pieceMayOpenCard : Piece → Bool
  | .markup m => mayOpenCard m.toList
  | .text _ => false

theorem noCard_chars {ps : List Piece} (h : ps.any pieceMayOpenCard = false) :
    NoCard (chars ps) := by
  induction ps with
  | nil => exact .nil
  | cons p ps ih =>
    rw [List.any_cons, Bool.or_eq_false_iff] at h
    rw [chars_cons]
    refine .append ?_ (ih h.2)
    cases p with
    | markup m => exact .of_mayOpenCard h.1
    | text t => exact .of_not_mem (not_mem_escapeChars isDelimiter_lt _)

theorem noCard_statusLine (status : Connectivity) : NoCard (chars (statusLine status)) :=
  noCard_chars (by cbv)

theorem noCard_alertBox (message : String) : NoCard (chars (alertBox message)) :=
  noCard_chars (by cbv)

theorem noCard_formFields (form : Form) : NoCard (chars (formFields form)) :=
  noCard_chars (by cbv)

theorem noCard_opening : NoCard opening.toList := by
  have hstyle : NoCard style.toList := .of_not_mem not_mem_style
  have happend {m n : String} (hm : NoCard m.toList) (hn : NoCard n.toList) :
      NoCard (m ++ n).toList := by
    rw [String.toList_append]
    exact hm.append hn
  unfold opening
  refine happend (happend (happend (happend (happend (happend (happend (happend ?_ ?_) ?_) ?_) ?_)
    hstyle) ?_) ?_) ?_
  all_goals exact .of_mayOpenCard (by cbv)

section

variable {ps : List Piece} {m t : String} {d : Char} {xs : List Char}

/-- A text is what stands before markup that begins with a delimiter. -/
theorem before?_text (hm : m.toList.head? = some d) (hd : IsDelimiter d) :
    before? m.toList (chars (.text t :: .markup m :: ps) ++ xs) =
      some (escapeChars t.toList, chars ps ++ xs) := by
  obtain ⟨rest, hrest⟩ := List.head?_eq_some_iff.mp hm
  rw [chars_cons_append, chars_cons_append, Piece.chars, Piece.chars, hrest]
  exact before?_append (not_mem_escapeChars hd _) rest _

end

theorem noteAt?_card (note : Note) (xs : List Char) :
    noteAt? (chars (card note) ++ xs) = some note := by
  obtain ⟨id, title, content⟩ := note
  have hid : Decimal.int64? (unescape (escapeChars (Decimal.int id.toInt).toList)) = some id := by
    rw [unescape_escapeChars, Decimal.int, String.toList_ofList, Decimal.int64?_intChars]
  have hopening : (chars (card ⟨id, title, content⟩) ++ xs).dropPrefix? cardMark =
      some (chars (card ⟨id, title, content⟩).tail ++ xs) := by
    rw [card, chars_cons_append]
    exact List.dropPrefix?_append_of_beq _ BEq.rfl
  rw [noteAt?, hopening, card, List.tail_cons]
  simp only [Option.bind_eq_bind, Option.bind_some]
  rw [before?_text rfl isDelimiter_lt, Option.bind_some, before?_text rfl isDelimiter_lt,
    Option.bind_some, before?_text rfl isDelimiter_quote, Option.bind_some, hid, Option.bind_some,
    unescape_escapeChars, unescape_escapeChars, String.ofList_toList, String.ofList_toList]

/-- The card of a note is found where it begins, and no other one in it. -/
theorem notesIn_card (note : Note) (xs : List Char) :
    notesIn (chars (card note) ++ xs) = note :: notesIn xs := by
  -- The mark is read at the first character; no other card begins in the rest of it, or in the
  -- markup after it.
  have hopening : NoCard "div class=\"note-card\">\n<h3>".toList := .of_mayOpenCard (by cbv)
  have hrest : NoCard (chars (card note).tail) := by
    refine noCard_chars ?_
    rw [card, List.tail_cons]
    -- The text of the id does not matter, and need not be evaluated.
    generalize Decimal.int note.id.toInt = id
    cbv
  have hchars : chars (card note) ++ xs =
      '<' :: ("div class=\"note-card\">\n<h3>".toList ++ (chars (card note).tail ++ xs)) := by
    rw [← List.cons_append, ← cardMark_eq]
    exact chars_cons_append ..
  rw [hchars, notesIn_cons, ← hchars, noteAt?_card, hopening, hrest]
  rfl

theorem notesIn_cards (notes : List Note) (xs : List Char) :
    notesIn (chars (grid (.cards notes)) ++ xs) = notes ++ notesIn xs := by
  rw [grid, chars_flatMap]
  induction notes with
  | nil => rfl
  | cons note notes ih =>
    rw [List.flatMap_cons, List.append_assoc, notesIn_card, ih]
    rfl

theorem notesIn_grid (listing : Listing) (xs : List Char) :
    notesIn (chars (grid listing) ++ xs) = listing.notes ++ notesIn xs := by
  cases listing with
  | placeholder => exact noCard_chars (by cbv) xs
  | cards notes => exact notesIn_cards notes xs

/-- The cards on a page are those of the notes that it lists. -/
theorem notesIn_text (p : Page) (form : Form) :
    notesIn (p.text form).toList = p.listing.notes := by
  have hbefore : NoCard (chars (.markup opening :: statusLine p.status ++
      p.alerts.flatMap alertBox ++ formFields form ++ [.markup "<div id=\"notesGrid\">\n"])) := by
    have hgrid : NoCard (chars [.markup "<div id=\"notesGrid\">\n"]) := noCard_chars (by cbv)
    rw [chars_append, chars_append, chars_append, chars_flatMap, chars_cons]
    exact (((noCard_opening.append (noCard_statusLine _)).append
      (.flatMap noCard_alertBox _)).append (noCard_formFields form)).append hgrid
  have hending : NoCard (chars ending) := noCard_chars (by cbv)
  have hpieces : p.pieces form = .markup opening :: statusLine p.status ++
      p.alerts.flatMap alertBox ++ formFields form ++ [.markup "<div id=\"notesGrid\">\n"] ++
      grid p.listing ++ ending := by
    simp only [pieces, List.append_assoc, List.cons_append, List.nil_append]
  rw [toList_text, hpieces, chars_append, chars_append, List.append_assoc, hbefore, notesIn_grid,
    ← List.append_nil (chars ending), hending, notesIn_nil, List.append_nil]

/-- A page loses nothing. Its text tells the status, the alerts, the form and the listing, and each
card in it has the id of the note whose title and content it shows. -/
theorem text_faithful (p q : Page) (form form' : Form) :
    (p.text form = q.text form' ↔ p = q ∧ form = form') ∧
      notesIn (p.text form).toList = p.listing.notes :=
  ⟨text_eq_iff, notesIn_text p form⟩

end Page
end RemoteNotebook
