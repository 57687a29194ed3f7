import RemoteNotebook.Page
import RemoteNotebook.Proofs.Legible
import RemoteNotebook.Proofs.Numerals

/-! Pages that can be read. The text of a page tells all that the page shows, whatever the texts in
it are: each part of it is read up to the next one. -/
namespace RemoteNotebook.Page

open Markup

def chars (ps : List Piece) : List Char := ps.flatMap Piece.chars

section

variable {ps qs : List Piece} {p q : Piece} {m t u : String} {d : Char} {xs ys : List Char}

theorem chars_append (ps qs : List Piece) : chars (ps ++ qs) = chars ps ++ chars qs :=
  List.flatMap_append

theorem chars_cons (p : Piece) (ps : List Piece) : chars (p :: ps) = p.chars ++ chars ps :=
  List.flatMap_cons

theorem chars_cons_append (p : Piece) (ps : List Piece) (xs : List Char) :
    chars (p :: ps) ++ xs = p.chars ++ (chars ps ++ xs) := List.append_assoc ..

theorem chars_flatMap {α : Type} (f : α → List Piece) (as : List α) :
    chars (as.flatMap f) = as.flatMap fun a => chars (f a) := List.flatMap_assoc

theorem pass_markup (h : chars (.markup m :: ps) ++ xs = chars (.markup m :: qs) ++ ys) :
    chars ps ++ xs = chars qs ++ ys := by
  rw [chars_cons_append, chars_cons_append] at h
  exact List.append_cancel_left h

/-- A text in front is read up to markup that begins with a delimiter. -/
theorem read_text (hm : m.toList.head? = some d) (hd : IsDelimiter d)
    (h : chars (.text t :: .markup m :: ps) ++ xs = chars (.text u :: .markup m :: qs) ++ ys) :
    t = u ∧ chars ps ++ xs = chars qs ++ ys := by
  obtain ⟨rest, hrest⟩ := List.head?_eq_some_iff.mp hm
  simp only [chars_cons_append, Piece.chars, hrest] at h
  rw [← List.append_assoc, ← List.append_assoc (escapeChars u.toList)] at h
  exact legible_text hd rest h

/-- Texts that begin with markup are not the same if neither markup begins with the other. -/
theorem markup_ne {n : String} (h : m.toList.isPrefixOf n.toList = false)
    (h' : n.toList.isPrefixOf m.toList = false) :
    chars (.markup m :: ps) ++ xs ≠ chars (.markup n :: qs) ++ ys := by
  intro heq
  rw [chars_cons_append, chars_cons_append] at heq
  have hm : m.toList <+: m.toList ++ (chars ps ++ xs) := List.prefix_append ..
  have hn : n.toList <+: m.toList ++ (chars ps ++ xs) := heq ▸ List.prefix_append ..
  rw [← Bool.not_eq_true, List.isPrefixOf_iff_prefix] at h h'
  exact (List.prefix_or_prefix_of_prefix hm hn).elim h h'

end

theorem legible_statusLine : Legible fun s : Connectivity => chars (statusLine s) := by
  intro s s' xs ys h
  obtain ⟨htext, hrest⟩ := read_text rfl isDelimiter_lt (pass_markup h)
  refine ⟨?_, hrest⟩
  cases s <;> cases s' <;> first | rfl | exact absurd htext (by decide)

theorem legible_alertBox : Legible fun m : String => chars (alertBox m) := by
  intro m m' xs ys h
  exact read_text rfl isDelimiter_lt (pass_markup h)

theorem legible_formFields : Legible fun form : Form => chars (formFields form) := by
  rintro ⟨t, c⟩ ⟨t', c'⟩ xs ys h
  obtain ⟨rfl, hcontent⟩ := read_text rfl isDelimiter_quote (pass_markup (pass_markup h))
  obtain ⟨rfl, hrest⟩ := read_text rfl isDelimiter_lt (pass_markup hcontent)
  exact ⟨rfl, pass_markup hrest⟩

theorem legible_card : Legible fun note : Note => chars (card note) := by
  rintro ⟨id, t, c⟩ ⟨id', t', c'⟩ xs ys h
  obtain ⟨rfl, hcontent⟩ := read_text rfl isDelimiter_lt (pass_markup h)
  obtain ⟨rfl, hid⟩ := read_text rfl isDelimiter_lt hcontent
  obtain ⟨hint, hlabel⟩ := read_text rfl isDelimiter_quote hid
  obtain ⟨-, hrest⟩ := read_text rfl isDelimiter_lt hlabel
  obtain rfl : id = id' := Decimal.eq_of_int_eq hint
  exact ⟨rfl, hrest⟩

abbrev ending : List Piece := [.markup "</div>\n</div>\n</body>\n</html>\n"]

theorem legible_cards : Legible fun notes : List Note => chars (grid (.cards notes) ++ ending) := by
  have hapart : Apart (fun note => chars (card note)) fun _ : Unit => chars ending := by
    intro note _ xs ys
    exact markup_ne rfl rfl
  have hchars (notes : List Note) : chars (grid (.cards notes) ++ ending) =
      (notes.flatMap fun note => chars (card note)) ++ chars ending := by
    rw [chars_append, grid, chars_flatMap]
  simp only [hchars]
  exact (legible_card.flatMap_append (.const (chars ending)) hapart).comp
    (h := fun notes => (notes, ())) fun notes notes' h => congrArg Prod.fst h

theorem legible_grid : Legible fun l : Listing => chars (grid l ++ ending) := by
  have hplaceholder (notes : List Note) (xs ys : List Char) :
      chars (grid .placeholder ++ ending) ++ xs ≠ chars (grid (.cards notes) ++ ending) ++ ys := by
    cases notes with
    | nil => exact markup_ne rfl rfl
    | cons note notes => exact markup_ne rfl rfl
  intro l l' xs ys h
  cases l with
  | placeholder =>
    cases l' with
    | placeholder => exact ⟨rfl, List.append_cancel_left h⟩
    | cards notes => exact absurd h (hplaceholder notes xs ys)
  | cards notes =>
    cases l' with
    | placeholder => exact absurd h.symm (hplaceholder notes ys xs)
    | cards notes' =>
      obtain ⟨rfl, hxs⟩ := legible_cards h
      exact ⟨rfl, hxs⟩

theorem legible_pieces : Legible fun q : Page × Form => chars (q.1.pieces q.2) := by
  have hlisting : Legible fun l : Listing =>
      chars (.markup "<div id=\"notesGrid\">\n" :: grid l ++ ending) := by
    intro l l' xs ys h
    exact legible_grid (pass_markup h)
  -- The alerts end where the form begins, whatever is in it.
  have hapart : Apart (fun m => chars (alertBox m)) fun q : Form × Listing =>
      chars (formFields q.1) ++
        chars (.markup "<div id=\"notesGrid\">\n" :: grid q.2 ++ ending) := by
    intro m q xs ys h
    rw [List.append_assoc] at h
    exact markup_ne rfl rfl h
  have hparts := legible_statusLine.append
    (legible_alertBox.flatMap_append (legible_formFields.append hlisting) hapart)
  have hchars (p : Page) (form : Form) : chars (p.pieces form) = opening.toList ++
      (chars (statusLine p.status) ++ ((p.alerts.flatMap fun m => chars (alertBox m)) ++
        (chars (formFields form) ++
          chars (.markup "<div id=\"notesGrid\">\n" :: grid p.listing ++ ending)))) := by
    simp only [pieces, List.cons_append, chars_append, chars_flatMap, chars_cons, Piece.chars,
      List.append_assoc]
  simp only [hchars]
  refine (hparts.after opening.toList).comp
    (h := fun q : Page × Form => (q.1.status, q.1.alerts, q.2, q.1.listing)) ?_
  rintro ⟨⟨status, listing, alerts⟩, form⟩ ⟨⟨status', listing', alerts'⟩, form'⟩ h
  obtain ⟨rfl, rfl, rfl, rfl⟩ :
      status = status' ∧ alerts = alerts' ∧ form = form' ∧ listing = listing' := by simpa using h
  rfl

theorem toList_text (p : Page) (form : Form) : (p.text form).toList = chars (p.pieces form) :=
  toList_write _

theorem text_eq_iff {p q : Page} {form form' : Form} :
    p.text form = q.text form' ↔ p = q ∧ form = form' := by
  constructor
  · intro h
    have hchars : chars (p.pieces form) = chars (q.pieces form') := by
      rw [← toList_text, ← toList_text, h]
    have hsame : (p, form) = (q, form') := legible_pieces.injective hchars
    exact Prod.mk.inj hsame
  · rintro ⟨rfl, rfl⟩
    rfl

end RemoteNotebook.Page
