import Mathlib.Data.List.Forall2
import Mathlib.Data.List.Induction
import RemoteNotebook.Proofs.Numerals
import RemoteNotebook.Terminal

/-! Listings on a terminal can be read. As long as no title has a line feed, what is written of a
listing tells the cards: their ids, their titles and the lines of their contents. A content stands
behind blanks, line by line, so that nothing in it is taken for anything else. -/
namespace RemoteNotebook

namespace Text

def OneLine (s : String) : Prop := '\n' ∉ s.toList

instance (s : String) : Decidable (OneLine s) := inferInstanceAs (Decidable (¬ _ ∈ _))

theorem oneLine_append {s t : String} : OneLine (s ++ t) ↔ OneLine s ∧ OneLine t := by
  simp only [OneLine, String.toList_append, List.mem_append, not_or]

theorem bne_of_not_mem {d : Char} {cs : List Char} (h : d ∉ cs) : ∀ c ∈ cs, (c != d) = true :=
  fun _ hc => bne_iff_ne.mpr (ne_of_mem_of_not_mem hc h)

theorem cons_newline_inj {l m rest rest' : List Char} (hl : '\n' ∉ l) (hm : '\n' ∉ m)
    (h : l ++ '\n' :: rest = m ++ '\n' :: rest') : l = m ∧ rest = rest' := by
  have hread {l : List Char} (hl : '\n' ∉ l) (rest : List Char) :
      (l ++ '\n' :: rest).takeWhile (· != '\n') = l := by
    rw [List.takeWhile_append_of_pos (bne_of_not_mem hl), List.takeWhile_cons_of_neg (by simp),
      List.append_nil]
  have hlm := congrArg (List.takeWhile (· != '\n')) h
  rw [hread hl, hread hm] at hlm
  subst hlm
  exact ⟨rfl, (List.cons.inj (List.append_cancel_left h)).2⟩

/-- What the lines of a text are that does not begin with the ending of a line. -/
theorem lines_cons {c : Char} {cs : List Char} (h : ∀ ds, c = '\r' → cs = '\n' :: ds → False)
    (hc : c ≠ '\n') : lines (c :: cs) = (c :: (lines cs).headD []) :: (lines cs).tail := by
  rw [lines, if_neg hc]
  · split
    next hempty => rw [List.isEmpty_iff.mp hempty]; rfl
    next =>
      split
      next hlines => rw [hlines]; rfl
      next hlines => rw [hlines]; rfl
  · exact h

theorem newline_not_mem_lines {cs : List Char} : ∀ l ∈ lines cs, '\n' ∉ l := by
  have hcons {c : Char} {cs : List Char} (h : ∀ ds, c = '\r' → cs = '\n' :: ds → False)
      (hc : c ≠ '\n') (ih : ∀ l ∈ lines cs, '\n' ∉ l) : ∀ l ∈ lines (c :: cs), '\n' ∉ l := by
    rw [lines_cons h hc, List.forall_mem_cons, List.mem_cons, not_or]
    refine ⟨⟨hc.symm, ?_⟩, fun l hl => ih l (List.mem_of_mem_tail hl)⟩
    cases hlines : lines cs with
    | nil => exact List.not_mem_nil
    | cons l ls => exact ih l (by simp [hlines])
  induction cs using lines.induct with
  | case1 => nofun
  | case2 cs ih =>
    rw [lines]
    exact List.forall_mem_cons.mpr ⟨List.not_mem_nil, ih⟩
  | case3 cs _ ih =>
    rw [lines, if_pos rfl]
    · exact List.forall_mem_cons.mpr ⟨List.not_mem_nil, ih⟩
    · assumption
  | case4 c cs h hc hempty =>
    refine hcons h hc ?_
    rw [List.isEmpty_iff.mp hempty]
    nofun
  | case5 c cs h hc _ l ls _ ih => exact hcons h hc ih
  | case6 c cs h hc _ _ ih => exact hcons h hc ih

end Text

namespace Terminal

open Text (OneLine oneLine_append)

theorem toList_textOf (ls : List String) :
    (textOf ls).toList = ls.flatMap fun l => l.toList ++ ['\n'] := by
  simp [textOf, String.toList_join, List.flatMap_map]

/-- Lines are read off the text that they are written in. -/
theorem textOf_injOn {ls ms : List String} (hls : ∀ l ∈ ls, OneLine l) (hms : ∀ m ∈ ms, OneLine m)
    (h : textOf ls = textOf ms) : ls = ms := by
  have hchars := congrArg String.toList h
  rw [toList_textOf, toList_textOf] at hchars
  clear h
  induction ls generalizing ms with
  | nil =>
    cases ms with
    | nil => rfl
    | cons m ms => simp at hchars
  | cons l ls ih =>
    cases ms with
    | nil => simp at hchars
    | cons m ms =>
      obtain ⟨hl, hls⟩ := List.forall_mem_cons.mp hls
      obtain ⟨hm, hms⟩ := List.forall_mem_cons.mp hms
      simp only [List.flatMap_cons, List.append_assoc, List.singleton_append] at hchars
      obtain ⟨hlm, hrest⟩ := Text.cons_newline_inj hl hm hchars
      rw [String.toList_inj.mp hlm, ih hls hms hrest]

structure Card where
  id : Int64
  title : String
  lines : List (List Char)

def indented (l : List Char) : String := "    " ++ String.ofList l

namespace Card

def ofNote (n : Note) : Card := ⟨n.id, n.title, Text.lines n.content.toList⟩

def header (c : Card) : String := "[" ++ Decimal.int c.id.toInt ++ "] " ++ c.title

def written (c : Card) : List String := c.header :: c.lines.map indented

end Card

theorem cardLines_eq (n : Note) : cardLines n = (Card.ofNote n).written := rfl

theorem cardsLines_eq (notes : List Note) :
    cardsLines notes = [""].intercalate ((notes.map Card.ofNote).map Card.written) := by
  induction notes using cardsLines.induct with
  | case1 => rfl
  | case2 n => exact List.intercalate_singleton.symm
  | case3 n next notes ih =>
    rw [cardsLines, ih]
    simp only [List.map_cons, List.intercalate_cons_cons, cardLines_eq, List.append_assoc,
      List.singleton_append]

def readHeader? (line : String) : Option (Int64 × String) :=
  match line.toList with
  | '[' :: cs =>
    (Decimal.int64? (cs.takeWhile (· != ']'))).map fun id =>
      (id, String.ofList ((cs.dropWhile (· != ']')).drop 2))
  | _ => none

def readIndented? (line : String) : Option (List Char) :=
  match line.toList with
  | ' ' :: ' ' :: ' ' :: ' ' :: l => some l
  | _ => none

/-- Takes one more line to the lines of a content and the cards that are read below it. -/
def gather (line : String) (below : List (List Char) × List Card) :
    List (List Char) × List Card :=
  match readHeader? line, readIndented? line with
  | some (id, title), _ => ([], ⟨id, title, below.1⟩ :: below.2)
  | none, some l => (l :: below.1, below.2)
  | none, none => below

def readCards (lines : List String) : List Card := (lines.foldr gather ([], [])).2

theorem readHeader?_header (c : Card) : readHeader? c.header = some (c.id, c.title) := by
  have hid : ∀ d ∈ Decimal.intChars c.id.toInt, (d != ']') = true :=
    Text.bne_of_not_mem (Decimal.not_mem_intChars (by decide) (by decide) _)
  have hline : c.header.toList =
      '[' :: (Decimal.intChars c.id.toInt ++ ']' :: ' ' :: c.title.toList) := by
    simp [Card.header, Decimal.int]
  rw [readHeader?, hline]
  simp only
  rw [List.takeWhile_append_of_pos hid, List.takeWhile_cons_of_neg (by simp), List.append_nil,
    List.dropWhile_append_of_pos hid, List.dropWhile_cons_of_neg (by simp),
    Decimal.int64?_intChars]
  simp

theorem readHeader?_indented (l : List Char) : readHeader? (indented l) = none := by
  have hline : (indented l).toList = ' ' :: ' ' :: ' ' :: ' ' :: l := by simp [indented]
  simp [readHeader?, hline]

theorem readIndented?_indented (l : List Char) : readIndented? (indented l) = some l := by
  have hline : (indented l).toList = ' ' :: ' ' :: ' ' :: ' ' :: l := by simp [indented]
  simp [readIndented?, hline]

theorem gather_of_none {line : String} (hheader : readHeader? line = none)
    (hindented : readIndented? line = none) (below : List (List Char) × List Card) :
    gather line below = below := by
  rw [gather, hheader, hindented]

/-- Below the first line of a card are the lines of its content. -/
theorem foldr_gather_written (c : Card) (cards : List Card) :
    c.written.foldr gather ([], cards) = ([], c :: cards) := by
  have hcontent (ls : List (List Char)) :
      (ls.map indented).foldr gather ([], cards) = (ls, cards) := by
    induction ls with
    | nil => rfl
    | cons l ls ih =>
      rw [List.map_cons, List.foldr_cons, ih, gather, readHeader?_indented, readIndented?_indented]
  rw [Card.written, List.foldr_cons, hcontent, gather, readHeader?_header]

theorem foldr_gather_intercalate (cards : List Card) :
    ([""].intercalate (cards.map Card.written)).foldr gather ([], []) = ([], cards) := by
  induction cards using List.twoStepInduction with
  | nil => rfl
  | singleton c => rw [List.map_singleton, List.intercalate_singleton, foldr_gather_written]
  | cons_cons c next cards _ ih =>
    have hseparator (below) : gather "" below = below := gather_of_none rfl rfl below
    rw [List.map_cons, List.map_cons, List.intercalate_cons_cons, ← List.map_cons,
      List.foldr_append, ih, List.foldr_append, List.foldr_cons, List.foldr_nil, hseparator,
      foldr_gather_written]

theorem readCards_listingLines (notes : List Note) :
    readCards (listingLines (.cards notes)) = notes.map .ofNote := by
  have hrule (below) : gather (rule '=') below = below :=
    gather_of_none (by decide) (by decide) below
  rw [readCards, listingLines, cardsLines_eq, List.cons_append, List.foldr_cons,
    List.foldr_append, List.foldr_cons, List.foldr_nil, hrule, hrule, foldr_gather_intercalate]

/-- A listing of cards is no placeholder, whatever is on the cards. -/
theorem listingLines_cards_ne (notes : List Note) :
    listingLines (.cards notes) ≠ listingLines .placeholder := by
  intro h
  have hnone : readCards (listingLines .placeholder) = [] := by decide
  rw [← h, readCards_listingLines, List.map_eq_nil_iff] at hnone
  subst hnone
  cases congrArg List.length h

theorem oneLine_header {c : Card} (h : OneLine c.title) : OneLine c.header := by
  have hid : OneLine (Decimal.int c.id.toInt) := by
    rw [OneLine, Decimal.int, String.toList_ofList]
    exact Decimal.not_mem_intChars (by decide) (by decide) _
  exact oneLine_append.mpr ⟨oneLine_append.mpr ⟨oneLine_append.mpr ⟨by decide, hid⟩, by decide⟩, h⟩

theorem oneLine_indented {l : List Char} (h : '\n' ∉ l) : OneLine (indented l) := by
  refine oneLine_append.mpr ⟨by decide, ?_⟩
  rwa [OneLine, String.toList_ofList]

theorem oneLine_cardLines {n : Note} (h : OneLine n.title) : ∀ line ∈ cardLines n, OneLine line := by
  rw [cardLines_eq, Card.written, List.forall_mem_cons, List.forall_mem_map]
  exact ⟨oneLine_header h, fun l hl => oneLine_indented (Text.newline_not_mem_lines l hl)⟩

theorem oneLine_cardsLines {notes : List Note} (h : ∀ n ∈ notes, OneLine n.title) :
    ∀ line ∈ cardsLines notes, OneLine line := by
  induction notes using cardsLines.induct with
  | case1 => nofun
  | case2 n => exact oneLine_cardLines (h n (by simp))
  | case3 n next notes ih =>
    obtain ⟨hn, hnotes⟩ := List.forall_mem_cons.mp h
    rw [cardsLines, List.forall_mem_append, List.forall_mem_cons]
    exact ⟨oneLine_cardLines hn, by decide, ih hnotes⟩

end Terminal

namespace Listing

def OneLineTitles : Listing → Prop
  | placeholder => True
  | cards notes => ∀ n ∈ notes, Text.OneLine n.title

instance : (l : Listing) → Decidable l.OneLineTitles
  | placeholder => .isTrue trivial
  | cards notes => inferInstanceAs (Decidable (∀ n ∈ notes, Text.OneLine n.title))

/-- Both listings are placeholders, or they have as many cards each, with the same ids, titles and
lines of contents. -/
def Alike : Listing → Listing → Prop
  | placeholder, placeholder => True
  | cards notes, cards notes' => notes.Forall₂ (fun n n' => n.id = n'.id ∧ n.title = n'.title ∧
      Text.lines n.content.toList = Text.lines n'.content.toList) notes'
  | _, _ => False

end Listing

namespace Terminal

open Text (OneLine oneLine_append)

theorem oneLine_listingLines {l : Listing} (h : l.OneLineTitles) :
    ∀ line ∈ listingLines l, OneLine line := by
  have hrule : OneLine (rule '=') := by decide
  cases l with
  | placeholder => decide
  | cards notes =>
    rw [listingLines, List.cons_append, List.forall_mem_cons, List.forall_mem_append,
      List.forall_mem_singleton]
    exact ⟨hrule, oneLine_cardsLines h, hrule⟩

theorem alike_cards_iff {notes notes' : List Note} :
    (Listing.cards notes).Alike (.cards notes') ↔ notes.map Card.ofNote = notes'.map .ofNote := by
  rw [← List.forall₂_eq_eq_eq, List.forall₂_map_left_iff, List.forall₂_map_right_iff]
  simp only [Listing.Alike, Card.ofNote, Card.mk.injEq]

/-- The lines of two listings are the same just if these are alike. -/
theorem listingLines_eq_iff {l l' : Listing} : listingLines l = listingLines l' ↔ l.Alike l' := by
  cases l with
  | placeholder =>
    cases l' with
    | placeholder => exact iff_of_true rfl trivial
    | cards notes => exact iff_of_false (listingLines_cards_ne notes).symm id
  | cards notes =>
    cases l' with
    | placeholder => exact iff_of_false (listingLines_cards_ne notes) id
    | cards notes' =>
      rw [alike_cards_iff]
      constructor
      · intro h
        rw [← readCards_listingLines, h, readCards_listingLines]
      · intro h
        rw [listingLines, listingLines, cardsLines_eq, cardsLines_eq, h]

theorem indented_ne (l : List Char) (c : Card) :
    indented l ≠ c.header ∧ indented l ∉ ["", rule '=', Listing.placeholderText] := by
  constructor
  · intro h
    have hread := readHeader?_indented l
    rw [h, readHeader?_header] at hread
    cases hread
  · have hnone : ∀ line ∈ ["", rule '=', Listing.placeholderText], readIndented? line = none := by
      decide
    intro hmem
    cases (hnone _ hmem).symm.trans (readIndented?_indented l)

/-- The same text is written for two listings just if both are placeholders or have the same ids,
titles and lines of contents, card by card. Whatever a content holds, each of its lines is written
in one line, and that is not the first line of any card, an empty line, a rule or the placeholder. -/
theorem showNotes_legible {l l' : Listing} (hl : l.OneLineTitles) (hl' : l'.OneLineTitles)
    (t : Terminal) :
    ((surface (.showNotes l) t).2.out = (surface (.showNotes l') t).2.out ↔ l.Alike l') ∧
      ∀ n n' : Note, ∀ line ∈ (cardLines n).tail, OneLine line ∧
        (cardLines n').head? ≠ some line ∧ line ∉ ["", rule '=', Listing.placeholderText] := by
  have hout (l : Listing) :
      (surface (.showNotes l) t).2.out = t.out ++ textOf (listingLines l) := rfl
  refine ⟨?_, fun n n' line hline => ?_⟩
  · rw [hout, hout, String.append_right_inj, ← listingLines_eq_iff]
    exact ⟨textOf_injOn (oneLine_listingLines hl) (oneLine_listingLines hl'), congrArg textOf⟩
  · obtain ⟨content, hcontent, rfl⟩ := List.mem_map.mp hline
    obtain ⟨hheader, hothers⟩ := indented_ne content (.ofNote n')
    exact ⟨oneLine_indented (Text.newline_not_mem_lines content hcontent),
      fun h => hheader (Option.some.inj h).symm, hothers⟩

/-- A content that looks like the next card is told from that card, and how its lines end does not
matter. -/
theorem showNotes_legible_imitation :
    let content : Listing := .cards [⟨7, "Lists", "milk\r\n\n[8] Books\n"⟩]
    let same : Listing := .cards [⟨7, "Lists", "milk\n\n[8] Books"⟩]
    let card : Listing := .cards [⟨7, "Lists", "milk"⟩, ⟨8, "Books", ""⟩]
    let out (l : Listing) := (surface (.showNotes l) { input := [] }).2.out
    (content.OneLineTitles ∧ same.OneLineTitles ∧ card.OneLineTitles) ∧
      out content = out same ∧ out content ≠ out card := by
  intro content same card out
  have hcontent : content.OneLineTitles := by decide
  have hsame : same.OneLineTitles := by decide
  have hcard : card.OneLineTitles := by decide
  refine ⟨⟨hcontent, hsame, hcard⟩, ?_, fun h => ?_⟩
  · exact (showNotes_legible hcontent hsame _).1.mpr (.cons ⟨rfl, rfl, by decide⟩ .nil)
  · -- The content has three lines and the first card has one.
    have halike : content.Alike card := (showNotes_legible hcontent hcard _).1.mp h
    obtain ⟨⟨-, -, hlines⟩, -⟩ := List.forall₂_cons.mp halike
    exact absurd (congrArg List.length hlines) (by decide)

end Terminal
end RemoteNotebook
