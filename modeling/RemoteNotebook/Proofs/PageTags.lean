import RemoteNotebook.Page
import RemoteNotebook.Proofs.Tags

/-! The tags of a page. They are those of its template, and what the page shows is seen only in
how many of them there are, in the value of the title's field and in the ids of the buttons. -/
namespace RemoteNotebook

def Listing.SameShape : Listing → Listing → Prop
  | .placeholder, .placeholder => True
  | .cards notes, .cards notes' => notes.length = notes'.length
  | _, _ => False

namespace Page

open Markup

/-- Two pages with as many alerts and notes. -/
def SameShape (p q : Page) : Prop :=
  p.alerts.length = q.alerts.length ∧ p.listing.SameShape q.listing

def isTitleField (tag : List Char) : Bool := "<input id=\"noteTitle\"".toList.isPrefixOf tag

/-- A tag without the title, if it is that of the title's field, or without the id of a note. -/
def blank (tag : List Char) : List Char :=
  if isTitleField tag then blankValue "value" tag else blankValue "data-note-id" tag

def titleOpening : List Char :=
  "<input id=\"noteTitle\" name=\"title\" placeholder=\"Title\" value=\"".toList

def titleTag (title : String) : List Char := titleOpening ++ escapeChars title.toList ++ ['"', '>']

def buttonOpening : List Char := "<button class=\"delete-btn\" data-note-id=\"".toList

def buttonTag (id : Int64) : List Char :=
  buttonOpening ++ escapeChars (Decimal.int id.toInt).toList ++ ['"', '>']

def openingTags : List (List Char) :=
  ["<!DOCTYPE html>".toList, "<html lang=\"en\">".toList, "<head>".toList,
    "<meta charset=\"UTF-8\">".toList,
    "<meta name=\"viewport\" content=\"width=device-width, initial-scale=1.0\">".toList,
    "<title>".toList, "</title>".toList, "<style>".toList, "</style>".toList, "</head>".toList,
    "<body>".toList, "<div class=\"container\">".toList, "<h1>".toList, "</h1>".toList]

def fieldTags (form : Form) : List (List Char) :=
  ["<form id=\"noteForm\" method=\"post\">".toList, titleTag form.title,
    "<textarea id=\"noteContent\" name=\"content\" placeholder=\"Content\">".toList,
    "</textarea>".toList, "<button type=\"submit\">".toList, "</button>".toList, "</form>".toList]

def cardTags (note : Note) : List (List Char) :=
  ["<div class=\"note-card\">".toList, "<h3>".toList, "</h3>".toList, "<p>".toList, "</p>".toList,
    "<div class=\"actions\">".toList] ++
    buttonTag note.id :: ["</button>".toList, "</div>".toList, "</div>".toList]

def gridTags : Listing → List (List Char)
  | .placeholder => ["<p>".toList, "</p>".toList]
  | .cards notes => notes.flatMap cardTags

def boxTags (opening : String) : List (List Char) := [opening.toList, "</div>".toList]

def tagsOf (p : Page) (form : Form) : List (List Char) :=
  openingTags ++ boxTags "<div id=\"db-status\">" ++
    p.alerts.flatMap (fun _ => boxTags "<div class=\"alert\">") ++ fieldTags form ++
    "<div id=\"notesGrid\">".toList :: gridTags p.listing ++
    ["</div>".toList, "</div>".toList, "</body>".toList, "</html>".toList]

theorem hasTags_boxEnd : HasTags [.markup "</div>\n"] ["</div>".toList] :=
  .markup (by cbv)

theorem hasTags_statusLine (status : Connectivity) :
    HasTags (statusLine status) (boxTags "<div id=\"db-status\">") := by
  have hopening : HasTags [.markup "<div id=\"db-status\">"] ["<div id=\"db-status\">".toList] :=
    .markup (by cbv)
  exact hopening.append ((HasTags.text status.text).append hasTags_boxEnd)

theorem hasTags_alertBox (message : String) :
    HasTags (alertBox message) (boxTags "<div class=\"alert\">") := by
  have hopening : HasTags [.markup "<div class=\"alert\">"] ["<div class=\"alert\">".toList] :=
    .markup (by cbv)
  exact hopening.append ((HasTags.text message).append hasTags_boxEnd)

theorem hasTags_formFields (form : Form) : HasTags (formFields form) (fieldTags form) := by
  have hform : HasTags [.markup "<form id=\"noteForm\" method=\"post\">\n"]
      ["<form id=\"noteForm\" method=\"post\">".toList] := .markup (by cbv)
  have hvalue :
      "<input id=\"noteTitle\" name=\"title\" placeholder=\"Title\" value=\"".toList.foldl
        TagScan.step {} = ⟨[], some titleOpening⟩ := by cbv
  have hvalueEnd : "\">\n".toList = ['"', '>', '\n'] := by simp
  have htitle := HasTags.value hvalue hvalueEnd rfl form.title
  have harea : HasTags
      [.markup "<textarea id=\"noteContent\" name=\"content\" placeholder=\"Content\">"]
      ["<textarea id=\"noteContent\" name=\"content\" placeholder=\"Content\">".toList] :=
    .markup (by cbv)
  have hareaEnd : HasTags [.markup "</textarea>\n"] ["</textarea>".toList] :=
    .markup (by cbv)
  have hbutton : HasTags [.markup "<button type=\"submit\">Save Note</button>\n</form>\n"]
      ["<button type=\"submit\">".toList, "</button>".toList, "</form>".toList] :=
    .markup (by cbv)
  have hfields := hform.append (htitle.append (harea.append
    ((HasTags.text form.content).append (hareaEnd.append hbutton))))
  exact hfields

theorem hasTags_card (note : Note) : HasTags (card note) (cardTags note) := by
  have hopening : HasTags [.markup "<div class=\"note-card\">\n<h3>"]
      ["<div class=\"note-card\">".toList, "<h3>".toList] := .markup (by cbv)
  have hbetween : HasTags [.markup "</h3>\n<p>"] ["</h3>".toList, "<p>".toList] :=
    .markup (by cbv)
  have hvalue :
      "</p>\n<div class=\"actions\">\n<button class=\"delete-btn\" data-note-id=\"".toList.foldl
        TagScan.step {} =
      ⟨["</p>".toList, "<div class=\"actions\">".toList], some buttonOpening⟩ := by cbv
  have hvalueEnd : "\">".toList = ['"', '>'] := by simp
  have hbutton := HasTags.value hvalue hvalueEnd rfl (Decimal.int note.id.toInt)
  have hend : HasTags [.markup "</button>\n</div>\n</div>\n"]
      ["</button>".toList, "</div>".toList, "</div>".toList] := .markup (by cbv)
  have hcard := hopening.append ((HasTags.text note.title).append (hbetween.append
    ((HasTags.text note.content).append (hbutton.append
      ((HasTags.text deleteLabel).append hend)))))
  exact hcard

theorem hasTags_grid (listing : Listing) : HasTags (grid listing) (gridTags listing) := by
  cases listing with
  | placeholder =>
    have hopening : HasTags [.markup "<p>"] ["<p>".toList] := .markup (by cbv)
    have hend : HasTags [.markup "</p>\n"] ["</p>".toList] := .markup (by cbv)
    exact hopening.append ((HasTags.text Listing.placeholderText).append hend)
  | cards notes => exact .flatMap hasTags_card notes

theorem not_mem_style : '<' ∉ style.toList := by
  -- Each literal is met as the characters it is written with, so that none has to be decoded.
  have hplain {cs : List Char} (h : '<' ∉ cs) : '<' ∉ (String.ofList cs).toList := by
    rwa [String.toList_ofList]
  unfold style
  simp only [String.toList_append, List.mem_append, not_or]
  and_intros <;> exact hplain (by decide)

theorem hasTags_opening : HasTags [.markup opening] openingTags := by
  have hhead : HasTags [.markup "<!DOCTYPE html>\n<html lang=\"en\">\n<head>\n"]
      ["<!DOCTYPE html>".toList, "<html lang=\"en\">".toList, "<head>".toList] :=
    .markup (by cbv)
  have hcharset : HasTags [.markup "<meta charset=\"UTF-8\">\n"]
      ["<meta charset=\"UTF-8\">".toList] := .markup (by cbv)
  have hviewport : HasTags [.markup
        "<meta name=\"viewport\" content=\"width=device-width, initial-scale=1.0\">\n"]
      ["<meta name=\"viewport\" content=\"width=device-width, initial-scale=1.0\">".toList] :=
    .markup (by cbv)
  have htitle : HasTags [.markup "<title>B-Tree Notes</title>\n"]
      ["<title>".toList, "</title>".toList] := .markup (by cbv)
  have hstyle : HasTags [.markup "<style>\n"] ["<style>".toList] := .markup (by cbv)
  have hstyleEnd : HasTags [.markup "\n</style>\n"] ["</style>".toList] := .markup (by cbv)
  have hbody : HasTags [.markup "</head>\n<body>\n<div class=\"container\">\n"]
      ["</head>".toList, "<body>".toList, "<div class=\"container\">".toList] :=
    .markup (by cbv)
  have hheading : HasTags [.markup "<h1>B-Tree Notes</h1>\n"] ["<h1>".toList, "</h1>".toList] :=
    .markup (by cbv)
  exact (((((((hhead.markup_append hcharset).markup_append hviewport).markup_append
    htitle).markup_append hstyle).markup_append (.plain not_mem_style)).markup_append
    hstyleEnd).markup_append hbody).markup_append hheading

theorem hasTags_pieces (p : Page) (form : Form) : HasTags (p.pieces form) (p.tagsOf form) := by
  have hgrid : HasTags [.markup "<div id=\"notesGrid\">\n"] ["<div id=\"notesGrid\">".toList] :=
    .markup (by cbv)
  have hend : HasTags [.markup "</div>\n</div>\n</body>\n</html>\n"]
      ["</div>".toList, "</div>".toList, "</body>".toList, "</html>".toList] :=
    .markup (by cbv)
  have halerts := HasTags.flatMap hasTags_alertBox p.alerts
  exact ((((hasTags_opening.append (hasTags_statusLine p.status)).append halerts).append
    (hasTags_formFields form)).append (hgrid.append (hasTags_grid p.listing))).append hend

theorem tags_text (p : Page) (form : Form) : tags (p.text form).toList = p.tagsOf form :=
  (hasTags_pieces p form).tags_eq

theorem attribute?_titleTag (title : String) :
    attribute? "value" (titleTag title) = some (titleOpening, (escape title).toList, ['"', '>']) :=
  attribute?_escapeChars (by cbv) title

theorem attribute?_buttonTag (id : Int64) :
    attribute? "data-note-id" (buttonTag id) =
      some (buttonOpening, (escape (Decimal.int id.toInt)).toList, ['"', '>']) :=
  attribute?_escapeChars (by cbv) _

theorem isTitleField_titleTag (title : String) : isTitleField (titleTag title) = true := by
  have hopening : "<input id=\"noteTitle\"".toList <+: titleOpening :=
    List.isPrefixOf_iff_prefix.mp (by cbv)
  rw [isTitleField, titleTag, List.isPrefixOf_iff_prefix, List.append_assoc]
  exact hopening.trans (List.prefix_append _ _)

theorem isTitleField_buttonTag (id : Int64) : isTitleField (buttonTag id) = false := by
  have hopening : isTitleField buttonOpening = false := by cbv
  have hlength : "<input id=\"noteTitle\"".toList.length ≤ buttonOpening.length := by cbv
  rw [isTitleField, Bool.eq_false_iff, ne_eq, List.isPrefixOf_iff_prefix] at hopening ⊢
  rw [buttonTag, List.append_assoc]
  intro htitle
  exact hopening (List.prefix_of_prefix_length_le htitle (List.prefix_append _ _) hlength)

theorem blank_titleTag (title : String) : blank (titleTag title) = titleOpening ++ ['"', '>'] := by
  rw [blank, if_pos (isTitleField_titleTag title), blankValue, attribute?_titleTag]

theorem blank_buttonTag (id : Int64) : blank (buttonTag id) = buttonOpening ++ ['"', '>'] := by
  rw [blank, isTitleField_buttonTag, if_neg Bool.false_ne_true, blankValue, attribute?_buttonTag]

/-- Without the title, the tags of every form are the same. -/
theorem map_blank_fieldTags (form form' : Form) :
    (fieldTags form).map blank = (fieldTags form').map blank := by
  simp only [fieldTags, List.map_cons, blank_titleTag]

/-- Without its id, the tags of every note are the same. -/
theorem map_blank_cardTags (note note' : Note) :
    (cardTags note).map blank = (cardTags note').map blank := by
  simp only [cardTags, List.map_append, List.map_cons, blank_buttonTag]

theorem flatMap_eq_of_length_eq {α β : Type} {f : α → List β} (hf : ∀ x y, f x = f y)
    {xs ys : List α} (h : xs.length = ys.length) : xs.flatMap f = ys.flatMap f := by
  induction xs generalizing ys with
  | nil => rw [List.eq_nil_of_length_eq_zero h.symm]
  | cons x xs ih =>
    obtain _ | ⟨y, ys⟩ := ys
    · exact absurd h (Nat.succ_ne_zero _)
    · rw [List.flatMap_cons, List.flatMap_cons, hf x y, ih (Nat.succ.inj h)]

theorem map_blank_gridTags {l k : Listing} (h : l.SameShape k) :
    (gridTags l).map blank = (gridTags k).map blank := by
  cases l with
  | placeholder =>
    cases k with
    | placeholder => rfl
    | cards notes => exact h.elim
  | cards notes =>
    cases k with
    | placeholder => exact h.elim
    | cards notes' =>
      rw [gridTags, gridTags, List.map_flatMap, List.map_flatMap]
      exact flatMap_eq_of_length_eq map_blank_cardTags h

theorem map_blank_tags {p q : Page} (h : p.SameShape q) (form form' : Form) :
    (tags (p.text form).toList).map blank = (tags (q.text form').toList).map blank := by
  have halerts : p.alerts.flatMap (fun _ => boxTags "<div class=\"alert\">") =
      q.alerts.flatMap fun _ => boxTags "<div class=\"alert\">" :=
    flatMap_eq_of_length_eq (fun _ _ => rfl) h.1
  rw [tags_text, tags_text]
  simp only [tagsOf, List.map_append, List.map_cons, halerts, map_blank_fieldTags form form',
    map_blank_gridTags h.2]

/-- The one tag of the title's field among those of a form. -/
theorem filter_fieldTags (form : Form) :
    (fieldTags form).filter isTitleField = [titleTag form.title] := by
  have hform : isTitleField "<form id=\"noteForm\" method=\"post\">".toList = false := by cbv
  have hrest : ["<textarea id=\"noteContent\" name=\"content\" placeholder=\"Content\">".toList,
      "</textarea>".toList, "<button type=\"submit\">".toList, "</button>".toList,
      "</form>".toList].filter isTitleField = [] := by cbv
  rw [fieldTags, List.filter_cons_of_neg (ne_true_of_eq_false hform),
    List.filter_cons_of_pos (isTitleField_titleTag _), hrest]

theorem filter_cardTags (note : Note) : (cardTags note).filter isTitleField = [] := by
  have hbefore : ["<div class=\"note-card\">".toList, "<h3>".toList, "</h3>".toList, "<p>".toList,
      "</p>".toList, "<div class=\"actions\">".toList].filter isTitleField = [] := by cbv
  have hafter : ["</button>".toList, "</div>".toList,
      "</div>".toList].filter isTitleField = [] := by cbv
  rw [cardTags, List.filter_append, hbefore,
    List.filter_cons_of_neg (ne_true_of_eq_false (isTitleField_buttonTag note.id)), hafter]
  rfl

theorem filter_gridTags (listing : Listing) : (gridTags listing).filter isTitleField = [] := by
  cases listing with
  | placeholder => cbv
  | cards notes =>
    rw [gridTags, List.filter_flatMap, List.flatMap_eq_nil_iff]
    exact fun note _ => filter_cardTags note

/-- A page has one field for the title, and its value is the escaped title, whatever that holds. -/
theorem value?_titleField (p : Page) (form : Form) :
    ∃ tag, (tags (p.text form).toList).filter isTitleField = [tag] ∧
      value? "value" tag = some (escape form.title).toList := by
  refine ⟨titleTag form.title, ?_, by rw [value?, attribute?_titleTag, Option.map_some]⟩
  have hopening : (openingTags ++ boxTags "<div id=\"db-status\">").filter isTitleField = [] := by
    cbv
  have halert : (boxTags "<div class=\"alert\">").filter isTitleField = [] := by cbv
  have hgrid : isTitleField "<div id=\"notesGrid\">".toList = false := by cbv
  have hend : ["</div>".toList, "</div>".toList, "</body>".toList,
      "</html>".toList].filter isTitleField = [] := by cbv
  have halerts : (p.alerts.flatMap fun _ => boxTags "<div class=\"alert\">").filter
      isTitleField = [] := by
    rw [List.filter_flatMap, List.flatMap_eq_nil_iff]
    exact fun _ _ => halert
  rw [tags_text, tagsOf, List.filter_append, List.filter_append, List.filter_append,
    List.filter_append, hopening, halerts, filter_fieldTags,
    List.filter_cons_of_neg (ne_true_of_eq_false hgrid), filter_gridTags, hend]
  rfl

/-- What a page shows does not change its tags, other than in the value of the title's field, in
the ids of the buttons, and in how many boxes and cards there are. There is one field for the title,
and from its opening quotation mark to the next one stands the escaped title. -/
theorem tags_of_sameShape {p q : Page} (h : p.SameShape q) (form form' : Form) :
    (tags (p.text form).toList).map blank = (tags (q.text form').toList).map blank ∧
      ∃ tag, (tags (p.text form).toList).filter isTitleField = [tag] ∧
        value? "value" tag = some (escape form.title).toList :=
  ⟨map_blank_tags h form form', value?_titleField p form⟩

/-- Markup in the alerts, in the notes and in the form stands on the page as text. -/
theorem tags_of_sameShape_markup :
    let p : Page := ⟨.connected, .cards [⟨1, "<script>alert(1)</script>", "</p></div>"⟩], ["<br>"]⟩
    let q : Page := ⟨.offline, .cards [⟨-7, "Groceries", "Milk, eggs"⟩], ["Error: no reply"]⟩
    let form : Form := ⟨"\" autofocus>", "</textarea><form>"⟩
    (tags (p.text form).toList).map blank = (tags (q.text {}).toList).map blank ∧
      ∃ tag, (tags (p.text form).toList).filter isTitleField = [tag] ∧
        value? "value" tag = some "&quot; autofocus&gt;".toList := by
  intro p q form
  have htitle : "&quot; autofocus&gt;" = escape form.title := by cbv
  rw [htitle]
  exact tags_of_sameShape (p := p) (q := q) ⟨rfl, rfl⟩ form {}

end Page
end RemoteNotebook
