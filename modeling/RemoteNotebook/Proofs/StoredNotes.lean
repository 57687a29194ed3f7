import RemoteNotebook.Proofs.Numerals
import RemoteNotebook.Proofs.Quoting
import RemoteNotebook.Proofs.Runs

/-! Notes that were stored are read back as they were, whatever their texts are and whatever other
rows the database returns among theirs. -/
namespace RemoteNotebook
open Sql.Literal

namespace Note

inductive IdCell (id : Int64) : Json → Prop
  | number : IdCell id (.int id.toInt)
  | text : IdCell id (.str (Decimal.int id.toInt))

theorem IdCell.cellId? {id : Int64} {cell : Json} (h : IdCell id cell) :
    Note.cellId? cell = some id := by
  cases h with
  | number => exact Decimal.toInt64?_toInt id
  | text =>
    rw [Note.cellId?, Decimal.int, String.toList_ofList, Decimal.trimBlanks_intChars]
    exact Decimal.int64?_intChars id

/-- A row that stores a note. Cells behind the first three do not matter. -/
inductive StoredIn (note : Note) : Json → Prop
  | row {id : Json} (h : IdCell note.id id) (more : List Json) :
    StoredIn note (.arr (id :: .str (stored note.title) :: .str (stored note.content) :: more))

theorem StoredIn.ofRow? {note : Note} {row : Json} (h : note.StoredIn row) :
    Note.ofRow? (Reply.rowOf row) = some note := by
  cases h with
  | row h more =>
    simp only [Reply.rowOf, Note.ofRow?, h.cellId?, Note.cellText, unescape_stored,
      Option.map_some]

def IsId : Json → Prop
  | .int i => Int64.minValue.toInt ≤ i ∧ i ≤ Int64.maxValue.toInt
  | .str s => ∃ id, Decimal.int64? (Text.trimBlanks s.toList) = some id
  | _ => False

theorem cellId?_eq_none {cell : Json} (h : ¬IsId cell) : cellId? cell = none := by
  cases cell with
  | int i => exact if_neg h
  | str s => exact Option.eq_none_iff_forall_ne_some.mpr fun id hid => h ⟨id, hid⟩
  | _ => rfl

/-- A row that is no note: no array, or one with less than three cells or without an id. -/
inductive Unreadable : Json → Prop
  | single {v : Json} (h : ∀ cells, v ≠ .arr cells) : Unreadable v
  | short {cells : List Json} (h : cells.length < 3) : Unreadable (.arr cells)
  | noId {id : Json} {cells : List Json} (h : ¬IsId id) : Unreadable (.arr (id :: cells))

theorem rowOf_eq_singleton {v : Json} (h : ∀ cells, v ≠ .arr cells) : Reply.rowOf v = [v] := by
  cases v with
  | arr cells => exact absurd rfl (h cells)
  | _ => rfl

theorem ofRow?_of_length_lt {cells : List Json} (h : cells.length < 3) : ofRow? cells = none := by
  match cells, h with
  | [], _ => rfl
  | [_], _ => rfl
  | [_, _], _ => rfl

theorem Unreadable.ofRow? {row : Json} (h : Unreadable row) :
    Note.ofRow? (Reply.rowOf row) = none := by
  cases h with
  | single h =>
    rw [rowOf_eq_singleton h]
    rfl
  | short h => exact ofRow?_of_length_lt h
  | @noId id cells h =>
    match cells with
    | [] | [_] => rfl
    | title :: content :: more => simp [Reply.rowOf, Note.ofRow?, cellId?_eq_none h]

/-- Rows that store some notes in order, with rows that are no notes anywhere among them. -/
inductive AllStoredIn : List Note → List Json → Prop
  | nil : AllStoredIn [] []
  | stored {note : Note} {notes : List Note} {row : Json} {rows : List Json}
    (h : note.StoredIn row) (hs : AllStoredIn notes rows) :
    AllStoredIn (note :: notes) (row :: rows)
  | skipped {notes : List Note} {row : Json} {rows : List Json}
    (h : Unreadable row) (hs : AllStoredIn notes rows) : AllStoredIn notes (row :: rows)

theorem AllStoredIn.filterMap {notes : List Note} {rows : List Json}
    (h : AllStoredIn notes rows) : (rows.map Reply.rowOf).filterMap ofRow? = notes := by
  induction h with
  | nil => rfl
  | stored h _ ih => rw [List.map_cons, List.filterMap_cons, h.ofRow?, ih]
  | skipped h _ ih => rw [List.map_cons, List.filterMap_cons, h.ofRow?, ih]

end Note

theorem Reply.notes_ofJson {body : Json} {rows : List Json}
    (h : body.get? "rows" = some (.arr rows)) :
    (Reply.ofJson body).notes = (rows.map rowOf).filterMap Note.ofRow? := by
  simp [Reply.notes, Reply.ofJson, h, Json.arr?]

theorem Listing.ofNotes_eq (notes : List Note) :
    ofNotes notes = if notes = [] then placeholder else cards notes := by
  cases notes <;> rfl

namespace Session

/-- Stored notes come back as they were, in order, and a refresh shows them. -/
theorem refresh_stored {members : List (String × Json)} {rows : List Json} {notes : List Note}
    (hrows : (Json.obj members).get? "rows" = some (.arr rows))
    (hstored : Note.AllStoredIn notes rows) :
    (Reply.ofJson (.obj members)).notes = notes ∧
    ∀ {σ : Type} (S : Surface σ) (s : Session σ), S.Reliable s.world.surface →
      s.world.outcomes s.world.sent = .connected (.ofJson (.obj members)) →
      let shown : Listing := if notes = [] then .placeholder else .cards notes
      (s.take S (refresh s.table)).1 = .ok shown ∧
      (s.take S (refresh s.table)).2.log = s.log ++
        [⟨.send (.statement (.select s.table)), .connected (.ofJson (.obj members))⟩,
          ⟨.call (.setStatus .connected), .ok ()⟩, ⟨.call (.showNotes shown), .ok ()⟩] := by
  have hnotes : (Reply.ofJson (.obj members)).notes = notes := by
    rw [Reply.notes_ofJson hrows, hstored.filterMap]
  refine ⟨hnotes, ?_⟩
  intro σ S s hS houtcome shown
  have hshown : Listing.ofReply (.ofJson (.obj members)) = shown := by
    rw [Listing.ofReply, hnotes, Listing.ofNotes_eq]
  have htake := take_refresh hS houtcome
  rwa [refreshEvents, Outcome.connected, hshown] at htake

/-- Two stored notes, the first with the least id, among rows that are no notes. -/
theorem refresh_stored_sample :
    let rows : List Json :=
      [.arr [.null, .str "short"], .arr [.int Int64.minValue.toInt, .str "it\\'s", .str "\\\\", .null],
        .bool true, .arr [.str "7", .str "", .str "a"], .arr [.str "1.0", .str "t", .str "c"]]
    let notes : List Note := [⟨Int64.minValue, "it's", "\\"⟩, ⟨7, "", "a"⟩]
    let body := Json.obj [("rows", .arr rows)]
    let s := pageSession body
    body.get? "rows" = some (.arr rows) ∧ Note.AllStoredIn notes rows ∧
      Page.surface.Reliable s.world.surface ∧ (Reply.ofJson body).notes = notes ∧
      (s.take Page.surface (refresh "notes")).1 = .ok (.cards notes) := by
  intro rows notes body s
  have hfirst : Note.StoredIn ⟨Int64.minValue, "it's", "\\"⟩
      (.arr [.int Int64.minValue.toInt, .str "it\\'s", .str "\\\\", .null]) := by
    have htitle : stored "it's" = "it\\'s" := by decide
    have hcontent : stored "\\" = "\\\\" := by decide
    rw [← htitle, ← hcontent]
    exact .row .number [.null]
  have hsecond : Note.StoredIn ⟨7, "", "a"⟩ (.arr [.str "7", .str "", .str "a"]) := by
    have hdigits : Decimal.natDigits 7 = ['7'] := by
      rw [Decimal.natDigits]
      rfl
    have hid : Decimal.int (7 : Int64).toInt = "7" :=
      congrArg String.ofList ((if_neg (by decide)).trans hdigits)
    have htitle : stored "" = "" := by decide
    have hcontent : stored "a" = "a" := by decide
    have hrow : Note.StoredIn ⟨7, "", "a"⟩ (.arr [.str (Decimal.int (7 : Int64).toInt),
        .str (stored ""), .str (stored "a")]) := .row .text []
    rwa [hid, htitle, hcontent] at hrow
  have hdouble : ¬Note.IsId (.str "1.0") := by
    have hnone : Decimal.int64? (Text.trimBlanks "1.0".toList) = none := by decide
    rintro ⟨id, hid⟩
    cases hnone.symm.trans hid
  have hstored : Note.AllStoredIn notes rows :=
    .skipped (.short (by decide)) <| .stored hfirst <| .skipped (.single (by simp)) <|
      .stored hsecond <| .skipped (.noId hdouble) .nil
  have hrows : body.get? "rows" = some (.arr rows) := rfl
  have hpage : Page.surface.Reliable s.world.surface := Surface.page_reliable _
  have h := refresh_stored hrows hstored
  exact ⟨hrows, hstored, hpage, h.1, (h.2 Page.surface s hpage rfl).1⟩

end Session
end RemoteNotebook
