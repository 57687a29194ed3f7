import RemoteNotebook.Proofs.FreshListing
import RemoteNotebook.Proofs.StatusLine

/-! The page that a run leaves. It is told by the queries of the run and their outcomes: the last
outcome gives the status, the last query for all notes gives the listing, and each note that was
rejected gives an alert. -/
namespace RemoteNotebook

namespace Call

def listing? : Call → Option Listing
  | showNotes listing => some listing
  | _ => none

def message? : Call → Option String
  | alert message => some message
  | _ => none

end Call

/-- A page keeps the status and the listing that came last, and all alerts. -/
theorem Surface.page_after (p : Page) (cs : List Call) :
    Page.surface.after cs p =
      ⟨((cs.filterMap Call.status?).getLast?).getD p.status,
        ((cs.filterMap Call.listing?).getLast?).getD p.listing,
        p.alerts ++ cs.filterMap Call.message?⟩ := by
  induction cs generalizing p with
  | nil => exact congrArg (Page.mk p.status p.listing) (List.append_nil _).symm
  | cons c cs ih =>
    have hrest : Page.surface.after (c :: cs) p = Page.surface.after cs (Page.surface c p).2 := rfl
    rw [hrest, ih]
    cases c with
    | setStatus status =>
      simp [List.filterMap_cons, Page.surface, Call.status?, Call.listing?, Call.message?,
        List.getLast?_cons]
    | showNotes listing =>
      simp [List.filterMap_cons, Page.surface, Call.status?, Call.listing?, Call.message?,
        List.getLast?_cons]
    | alert message =>
      simp [List.filterMap_cons, Page.surface, Call.status?, Call.listing?, Call.message?]
    | confirm prompt => rfl

namespace Session

variable {table : String} {form form' : Form} {events : List Event}

def alerts (events : List Event) : List String := (calls events).filterMap Call.message?

def rejected? : Sql.Query × Outcome → Option String
  | (.statement (.insert _ _), outcome) => outcome.reply.error.map rejection
  | _ => none

def rejections (events : List Event) : List String := (exchanges events).filterMap rejected?

theorem filterMap_listing? (events : List Event) :
    (calls events).filterMap Call.listing? = listings events := by
  rw [calls, List.filterMap_filterMap, listings]
  refine congrArg (List.filterMap · events) (funext fun e => ?_)
  obtain ⟨q, answer⟩ := e
  cases q with
  | send query => rfl
  | newId => rfl
  | call c => cases c <;> rfl

theorem alerts_append (es fs : List Event) : alerts (es ++ fs) = alerts es ++ alerts fs := by
  rw [alerts, calls_append, List.filterMap_append]
  rfl

theorem rejections_append (es fs : List Event) :
    rejections (es ++ fs) = rejections es ++ rejections fs := by
  rw [rejections, exchanges_append, List.filterMap_append]
  rfl

/-- An action alerts for the note that it sent, if it was rejected, and for nothing else. -/
theorem Action.Completes.alerts_eq {a : Action} {result : Result}
    (h : a.Completes table form events result form') : alerts events = rejections events := by
  induction h with
  | stored _ _ inserted listed hnone =>
    simp [rejections, rejected?, tripEvents, refreshEvents, hnone]
    rfl
  | rejected _ _ inserted error hsome =>
    simp [rejections, rejected?, tripEvents, hsome]
    rfl
  | create _ _ _ _ _ _ _ ih => exact ih
  | _ => rfl

theorem alerts_historyEvents {s : Session Page} (as : List Action) :
    let log := historyEvents (s.history Page.surface as)
    alerts log = rejections log := by
  refine historyEvents_congr alerts_append rejections_append fun p hp => ?_
  obtain ⟨result, -, hcompletes⟩ := history_completes (Surface.page_reliable _) hp
  exact hcompletes.alerts_eq

theorem performing_delete_page (s : Session Page) (id : Int64) :
    s.performing Page.surface (.delete id) =
      ⟨.delete id, s.form, .ok (.done false), [⟨.call (.confirm deletePrompt), .ok false⟩],
        s.form⟩ := rfl

end Session

/-- The page that some events of a session leave of a new one. -/
def Page.ofEvents (table : String) (events : List Session.Event) : Page where
  status := ((Session.exchanges events).getLast?.map fun x => x.2.connectivity).getD .unknown
  listing := ((Session.listedOutcomes table events).getLast?.map fun o => .ofReply o.reply).getD
    .placeholder
  alerts := Session.rejections events

namespace Session

theorem performAll_surface_page {s : Session Page} (hs : s.world.surface = {})
    (as : List Action) :
    (s.performAll Page.surface as).2.world.surface =
      .ofEvents s.table (historyEvents (s.history Page.surface as)) := by
  have hpage : Page.surface.Reliable s.world.surface := Surface.page_reliable _
  have hlistings : listings (historyEvents (s.history Page.surface as)) =
      (listedOutcomes s.table (historyEvents (s.history Page.surface as))).map
        fun o => .ofReply o.reply := by
    refine listings_historyEvents fun p hp => ?_
    obtain ⟨result, -, hcompletes⟩ := history_completes hpage hp
    exact hcompletes.listings_eq
  have hstatuses := statuses_eq (history_inStep (S := Page.surface) s as)
  rw [performAll_surface, hs, Surface.page_after, Page.ofEvents, ← statuses, hstatuses,
    filterMap_listing?, hlistings, ← alerts, alerts_historyEvents, List.getLast?_map,
    List.getLast?_map]
  rfl

/-- Whatever is done in a session on a new page, no action fails and no deletion is sent. The page
in the end is told by the run: its status is the connectivity of the last query, its listing is
that of the last query for all notes, and it alerts for each note that was rejected, in order. -/
theorem performAll_page {s : Session Page} (hs : s.world.surface = {}) (as : List Action) :
    let ps := s.history Page.surface as
    let log := historyEvents ps
    let final := (s.performAll Page.surface as).2
    (final.log = s.log ++ log ∧ (s.performAll Page.surface as).1 = ps.map (·.result)) ∧
    (∀ p ∈ ps, (∃ result, p.result = .ok result) ∧ p.action.Lists s.table p.before p.events ∧
      ∀ id, p.action = .delete id → p.result = .ok (.done false) ∧ exchanges p.events = []) ∧
    final.world.surface.text final.form = (Page.ofEvents s.table log).text final.form := by
  intro ps log final
  refine ⟨⟨performAll_log s as, performAll_results s as⟩, fun p hp => ?_, ?_⟩
  · obtain ⟨result, hresult, hcompletes⟩ := history_completes (Surface.page_reliable _) hp
    refine ⟨⟨result, hresult⟩, hcompletes.lists, ?_⟩
    refine history_induction (S := Page.surface) (P := fun p => ∀ id, p.action = .delete id →
      p.result = .ok (.done false) ∧ exchanges p.events = []) ?_ rfl as p hp
    rintro a s' - id rfl
    rw [performing_delete_page]
    exact ⟨rfl, rfl⟩
  · exact congrArg (Page.text · final.form) (performAll_surface_page hs as)

/-- A note that is rejected gives an alert and stays in the form. A query that is typed does not
change what is listed, but the status. -/
theorem performAll_page_rejected :
    let as : List Action := [.start, .create "t" "c", .delete 5, .runSql "SELECT * FROM notes;"]
    let s : Session Page := ⟨"notes", {}, ⟨{}, fun _ => 7, fun n =>
      if n = 0 then .connected (.failed "Table exists")
      else if n = 1 then .connected { rows := some [[.int 1, .str "a", .str "b"]] }
      else if n = 2 then .connected (.failed "Duplicate key")
      else .offline, 0, 0⟩, []⟩
    let final := (s.performAll Page.surface as).2
    final.world.surface.text final.form =
      Page.text ⟨.offline, .cards [⟨1, "a", "b"⟩], ["Error: Duplicate key"]⟩ ⟨"t", "c"⟩ := by
  intro as s final
  obtain ⟨-, -, hpage⟩ := performAll_page (s := s) rfl as
  have hevents : Page.ofEvents s.table (historyEvents (s.history Page.surface as)) =
      ⟨.offline, .cards [⟨1, "a", "b"⟩], ["Error: Duplicate key"]⟩ := by decide +kernel
  have hform : final.form = ⟨"t", "c"⟩ := by decide +kernel
  rw [hpage, hevents, hform]

end Session
end RemoteNotebook
