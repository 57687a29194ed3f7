import RemoteNotebook.Proofs.Completion

/-! Fresh listings. Whatever may have changed the notes is followed by one query for all of them,
and what is shown is the listing of the reply to this query. -/
namespace RemoteNotebook

theorem Listing.ofReply_ne_cards_nil (r : Reply) : ofReply r ≠ .cards [] := by
  rw [ofReply]
  cases r.notes <;> simp [ofNotes]

namespace Session

/-- The queries are these and then one for all notes, and the listing of its reply is all that is
shown. -/
def ListsAfter (table : String) (own : List (Sql.Query × Outcome)) (events : List Event) : Prop :=
  ∃ listed, exchanges events = own ++ [(.statement (.select table), listed)] ∧
    listings events = [.ofReply listed.reply]

def ListsNothing (own : List (Sql.Query × Outcome)) (events : List Event) : Prop :=
  exchanges events = own ∧ listings events = []

/-- The note in a form is sent, and the notes are listed unless it is rejected. -/
def ListsIfStored (table : String) (form : Form) (events : List Event) : Prop :=
  ∃ id inserted,
    let own := [(.statement (.insert table ⟨id, form.title, form.content⟩), inserted)]
    if inserted.reply.isError then ListsNothing own events else ListsAfter table own events

def Action.Lists (table : String) (form : Form) (events : List Event) : Action → Prop
  | .start => ∃ created, ListsAfter table [(.statement (.createTable table), created)] events
  | .refresh => ListsAfter table [] events
  | .submit => ListsIfStored table form events
  | .create title content => ListsIfStored table ⟨title, content⟩ events
  | .delete id => ∃ agreed,
    events.head? = some ⟨.call (.confirm deletePrompt), .ok agreed⟩ ∧
    if agreed then
      ∃ deleted, ListsAfter table [(.statement (.delete table id), deleted)] events
    else ListsNothing [] events
  | .runSql text => ∃ outcome, ListsNothing [(.raw text, outcome)] events
  | .setForm _ => ListsNothing [] events

/-- The outcomes of the queries for all notes that actions send. Text that is sent as it was given
is none of these. -/
def listedOutcomes (table : String) (events : List Event) : List Outcome :=
  (exchanges events).filterMap fun x =>
    if x.1 = .statement (.select table) then some x.2 else none

variable {σ : Type} {table : String} {form form' : Form} {events : List Event}

theorem listsIfStored_of_completes {result : Result}
    (h : Action.Completes table .submit form events result form') :
    ListsIfStored table form events := by
  cases h with
  | stored _ id inserted listed hnone =>
    have hok : inserted.reply.isError = false := by simp [Reply.isError, hnone]
    refine ⟨id, inserted, ?_⟩
    simp only [hok, Bool.false_eq_true, if_false]
    exact ⟨listed, rfl, rfl⟩
  | rejected _ id inserted error hsome =>
    have herror : inserted.reply.isError = true := by simp [Reply.isError, hsome]
    refine ⟨id, inserted, ?_⟩
    simp only [herror, if_true]
    exact ⟨rfl, rfl⟩

theorem Action.Completes.lists {a : Action} {result : Result}
    (h : a.Completes table form events result form') : a.Lists table form events := by
  cases h with
  | start _ created listed => exact ⟨created, listed, rfl, rfl⟩
  | refresh _ listed => exact ⟨listed, rfl, rfl⟩
  | stored _ id inserted listed hnone =>
    exact listsIfStored_of_completes (.stored form id inserted listed hnone)
  | rejected _ id inserted error hsome =>
    exact listsIfStored_of_completes (.rejected form id inserted error hsome)
  | create _ _ _ _ _ _ hsubmit => exact listsIfStored_of_completes hsubmit
  | deleted _ id deleted listed => exact ⟨true, rfl, deleted, listed, rfl, rfl⟩
  | declined _ id => exact ⟨false, rfl, rfl, rfl⟩
  | ran _ text outcome => exact ⟨outcome, rfl, rfl⟩
  | filled => exact ⟨rfl, rfl⟩

/-- What an action shows are the listings of the replies to its queries for all notes. -/
theorem Action.Completes.listings_eq {a : Action} {result : Result}
    (h : a.Completes table form events result form') :
    listings events = (listedOutcomes table events).map fun o => .ofReply o.reply := by
  induction h with
  | create _ _ _ _ _ _ _ ih => exact ih
  | _ => simp [listedOutcomes, tripEvents, refreshEvents]

theorem listedOutcomes_append (es fs : List Event) :
    listedOutcomes table (es ++ fs) = listedOutcomes table es ++ listedOutcomes table fs := by
  rw [listedOutcomes, exchanges_append, List.filterMap_append]
  rfl

theorem listings_historyEvents {ps : List Performed}
    (h : ∀ p ∈ ps, listings p.events =
      (listedOutcomes table p.events).map fun o => .ofReply o.reply) :
    listings (historyEvents ps) =
      (listedOutcomes table (historyEvents ps)).map fun o => .ofReply o.reply := by
  refine historyEvents_congr (g := fun es => (listedOutcomes table es).map fun o => .ofReply o.reply)
    listings_append (fun es fs => ?_) h
  rw [listedOutcomes_append, List.map_append]

def ShowsNoEmptyCards (e : Event) : Prop := listing? e ≠ some (.cards [])

theorem step_showsNoEmptyCards (table : String) (a : Action) :
    Dialogue.Always (fun events => ∀ e ∈ events, ShowsNoEmptyCards e) (a.step table) := by
  refine (FullyCompositional.of_events ?_ ?_ ?_ ?_ ?_ ?_ ?_).step table a
  · simp
  · intro es fs hes hfs
    exact List.forall_mem_append.mpr ⟨hes, hfs⟩
  · simp [tripEvents, ShowsNoEmptyCards, listing?]
  · simp [ShowsNoEmptyCards, listing?]
  · simp [ShowsNoEmptyCards, listing?, Listing.ofReply_ne_cards_nil]
  · simp [ShowsNoEmptyCards, listing?]
  · simp [ShowsNoEmptyCards, listing?]

theorem cards_nil_not_mem_listings (S : Surface σ) (s : Session σ) (as : List Action) :
    .cards [] ∉ listings (historyEvents (s.history S as)) := by
  intro hmem
  obtain ⟨e, he, hlisting⟩ := List.mem_filterMap.mp hmem
  obtain ⟨p, hp, hep⟩ := List.mem_flatMap.mp he
  exact step_showsNoEmptyCards s.table p.action (history_yields hp) e hep hlisting

/-- Over a run on a surface that fails no call, everything that may change the notes is followed by
one query for all notes, whose reply is listed; a rejected note, a declined deletion and text that
is sent as it was given are not. The replies are those to come in order. So what is shown last
depends on the reply to the last of these queries alone, and no surface is shown an empty list of
cards. -/
theorem performAll_lists {S : Surface σ} {s : Session σ} (hS : S.Reliable s.world.surface)
    (as : List Action) :
    let log := historyEvents (s.history S as)
    (s.performAll S as).2.log = s.log ++ log ∧
    (∀ p ∈ s.history S as, p.action.Lists s.table p.before p.events) ∧
    (exchanges log).map (·.2) =
      (List.range' s.world.sent (exchanges log).length).map s.world.outcomes ∧
    listings log = (listedOutcomes s.table log).map (fun o => .ofReply o.reply) ∧
    (listings log).getLast? =
      (listedOutcomes s.table log).getLast?.map (fun o => .ofReply o.reply) ∧
    ∀ {τ : Type} (T : Surface τ) (t : Session τ),
      .cards [] ∉ listings (historyEvents (t.history T as)) := by
  intro log
  have hlistings : listings log = (listedOutcomes s.table log).map (fun o => .ofReply o.reply) := by
    apply listings_historyEvents
    intro p hp
    obtain ⟨result, -, hcompletes⟩ := history_completes hS hp
    exact hcompletes.listings_eq
  refine ⟨performAll_log s as, ?_, (history_consumes s as).2.2, hlistings, ?_, ?_⟩
  · intro p hp
    obtain ⟨result, -, hcompletes⟩ := history_completes hS hp
    exact hcompletes.lists
  · rw [hlistings, List.getLast?_map]
  · intro τ T t
    exact cards_nil_not_mem_listings T t as

/-- A note is created, a deletion is declined and all notes are asked for in the user's own words:
what is shown last is the listing that came with the creation. -/
theorem performAll_lists_page :
    let s := pageSession (.obj [("rows", .arr [.arr [.int 1, .str "a", .str "b"]])])
    let as : List Action :=
      [.start, .create "t" "c", .delete 1, .runSql "SELECT * FROM notes;"]
    Page.surface.Reliable s.world.surface ∧
      (exchanges (historyEvents (s.history Page.surface as))).length = 5 ∧
      (listings (historyEvents (s.history Page.surface as))).getLast? =
        some (.cards [⟨1, "a", "b"⟩]) := by
  intro s as
  have hpage : Page.surface.Reliable s.world.surface := Surface.page_reliable _
  obtain ⟨-, -, -, -, hlast, -⟩ := performAll_lists hpage as
  exact ⟨hpage, by decide +kernel, hlast.trans (by decide +kernel)⟩

end Session
end RemoteNotebook
