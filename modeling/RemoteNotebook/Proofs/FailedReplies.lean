import RemoteNotebook.Proofs.Runs

/-! Replies that report an error next to rows. A refresh shows the notes of every reply that has
some, so such a reply is shown as if it reported no error. -/
namespace RemoteNotebook

namespace Reply

def HasNote (r : Reply) : Prop := ∃ row ∈ r.rows.getD [], ∃ note, Note.ofRow? row = some note

theorem hasNote_iff (r : Reply) : r.HasNote ↔ r.notes ≠ [] := by
  constructor
  · rintro ⟨row, hrow, note, hnote⟩
    exact List.ne_nil_of_mem (List.mem_filterMap.mpr ⟨row, hrow, hnote⟩)
  · intro h
    obtain ⟨note, hnote⟩ := List.exists_mem_of_ne_nil _ h
    obtain ⟨row, hrow, hrow'⟩ := List.mem_filterMap.mp hnote
    exact ⟨row, hrow, note, hrow'⟩

end Reply

namespace Listing

theorem ofReply_eq_cards_iff (r : Reply) : ofReply r = .cards r.notes ↔ r.HasNote := by
  rw [r.hasNote_iff, ofReply]
  cases r.notes <;> simp [ofNotes]

theorem ofReply_eq_placeholder_iff (r : Reply) : ofReply r = .placeholder ↔ ¬r.HasNote := by
  rw [r.hasNote_iff, ofReply]
  cases r.notes <;> simp [ofNotes]

/-- What is described of the listing for a reply: it has the notes if no error is reported and there
is one, and it is the placeholder in every other case. -/
def AsDescribed (r : Reply) (shown : Listing) : Prop :=
  (shown = .cards r.notes ↔ r.isError = false ∧ r.HasNote) ∧
    (shown = .placeholder ↔ ¬(r.isError = false ∧ r.HasNote))

/-- The listing of a reply is as described but for the replies that have an error and notes. -/
theorem ofReply_asDescribed_iff (r : Reply) :
    AsDescribed r (ofReply r) ↔ ¬(r.isError = true ∧ r.HasNote) := by
  rw [AsDescribed, ofReply_eq_cards_iff, ofReply_eq_placeholder_iff]
  cases r.isError <;> simp

end Listing

namespace Session

/-- A refresh shows the notes of a reply if there are any, and this is as described exactly when
the reply does not have both an error and a note. -/
theorem refresh_shows {σ : Type} {S : Surface σ} {s : Session σ} (h : S.Reliable s.world.surface) :
    let outcome := s.world.outcomes s.world.sent
    let reply := outcome.reply
    ∃ shown : Listing, (s.take S (refresh s.table)).1 = .ok shown ∧
      (s.take S (refresh s.table)).2.log = s.log ++
        [⟨.send (.statement (.select s.table)), outcome⟩,
          ⟨.call (.setStatus outcome.connectivity), .ok ()⟩, ⟨.call (.showNotes shown), .ok ()⟩] ∧
      (shown = .cards reply.notes ↔ reply.HasNote) ∧
      (shown = .placeholder ↔ ¬reply.HasNote) ∧
      (Listing.AsDescribed reply shown ↔ ¬(reply.isError = true ∧ reply.HasNote)) := by
  intro outcome reply
  obtain ⟨hvalue, hlog⟩ := take_refresh h (rfl : _ = outcome)
  exact ⟨_, hvalue, hlog, Listing.ofReply_eq_cards_iff reply,
    Listing.ofReply_eq_placeholder_iff reply, Listing.ofReply_asDescribed_iff reply⟩

def lockedBody : Json :=
  .obj [("error", .str "Table is locked"), ("rows", .arr [.arr [.int 1, .str "a", .str "b"]])]

theorem refresh_shows_locked :
    Page.surface.Reliable (pageSession lockedBody).world.surface ∧
    ∃ shown : Listing, ((pageSession lockedBody).take Page.surface (refresh "notes")).1 = .ok shown ∧
      ¬Listing.AsDescribed (.ofJson lockedBody) shown := by
  have hpage : Page.surface.Reliable (pageSession lockedBody).world.surface :=
    Surface.page_reliable _
  have hnote : (Reply.ofJson lockedBody).HasNote :=
    ⟨[.int 1, .str "a", .str "b"], .head _, ⟨1, "a", "b"⟩, rfl⟩
  obtain ⟨shown, hvalue, -, -, -, hiff⟩ := refresh_shows hpage
  exact ⟨hpage, shown, hvalue, fun hd => hiff.mp hd ⟨rfl, hnote⟩⟩

/-- The notes of a reply are shown although it reports an error. -/
theorem refresh_shows_cards_with_error :
    (Reply.ofJson lockedBody).isError = true ∧
      ((pageSession lockedBody).take Page.surface (refresh "notes")).1 =
        .ok (.cards [⟨1, "a", "b"⟩]) :=
  ⟨rfl, rfl⟩

end Session
end RemoteNotebook
