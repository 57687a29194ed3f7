import RemoteNotebook.Exchange.Message
import RemoteNotebook.Proofs.Exchanges
import RemoteNotebook.Proofs.JsonWriting

/-! The texts that go over the wire carry what is written in them: a query is sent as an object
whose one member is the statement, and notes and queries are read as they were written. -/
namespace RemoteNotebook

namespace Json

theorem plain_query (sql : String) : Plain depthLimit (.obj [("sql", .str sql)]) :=
  .obj (by simpa using Plain.str sql) (List.pairwise_singleton _ _)

end Json

namespace Exchange

/-- The body of a request is read as an object with the statement under its only key. -/
theorem parse?_body (endpoint : Endpoint) (sql : String) :
    Json.parse? (request endpoint sql).body = some (.obj [("sql", .str sql)]) := by
  rw [request, Wire.encodeQuery, Json.compactMembers_eq]
  exact Json.parse?_compact (Json.plain_query sql)

/-- Different statements are sent in different bodies, wherever they are sent. -/
theorem body_eq_iff {endpoint endpoint' : Endpoint} {sql sql' : String} :
    (request endpoint sql).body = (request endpoint' sql').body ↔ sql = sql' := by
  constructor
  · intro h
    rw [request, request, Wire.encodeQuery, Wire.encodeQuery, Json.compactMembers_eq,
      Json.compactMembers_eq] at h
    simpa using Json.compact_injective (Json.plain_query sql) (Json.plain_query sql') h
  · rintro rfl
    rfl

theorem contentType_request (endpoint : Endpoint) (sql : String) :
    (request endpoint sql).contentType = "application/json" := by
  rw [Request.contentType, request]
  cases login? endpoint <;> rfl

end Exchange

theorem Wire.decodeQuery?_encodeQuery (sql : String) :
    decodeQuery? (encodeQuery sql) = some sql := by
  have hread : Json.Record.parse? ["sql"] .ignore (encodeQuery sql) = some [("sql", .str sql)] :=
    Json.Record.parse?_compactMembers (by simp) (by simp) (by simpa using Json.Plain.str sql)
  rw [decodeQuery?, hread]
  rfl

theorem Note.decode?_encode (n : Note) : decode? n.encode = some n := by
  have hread : Json.Record.parse? ["id", "title", "content"] .ignore n.encode = some n.members :=
    Json.Record.parse?_compactMembers (by simp [members]) (by simp [members])
      (by simpa [members] using ⟨Json.Plain.int64 n.id, .str n.title, .str n.content⟩)
  rw [decode?, hread]
  simp [members, Wire.int64?, Wire.text?, Json.lookup_cons_if, Json.int64?, Json.str?,
    Decimal.toInt64?_toInt]

/-- Whatever the characters of a statement, it is posted where a request can be written and is taken,
and nowhere else, and only an answer that names another place can make it be posted again, in the
same body. That body is read as an object whose only member is the statement, and the bytes of the
request end in the bytes of it. No two statements have the same body. Queries and notes, stored or
new, are read as they were written. -/
theorem Wire.written_reads (endpoint : Endpoint) (sql : String) (n : Note) :
    let r := Exchange.request endpoint sql
    (Exchange.isWritable endpoint = true → ∀ answer later, answer.arrives = true →
      ∃ moved, (Exchange.perform endpoint sql answer later).1 = r :: moved ∧
        (answer.location? = none → moved = []) ∧
        ∀ sent ∈ moved, (sent.method = "POST" ∧ sent.body = r.body) ∨
          (sent.method = "GET" ∧ sent.body = "")) ∧
      (∀ answer later, Exchange.isWritable endpoint = false ∨ answer = .refused →
        (Exchange.perform endpoint sql answer later).1 = []) ∧
      (r.method = "POST" ∧ r.contentType = "application/json") ∧
      Json.parse? r.body = some (.obj [("sql", .str sql)]) ∧
      (∀ host, ∃ body, body <:+ r.bytes host ∧
        (Text.Utf8.decode body).map String.ofList = some r.body) ∧
      (∀ endpoint' sql', r.body = (Exchange.request endpoint' sql').body ↔ sql = sql') ∧
      decodeQuery? (encodeQuery sql) = some sql ∧ Note.decode? n.encode = some n := by
  intro r
  refine ⟨fun hwritable answer later harrives => ?_, ?_,
    ⟨rfl, Exchange.contentType_request endpoint sql⟩, Exchange.parse?_body endpoint sql,
    fun host => ?_, fun _ _ => Exchange.body_eq_iff, decodeQuery?_encodeQuery sql,
    Note.decode?_encode n⟩
  · exact Exchange.perform_posts hwritable sql harrives later
  · rintro answer later (hwritable | rfl)
    · rw [Exchange.perform_of_not_writable hwritable]
    · exact Exchange.perform_of_refused endpoint sql later
  · refine ⟨Text.Utf8.encode r.body.toList, List.suffix_append _ _, ?_⟩
    rw [Text.Utf8.decode_encode, Option.map_some, String.ofList_toList]

/-- A statement with a quote, a backslash, a line separator and a clef is posted once to an endpoint
with a user, and once more where the answer says that it should be. -/
theorem Wire.written_reads_clef :
    let sql := "\"\\\u2028𝄞"
    let found := Exchange.Answer.answered 200 [123, 125]
    let moved := Exchange.Answer.answered 308 [] (some (Text.Utf8.encode "/notes".toList))
    ∃ endpoint, (Endpoint.parse "http://u:p@[::1]:8081/query").toOption = some endpoint ∧
      Exchange.isWritable endpoint = true ∧
      (Exchange.perform endpoint sql found).1 = [Exchange.request endpoint sql] ∧
      (Exchange.request endpoint sql).body = "\x7b\"sql\":\"\\\"\\\\\u2028𝄞\"\x7d" ∧
      ∃ again, (Exchange.perform endpoint sql moved fun _ => found).1 =
        [Exchange.request endpoint sql, again] ∧ again.target = "/notes" ∧
        again.method = "POST" ∧ again.body = (Exchange.request endpoint sql).body := by
  intro sql found moved
  let endpoint : Endpoint :=
    { Settings.defaultEndpoint with
      username := "u", password := "p", host := some (.ipv6 [0, 0, 0, 0, 0, 0, 0, 1]) }
  have hendpoint : (Endpoint.parse "http://u:p@[::1]:8081/query").toOption = some endpoint := by
    decide +kernel
  have hwritable : Exchange.isWritable endpoint = true := by decide +kernel
  obtain ⟨hposts, -⟩ := written_reads endpoint sql ⟨0, "", ""⟩
  obtain ⟨others, hfound, hothers, -⟩ := hposts hwritable found (fun _ => .refused) rfl
  obtain ⟨others', hmoved, -, hbodies⟩ := hposts hwritable moved (fun _ => found) rfl
  have hagain : others'.map (fun r => (r.target, r.method)) = [("/notes", "POST")] := by
    have hsent : ((Exchange.perform endpoint sql moved fun _ => found).1.drop 1).map
        (fun r => (r.target, r.method)) = [("/notes", "POST")] := by decide +kernel
    rwa [hmoved] at hsent
  obtain ⟨again, rfl, hrequest⟩ := List.map_eq_singleton_iff.mp hagain
  obtain ⟨htarget, hmethod⟩ : again.target = "/notes" ∧ again.method = "POST" := by
    simpa using hrequest
  have hbody : again.body = (Exchange.request endpoint sql).body := by
    rcases hbodies again (List.mem_singleton_self again) with ⟨-, hbody⟩ | ⟨hget, -⟩
    · exact hbody
    · simp [hmethod] at hget
  refine ⟨endpoint, hendpoint, hwritable, ?_, by decide +kernel, again, hmoved, htarget, hmethod,
    hbody⟩
  rw [hfound, hothers rfl]

end RemoteNotebook
