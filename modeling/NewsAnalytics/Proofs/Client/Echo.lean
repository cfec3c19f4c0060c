import NewsAnalytics.Proofs.Client.Reachable
import NewsAnalytics.Proofs.Client.SentQuery
import NewsAnalytics.Proofs.Json.Reader
import NewsAnalytics.Proofs.Query.Required
import NewsAnalytics.Proofs.Text.Utf8

/-!
# Bodies that come back

The body of a query is an object of texts, truth values and integers of a
machine word, so its written form says all there is to say about it. What
a server receives is read to the same value, and a server that sends the
text back makes the dispatch answer with the body of its request.

## Main results

* `isExact_of_toRequest` — the body of a query is exact.
* `Client.echo_of_mem_sent` — the body that arrives, and the answer to an
  echo.
-/

namespace NewsAnalytics

open Json

/-! ## Bodies of queries -/

theorem isExact_numberValue (n : Option Int64) : IsExact 126 (Query.numberValue n) := by
  cases n with
  | none => exact .null 126
  | some n =>
      have hLow := n.le_toInt
      have hHigh := n.toInt_lt
      exact .int 126 ⟨by omega, by omega⟩

theorem isExact_textValue (s : Option String) : IsExact 126 (Query.textValue s) := by
  cases s with
  | none => exact .null 126
  | some s => exact .str 126 s

theorem ArticlesQuery.isExact_entries (q : ArticlesQuery) (filters : String) :
    ∀ e ∈ q.entries filters, IsExact 126 e.2 := by
  simp only [entries, List.forall_mem_cons]
  exact ⟨.str 126 _, isExact_numberValue _, isExact_numberValue _, isExact_textValue _, .str 126 _,
    .bool 126 _, isExact_textValue _, isExact_numberValue _, .bool 126 _, by simp⟩

theorem StatsQuery.isExact_entries (q : StatsQuery) (filters : String) :
    ∀ e ∈ q.entries filters, IsExact 126 e.2 := by
  simp only [entries, List.forall_mem_cons]
  exact ⟨.str 126 _, isExact_numberValue _, isExact_numberValue _, isExact_textValue _, .str 126 _,
    .str 126 _, .bool 126 _, isExact_textValue _, isExact_numberValue _, by simp⟩

/-- A body of exact entries is exact. -/
theorem Request.Body.isExact_ofEntries {entries : List (String × Json)}
    (h : ∀ e ∈ entries, IsExact 126 e.2) : IsExact 127 (.obj (ofEntries entries)) := by
  refine .obj (Fields.isSorted_ofEntries _) ?_
  intro f hf
  exact h f (List.mem_of_mem_filter (Fields.mem_of_mem_ofEntries hf))

/-- The request of a query for articles or statistics is a post with an exact
body. -/
theorem isExact_of_toRequest {r : Request}
    (h : (∃ q : ArticlesQuery, q.toRequest = .ok r) ∨ ∃ q : StatsQuery, q.toRequest = .ok r) :
    r.method = .post ∧ ∃ body, r.body = some body ∧ IsExact 127 body := by
  rcases h with ⟨q, hRequest⟩ | ⟨q, hRequest⟩
  · obtain ⟨filters, -, rfl⟩ := ArticlesQuery.toRequest_eq_ok_iff.1 hRequest
    exact ⟨rfl, _, rfl, Request.Body.isExact_ofEntries (q.isExact_entries filters)⟩
  · obtain ⟨-, filters, -, rfl⟩ := StatsQuery.toRequest_eq_ok_iff.1 hRequest
    exact ⟨rfl, _, rfl, Request.Body.isExact_ofEntries (q.isExact_entries filters)⟩

/-! ## Echoes -/

/-- A complete reply with status 200 is text in the encoding of the web. -/
theorem Reply.text?_of_complete {reply : Reply} (hStatus : reply.status.code = 200)
    (hComplete : reply.isComplete = true) {text : String}
    (hBody : reply.body = Text.Utf8.encode text.toList) : reply.text? = some text := by
  have hSays := Says.complete (by simp [hStatus]) hComplete
  rw [hBody, Text.Utf8.decode_encode, String.ofList_toList] at hSays
  exact text?_eq_some_iff.2 hSays

namespace Client

variable {c : Client} {r : Request} {network : Network} {m : Message}

/-- A message that is answered has the judgement on its reply as result. -/
theorem result_of_answered {reply : Reply} (h : m ∈ (c.dispatch r network).sent)
    (hReply : network m = .answered reply) :
    (c.dispatch r network).result = (reply.judge r.path).1 := by
  obtain ⟨url, transport, hPath, hTransport, hTravels, rfl⟩ := exists_of_mem_sent h
  have hExchange : r.exchange transport (r.completeUrl c.key url) network = .answered reply := by
    rw [Request.exchange, if_pos hTravels, hReply]
  rw [dispatch_of_transport hPath hTransport, deliver_of_answered hExchange]

/-- The body of a query arrives as a text that is read back to it, and if
the server answers with the same text, so does the dispatch with the
body. -/
theorem echo_of_mem_sent
    (hRequest : (∃ q : ArticlesQuery, q.toRequest = .ok r) ∨ ∃ q : StatsQuery, q.toRequest = .ok r)
    (h : m ∈ (c.dispatch r network).sent) :
    ∃ body text, r.body = some body ∧ m.body = some text ∧ Json.read text = .ok body ∧
      ∀ reply, network m = .answered reply → reply.status.code = 200 →
        reply.isComplete = true → reply.body = Text.Utf8.encode text.toList →
        (c.dispatch r network).result = .ok body := by
  obtain ⟨hPost, body, hBody, hExact⟩ := isExact_of_toRequest hRequest
  have hRead := read_write hExact
  have hSent : m.body = some (Json.write body) := by
    obtain ⟨url, transport, -, -, -, rfl⟩ := exists_of_mem_sent h
    simp [Request.message, Request.sentBody, hPost, hBody]
  refine ⟨body, Json.write body, hBody, hSent, hRead, ?_⟩
  intro reply hReply hStatus hComplete hEcho
  have hText := Reply.text?_of_complete hStatus hComplete hEcho
  rw [result_of_answered h hReply, Reply.judge_of_json hText hStatus hRead]

/-- Marks, controls and the least integer come back from a server that echoes
every body. -/
theorem echo_of_mem_sent_marks :
    ∃ (q : ArticlesQuery) (r : Request) (c : Client) (network : Network) (m : Message)
        (body : Json),
      q.filter = .raw "a\"b\\c\n\x01é" ∧ q.start = some Int64.minValue ∧
      q.toRequest = .ok r ∧ Client.new "key" = .ok c ∧ m ∈ (c.dispatch r network).sent ∧
      m.body = some ("\x7b\"filters\":\"a\\\"b\\\\c\\n\\u0001é\",\"find_related\":true,"
        ++ "\"from\":-9223372036854775808,\"language\":\"en\",\"sort_by\":\"default\"\x7d") ∧
      r.body = some body ∧ (c.dispatch r network).result = .ok body := by
  let q : ArticlesQuery :=
    { filter := .raw "a\"b\\c\n\x01é", autoFormat := false, start := some Int64.minValue }
  let r : Request := .post "articles" (Request.Body.ofEntries (q.entries "a\"b\\c\n\x01é"))
  let c : Client := { key := "key", settings := {}, baseUrl := serviceUrl }
  let url : Url := { serviceUrl with path := .segments ["v1", "articles"] }
  let transport : Transport :=
    { userAgent := some "newswhip_api/0.1.0", alwaysJson := true, timeout := some 30 }
  let echo (m : Message) : Reply :=
    { status := ⟨200, by decide⟩, body := Text.Utf8.encode (m.body.getD "").toList }
  let network : Network := fun m => .answered (echo m)
  let m : Message := r.message transport (r.completeUrl c.key url)
  have hRequest : q.toRequest = .ok r := rfl
  have hPath : c.baseUrl.join r.path = .ok url := by decide +kernel
  have hTransport : c.fetchTransport.result = .ok transport := by
    rw [result_fetchTransport]
    exact if_neg (by decide +kernel)
  have hTravels : (r.completeUrl c.key url).canTravel = true := by decide +kernel
  have hExchange : r.exchange transport (r.completeUrl c.key url) network = .answered (echo m) :=
    if_pos hTravels
  have hSent : m ∈ (c.dispatch r network).sent := by
    rw [dispatch_of_transport hPath hTransport, deliver_of_answered hExchange]
    exact List.mem_singleton_self m
  obtain ⟨body, text, hBody, hText, -, hEcho⟩ := echo_of_mem_sent (.inl ⟨q, hRequest⟩) hSent
  have hResult := hEcho (echo m) rfl rfl rfl (by simp only [echo, hText, Option.getD_some])
  exact ⟨q, r, c, network, m, body, rfl, rfl, hRequest, new_eq_ok_iff.2 ⟨rfl, rfl⟩, hSent,
    by decide +kernel, hBody, hResult⟩

end Client

end NewsAnalytics
