import NewsAnalytics.Proofs.Client.Outcome
import NewsAnalytics.Proofs.Url.Query

/-!
# The query that is sent

A message that arrives at a server has gone to the URL of its request,
completed by the pairs of the request and by the key. The query of that URL
has three parts — the query of the path, the pairs, the key — and reading it
gives the pairs of the three in this order.

## Main results

* `query_completeUrl` — the three parts of a completed query.
* `exists_of_mem_sent` — which message a dispatch sends.
* `query_of_mem_sent` — the query that arrives, and what is read from it.
-/

namespace NewsAnalytics

open Text.FormEncoding

/-! ## Hosts -/

theorem Url.Host.isEmpty_of_canTravel {host : Url.Host} (h : host.canTravel = true) :
    host.isEmpty = false := by
  cases host with
  | name text =>
      simp only [canTravel, Bool.and_eq_true, decide_eq_true_eq] at h
      simpa [isEmpty] using h.1
  | ipv4 address => rfl
  | ipv6 pieces => rfl

/-- A URL that can be sent to names a host. -/
theorem Url.hasHost_of_canTravel {u : Url} (h : u.canTravel = true) : u.hasHost = true := by
  simp only [canTravel, Bool.and_eq_true] at h
  obtain ⟨⟨-, hHost⟩, -⟩ := h
  unfold hasHost
  cases hAuthority : u.authority with
  | none => simp [hAuthority] at hHost
  | some a =>
      rw [hAuthority, Option.map_some, Option.getD_some] at hHost
      simp [Host.isEmpty_of_canTravel hHost]

theorem Url.query_withoutUser (u : Url) : u.withoutUser.query = u.query := by
  unfold withoutUser
  split
  · rfl
  · dsimp only
    split <;> rfl

/-! ## Completed queries -/

namespace Request

variable {r : Request} {key : String} {url : Url}

/-- A URL that is completed to one that can be sent to names a host. -/
theorem hasHost_of_canTravel_completeUrl (h : (r.completeUrl key url).canTravel = true) :
    url.hasHost = true := by
  by_contra hHost
  rw [completeUrl, if_neg hHost] at h
  exact hHost (Url.hasHost_of_canTravel h)

/-- The key in written form. -/
theorem encodePair_key (key : String) : encodePair ("key", key) = "key=" ++ encode key := by
  have hName : encode "key" ++ "=" = "key=" := by decide
  rw [encodePair, hName]

/-- The parts of a completed query hold the pairs of the path, those of the
request, and the key. -/
theorem decodePairs_parts (r : Request) (key query : String) :
    decodePairs (Url.joinParts [query, r.queryString, "key=" ++ encode key]) =
      decodePairs query ++ r.pairs ++ [("key", key)] := by
  rw [Url.decodePairs_joinParts, ← encodePair_key]
  simp [queryString, decodePairs_encodePairs, decodePairs_encodePair]

/-- A completed query has three parts: that of the path, the pairs and the
key. -/
theorem query_completeUrl (r : Request) (key : String) (hHost : url.hasHost = true) :
    (r.completeUrl key url).query =
      some (Url.joinParts [url.query.getD "", r.queryString, "key=" ++ encode key]) := by
  have hKey : encodePairs [("key", key)] = "key=" ++ encode key := by
    rw [encodePairs, List.map_singleton, String.intercalate_singleton, encodePair_key]
  have hText : (r.completeUrl key url).query.getD "" =
      Url.joinParts [url.query.getD "", r.queryString, "key=" ++ encode key] := by
    rw [completeUrl, if_pos hHost, Url.query_addPairs, Url.query_addPairs, Url.query_withoutUser,
      hKey, Url.joinParts_group_cons]
    rfl
  cases hQuery : (r.completeUrl key url).query with
  | none =>
      -- the key is read from the query, so there is one
      have hPairs := r.decodePairs_parts key (url.query.getD "")
      rw [← hText, hQuery, Option.getD_none, decodePairs_empty] at hPairs
      simp at hPairs
  | some query =>
      rw [hQuery] at hText
      exact congrArg some hText

end Request

namespace Client

variable {c : Client} {r : Request} {network : Network} {m : Message}

/-! ## Messages -/

/-- A delivery sends nothing but the message of its request, and that only
to a URL that can be sent to. -/
theorem eq_message_of_mem_sent {transport : Transport} {url : Url}
    (h : m ∈ (c.deliver r transport url network).sent) :
    url.canTravel = true ∧ m = r.message transport url := by
  unfold deliver at h
  by_cases hTravels : url.canTravel = true
  · simp only [hTravels, Bool.not_true, Bool.false_eq_true, if_false] at h
    refine ⟨hTravels, ?_⟩
    split at h
    · cases h
    · exact List.mem_singleton.1 h
    · exact List.mem_singleton.1 h
  · simp [hTravels] at h

/-- A dispatch sends nothing but the message of its request, to the
completed URL of its path. -/
theorem exists_of_mem_sent (h : m ∈ (c.dispatch r network).sent) :
    ∃ url transport, c.baseUrl.join r.path = .ok url ∧
      c.fetchTransport.result = .ok transport ∧ (r.completeUrl c.key url).canTravel = true ∧
      m = r.message transport (r.completeUrl c.key url) := by
  cases hPath : c.baseUrl.join r.path with
  | error cause =>
      rw [dispatch_of_bad_path hPath] at h
      cases h
  | ok url =>
      cases hTransport : c.fetchTransport.result with
      | error e =>
          rw [dispatch_of_no_transport hPath hTransport] at h
          cases h
      | ok transport =>
          rw [dispatch_of_transport hPath hTransport] at h
          exact ⟨url, transport, rfl, rfl, eq_message_of_mem_sent h⟩

/-! ## Queries that arrive -/

/-- The query that arrives consists of the query of the path, the pairs of
the request and the key, as far as they are not empty, and what is read from
it are the pairs of the three. -/
theorem query_of_mem_sent (h : m ∈ (c.dispatch r network).sent) :
    ∃ url, c.baseUrl.join r.path = .ok url ∧
      m.url.query = some ("&".intercalate
        ([url.query.getD "", r.queryString, "key=" ++ encode c.key].filter (· ≠ ""))) ∧
      decodePairs (m.url.query.getD "") =
        decodePairs (url.query.getD "") ++ r.pairs ++ [("key", c.key)] := by
  obtain ⟨url, transport, hPath, -, hTravels, rfl⟩ := exists_of_mem_sent h
  have hQuery : (r.message transport (r.completeUrl c.key url)).url.query =
      some (Url.joinParts [url.query.getD "", r.queryString, "key=" ++ encode c.key]) :=
    r.query_completeUrl c.key (Request.hasHost_of_canTravel_completeUrl hTravels)
  refine ⟨url, hPath, hQuery, ?_⟩
  rw [hQuery, Option.getD_some, Request.decodePairs_parts]

/-- A path with a query, a pair that is named like the key, a pair of two
empty texts, and a key with marks of the format. -/
theorem query_of_mem_sent_marks :
    ∃ (c : Client) (r : Request) (m : Message),
      Client.withBaseUrl "http://a.test/v1" "k&=é" = .ok c ∧ r.path = "p?x=1" ∧
      r.pairs = [("key", "a b"), ("", "")] ∧ m ∈ (c.dispatch r fun _ => .noAnswer).sent ∧
      m.url.query = some "x=1&key=a+b&=&key=k%26%3D%C3%A9" ∧
      decodePairs (m.url.query.getD "") =
        [("x", "1"), ("key", "a b"), ("", ""), ("key", "k&=é")] := by
  let c : Client :=
    { key := "k&=é"
      settings := { baseUrl := some "http://a.test/v1" }
      baseUrl := ⟨"http", some { host := .name "a.test" }, .segments ["v1", ""], none, none⟩ }
  let r : Request := (Request.get "p?x=1").withPairs [("key", "a b"), ("", "")]
  let m : Message :=
    { method := .get
      url := ⟨"http", some { host := .name "a.test" }, .segments ["v1", "p"],
        some "x=1&key=a+b&=&key=k%26%3D%C3%A9", none⟩
      contentType := some "application/json"
      userAgent := some "newswhip_api/0.1.0"
      timeout := some 30
      body := none }
  have hSent : m ∈ (c.dispatch r fun _ => .noAnswer).sent := by decide +kernel
  have hJoin : c.baseUrl.join r.path = .ok ⟨"http", some { host := .name "a.test" },
      .segments ["v1", "p"], some "x=1", none⟩ := by decide +kernel
  have hPath : decodePairs "x=1" = [("x", "1")] := by decide +kernel
  obtain ⟨url, hUrl, -, hPairs⟩ := query_of_mem_sent hSent
  obtain rfl := Except.ok.inj (hUrl.symm.trans hJoin)
  exact ⟨c, r, m, rfl, rfl, rfl, hSent, rfl,
    hPairs.trans (congrArg (· ++ r.pairs ++ [("key", c.key)]) hPath)⟩

end Client

end NewsAnalytics
