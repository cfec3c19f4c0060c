import NewsAnalytics.Proofs.Client.SentQuery
import NewsAnalytics.Proofs.Query.Path
import NewsAnalytics.Proofs.Url.Reference

/-!
# Where the key goes

The key travels in the query of every message, so whoever is at the origin
of the URL, its scheme, host and port, learns it. That is the origin of
the base URL whenever the path of the request leaves the authority to the
base, as the paths of all queries do. A path with an authority of its own
takes the message, and with it the key, to the origin that it names.

## Main results

* `Query.leavesAuthority_path` — the paths of queries name no origin.
* `Client.origin_of_mem_sent` — the origin that a message goes to.
* `Client.key_sent_to_other_host` — it need not be that of the base URL.
-/

namespace NewsAnalytics

/-! ## Origins -/

namespace Url

/-- Scheme, host and port: what decides which server a message goes to. -/
def origin (u : Url) : String × Option (Host × Option Nat) :=
  (u.scheme, u.authority.map fun a => (a.host, a.port))

theorem origin_eq {u v : Url} (hScheme : u.scheme = v.scheme)
    (hAuthority : u.authority = v.authority) : u.origin = v.origin := by
  rw [origin, origin, hScheme, hAuthority]

@[simp] theorem origin_withoutUser (u : Url) : u.withoutUser.origin = u.origin := by
  unfold withoutUser
  split
  · rfl
  · next a hAuthority =>
      dsimp only
      split
      · simp [origin, hAuthority]
      · rfl

@[simp] theorem origin_addPairs (u : Url) (pairs : List (String × String)) :
    (u.addPairs pairs).origin = u.origin :=
  rfl

@[simp] theorem origin_onWire (u : Url) : u.onWire.origin = u.origin := by
  simp [origin, onWire, Function.comp_def]

end Url

/-- Completing a URL leaves its origin. -/
theorem Request.origin_completeUrl (r : Request) (key : String) (url : Url) :
    (r.completeUrl key url).origin = url.origin := by
  unfold completeUrl
  split
  · simp
  · rfl

/-! ## Paths of queries -/

/-- A plain path has no authority of its own, beside any base. -/
theorem IsPlainPath.leavesAuthority {path : String} (h : IsPlainPath path) (scheme : String) :
    Url.leavesAuthority scheme path = true := by
  obtain ⟨segments, hNe, hPlain, hText⟩ := h
  obtain ⟨hTrim, hScheme, hClean⟩ := Url.looks_slashed hPlain hText
  obtain ⟨c, rest, hCons, hInert⟩ := Url.exists_cons_slashed hNe hPlain
  have hSlash : Url.isSlash c = false := by
    simpa [Url.isSlash, Url.Segments.isSeparator] using hInert.notSeparator
  have hSlashes : Url.leadingSlashes (Url.slashed segments) = 0 := by
    simp [Url.leadingSlashes, hCons, hSlash]
  simp [Url.leavesAuthority, Url.referenceScheme, hTrim, hScheme, hClean, hSlashes]

theorem Query.leavesAuthority_path {q : Query} {r : Request} (h : q.toRequest = .ok r)
    (scheme : String) : Url.leavesAuthority scheme r.path = true :=
  (Query.isPlain_path h).leavesAuthority scheme

/-! ## Messages -/

namespace Client

variable {c : Client} {r : Request} {network : Network} {m : Message}

/-- A message goes to the origin of the base URL iff its path has no
authority of its own or one that is that of the base. If it has one, the
message goes where the path says alone. The message of a query always goes
to the origin of the base URL. -/
theorem origin_of_mem_sent (h : m ∈ (c.dispatch r network).sent) :
    (m.url.origin = c.baseUrl.origin ↔
      Url.leavesAuthority c.baseUrl.scheme r.path = true ∨
        ∃ u, Url.alone c.baseUrl.scheme r.path = .ok u ∧ u.origin = c.baseUrl.origin) ∧
    (Url.leavesAuthority c.baseUrl.scheme r.path = false →
      ∃ u, Url.alone c.baseUrl.scheme r.path = .ok u ∧ m.url.origin = u.origin) ∧
    ∀ q : Query, q.toRequest = .ok r → m.url.origin = c.baseUrl.origin := by
  obtain ⟨url, transport, hPath, -, hTravels, rfl⟩ := exists_of_mem_sent h
  have hOrigin : (r.message transport (r.completeUrl c.key url)).url.origin = url.origin := by
    rw [Request.message, Url.origin_onWire]
    exact r.origin_completeUrl c.key url
  have hHttp : Url.isHttpScheme url.scheme = true := by
    have hComplete : (r.completeUrl c.key url).origin = url.origin := r.origin_completeUrl c.key url
    rw [← show (r.completeUrl c.key url).scheme = url.scheme from congrArg Prod.fst hComplete]
    simp only [Url.canTravel, Bool.and_eq_true] at hTravels
    exact hTravels.1.1
  rw [hOrigin]
  rcases Url.join_cases hPath hHttp with ⟨hLeaves, hScheme, hAuthority⟩ | ⟨hOwn, hAlone⟩
  · have hBase := Url.origin_eq hScheme hAuthority
    exact ⟨⟨fun _ => .inl hLeaves, fun _ => hBase⟩, by simp [hLeaves], fun _ _ => hBase⟩
  · refine ⟨⟨?_, ?_⟩, fun _ => ⟨url, hAlone, rfl⟩, ?_⟩
    · intro hBase
      exact .inr ⟨url, hAlone, hBase⟩
    · rintro (hLeaves | ⟨u, hAlone', hBase⟩)
      · rw [hOwn] at hLeaves
        cases hLeaves
      · obtain rfl := Except.ok.inj (hAlone.symm.trans hAlone')
        exact hBase
    · intro q hQuery
      rw [Query.leavesAuthority_path hQuery] at hOwn
      cases hOwn

/-- Two backslashes stand before an authority too, here before that of the
base with its port written out. -/
theorem origin_of_mem_sent_backslashes :
    ∃ (c : Client) (r : Request) (m : Message),
      Client.withBaseUrl "http://api.test/v1" "key" = .ok c ∧ r.path = "\\\\API.test:80/x" ∧
      m ∈ (c.dispatch r fun _ => .noAnswer).sent ∧
      Url.leavesAuthority c.baseUrl.scheme r.path = false ∧
      m.url.origin = c.baseUrl.origin := by
  let c : Client :=
    { key := "key"
      settings := { baseUrl := some "http://api.test/v1" }
      baseUrl := ⟨"http", some { host := .name "api.test" }, .segments ["v1", ""], none, none⟩ }
  let r : Request := .get "\\\\API.test:80/x"
  let m : Message :=
    { method := .get
      url := ⟨"http", some { host := .name "api.test" }, .segments ["x"], some "key=key", none⟩
      contentType := some "application/json"
      userAgent := some "newswhip_api/0.1.0"
      timeout := some 30
      body := none }
  have hSent : m ∈ (c.dispatch r fun _ => .noAnswer).sent := by decide +kernel
  have hOwn : Url.leavesAuthority c.baseUrl.scheme r.path = false := by decide +kernel
  have hAlone : Url.alone c.baseUrl.scheme r.path = .ok
      ⟨"http", some { host := .name "api.test" }, .segments ["x"], none, none⟩ := by
    decide +kernel
  exact ⟨c, r, m, rfl, rfl, hSent, hOwn,
    (origin_of_mem_sent hSent).1.2 (.inr ⟨_, hAlone, rfl⟩)⟩

/-- A path that begins with two slashes takes the key to the host that it
names. -/
theorem key_sent_to_other_host :
    ∃ (c : Client) (m : Message),
      c.Reachable ∧ Client.withBaseUrl "http://api.test/v1" "test-key" = .ok c ∧
      c.baseUrl.origin = ("http", some (.name "api.test", none)) ∧
      m ∈ (c.dispatch (.get "//other.test/x") fun _ => .noAnswer).sent ∧
      m.url.origin = ("http", some (.name "other.test", none)) ∧
      m.url.query = some "key=test-key" := by
  let c : Client :=
    { key := "test-key"
      settings := { baseUrl := some "http://api.test/v1" }
      baseUrl := ⟨"http", some { host := .name "api.test" }, .segments ["v1", ""], none, none⟩ }
  let m : Message :=
    { method := .get
      url := ⟨"http", some { host := .name "other.test" }, .segments ["x"],
        some "key=test-key", none⟩
      contentType := some "application/json"
      userAgent := some "newswhip_api/0.1.0"
      timeout := some 30
      body := none }
  have hNew : Client.withBaseUrl "http://api.test/v1" "test-key" = .ok c := rfl
  have hSent : m ∈ (c.dispatch (.get "//other.test/x") fun _ => .noAnswer).sent := by
    decide +kernel
  exact ⟨c, m, .withBaseUrl hNew, hNew, rfl, hSent, rfl, rfl⟩

end Client

end NewsAnalytics
