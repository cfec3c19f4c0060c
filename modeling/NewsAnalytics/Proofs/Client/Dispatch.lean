import NewsAnalytics.Client.Operation

/-!
# The steps of a dispatch

A dispatch resolves a path, fetches a transport, sends a message and judges
the answer. Each step is described by what it leaves behind when it
succeeds and when it fails, and the description of a dispatch is put
together from them. Arguments about a dispatch begin here and need not
open the definitions.

## Main results

* `fetchTransport_of_ok`, `fetchTransport_of_error` — the transport.
* `Reply.judged_judge` — the answer.
* `deliver_of_answered`, `deliver_of_unanswered` — the message.
* `dispatch_of_transport` — a dispatch with a transport is a delivery.
-/

namespace NewsAnalytics

/-! ## Transport -/

/-- Only a user agent keeps a transport from being built, and one that is
built waits as long as the settings say. -/
theorem Settings.transport_cases (s : Settings) :
    s.transport = .error (.configuration .invalidUserAgent) ∨
      s.transport = .ok
        { userAgent := some (s.userAgent.getD defaultUserAgent)
          alwaysJson := true
          timeout := some s.timeout } := by
  unfold transport
  by_cases hAgent : (s.userAgent.getD defaultUserAgent).toList.any isHeaderControl = true
  · exact .inl (if_pos hAgent)
  · exact .inr (if_neg hAgent)

theorem Settings.error_of_transport {s : Settings} {e : Error} (h : s.transport = .error e) :
    e = .configuration .invalidUserAgent := by
  rcases s.transport_cases with hError | hBuilt
  · exact Except.error.inj (h.symm.trans hError)
  · cases h.symm.trans hBuilt

theorem Settings.timeout_of_transport {s : Settings} {transport : Transport}
    (h : s.transport = .ok transport) : transport.timeout = some s.timeout := by
  rcases s.transport_cases with hError | hBuilt
  · cases h.symm.trans hError
  · rw [Except.ok.inj (h.symm.trans hBuilt)]

namespace Client

/-- The transport in place is to be had, or else the one that the settings
build. -/
theorem result_fetchTransport (c : Client) :
    c.fetchTransport.result =
      match c.transport with
      | some transport => .ok transport
      | none => c.settings.transport := by
  unfold fetchTransport
  cases c.transport with
  | some transport => rfl
  | none => cases c.settings.transport <;> rfl

/-- No transport is to be had where none is in place and none can be built. -/
theorem fetchTransport_eq_error_iff {c : Client} {e : Error} :
    c.fetchTransport.result = .error e ↔ c.transport = none ∧ c.settings.transport = .error e := by
  unfold fetchTransport
  cases c.transport with
  | some transport => simp
  | none => cases c.settings.transport <;> simp

/-- A transport that is not to be had leaves the client as it was. -/
theorem fetchTransport_of_error {c : Client} {e : Error} (h : c.fetchTransport.result = .error e) :
    c.fetchTransport = { client := c, result := .error e, events := [.transportNotBuilt] } := by
  obtain ⟨hPlace, hBuilt⟩ := fetchTransport_eq_error_iff.1 h
  simp only [fetchTransport, hPlace, hBuilt]

/-- A transport that is to be had is in place afterwards. -/
theorem fetchTransport_of_ok {c : Client} {transport : Transport}
    (h : c.fetchTransport.result = .ok transport) :
    c.fetchTransport =
      { client := { c with transport := some transport }, result := .ok transport } := by
  unfold fetchTransport at *
  cases hPlace : c.transport with
  | some other =>
      simp only [hPlace, Except.ok.injEq] at h ⊢
      rw [← h, ← hPlace]
  | none =>
      cases hBuilt : c.settings.transport with
      | error e => simp [hPlace, hBuilt] at h
      | ok other =>
          simp only [hPlace, hBuilt, Except.ok.injEq] at h ⊢
          rw [h]

end Client

/-! ## Answers -/

namespace Reply

variable {reply : Reply} {path body : String}

theorem judge_of_unreadable (hText : reply.text? = none) :
    reply.judge path = (.error .network, [.bodyUnreadable]) := by
  unfold judge
  rw [hText]

/-- Whatever the body of a reply is, a status other than 200 is what counts. -/
theorem judge_of_status (hText : reply.text? = some body) (hStatus : reply.status.code ≠ 200) :
    reply.judge path =
      (.error (.api reply.status.code reply.heardPhrase),
        [.statusFailed path reply.status body]) := by
  simp [judge, hText, Status.isOk, hStatus, reason_eq_heardPhrase]

theorem judge_of_not_json {cause : Json.Error} (hText : reply.text? = some body)
    (hStatus : reply.status.code = 200) (hBody : Json.read body = .error cause) :
    reply.judge path = (.error (.decode cause), [.bodyNotJson cause body]) := by
  simp [judge, hText, Status.isOk, hStatus, hBody]

theorem judge_of_json {value : Json} (hText : reply.text? = some body)
    (hStatus : reply.status.code = 200) (hBody : Json.read body = .ok value) :
    reply.judge path = (.ok value, []) := by
  simp [judge, hText, Status.isOk, hStatus, hBody]

/-- All that the judgement of a reply can come to: a result, and what there
is to report. -/
inductive Judged (reply : Reply) (path : String) :
    (judgement : Except Error Json × List Event) → Prop
  | unreadable (hText : reply.text? = none) :
      Judged reply path (.error .network, [.bodyUnreadable])
  | failed {body : String} (hText : reply.text? = some body)
      (hStatus : reply.status.code ≠ 200) :
      Judged reply path (.error (.api reply.status.code reply.heardPhrase),
        [.statusFailed path reply.status body])
  | notJson {body : String} {cause : Json.Error} (hText : reply.text? = some body)
      (hStatus : reply.status.code = 200) (hBody : Json.read body = .error cause) :
      Judged reply path (.error (.decode cause), [.bodyNotJson cause body])
  | json {body : String} {value : Json} (hText : reply.text? = some body)
      (hStatus : reply.status.code = 200) (hBody : Json.read body = .ok value) :
      Judged reply path (.ok value, [])

theorem judged_judge (reply : Reply) (path : String) :
    reply.Judged path (reply.judge path) := by
  cases hText : reply.text? with
  | none => exact judge_of_unreadable hText ▸ .unreadable hText
  | some body =>
      by_cases hStatus : reply.status.code = 200
      · cases hBody : Json.read body with
        | error cause =>
            exact judge_of_not_json hText hStatus hBody ▸ .notJson hText hStatus hBody
        | ok value => exact judge_of_json hText hStatus hBody ▸ .json hText hStatus hBody
      · exact judge_of_status hText hStatus ▸ .failed hText hStatus

end Reply

/-! ## Messages -/

/-- What becomes of the message of a request. A URL that nothing can be
sent to is as good as an unreachable server. -/
def Request.exchange (r : Request) (transport : Transport) (url : Url) (network : Network) :
    Exchange :=
  if url.canTravel then network (r.message transport url) else .unreachable

namespace Client

variable {c : Client} {r : Request} {network : Network}

/-- A message that is answered has been sent, and the answer is judged. -/
theorem deliver_of_answered {transport : Transport} {url : Url} {reply : Reply}
    (h : r.exchange transport url network = .answered reply) :
    c.deliver r transport url network =
      { client := c
        result := (reply.judge r.path).1
        sent := [r.message transport url]
        events := .dispatching r.method r.path :: (reply.judge r.path).2 } := by
  unfold Request.exchange at h
  by_cases hTravels : url.canTravel = true
  · rw [if_pos hTravels] at h
    simp only [deliver, hTravels, h]
    rfl
  · rw [if_neg hTravels] at h
    cases h

/-- A message that is not answered may have arrived, and is lost. -/
theorem deliver_of_unanswered {transport : Transport} {url : Url}
    (h : ∀ reply, r.exchange transport url network ≠ .answered reply) :
    ∃ failure sent,
      c.deliver r transport url network =
        { client := c
          result := .error .network
          sent := sent
          events := [.dispatching r.method r.path, .sendFailed r.path failure url] } ∧
      (sent = [] ∨ sent = [r.message transport url]) := by
  unfold Request.exchange at h
  by_cases hTravels : url.canTravel = true
  · simp only [hTravels, if_true] at h
    cases hNetwork : network (r.message transport url) with
    | unreachable => exact ⟨.noAnswer, [], by simp [deliver, hTravels, hNetwork], .inl rfl⟩
    | noAnswer => exact ⟨.noAnswer, _, by simp [deliver, hTravels, hNetwork], .inr rfl⟩
    | answered reply => exact absurd hNetwork (h reply)
  · exact ⟨.notSendable, [], by simp [deliver, hTravels], .inl rfl⟩

/-! ## Courses -/

theorem dispatch_of_bad_path {cause : Url.Error} (hPath : c.baseUrl.join r.path = .error cause) :
    c.dispatch r network =
      { client := c
        result := .error (.validation (.invalidPath r.path cause))
        events := [.invalidUrl cause] } := by
  unfold dispatch
  rw [hPath]

theorem dispatch_of_no_transport {url : Url} {e : Error} (hPath : c.baseUrl.join r.path = .ok url)
    (hTransport : c.fetchTransport.result = .error e) :
    c.dispatch r network =
      { client := c
        result := .error (.configuration .invalidUserAgent)
        events := [.transportNotBuilt] } := by
  have hError := Settings.error_of_transport (fetchTransport_eq_error_iff.1 hTransport).2
  subst hError
  simp only [dispatch, hPath, fetchTransport_of_error hTransport]

/-- Behind the first two steps a dispatch is a delivery, by a client that
has its transport. -/
theorem dispatch_of_transport {url : Url} {transport : Transport}
    (hPath : c.baseUrl.join r.path = .ok url)
    (hTransport : c.fetchTransport.result = .ok transport) :
    c.dispatch r network =
      Client.deliver { c with transport := some transport } r transport (r.completeUrl c.key url)
        network := by
  simp only [dispatch, hPath, fetchTransport_of_ok hTransport]

theorem client_deliver {transport : Transport} {url : Url} :
    (c.deliver r transport url network).client = c := by
  unfold deliver
  split
  · rfl
  · dsimp only
    split <;> rfl

/-- A dispatch leaves the client as fetching its transport does, if it gets
that far. -/
theorem client_dispatch :
    (c.dispatch r network).client =
      match c.baseUrl.join r.path with
      | .error _ => c
      | .ok _ => c.fetchTransport.client := by
  cases hPath : c.baseUrl.join r.path with
  | error cause => rw [dispatch_of_bad_path hPath]
  | ok url =>
      cases hTransport : c.fetchTransport.result with
      | error e =>
          rw [dispatch_of_no_transport hPath hTransport, fetchTransport_of_error hTransport]
      | ok transport =>
          rw [dispatch_of_transport hPath hTransport, client_deliver,
            fetchTransport_of_ok hTransport]

end Client

end NewsAnalytics
