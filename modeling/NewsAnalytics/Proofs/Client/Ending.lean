import NewsAnalytics.Proofs.Client.Dispatch
import NewsAnalytics.Proofs.Text.Utf8

/-!
# How a dispatch ends

A dispatch can fail at six points, and each of them shows in the result, in
the events and in what has been sent. An `Ending` names the point and what
decides the result there. `Ending.Occurs` says when an ending occurs, in
terms of the client, the request and the network alone, and
`Ending.IsToldBy` what a report says of it.

## Main results

* `Reply.heardPhrase_eq_phraseText` — the phrase that is heard is the one on
  the wire.
* `occurs_iff` — exactly one ending occurs.
* `dispatch_tells_its_only_ending` — and the report of the dispatch tells it.
-/

namespace NewsAnalytics

/-! ## Phrases -/

/-- The phrase of a reply byte for byte: nothing unless all of it is ASCII. -/
def Reply.phraseText (reply : Reply) : String :=
  match reply.phrase with
  | none => ""
  | some bytes =>
    if bytes.all (· < 0x80) then String.ofList (bytes.map Text.Utf8.ofByte) else ""

theorem Reply.heardPhrase_eq_phraseText (reply : Reply) :
    reply.heardPhrase = reply.phraseText := by
  unfold heardPhrase phraseText
  cases reply.phrase with
  | none => rfl
  | some bytes =>
      by_cases hAll : bytes.all (· < 0x80) = true
      · have hAscii : ∀ b ∈ bytes, b < 0x80 := by simpa using hAll
        simp only [if_pos hAll, Text.Utf8.decode_ascii hAscii]
      · simp only [if_neg hAll]

/-- The phrase that is stored or the standard one is the phrase that was
heard, so that none has to be made up. -/
theorem Reply.storedPhrase_orElse (reply : Reply) :
    (reply.storedPhrase?.orElse fun _ => reply.status.standardPhrase?) =
      some reply.phraseText := by
  rw [← heardPhrase_eq_phraseText]
  unfold storedPhrase?
  by_cases hStandard : reply.status.standardPhrase? = some reply.heardPhrase
  · rw [if_pos hStandard]
    exact hStandard
  · rw [if_neg hStandard]
    rfl

/-! ## Endings -/

/-- The ways in which a dispatch ends. -/
inductive Ending where
  | badPath (cause : Url.Error)
  | noTransport
  | unanswered
  | bodyLost
  | statusFailed (reply : Reply)
  | notJson (cause : Json.Error)
  | done (value : Json)

namespace Ending

/-! ## Causes -/

/-- The request gets as far as the network, and this becomes of it. -/
def Meets (c : Client) (r : Request) (network : Network) (exchange : Exchange) : Prop :=
  ∃ url transport, c.baseUrl.join r.path = .ok url ∧ c.fetchTransport.result = .ok transport ∧
    r.exchange transport (r.completeUrl c.key url) network = exchange

/-- The ending is caused by this client, request and network. -/
def Occurs (c : Client) (r : Request) (network : Network) : Ending → Prop
  | .badPath cause => c.baseUrl.join r.path = .error cause
  | .noTransport =>
    (∃ url, c.baseUrl.join r.path = .ok url) ∧ c.transport = none ∧
      ∃ e, c.settings.transport = .error e
  | .unanswered => Meets c r network .unreachable ∨ Meets c r network .noAnswer
  | .bodyLost => ∃ reply, Meets c r network (.answered reply) ∧ reply.IsCutOff
  | .statusFailed reply =>
    Meets c r network (.answered reply) ∧ (∃ body, reply.Says body) ∧ reply.status.code ≠ 200
  | .notJson cause => ∃ reply body, Meets c r network (.answered reply) ∧
      reply.Says body ∧ reply.status.code = 200 ∧ Json.read body = .error cause
  | .done value => ∃ reply body, Meets c r network (.answered reply) ∧
      reply.Says body ∧ reply.status.code = 200 ∧ Json.read body = .ok value

/-! ## Reports -/

/-- The result of the ending of a request. -/
def result (r : Request) : Ending → Except Error Json
  | .badPath cause => .error (.validation (.invalidPath r.path cause))
  | .noTransport => .error (.configuration .invalidUserAgent)
  | .unanswered | .bodyLost => .error .network
  | .statusFailed reply => .error (.api reply.status.code reply.phraseText)
  | .notJson cause => .error (.decode cause)
  | .done value => .ok value

/-- The weights of the events of an ending. -/
def levels : Ending → List Level
  | .badPath _ | .noTransport => [.error]
  | .done _ => [.debug]
  | _ => [.debug, .error]

/-- The request got as far as being sent. -/
def isBegun : Ending → Bool
  | .badPath _ | .noTransport => false
  | _ => true

/-- A reply came back. -/
def isAnswered : Ending → Bool
  | .badPath _ | .noTransport | .unanswered => false
  | _ => true

/-- The report tells of this ending: the result, the events, and what has
been sent. Before a transport is in place the client stays as it was. -/
structure IsToldBy (c : Client) (r : Request) (ending : Ending) (report : Report Json) : Prop where
  result : report.result = ending.result r
  levels : report.events.map Event.level = ending.levels
  begun : ending.isBegun = true →
    report.events.head? = some (.dispatching r.method r.path) ∧
      ∃ transport, report.client = { c with transport := some transport }
  unbegun : ending.isBegun = false → report.client = c ∧ report.sent = []
  answered : ending.isAnswered = true → report.sent.length = 1
  unanswered : ending.isAnswered = false → report.sent.length ≤ 1

/-! ## The ending of a dispatch -/

/-- The ending that a reply leads to. -/
def ofReply (reply : Reply) : Ending :=
  match reply.text? with
  | none => .bodyLost
  | some body =>
    if reply.status.code = 200 then
      match Json.read body with
      | .ok value => .done value
      | .error cause => .notJson cause
    else .statusFailed reply

/-- The ending that an exchange leads to. -/
def ofExchange : Exchange → Ending
  | .unreachable | .noAnswer => .unanswered
  | .answered reply => ofReply reply

/-- The ending of a dispatch, step by step. -/
def ofDispatch (c : Client) (r : Request) (network : Network) : Ending :=
  match c.baseUrl.join r.path, c.fetchTransport.result with
  | .error cause, _ => .badPath cause
  | .ok _, .error _ => .noTransport
  | .ok url, .ok transport => ofExchange (r.exchange transport (r.completeUrl c.key url) network)

variable {c : Client} {r : Request} {network : Network}

private theorem ofDispatch_of_meets {exchange : Exchange} (h : Meets c r network exchange) :
    ofDispatch c r network = ofExchange exchange := by
  obtain ⟨url, transport, hPath, hTransport, rfl⟩ := h
  simp only [ofDispatch, hPath, hTransport]

/-- No other ending occurs. -/
theorem eq_ofDispatch_of_occurs {ending : Ending} (h : ending.Occurs c r network) :
    ending = ofDispatch c r network := by
  cases ending with
  | badPath cause =>
      have hPath : c.baseUrl.join r.path = .error cause := h
      simp only [ofDispatch, hPath]
  | noTransport =>
      obtain ⟨⟨url, hPath⟩, hPlace, e, hBuilt⟩ := h
      have hTransport := Client.fetchTransport_eq_error_iff.2 ⟨hPlace, hBuilt⟩
      simp only [ofDispatch, hPath, hTransport]
  | unanswered =>
      rcases h with h | h
      · rw [ofDispatch_of_meets h]
        rfl
      · rw [ofDispatch_of_meets h]
        rfl
  | bodyLost =>
      obtain ⟨reply, hMeets, hCutOff⟩ := h
      have hText := Reply.text?_eq_none_iff.2 hCutOff
      rw [ofDispatch_of_meets hMeets]
      simp only [ofExchange, ofReply, hText]
  | statusFailed reply =>
      obtain ⟨hMeets, ⟨body, hSays⟩, hStatus⟩ := h
      have hText := Reply.text?_eq_some_iff.2 hSays
      rw [ofDispatch_of_meets hMeets]
      simp only [ofExchange, ofReply, hText, hStatus, if_false]
  | notJson cause =>
      obtain ⟨reply, body, hMeets, hSays, hStatus, hBody⟩ := h
      have hText := Reply.text?_eq_some_iff.2 hSays
      rw [ofDispatch_of_meets hMeets]
      simp only [ofExchange, ofReply, hText, hStatus, if_true, hBody]
  | done value =>
      obtain ⟨reply, body, hMeets, hSays, hStatus, hBody⟩ := h
      have hText := Reply.text?_eq_some_iff.2 hSays
      rw [ofDispatch_of_meets hMeets]
      simp only [ofExchange, ofReply, hText, hStatus, if_true, hBody]

/-- What is judged of a reply is what its ending tells. -/
private theorem judge_ofReply (reply : Reply) (r : Request) :
    (reply.judge r.path).1 = (ofReply reply).result r ∧
      .debug :: (reply.judge r.path).2.map Event.level = (ofReply reply).levels := by
  unfold ofReply
  have hJudged := reply.judged_judge r.path
  generalize reply.judge r.path = judgement at hJudged
  cases hJudged with
  | unreadable hText =>
      simp only [hText]
      exact ⟨rfl, rfl⟩
  | failed hText hStatus =>
      simp only [hText, if_neg hStatus, Reply.heardPhrase_eq_phraseText]
      exact ⟨rfl, rfl⟩
  | notJson hText hStatus hBody =>
      simp only [hText, if_pos hStatus, hBody]
      exact ⟨rfl, rfl⟩
  | json hText hStatus hBody =>
      simp only [hText, if_pos hStatus, hBody]
      exact ⟨rfl, rfl⟩

private theorem isAnswered_ofReply (reply : Reply) : (ofReply reply).isAnswered = true := by
  unfold ofReply
  split
  · rfl
  · split
    · split
      · rfl
      · rfl
    · rfl

private theorem isBegun_of_isAnswered {ending : Ending} (h : ending.isAnswered = true) :
    ending.isBegun = true := by
  cases ending <;> first | rfl | cases h

/-- The ending of a reply occurs where the reply comes back. -/
private theorem occurs_ofReply {reply : Reply} (hMeets : Meets c r network (.answered reply)) :
    (ofReply reply).Occurs c r network := by
  unfold ofReply
  cases hText : reply.text? with
  | none => exact ⟨reply, hMeets, Reply.text?_eq_none_iff.1 hText⟩
  | some body =>
      have hSays := Reply.text?_eq_some_iff.1 hText
      by_cases hStatus : reply.status.code = 200
      · simp only [if_pos hStatus]
        cases hBody : Json.read body with
        | error cause => exact ⟨reply, body, hMeets, hSays, hStatus, hBody⟩
        | ok value => exact ⟨reply, body, hMeets, hSays, hStatus, hBody⟩
      · simp only [if_neg hStatus]
        exact ⟨hMeets, ⟨body, hSays⟩, hStatus⟩

/-- A reply leads to an ending that occurs and is told. -/
private theorem ofReply_spec {reply : Reply} {transport : Transport} {url : Url}
    (hPath : c.baseUrl.join r.path = .ok url)
    (hTransport : c.fetchTransport.result = .ok transport)
    (hExchange : r.exchange transport (r.completeUrl c.key url) network = .answered reply) :
    (ofReply reply).Occurs c r network ∧
      (ofReply reply).IsToldBy c r (c.dispatch r network) := by
  have hAnswered := isAnswered_ofReply reply
  obtain ⟨hResult, hLevels⟩ := judge_ofReply reply r
  constructor
  · exact occurs_ofReply ⟨url, transport, hPath, hTransport, hExchange⟩
  · rw [Client.dispatch_of_transport hPath hTransport, Client.deliver_of_answered hExchange]
    refine ⟨hResult, hLevels, fun _ => ⟨rfl, _, rfl⟩, ?_, fun _ => rfl, ?_⟩
    · intro hUnbegun
      rw [isBegun_of_isAnswered hAnswered] at hUnbegun
      cases hUnbegun
    · exact fun _ => Nat.le_refl 1

/-- Where no reply comes back, that occurs and is told. -/
private theorem unanswered_spec {transport : Transport} {url : Url}
    (hPath : c.baseUrl.join r.path = .ok url)
    (hTransport : c.fetchTransport.result = .ok transport)
    (hExchange : ∀ reply,
      r.exchange transport (r.completeUrl c.key url) network ≠ .answered reply) :
    Ending.unanswered.Occurs c r network ∧
      Ending.unanswered.IsToldBy c r (c.dispatch r network) := by
  constructor
  · cases hNetwork : r.exchange transport (r.completeUrl c.key url) network with
    | unreachable => exact .inl ⟨url, transport, hPath, hTransport, hNetwork⟩
    | noAnswer => exact .inr ⟨url, transport, hPath, hTransport, hNetwork⟩
    | answered reply => exact absurd hNetwork (hExchange reply)
  · rw [Client.dispatch_of_transport hPath hTransport]
    obtain ⟨failure, sent, hReport, hSent⟩ := Client.deliver_of_unanswered
      (c := { c with transport := some transport }) hExchange
    rw [hReport]
    refine ⟨rfl, rfl, fun _ => ⟨rfl, _, rfl⟩, nofun, nofun, fun _ => ?_⟩
    rcases hSent with rfl | rfl
    · exact Nat.zero_le 1
    · exact Nat.le_refl 1

/-- The ending of a dispatch occurs, and the report tells it. -/
theorem ofDispatch_spec (c : Client) (r : Request) (network : Network) :
    (ofDispatch c r network).Occurs c r network ∧
      (ofDispatch c r network).IsToldBy c r (c.dispatch r network) := by
  cases hPath : c.baseUrl.join r.path with
  | error cause =>
      simp only [ofDispatch, hPath]
      refine ⟨hPath, ?_⟩
      rw [Client.dispatch_of_bad_path hPath]
      exact ⟨rfl, rfl, nofun, fun _ => ⟨rfl, rfl⟩, nofun, fun _ => Nat.zero_le 1⟩
  | ok url =>
      cases hTransport : c.fetchTransport.result with
      | error e =>
          simp only [ofDispatch, hPath, hTransport]
          obtain ⟨hPlace, hBuilt⟩ := Client.fetchTransport_eq_error_iff.1 hTransport
          refine ⟨⟨⟨url, hPath⟩, hPlace, e, hBuilt⟩, ?_⟩
          rw [Client.dispatch_of_no_transport hPath hTransport]
          exact ⟨rfl, rfl, nofun, fun _ => ⟨rfl, rfl⟩, nofun, fun _ => Nat.zero_le 1⟩
      | ok transport =>
          simp only [ofDispatch, hPath, hTransport]
          cases hExchange : r.exchange transport (r.completeUrl c.key url) network with
          | unreachable => exact unanswered_spec hPath hTransport (by simp [hExchange])
          | noAnswer => exact unanswered_spec hPath hTransport (by simp [hExchange])
          | answered reply => exact ofReply_spec hPath hTransport hExchange

/-- The endings that occur are one. -/
theorem occurs_iff {ending : Ending} :
    ending.Occurs c r network ↔ ending = ofDispatch c r network := by
  constructor
  · exact eq_ofDispatch_of_occurs
  · rintro rfl
    exact (ofDispatch_spec c r network).1

/-- A dispatch that gets beyond its path does not fail for its input. -/
theorem result_ne_validation {url : Url} (hPath : c.baseUrl.join r.path = .ok url)
    (cause : InvalidInput) : (c.dispatch r network).result ≠ .error (.validation cause) := by
  obtain ⟨hOccurs, hTold⟩ := ofDispatch_spec c r network
  rw [hTold.result]
  cases hEnding : ofDispatch c r network with
  | badPath other =>
      rw [hEnding] at hOccurs
      have hError : c.baseUrl.join r.path = .error other := hOccurs
      rw [hPath] at hError
      cases hError
  | noTransport => simp [result]
  | unanswered => simp [result]
  | bodyLost => simp [result]
  | statusFailed reply => simp [result]
  | notJson other => simp [result]
  | done value => simp [result]

end Ending

/-- For every client, request and network exactly one ending occurs, and
the report of the dispatch tells of it. The phrase in a failed status is
never made up. -/
theorem dispatch_tells_its_only_ending (c : Client) (r : Request) (network : Network) :
    ∃ ending : Ending, (∀ other : Ending, other.Occurs c r network ↔ other = ending) ∧
      ending.IsToldBy c r (c.dispatch r network) ∧
      ∀ reply, ending = .statusFailed reply →
        (reply.storedPhrase?.orElse fun _ => reply.status.standardPhrase?) =
          some reply.phraseText :=
  ⟨Ending.ofDispatch c r network, fun _ => Ending.occurs_iff,
    (Ending.ofDispatch_spec c r network).2, fun reply _ => reply.storedPhrase_orElse⟩

end NewsAnalytics
