import NewsAnalytics.Proofs.Client.Reachable
import NewsAnalytics.Proofs.Client.SentQuery
import NewsAnalytics.Proofs.Error

/-!
# The key in what is reported

Two clients that differ in their keys are used alike, and the same becomes
of their messages. What they report is the same, unless a message to a host
is lost: that event names the URL that the message was to go to, and the
query of the URL ends with the key. No other event depends on the key, and
two different keys never give the same URL.

## Main results

* `message_ne_of_mem_judge` — a lost message is told apart from an answer.
* `key_eq_of_text_completeUrl` — a completed URL determines the key.
* `records_eq_iff` — when two keys cannot be told apart.
-/

namespace NewsAnalytics

open Text.FormEncoding

/-! ## Records -/

/-- An event as it is reported: weight, wording and fields. -/
def Event.record (event : Event) : Level × String × List (String × String) :=
  (event.level, event.message, event.fields)

theorem Event.message_eq_of_record_eq {event other : Event} (h : event.record = other.record) :
    event.message = other.message :=
  congrArg (fun record => record.2.1) h

/-- The wording of a lost message, from its beginning on. -/
theorem Event.message_sendFailed (path : String) (failure : SendFailure) (url : Url) :
    (Event.sendFailed path failure url).message =
      "Failed to send request to " ++ (path ++ (": " ++ (failure.message ++ (" for url (" ++
        (url.text ++ ")"))))) := by
  simp only [← String.append_assoc]
  rfl

/-- The failures to send are worded differently. -/
theorem SendFailure.eq_of_message_append {failure other : SendFailure} {s t : String}
    (h : failure.message ++ s = other.message ++ t) : failure = other := by
  cases failure with
  | notSendable =>
      cases other with
      | notSendable => rfl
      | noAnswer => exact absurd h (append_ne_append (by decide +kernel) (by decide +kernel) _ _)
  | noAnswer =>
      cases other with
      | notSendable => exact absurd h (append_ne_append (by decide +kernel) (by decide +kernel) _ _)
      | noAnswer => rfl

/-- What is reported of an answer begins otherwise than what is reported of
a lost message. -/
theorem message_ne_of_mem_judge {reply : Reply} {path : String} {event : Event}
    (hMem : event ∈ (reply.judge path).2) (s : String) :
    event.message ≠ "Failed to send request to " ++ s := by
  have hWords : ∃ a t, (a = "Failed to read " ∨ a = "Failed to parse " ∨ a = "Request to ") ∧
      event.message = a ++ t := by
    have hJudged := reply.judged_judge path
    generalize reply.judge path = judgement at hJudged hMem
    cases hJudged with
    | unreadable =>
        obtain rfl := List.mem_singleton.1 hMem
        exact ⟨_, "response body: error decoding response body", .inl rfl, rfl⟩
    | @failed body =>
        obtain rfl := List.mem_singleton.1 hMem
        refine ⟨_, path ++ (" failed with status " ++ (reply.status.text ++ (": " ++
          truncate body))), .inr (.inr rfl), ?_⟩
        simp only [← String.append_assoc]
        rfl
    | @notJson body cause =>
        obtain rfl := List.mem_singleton.1 hMem
        refine ⟨_, "response: " ++ (cause.message ++ (" | body: " ++ truncate body)),
          .inr (.inl rfl), ?_⟩
        simp only [← String.append_assoc]
        rfl
    | json => cases hMem
  obtain ⟨a, t, hBegins, hMessage⟩ := hWords
  rw [hMessage]
  rcases hBegins with rfl | rfl | rfl
  · exact append_ne_append (by decide +kernel) (by decide +kernel) _ _
  · exact append_ne_append (by decide +kernel) (by decide +kernel) _ _
  · exact append_ne_append (by decide +kernel) (by decide +kernel) _ _

/-! ## Completed URLs -/

/-- The query of a URL stands between texts that do not depend on it. -/
theorem Url.exists_text (u : Url) :
    ∃ before behind, ∀ query, ({ u with query := some query } : Url).text =
      before ++ query ++ behind := by
  cases u.fragment with
  | none =>
      refine ⟨u.stem ++ "?", "", fun query => ?_⟩
      simp only [Url.text, String.append_assoc]
      rfl
  | some fragment =>
      refine ⟨u.stem ++ "?", "#" ++ fragment, fun query => ?_⟩
      simp only [Url.text, String.append_assoc]
      rfl

/-- A completed URL determines the key. -/
theorem key_eq_of_text_completeUrl {r : Request} {url : Url} {key other : String}
    (hHost : url.hasHost = true)
    (h : (r.completeUrl key url).text = (r.completeUrl other url).text) : key = other := by
  have hComplete : ∀ k, r.completeUrl k url = { url.withoutUser with
      query := some (Url.joinParts [url.query.getD "", r.queryString, "key=" ++ encode k]) } := by
    intro k
    rw [← r.query_completeUrl k hHost, Request.completeUrl, if_pos hHost]
    rfl
  obtain ⟨before, behind, hText⟩ := Url.exists_text url.withoutUser
  rw [hComplete, hComplete, hText, hText, String.append_left_inj, String.append_right_inj] at h
  have hPairs := congrArg decodePairs h
  rw [Request.decodePairs_parts, Request.decodePairs_parts] at hPairs
  simpa using hPairs

/-- The wording of a lost message determines the key. -/
theorem key_eq_of_record {r : Request} {url : Url} {key other : String}
    {failure failure' : SendFailure} (hHost : url.hasHost = true)
    (h : (Event.sendFailed r.path failure (r.completeUrl key url)).record =
      (Event.sendFailed r.path failure' (r.completeUrl other url)).record) : key = other := by
  have hMessage := Event.message_eq_of_record_eq h
  rw [Event.message_sendFailed, Event.message_sendFailed, String.append_right_inj,
    String.append_right_inj, String.append_right_inj] at hMessage
  have hFailure : failure = failure' := SendFailure.eq_of_message_append hMessage
  rw [hFailure, String.append_right_inj, String.append_right_inj,
    String.append_left_inj] at hMessage
  exact key_eq_of_text_completeUrl hHost hMessage

/-! ## Two keys -/

namespace Outcome

variable {r : Request} {transport : Transport} {url : Url} {network : Network}

theorem events_of_answered {reply : Reply}
    (h : r.exchange transport url network = .answered reply) :
    (ofSending r transport url network).events =
      .dispatching r.method r.path :: (reply.judge r.path).2 := by
  unfold ofSending
  rw [h]

theorem exists_events_of_unanswered
    (h : ∀ reply, r.exchange transport url network ≠ .answered reply) :
    ∃ failure, (ofSending r transport url network).events =
      [.dispatching r.method r.path, .sendFailed r.path failure url] := by
  unfold ofSending
  cases hExchange : r.exchange transport url network with
  | unreachable => exact ⟨_, rfl⟩
  | noAnswer => exact ⟨_, rfl⟩
  | answered reply => exact absurd hExchange (h reply)

variable {key other : String} {exchange : Exchange}

/-- A lost message tells the key of its sender from any other. -/
theorem key_eq_of_records_eq (hHost : url.hasHost = true)
    (hLost : ∀ reply, r.exchange transport (r.completeUrl key url) network ≠ .answered reply)
    (hSame : (ofSending r transport (r.completeUrl key url) network).events.map Event.record =
      (ofSending r transport (r.completeUrl other url) network).events.map Event.record) :
    key = other := by
  obtain ⟨failure, hEvents⟩ := exists_events_of_unanswered hLost
  by_cases hReply : ∃ reply,
      r.exchange transport (r.completeUrl other url) network = .answered reply
  · obtain ⟨reply, hReply⟩ := hReply
    rw [hEvents, events_of_answered hReply] at hSame
    simp only [List.map_cons, List.cons.injEq, true_and] at hSame
    have hMem : (Event.sendFailed r.path failure (r.completeUrl key url)).record ∈
        (reply.judge r.path).2.map Event.record := by
      rw [← hSame]
      exact List.mem_cons_self
    obtain ⟨event, hEvent, hRecord⟩ := List.mem_map.1 hMem
    have hMessage := Event.message_eq_of_record_eq hRecord
    rw [Event.message_sendFailed] at hMessage
    exact absurd hMessage (message_ne_of_mem_judge hEvent _)
  · obtain ⟨failure', hEventsToo⟩ := exists_events_of_unanswered (not_exists.1 hReply)
    rw [hEvents, hEventsToo] at hSame
    simp only [List.map_cons, List.map_nil, List.cons.injEq, and_true, true_and] at hSame
    exact key_eq_of_record hHost hSame

/-- Messages that are both answered are answered alike. -/
theorem events_eq_of_answered {u v : Url} {reply reply' : Reply}
    (hReply : r.exchange transport u (fun _ => exchange) = .answered reply)
    (hReply' : r.exchange transport v (fun _ => exchange) = .answered reply') :
    (ofSending r transport u fun _ => exchange).events =
      (ofSending r transport v fun _ => exchange).events := by
  have hExchange : ∀ {w : Url} {x : Reply},
      r.exchange transport w (fun _ => exchange) = .answered x → exchange = .answered x := by
    intro w x hAnswered
    unfold Request.exchange at hAnswered
    split at hAnswered
    · exact hAnswered
    · cases hAnswered
  obtain rfl := Exchange.answered.inj ((hExchange hReply).symm.trans (hExchange hReply'))
  rw [events_of_answered hReply, events_of_answered hReply']

end Outcome

namespace Client

/-- The request gets as far as a message to a host, and no reply comes back:
the message cannot be sent, does not arrive, or is not answered. -/
def Loses (c : Client) (r : Request) (exchange : Exchange) : Prop :=
  ∃ url transport, c.baseUrl.join r.path = .ok url ∧ c.fetchTransport.result = .ok transport ∧
    url.hasHost = true ∧
    ∀ reply, r.exchange transport (r.completeUrl c.key url) (fun _ => exchange) ≠ .answered reply

/-- The events of a dispatch are those of its outcome. -/
theorem events_dispatch (c : Client) (r : Request) (network : Network) :
    (c.dispatch r network).events =
      (Outcome.ofDispatch c.key c.baseUrl c.fetchTransport.result r network).events :=
  congrArg Outcome.events (outcome_dispatch c r network)

theorem fetchTransport_withKey (c : Client) (key : String) :
    ({ c with key } : Client).fetchTransport.result = c.fetchTransport.result := by
  rw [result_fetchTransport, result_fetchTransport]

variable {c : Client} {r : Request} {key : String} {exchange : Exchange}

/-- A client that loses a message gives its key away. -/
theorem key_eq_of_loses (hLoses : c.Loses r exchange)
    (hSame : (Outcome.ofDispatch c.key c.baseUrl c.fetchTransport.result r
        fun _ => exchange).events.map Event.record =
      (Outcome.ofDispatch key c.baseUrl c.fetchTransport.result r
        fun _ => exchange).events.map Event.record) : c.key = key := by
  obtain ⟨url, transport, hPath, hTransport, hHost, hLost⟩ := hLoses
  simp only [Outcome.ofDispatch, hPath, hTransport] at hSame
  exact Outcome.key_eq_of_records_eq hHost hLost hSame

/-- Where a transport is to be had and the URL has a host, a client that does
not lose the message gets a reply. -/
theorem exists_reply_of_not_loses {url : Url} {transport : Transport}
    (hPath : c.baseUrl.join r.path = .ok url)
    (hTransport : c.fetchTransport.result = .ok transport) (hHost : url.hasHost = true)
    (hKept : ¬ c.Loses r exchange) :
    ∃ reply, r.exchange transport (r.completeUrl c.key url) (fun _ => exchange) =
      .answered reply := by
  by_contra hNone
  exact hKept ⟨url, transport, hPath, hTransport, hHost, not_exists.1 hNone⟩

/-- Where no message to a host is lost, the key does not matter. -/
theorem events_eq_of_not_loses (hKept : ¬ c.Loses r exchange)
    (hKeptToo : ¬ ({ c with key } : Client).Loses r exchange) :
    (Outcome.ofDispatch c.key c.baseUrl c.fetchTransport.result r fun _ => exchange).events =
      (Outcome.ofDispatch key c.baseUrl c.fetchTransport.result r fun _ => exchange).events := by
  cases hPath : c.baseUrl.join r.path with
  | error cause => simp only [Outcome.ofDispatch, hPath]
  | ok url =>
      cases hTransport : c.fetchTransport.result with
      | error e => simp only [Outcome.ofDispatch, hPath]
      | ok transport =>
          simp only [Outcome.ofDispatch, hPath]
          by_cases hHost : url.hasHost = true
          · obtain ⟨reply, hReply⟩ := exists_reply_of_not_loses hPath hTransport hHost hKept
            obtain ⟨reply', hReply'⟩ := exists_reply_of_not_loses (c := { c with key }) hPath
              ((fetchTransport_withKey c key).trans hTransport) hHost hKeptToo
            exact Outcome.events_eq_of_answered hReply hReply'
          · rw [Request.completeUrl, Request.completeUrl, if_neg hHost, if_neg hHost]

/-- Two clients that differ in their keys report the same, with the same
exchange for the messages of both, iff neither of them loses a message to a
host. -/
theorem records_eq_iff (c : Client) (key : String) (r : Request) (exchange : Exchange) :
    (c.dispatch r fun _ => exchange).events.map Event.record =
        ({ c with key }.dispatch r fun _ => exchange).events.map Event.record ↔
      c.key = key ∨ ¬ c.Loses r exchange ∧ ¬ ({ c with key } : Client).Loses r exchange := by
  have hOther : ({ c with key }.dispatch r fun _ => exchange).events =
      (Outcome.ofDispatch key c.baseUrl c.fetchTransport.result r fun _ => exchange).events := by
    rw [← fetchTransport_withKey c key]
    exact events_dispatch { c with key } r _
  rw [events_dispatch c, hOther]
  constructor
  · intro hSame
    by_cases hKey : c.key = key
    · exact .inl hKey
    · refine .inr ⟨fun hLoses => hKey (key_eq_of_loses hLoses hSame), fun hLoses => hKey ?_⟩
      rw [← fetchTransport_withKey c key] at hSame
      exact (key_eq_of_loses hLoses hSame.symm).symm
  · rintro (rfl | ⟨hKept, hKeptToo⟩)
    · rfl
    · exact congrArg (List.map Event.record) (events_eq_of_not_loses hKept hKeptToo)

/-- A server that cannot be reached is enough: two accepted keys are reported
as parts of two URLs. -/
theorem key_in_record_of_unreachable :
    ∃ c : Client, Client.new "first" = .ok c ∧
      Client.new "second" = .ok { c with key := "second" } ∧
      ((c.dispatch (.get "region") fun _ => .unreachable).events.map Event.message).getLast? =
        some ("Failed to send request to region: error sending request for url "
          ++ "(https://api.newswhip.com/v1/region?key=first)") ∧
      (c.dispatch (.get "region") fun _ => .unreachable).events.map Event.record ≠
        ({ c with key := "second" }.dispatch (.get "region")
          fun _ => .unreachable).events.map Event.record := by
  refine ⟨_, new_eq_ok_iff.2 ⟨rfl, rfl⟩, new_eq_ok_iff.2 ⟨rfl, rfl⟩, ?_, ?_⟩
  · decide +kernel
  · decide +kernel

end Client

end NewsAnalytics
