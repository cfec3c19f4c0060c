import NewsAnalytics.Proofs.Client.Dispatch

/-!
# What a dispatch shows

Besides the client that it leaves, a report shows a result, the messages
that arrived and the events. `Outcome.ofDispatch` says what a dispatch
shows without a client: three things decide it, the key, the base URL, and
the transport or the reason why there is none. Whether the transport has
been in place or is built for the dispatch makes no difference.

## Main results

* `outcome_dispatch` — what a dispatch shows depends on these three alone.
-/

namespace NewsAnalytics

/-- What a report shows, the client apart. -/
structure Outcome (α : Type) where
  result : Except Error α
  sent : List Message := []
  events : List Event := []

/-- What a report shows. -/
def Report.outcome {α : Type} (report : Report α) : Outcome α :=
  { result := report.result, sent := report.sent, events := report.events }

namespace Outcome

/-- What the sending of a request to a complete URL shows. -/
def ofSending (r : Request) (transport : Transport) (url : Url) (network : Network) :
    Outcome Json :=
  let start : Event := .dispatching r.method r.path
  let failure : SendFailure := if url.canTravel then .noAnswer else .notSendable
  match r.exchange transport url network with
  | .unreachable =>
    { result := .error .network, events := [start, .sendFailed r.path failure url] }
  | .noAnswer =>
    { result := .error .network
      sent := [r.message transport url]
      events := [start, .sendFailed r.path failure url] }
  | .answered reply =>
    { result := (reply.judge r.path).1
      sent := [r.message transport url]
      events := start :: (reply.judge r.path).2 }

/-- What the dispatch of a request shows, for a key, a base URL and a
transport. -/
def ofDispatch (key : String) (baseUrl : Url) (transport : Except Error Transport)
    (r : Request) (network : Network) : Outcome Json :=
  match baseUrl.join r.path with
  | .error cause =>
    { result := .error (.validation (.invalidPath r.path cause)), events := [.invalidUrl cause] }
  | .ok url =>
    match transport with
    | .error e => { result := .error e, events := [.transportNotBuilt] }
    | .ok transport => ofSending r transport (r.completeUrl key url) network

end Outcome

namespace Client

variable {c : Client} {r : Request} {network : Network}

theorem outcome_deliver {transport : Transport} {url : Url} :
    (c.deliver r transport url network).outcome = .ofSending r transport url network := by
  unfold Outcome.ofSending Request.exchange deliver
  by_cases hTravels : url.canTravel = true
  · simp only [hTravels, Bool.not_true, Bool.false_eq_true, if_false, if_true]
    cases network (r.message transport url) with
    | unreachable => rfl
    | noAnswer => rfl
    | answered reply => rfl
  · simp only [hTravels, Bool.not_false, if_true, Bool.false_eq_true, if_false]
    rfl

/-- What a dispatch shows depends on the key, the base URL, and the transport
that is in place or can be built. -/
theorem outcome_dispatch (c : Client) (r : Request) (network : Network) :
    (c.dispatch r network).outcome =
      .ofDispatch c.key c.baseUrl c.fetchTransport.result r network := by
  unfold Outcome.ofDispatch
  cases hPath : c.baseUrl.join r.path with
  | error cause => rw [dispatch_of_bad_path hPath]; rfl
  | ok url =>
      cases hTransport : c.fetchTransport.result with
      | error e =>
          have hError := Settings.error_of_transport (fetchTransport_eq_error_iff.1 hTransport).2
          rw [dispatch_of_no_transport hPath hTransport, hError]
          rfl
      | ok transport =>
          rw [dispatch_of_transport hPath hTransport, outcome_deliver]

end Client

end NewsAnalytics
