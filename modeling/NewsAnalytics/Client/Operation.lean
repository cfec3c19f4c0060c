import NewsAnalytics.Client.Dispatch

/-!
# Operations on a client

Whatever is done to a client is one of a few operations, and a use of a
client is a list of them, each with the network as it is at that time.

## Main definitions

* `Operation`, `Operation.run` — one step.
* `Client.run` — a list of steps.
-/

namespace NewsAnalytics

/-! ## Fixed requests -/

/-- Asks for the regions and categories of the service. -/
def Request.regionsAndCategories : Request := .get "region"

/-- Asks for the cities and local regions of the service. -/
def Request.citiesAndLocalRegions : Request := .get "local"

/-- Asks for a sample of publishers. -/
def Request.samplePublishers : Request := .get "publisher"

/-! ## Operations -/

/-- One thing done to a client. -/
inductive Operation where
  | setKey (key : String)
  | setDebug (debug : Bool)
  | setSettings (settings : Settings)
  | setTransport (transport : Transport)
  | fetchTransport
  | dispatch (request : Request)
  | send (query : Query)

/-- The result of an operation. -/
inductive Answer where
  | done
  | transport (transport : Transport)
  | value (value : Json)

/-- A report with another form of its result. -/
def Report.map {α β : Type} (f : α → β) (r : Report α) : Report β :=
  { r with result := r.result.map f }

/-- Does one thing to a client. -/
def Operation.run (o : Operation) (c : Client) (network : Network) : Report Answer :=
  match o with
  | .setKey key => (c.setKey key).map fun _ => .done
  | .setDebug debug => (c.setDebug debug).map fun _ => .done
  | .setSettings settings => (c.setSettings settings).map fun _ => .done
  | .setTransport transport => (c.setTransport transport).map fun _ => .done
  | .fetchTransport => c.fetchTransport.map .transport
  | .dispatch request => (c.dispatch request network).map .value
  | .send query => (c.send query network).map .value

/-- The reports of a list of operations, each on the client that the one
before it left. -/
def Client.run (c : Client) : List (Operation × Network) → List (Report Answer)
  | [] => []
  | (o, network) :: rest =>
    let report := o.run c network
    report :: report.client.run rest

/-- The client behind a list of operations. -/
def Client.afterAll (c : Client) : List (Operation × Network) → Client
  | [] => c
  | (o, network) :: rest => (o.run c network).client.afterAll rest

end NewsAnalytics
