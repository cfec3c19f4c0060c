import NewsAnalytics.Client.Exchange

/-!
# Events

A client reports what it does and what fails, in the order in which it
happens. A text that a server sent is reported in part: at most two
thousand bytes of it, cut between characters, with a mark where it was cut.

## Main definitions

* `truncate` — the part of a text that is reported.
* `Event`, `Event.message` — the events and their wording.
-/

namespace NewsAnalytics

/-- The number of bytes of a text that are reported. -/
def reportLimit : Nat := 2000

/-- The part of a text that is reported. -/
def truncate (s : String) : String :=
  let bytes := Text.Utf8.encode s.toList
  if bytes.length ≤ reportLimit then s
  else
    let stop := Text.Utf8.floorBoundary bytes reportLimit
    String.ofList (Text.Utf8.takeBytes stop s.toList) ++ "...[truncated]"

/-- Why a message was not sent or not answered. -/
inductive SendFailure where
  | notSendable
  | noAnswer
  deriving DecidableEq

/-- The wording of a failure to send. -/
def SendFailure.message : SendFailure → String
  | .notSendable => "builder error"
  | .noAnswer => "error sending request"

/-- The weight of an event. -/
inductive Level where
  | debug
  | error
  deriving DecidableEq

/-- What a client reports. -/
inductive Event where
  | invalidUrl (cause : Url.Error)
  | transportNotBuilt
  | dispatching (method : Method) (path : String)
  | sendFailed (path : String) (failure : SendFailure) (url : Url)
  | bodyUnreadable
  | statusFailed (path : String) (status : Status) (body : String)
  | bodyNotJson (cause : Json.Error) (body : String)

namespace Event

/-- The weight of an event. Only the beginning of a dispatch is no failure. -/
def level : Event → Level
  | .dispatching _ _ => .debug
  | _ => .error

/-- The wording of an event. -/
def message : Event → String
  | .invalidUrl cause => "Invalid URL constructed: " ++ cause.message
  | .transportNotBuilt => "Failed to build HTTP client: builder error"
  | .dispatching _ _ => "dispatching request"
  | .sendFailed path failure url =>
    "Failed to send request to " ++ path ++ ": " ++ failure.message ++ " for url ("
      ++ url.text ++ ")"
  | .bodyUnreadable => "Failed to read response body: error decoding response body"
  | .statusFailed path status body =>
    "Request to " ++ path ++ " failed with status " ++ status.text ++ ": " ++ truncate body
  | .bodyNotJson cause body =>
    "Failed to parse response: " ++ cause.message ++ " | body: " ++ truncate body

/-- The fields that an event has besides its wording. -/
def fields : Event → List (String × String)
  | .dispatching method path => [("method", method.name), ("path", path)]
  | _ => []

end Event

end NewsAnalytics
