import NewsAnalytics.Client.Event
import NewsAnalytics.Text.Blank

/-!
# Clients

A client holds a key, a debug flag, settings with the base URL that they
stand for, and a place for the transport. The place is filled when a
transport is first needed, or at once when settings are replaced; a caller
may also put one there.

Every operation answers with a `Report`: the client afterwards, the
result, the messages that arrived at a server, and the events. An operation
that fails leaves the client as it was.

## Main definitions

* `Client`, `Report` — the data.
* `Client.ofSettings`, `Client.ofEnvironment` — construction.
* `Client.setKey`, `Client.setSettings`, … — the setters.
* `Client.fetchTransport` — the transport, built if need be.
-/

namespace NewsAnalytics

/-- A client of the service. -/
structure Client where
  key : String
  debug : Bool := false
  settings : Settings
  baseUrl : Url
  transport : Option Transport := none

/-- What an operation on a client leaves behind. -/
structure Report (α : Type) where
  client : Client
  result : Except Error α
  sent : List Message := []
  events : List Event := []

namespace Client

/-! ## Construction -/

/-- A key has to show something. -/
def checkKey (key : String) : Except Error String :=
  if Text.isBlank key then .error (.configuration .missingKey) else .ok key

/-- A client with the given settings. -/
def ofSettings (key : String) (settings : Settings) : Except Error Client := do
  let key ← checkKey key
  let baseUrl ← settings.url
  return { key, settings, baseUrl }

/-- A client with default settings. -/
def new (key : String) : Except Error Client := ofSettings key {}

/-- A client with a base URL of its own. -/
def withBaseUrl (url key : String) : Except Error Client :=
  ofSettings key (({} : Settings).withBaseUrl url)

/-- Sets the debug flag of a new client. -/
def withDebug (c : Client) (debug : Bool) : Client := { c with debug }

/-- The texts that switch the debug flag on, in any case of ASCII letters. -/
def isDebugText (text : String) : Bool :=
  let lower := text.toList.map Char.toLower
  lower = ['1'] || lower = ['t', 'r', 'u', 'e'] || lower = ['y', 'e', 's']

/-- A client with default settings whose key and debug flag are variables
of the environment. -/
def ofEnvironment (key debug : Option String) : Except Error Client :=
  match key with
  | none => .error (.configuration .keyNotSet)
  | some key => do
    let c ← new key
    return c.withDebug ((debug.map isDebugText).getD false)

/-! ## Setters -/

/-- Replaces the key. -/
def setKey (c : Client) (key : String) : Report Unit :=
  match checkKey key with
  | .ok key => { client := { c with key }, result := .ok () }
  | .error e => { client := c, result := .error e }

/-- Replaces the debug flag. -/
def setDebug (c : Client) (debug : Bool) : Report Unit :=
  { client := { c with debug }, result := .ok () }

/-- Puts a transport in place. -/
def setTransport (c : Client) (transport : Transport) : Report Unit :=
  { client := { c with transport := some transport }, result := .ok () }

/-- Replaces the settings and with them the base URL and the transport. -/
def setSettings (c : Client) (settings : Settings) : Report Unit :=
  match settings.url with
  | .error e => { client := c, result := .error e }
  | .ok baseUrl =>
    match settings.transport with
    | .error e => { client := c, result := .error e, events := [.transportNotBuilt] }
    | .ok transport =>
      { client := { c with settings, baseUrl, transport := some transport }, result := .ok () }

/-! ## Transport -/

/-- The transport in place, or the one that the settings build, which is
then put in place. -/
def fetchTransport (c : Client) : Report Transport :=
  match c.transport with
  | some transport => { client := c, result := .ok transport }
  | none =>
    match c.settings.transport with
    | .ok transport =>
      { client := { c with transport := some transport }, result := .ok transport }
    | .error e => { client := c, result := .error e, events := [.transportNotBuilt] }

/-! ## Display -/

/-- The client as it is shown. The key is kept out. -/
def display (c : Client) : String :=
  "Client \x7b api_key: \"<redacted>\", debug: " ++ (if c.debug then "true" else "false")
    ++ ", base_url: " ++ Text.quoted c.baseUrl.text ++ " \x7d"

end Client

end NewsAnalytics
