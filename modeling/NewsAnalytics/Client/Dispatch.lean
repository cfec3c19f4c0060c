import NewsAnalytics.Client.Basic
import NewsAnalytics.Json.Reader
import NewsAnalytics.Json.Writer
import NewsAnalytics.Query.Basic

/-!
# Dispatching a request

The path of a request is resolved against the base URL, and the pairs of
the request and the key are put behind whatever query the path has. What
can fail, fails in this order: the path, the transport, the sending, the
reading of the body, the status, and the reading of the value. The first
failure is the result.

A user in the URL does not travel with it. A URL without a host is not
even completed with pairs. One of another scheme than `http` and `https`
is, but cannot be sent either; nor can one whose host has characters that
no registered name has, or one that is too long.

## Main definitions

* `Url.addPairs` — pairs behind a query.
* `Url.canTravel` — what a request can be sent to.
* `Request.completeUrl` — the URL of a request with its pairs and the key.
* `Client.dispatch` — a request sent and its answer judged.
-/

namespace NewsAnalytics

/-! ## URLs of requests -/

namespace Url

/-- A written pair behind a written query. -/
def joinQuery (query pair : String) : String :=
  if query = "" then pair else query ++ "&" ++ pair

/-- The URL with further pairs in its query. A query without any text is
dropped. -/
def addPairs (u : Url) (pairs : List (String × String)) : Url :=
  let query := pairs.foldl (fun query pair =>
    joinQuery query (Text.FormEncoding.encodePair pair)) (u.query.getD "")
  { u with query := if query = "" then none else some query }

/-- A written part of a URL holds well-formed text. -/
def isWellFormed (part : String) : Bool :=
  let bytes := Text.Percent.decode part.toList
  Text.Utf8.encode (Text.Utf8.decode bytes) == bytes

/-- The URL without its user and password, which travel apart. They stay if
they cannot be read as text. -/
def withoutUser (u : Url) : Url :=
  match u.authority with
  | none => u
  | some a =>
    let hasPassword := (a.password.map isWellFormed).getD false
    if isWellFormed a.user && (a.user ≠ "" || hasPassword) then
      { u with authority := some { a with user := "", password := none } }
    else u

/-- A character of a registered name, escapes apart: a letter, a digit, or one
of the marks that stand for themselves or divide a name. -/
def isRegisteredNameChar (c : Char) : Bool :=
  c.isAlphanum || "-._~!$&'()*+,;=".toList.contains c

/-- A request can name the host. -/
def Host.canTravel : Host → Bool
  | .name text => text ≠ "" && text.toList.all isRegisteredNameChar
  | .ipv4 _ | .ipv6 _ => true

/-- The bytes that the URL of a request has at most. -/
def longestText : Nat := 65534

/-- A request can be sent to the URL. -/
def canTravel (u : Url) : Bool :=
  isHttpScheme u.scheme && (u.authority.map (·.host.canTravel)).getD false
    && u.text.utf8ByteSize ≤ longestText

/-- The URL as a server sees it. -/
def onWire (u : Url) : Url :=
  { u with
    fragment := none
    authority := u.authority.map fun a => { a with user := "", password := none } }

end Url

/-! ## Messages of requests -/

/-- The URL of a request whose path has been resolved, completed by its pairs
and then by a key. -/
def Request.completeUrl (r : Request) (key : String) (url : Url) : Url :=
  if url.hasHost then (url.withoutUser.addPairs r.pairs).addPairs [("key", key)] else url

/-- The media type of JSON. -/
def jsonType : String := "application/json"

/-- The value of a header without the blanks around it. -/
def trimHeader (value : String) : String :=
  let isBlank (c : Char) : Bool := c = ' ' || c = '\t'
  let start := value.toList.dropWhile isBlank
  String.ofList (start.reverse.dropWhile isBlank).reverse

/-- The body that travels with a request: only a post has one. -/
def Request.sentBody (r : Request) : Option Json :=
  match r.method with
  | .get => none
  | .post => r.body

/-- The message of a request over a transport. -/
def Request.message (r : Request) (transport : Transport) (url : Url) : Message :=
  { method := r.method
    url := url.onWire
    contentType := if transport.alwaysJson || r.sentBody.isSome then some jsonType else none
    userAgent := transport.userAgent.map trimHeader
    timeout := transport.timeout
    body := r.sentBody.map Json.write }

/-! ## Answers -/

/-- The value of a reply to the request for `path`, and what there is to
report. -/
def Reply.judge (reply : Reply) (path : String) : Except Error Json × List Event :=
  match reply.text? with
  | none => (.error .network, [.bodyUnreadable])
  | some body =>
    if reply.status.isOk then
      match Json.read body with
      | .ok value => (.ok value, [])
      | .error cause => (.error (.decode cause), [.bodyNotJson cause body])
    else
      (.error (.api reply.status.code reply.reason), [.statusFailed path reply.status body])

/-! ## Dispatch -/

namespace Client

/-- Sends a request whose URL is complete. -/
def deliver (c : Client) (r : Request) (transport : Transport) (url : Url)
    (network : Network) : Report Json :=
  let start : Event := .dispatching r.method r.path
  let lost (failure : SendFailure) (sent : List Message) : Report Json :=
    { client := c
      result := .error .network
      sent
      events := [start, .sendFailed r.path failure url] }
  if !url.canTravel then lost .notSendable []
  else
    let message := r.message transport url
    match network message with
    | .unreachable => lost .noAnswer []
    | .noAnswer => lost .noAnswer [message]
    | .answered reply =>
      let (result, events) := reply.judge r.path
      { client := c, result, sent := [message], events := start :: events }

/-- Sends a request and judges the answer. -/
def dispatch (c : Client) (r : Request) (network : Network) : Report Json :=
  match c.baseUrl.join r.path with
  | .error cause =>
    { client := c
      result := .error (.validation (.invalidPath r.path cause))
      events := [.invalidUrl cause] }
  | .ok url =>
    let fetched := c.fetchTransport
    match fetched.result with
    | .error e => { client := fetched.client, result := .error e, events := fetched.events }
    | .ok transport => fetched.client.deliver r transport (r.completeUrl c.key url) network

/-- Sends the request of a query. -/
def send (c : Client) (q : Query) (network : Network) : Report Json :=
  match q.toRequest with
  | .error e => { client := c, result := .error e }
  | .ok r => c.dispatch r network

end Client

end NewsAnalytics
