import NewsAnalytics.Error
import NewsAnalytics.Url.Reader

/-!
# Settings of a client

All settings are optional. The base URL is kept as given and read anew
whenever it is needed; a slash is put behind it first, so that a relative
path does not replace its last segment. A base that nothing can be
relative to is refused.

A transport is what requests are sent with. The one that settings build
announces the library, marks every request as JSON, and limits the time that
an answer may take; another one may be put in its place, which need not do
any of this and marks at least the requests with a body.

## Main definitions

* `Settings.url` — the base URL.
* `Settings.transport` — the transport.
-/

namespace NewsAnalytics

/-- The base URL of the service. -/
def defaultBaseUrl : String := "https://api.newswhip.com/v1/"

/-- How the library calls itself. -/
def defaultUserAgent : String := "newswhip_api/0.1.0"

/-- The time that a request may take, in seconds. -/
def defaultTimeout : UInt64 := 30

/-- What requests are sent with: how it calls itself, whether it marks the
requests without a body as JSON too, and the seconds that it waits. -/
structure Transport where
  userAgent : Option String
  alwaysJson : Bool
  timeout : Option UInt64 := none
  deriving DecidableEq

/-- Settings of a client. -/
structure Settings where
  baseUrl : Option String := none
  timeoutSecs : Option UInt64 := none
  userAgent : Option String := none
  deriving DecidableEq

namespace Settings

/-- Sets the base URL. -/
def withBaseUrl (s : Settings) (url : String) : Settings := { s with baseUrl := some url }

/-- Sets the timeout. -/
def withTimeoutSecs (s : Settings) (secs : UInt64) : Settings :=
  { s with timeoutSecs := some secs }

/-- Sets the user agent. -/
def withUserAgent (s : Settings) (agent : String) : Settings :=
  { s with userAgent := some agent }

/-- The base URL as given. -/
def rawUrl (s : Settings) : String := s.baseUrl.getD defaultBaseUrl

/-- The text with a slash at its end. -/
def withSlash (raw : String) : String :=
  if raw.toList.getLast? = some '/' then raw else raw ++ "/"

/-- The base URL. -/
def url (s : Settings) : Except Error Url :=
  match Url.parse (withSlash s.rawUrl) with
  | .error cause => .error (.configuration (.invalidBaseUrl s.rawUrl cause))
  | .ok u =>
    if u.isOpaque then .error (.configuration (.opaqueBaseUrl s.rawUrl)) else .ok u

/-- The time that a request may take, in seconds. -/
def timeout (s : Settings) : UInt64 := s.timeoutSecs.getD defaultTimeout

/-- A character that no header holds. -/
def isHeaderControl (c : Char) : Bool := (c < ' ' && c ≠ '\t') || c = '\x7f'

/-- The transport that the settings build. -/
def transport (s : Settings) : Except Error Transport :=
  let agent := s.userAgent.getD defaultUserAgent
  if agent.toList.any isHeaderControl then .error (.configuration .invalidUserAgent)
  else .ok { userAgent := some agent, alwaysJson := true, timeout := some s.timeout }

end Settings

end NewsAnalytics
