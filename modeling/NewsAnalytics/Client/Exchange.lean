import NewsAnalytics.Request.Basic
import NewsAnalytics.Settings.Basic

/-!
# What goes over the wire, and what comes back

A client hands a finished message to the network, and the network answers
in one of three ways: the message does not arrive, it arrives and no
readable answer comes back, or a reply comes back. The network is a
parameter of the library, a function from messages to exchanges, so that
everything the client does stays a function too.

The network begins where the client lets go of the message. It keeps the
time limit of the message, and it does whatever a transport does by itself:
it looks up names, encrypts, follows redirections, unpacks bodies and passes
over interim replies. Its answer is what comes out of all that, the final
reply or none. The headers of a reply have done their work by then, and the
client reads none of them, so a reply has no headers here.

A reply has a status of three digits. Its phrase is heard only if it is
ASCII; the standard phrase of a status is not stored with the reply, any
other is. The body may break off before its announced end.

## Main definitions

* `Message`, `Exchange`, `Network` — the two directions.
* `Status.standardPhrase?` — the phrases of the standard.
* `Reply.reason`, `Reply.text?` — what a client learns from a reply.

## Main results

* `Reply.text?_eq_some_iff`, `Reply.text?_eq_none_iff` — what the body of a
  reply says, and when it says nothing.
-/

namespace NewsAnalytics

/-! ## Status -/

/-- A status code: a number of three digits. -/
structure Status where
  code : Nat
  threeDigits : 100 ≤ code ∧ code ≤ 999
  deriving DecidableEq

namespace Status

/-- The status of a number, if it has three digits. -/
def ofNat? (n : Nat) : Option Status :=
  if h : 100 ≤ n ∧ n ≤ 999 then some ⟨n, h⟩ else none

/-- The phrases that the standards give to status codes. -/
def standardPhrases : List (Nat × String) :=
  [(100, "Continue"), (101, "Switching Protocols"), (102, "Processing"),
   (103, "Early Hints"), (200, "OK"), (201, "Created"), (202, "Accepted"),
   (203, "Non Authoritative Information"), (204, "No Content"), (205, "Reset Content"),
   (206, "Partial Content"), (207, "Multi-Status"), (208, "Already Reported"),
   (226, "IM Used"), (300, "Multiple Choices"), (301, "Moved Permanently"),
   (302, "Found"), (303, "See Other"), (304, "Not Modified"), (305, "Use Proxy"),
   (307, "Temporary Redirect"), (308, "Permanent Redirect"), (400, "Bad Request"),
   (401, "Unauthorized"), (402, "Payment Required"), (403, "Forbidden"),
   (404, "Not Found"), (405, "Method Not Allowed"), (406, "Not Acceptable"),
   (407, "Proxy Authentication Required"), (408, "Request Timeout"), (409, "Conflict"),
   (410, "Gone"), (411, "Length Required"), (412, "Precondition Failed"),
   (413, "Payload Too Large"), (414, "URI Too Long"), (415, "Unsupported Media Type"),
   (416, "Range Not Satisfiable"), (417, "Expectation Failed"), (418, "I'm a teapot"),
   (421, "Misdirected Request"), (422, "Unprocessable Entity"), (423, "Locked"),
   (424, "Failed Dependency"), (425, "Too Early"), (426, "Upgrade Required"),
   (428, "Precondition Required"), (429, "Too Many Requests"),
   (431, "Request Header Fields Too Large"), (451, "Unavailable For Legal Reasons"),
   (500, "Internal Server Error"), (501, "Not Implemented"), (502, "Bad Gateway"),
   (503, "Service Unavailable"), (504, "Gateway Timeout"),
   (505, "HTTP Version Not Supported"), (506, "Variant Also Negotiates"),
   (507, "Insufficient Storage"), (508, "Loop Detected"), (510, "Not Extended"),
   (511, "Network Authentication Required")]

/-- The standard phrase of a status. -/
def standardPhrase? (s : Status) : Option String := standardPhrases.lookup s.code

/-- The only status that carries a value. -/
def isOk (s : Status) : Bool := s.code == 200

/-- The status of replies that have no body. Of the interim ones only 101
comes through to a client. -/
def isBodiless (s : Status) : Bool := s.code == 101 || s.code == 204 || s.code == 304

theorem isBodiless_iff {s : Status} : s.isBodiless = true ↔ s.code ∈ [101, 204, 304] := by
  simp [isBodiless, or_assoc]

/-- A status with its standard phrase. -/
def text (s : Status) : String :=
  toString s.code ++ " " ++ s.standardPhrase?.getD "<unknown status code>"

end Status

/-! ## Replies -/

/-- What a server sends back: a status, perhaps a phrase, and a body that
may break off. -/
structure Reply where
  status : Status
  phrase : Option (List UInt8) := none
  body : List UInt8 := []
  isComplete : Bool := true

namespace Reply

/-- The phrase as it is heard: nothing unless all of it is ASCII. -/
def heardPhrase (r : Reply) : String :=
  match r.phrase with
  | some bytes =>
    if bytes.all (· < 0x80) then String.ofList (Text.Utf8.decode bytes) else ""
  | none => ""

/-- The phrase that is stored with the reply, which is never the standard
one. -/
def storedPhrase? (r : Reply) : Option String :=
  if r.status.standardPhrase? = some r.heardPhrase then none else some r.heardPhrase

/-- The phrase that a client reports. -/
def reason (r : Reply) : String :=
  (r.storedPhrase?.orElse fun _ => r.status.standardPhrase?).getD "Unknown"

/-- The text of the body, if it came to its end. -/
def text? (r : Reply) : Option String :=
  if r.status.isBodiless then some ""
  else if r.isComplete then some (String.ofList (Text.Utf8.decode r.body))
  else none

/-- The reply says `body`: nothing if its status goes without a body, else
all the bytes that were announced, read as text. -/
inductive Says (r : Reply) : (body : String) → Prop
  | bodiless (hStatus : r.status.code ∈ [101, 204, 304]) : Says r ""
  | complete (hStatus : r.status.code ∉ [101, 204, 304]) (hComplete : r.isComplete = true) :
      Says r (String.ofList (Text.Utf8.decode r.body))

/-- The reply is to have a body, and its end is missing. -/
def IsCutOff (r : Reply) : Prop := r.status.code ∉ [101, 204, 304] ∧ r.isComplete = false

/-- The text of the body is what the reply says. -/
theorem text?_eq_some_iff {r : Reply} {body : String} : r.text? = some body ↔ r.Says body := by
  constructor
  · intro hText
    unfold text? at hText
    split at hText
    · next hStatus => exact Option.some.inj hText ▸ .bodiless (Status.isBodiless_iff.1 hStatus)
    · next hStatus =>
        have hCode := mt Status.isBodiless_iff.2 hStatus
        split at hText
        · next hComplete => exact Option.some.inj hText ▸ .complete hCode hComplete
        · cases hText
  · intro hSays
    cases hSays with
    | bodiless hCode => rw [text?, if_pos (Status.isBodiless_iff.2 hCode)]
    | complete hCode hComplete =>
        rw [text?, if_neg (mt Status.isBodiless_iff.1 hCode), if_pos hComplete]

/-- There is no text iff the body was to come and broke off. -/
theorem text?_eq_none_iff {r : Reply} : r.text? = none ↔ r.IsCutOff := by
  rw [IsCutOff, ← Status.isBodiless_iff, text?]
  cases r.status.isBodiless <;> cases r.isComplete <;> simp

/-- The reported phrase is the one that was heard. -/
theorem reason_eq_heardPhrase (r : Reply) : r.reason = r.heardPhrase := by
  unfold reason storedPhrase?
  by_cases h : r.status.standardPhrase? = some r.heardPhrase <;> simp [h]

end Reply

/-! ## Messages -/

/-- A finished request as it is handed over: what is to arrive at a server,
and the seconds within which the answer has to be back, if they are limited. -/
structure Message where
  method : Method
  url : Url
  contentType : Option String
  userAgent : Option String
  timeout : Option UInt64
  body : Option String
  deriving DecidableEq

/-- What becomes of a message. One whose time runs out counts as not answered,
and a body that has not come to its end by then as broken off. -/
inductive Exchange where
  | unreachable
  | noAnswer
  | answered (reply : Reply)

/-- The world beyond the client, with whatever a transport does by itself. -/
abbrev Network := Message → Exchange

end NewsAnalytics
