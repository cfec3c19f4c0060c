import NewsAnalytics.Catalogue.Field
import NewsAnalytics.Json.Failure
import NewsAnalytics.Url.Basic

/-!
# Errors

An error has one of six kinds. The first two are found before anything is
sent: settings that no client can work with, and input that no request can
be built from. The others concern the method of a hand-made request, the
answer of the service, and the way there and back.

Each cause is a constructor; `Error.message` is the only place that words
them.

## Main definitions

* `Misconfiguration`, `InvalidInput` — causes found before sending.
* `Error`, `Error.message` — all errors and their wording.
-/

namespace NewsAnalytics

/-- The variable of the environment that holds the key. -/
def keyVariable : String := "NEWSWHIP_API_KEY"

/-- The variable of the environment that sets the debug flag. -/
def debugVariable : String := "NEWSWHIP_DEBUG"

/-- Settings that no client can work with. -/
inductive Misconfiguration where
  | missingKey
  | keyNotSet
  | invalidBaseUrl (raw : String) (cause : Url.Error)
  | opaqueBaseUrl (raw : String)
  | invalidUserAgent

/-- Input that no request can be built from. -/
inductive InvalidInput where
  | unknownField (name : String)
  | emptyFilter
  | noFilter
  | emptyValue (field : Option Field)
  | emptyGroup (field : Option Field)
  | missingSortBy
  | missingAggregateBy
  | emptyName (component : String)
  | dotName (component : String)
  | invalidPath (path : String) (cause : Url.Error)

/-- All errors. -/
inductive Error where
  | configuration (cause : Misconfiguration)
  | validation (cause : InvalidInput)
  | unsupportedMethod (token : String)
  | api (status : Nat) (reason : String)
  | decode (cause : Json.Error)
  | network

/-! ## Wording -/

/-- The wording of a misconfiguration. -/
def Misconfiguration.message : Misconfiguration → String
  | .missingKey => "an API key is required"
  | .keyNotSet => keyVariable ++ " is not set"
  | .invalidBaseUrl raw cause => "invalid base url " ++ raw ++ ": " ++ cause.message
  | .opaqueBaseUrl raw => "base url " ++ raw ++ " cannot have relative paths"
  | .invalidUserAgent => "failed to build HTTP client: builder error"

/-- A field in a message; a term without field leaves a gap. -/
def fieldName (field : Option Field) : String :=
  match field with
  | some f => f.name
  | none => ""

/-- The wording of invalid input. -/
def InvalidInput.message : InvalidInput → String
  | .unknownField name => "Invalid filter field passed (" ++ name ++ ")"
  | .emptyFilter => "filters should be a non-empty set of terms or a string"
  | .noFilter => "At least one filter must be passed"
  | .emptyValue field => "empty value for filter term " ++ fieldName field
  | .emptyGroup field => "empty value group for filter term " ++ fieldName field
  | .missingSortBy => "sort_by is required"
  | .missingAggregateBy => "aggregate_by is required"
  | .emptyName component => component ++ " must not be empty"
  | .dotName component => component ++ " is not a valid name"
  | .invalidPath path cause => "invalid request path " ++ path ++ ": " ++ cause.message

/-- The wording of an error. -/
def Error.message : Error → String
  | .configuration cause => "Invalid configuration: " ++ cause.message
  | .validation cause => "Invalid input: " ++ cause.message
  | .unsupportedMethod token => token ++ " is not a supported method"
  | .api status reason => "Request failed with status " ++ toString status ++ ": " ++ reason
  | .decode cause => "Failed to decode response: " ++ cause.message
  | .network => "Network error"

end NewsAnalytics
