import NewsAnalytics.Catalogue.Field
import NewsAnalytics.Text.Blank

/-!
# Filters

A filter says which articles a query is about. It is a raw query text, or
a list of terms that all have to hold. A term looks at one field or at all
of them, and asks for one value or for any of a group.

Field names are kept as given: a name may be unknown until the filter is
compiled. The empty name means no field.

## Main definitions

* `Filter`, `Term`, `Value` — the data.
* `Filter.push` — adds a term; a raw text becomes the first one.
* `Filter.isEmpty` — nothing to compile.
-/

namespace NewsAnalytics

namespace Filter

/-- What a term asks for. -/
inductive Value where
  | one (value : String)
  | anyOf (values : List String)
  deriving DecidableEq

/-- One condition of a filter. -/
structure Term where
  field : Option String
  value : Value
  deriving DecidableEq

end Filter

/-- A raw query text, or terms that all have to hold. -/
inductive Filter where
  | raw (text : String)
  | terms (list : List Filter.Term)
  deriving DecidableEq

namespace Filter

/-- The filter without terms. -/
def empty : Filter := .terms []

/-- The filter as terms: a raw text is one term without field. -/
def toTerms : Filter → List Term
  | .raw text => [⟨none, .one text⟩]
  | .terms list => list

/-- Adds a term behind the others. -/
def push (f : Filter) (t : Term) : Filter := .terms (f.toTerms ++ [t])

/-- Adds a term that looks at a field. -/
def withField (f : Filter) (field : Field) (value : Value) : Filter :=
  f.push ⟨some field.name, value⟩

/-- Adds a term that looks at a field given by name, which is not checked
yet. -/
def withNamedField (f : Filter) (name : String) (value : Value) : Filter :=
  f.push ⟨some name, value⟩

/-- Adds a term that looks at all fields. -/
def withTerm (f : Filter) (value : Value) : Filter := f.push ⟨none, value⟩

/-- There is nothing to compile: a blank text, or no terms. -/
def isEmpty : Filter → Bool
  | .raw text => Text.isBlank text
  | .terms list => list.isEmpty

end Filter

end NewsAnalytics
