import NewsAnalytics.Error
import NewsAnalytics.Filter.Basic

/-!
# Compiling filters

A filter becomes one line of query text: the terms joined by ` AND `, each
with its field and a colon before it. With automatic format a value of
several words is quoted and the members of a group are joined by ` OR `;
without it the words stand as they are.

Compilation checks as it goes, term by term: the field has to be known, a
value must not be blank, and a group needs members, none of them blank. The
first fault is the error.

## Main definitions

* `Term.compile` — one condition.
* `Filter.compile` — the whole filter.
-/

namespace NewsAnalytics

namespace Filter

/-- A value as it stands in the query text; with automatic format a phrase
is quoted. -/
def formatPhrase (auto : Bool) (value : String) : String :=
  if auto && Text.isPhrase value then "\"" ++ value ++ "\"" else value

/-- What stands between the members of a group. -/
def groupSeparator (auto : Bool) : String := if auto then " OR " else " "

/-- The field that a term looks at, if it looks at one. -/
def Term.field? (t : Term) : Except Error (Option Field) :=
  match t.field with
  | none => .ok none
  | some name =>
    if name = "" then .ok none
    else match Field.ofName? name with
      | some f => .ok (some f)
      | none => .error (.validation (.unknownField name))

/-- The field and the colon before a value. -/
def scope (field : Option Field) : String :=
  match field with
  | some f => f.name ++ ": "
  | none => ""

/-- The value of a term in the query text. -/
def Value.compile (auto : Bool) (field : Option Field) : Value → Except Error String
  | .one value =>
    if Text.isBlank value then .error (.validation (.emptyValue field))
    else .ok (formatPhrase auto value)
  | .anyOf values =>
    if values.isEmpty || values.any Text.isBlank then .error (.validation (.emptyGroup field))
    else .ok ("(" ++ (groupSeparator auto).intercalate values ++ ")")

/-- One condition in the query text. -/
def Term.compile (auto : Bool) (t : Term) : Except Error String := do
  let field ← t.field?
  let value ← t.value.compile auto field
  return scope field ++ value

/-- The conditions of a list in the query text, or the first fault. -/
def compileTerms (auto : Bool) : List Term → Except Error (List String)
  | [] => .ok []
  | t :: rest => do
    let text ← t.compile auto
    let texts ← compileTerms auto rest
    return text :: texts

/-- The query text of a filter. -/
def compile (f : Filter) (auto : Bool) : Except Error String :=
  if f.isEmpty then .error (.validation .emptyFilter)
  else match f with
    | .raw text => .ok (formatPhrase auto text)
    | .terms list => do
      let text := " AND ".intercalate (← compileTerms auto list)
      if Text.isBlank text then throw (.validation .noFilter)
      return text

end Filter

end NewsAnalytics
