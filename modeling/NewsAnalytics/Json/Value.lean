/-!
# JSON values

Numbers keep the distinction that the text makes: an integer that a
machine word holds stays an integer, every other number is a float. An
object is a list of fields in the order of their names, without repeated
names; `Fields.insert` keeps both properties, and everything that builds
an object goes through it.

## Main results

* `Fields.get?_insert_self`, `Fields.get?_insert_of_ne` — insertion
  updates one name and leaves every other alone.
-/

namespace NewsAnalytics

/-- A number, written as an integer or with a fraction or exponent. -/
inductive Json.Number where
  | int (value : Int)
  | float (value : Float)
  deriving DecidableEq

/-- A JSON value. -/
inductive Json where
  | null
  | bool (value : Bool)
  | num (value : Json.Number)
  | str (value : String)
  | arr (items : List Json)
  | obj (fields : List (String × Json))

namespace Json

instance : Inhabited Json := ⟨.null⟩

/-- The number is zero, of either sign. -/
def Number.isZero : Number → Bool
  | .int i => i == 0
  | .float x => x == 0.0

/-- The fields of an object, in the order of their names. -/
abbrev Fields := List (String × Json)

namespace Fields

/-- Sets a field, in place of an earlier one of that name. -/
def insert (name : String) (value : Json) : Fields → Fields
  | [] => [(name, value)]
  | (n, v) :: rest =>
    if name = n then (name, value) :: rest
    else if name < n then (name, value) :: (n, v) :: rest
    else (n, v) :: insert name value rest

/-- The value of a field. -/
def get? (name : String) : Fields → Option Json
  | [] => none
  | (n, v) :: rest => if name = n then some v else get? name rest

/-- The fields that a list of entries leaves when they are set in order. -/
def ofEntries (entries : List (String × Json)) : Fields :=
  entries.foldl (fun fields entry => fields.insert entry.1 entry.2) []

@[simp] theorem get?_insert_self (name : String) (value : Json) (fields : Fields) :
    (fields.insert name value).get? name = some value := by
  induction fields with
  | nil => simp [insert, get?]
  | cons field rest ih =>
      obtain ⟨n, v⟩ := field
      by_cases h : name = n
      · simp [insert, get?, h]
      · by_cases hlt : name < n <;> simp [insert, get?, h, hlt, ih]

theorem get?_insert_of_ne {name other : String} (h : other ≠ name) (value : Json)
    (fields : Fields) : (fields.insert name value).get? other = fields.get? other := by
  induction fields with
  | nil => simp [insert, get?, h]
  | cons field rest ih =>
      obtain ⟨n, v⟩ := field
      by_cases hn : name = n
      · subst hn; simp [insert, get?, h]
      · by_cases hlt : name < n
        · simp [insert, get?, hn, hlt, h]
        · simp [insert, get?, hn, hlt, ih]

end Fields

end Json

end NewsAnalytics
