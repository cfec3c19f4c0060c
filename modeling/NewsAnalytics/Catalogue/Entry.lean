/-!
# Entries of the reference tables

The service knows categories, regions and cities by number and by name. A
table lists entries in a fixed order; looking up takes the first entry
that fits. Names are compared without regard to the case of ASCII letters,
and exactly otherwise.

## Main definitions

* `Entry` — a number and a name.
* `nameOf?`, `named?` — the two directions of looking up.
* `sameName` — equality of names up to ASCII case.
-/

namespace NewsAnalytics.Catalogue

/-- A number and the name that belongs to it. -/
structure Entry where
  id : Nat
  name : String
  deriving DecidableEq

/-- The name in the form that comparison uses: ASCII letters in lower case,
all other characters as they are. -/
def foldCase (name : String) : List Char := name.toList.map Char.toLower

/-- The names differ in the case of ASCII letters at most. -/
def sameName (a b : String) : Bool := foldCase a == foldCase b

/-- The name of the first entry with this number. -/
def nameOf? (table : List Entry) (id : Nat) : Option String :=
  (table.find? (·.id == id)).map Entry.name

/-- The first entry with this name. -/
def named? (table : List Entry) (name : String) : Option Entry :=
  table.find? (sameName ·.name name)

theorem sameName_iff {a b : String} : sameName a b = true ↔ foldCase a = foldCase b := by
  simp [sameName]

end NewsAnalytics.Catalogue
