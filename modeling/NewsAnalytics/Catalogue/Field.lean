/-!
# Fields of an article

A filter term may look at one field of the indexed article. A field has
one name, used in query texts and in JSON alike, and a label for people.
Names are exact: no other case and no blanks.

## Main results

* `ofName?_name` — a field is found by its name.
* `name_of_ofName?` — a name that is found is the name of its field.
-/

namespace NewsAnalytics

/-- The fields that a filter term can be limited to. -/
inductive Field where
  | headline
  | summary
  | authors
  | countryCode
  | regionCode
  | language
  | categories
  | publisher
  | domain
  | href
  deriving DecidableEq

namespace Field

/-- All fields, in the order of the documentation. -/
def all : List Field :=
  [headline, summary, authors, countryCode, regionCode, language, categories, publisher,
   domain, href]

/-- The name of a field in query texts. -/
def name : Field → String
  | headline => "headline"
  | summary => "summary"
  | authors => "authors"
  | countryCode => "country_code"
  | regionCode => "region_code"
  | language => "language"
  | categories => "categories"
  | publisher => "publisher"
  | domain => "domain"
  | href => "href"

/-- The name of a field for people. -/
def label : Field → String
  | headline => "Headline"
  | summary => "Summary"
  | authors => "Authors"
  | countryCode => "Country Code"
  | regionCode => "Region Code"
  | language => "Language"
  | categories => "Categories"
  | publisher => "Publisher"
  | domain => "Domain"
  | href => "Link"

/-- The field of a name. -/
def ofName? (s : String) : Option Field := all.find? (·.name == s)

theorem ofName?_name (f : Field) : ofName? f.name = some f := by
  cases f <;> decide

theorem name_of_ofName? {s : String} {f : Field} (h : ofName? s = some f) : f.name = s := by
  have := List.find?_some h
  simpa using this

end Field

end NewsAnalytics
