import NewsAnalytics.Request.Basic
import NewsAnalytics.Request.Segment

/-!
# Listings

A listing asks for the top articles of a region and category, of a
publisher or of a city over a period, or for articles that contain a text.
It is a request without body: what it is about stands in the path, in
form-encoded segments, and how the articles are chosen stands in the query.
A search has its text in the query too, behind the options.

## Main definitions

* `Listing`, `Listing.Subject`, `ListingOptions` — the data.
* `Listing.set` — one option set anew.
* `Listing.toRequest` — the request.
-/

namespace NewsAnalytics

/-- How the articles of a listing are chosen. -/
structure ListingOptions where
  size : Int64 := 100
  sortBy : String := "default"
  videoOnly : Bool := false
  deriving DecidableEq

/-- A truth value in a query. -/
def flagText (flag : Bool) : String := if flag then "true" else "false"

/-- The pairs of the options. -/
def ListingOptions.pairs (o : ListingOptions) : List (String × String) :=
  [("size", toString o.size.toInt), ("sort_by", o.sortBy), ("video_only", flagText o.videoOnly)]

namespace Listing

/-- What a listing is about. A period is a number of hours. -/
inductive Subject where
  | region (region category : String) (period : UInt32)
  | publisher (publisher : String) (period : UInt32)
  | city (city : String) (period : UInt32)
  | search (text : String)
  deriving DecidableEq

/-- One option set anew. -/
inductive Setting where
  | size (size : Int64)
  | sortBy (sortBy : String)
  | videoOnly (videoOnly : Bool)
  deriving DecidableEq

end Listing

/-- A listing of articles. -/
structure Listing where
  subject : Listing.Subject
  options : ListingOptions := {}
  deriving DecidableEq

namespace Listing

/-- Sets an option. -/
def set (l : Listing) : Setting → Listing
  | .size size => { l with options := { l.options with size } }
  | .sortBy sortBy => { l with options := { l.options with sortBy } }
  | .videoOnly videoOnly => { l with options := { l.options with videoOnly } }

/-- The segments of the path. -/
def Subject.segments : Subject → Except Error (List String)
  | .region name kind period => do
    let nameSegment ← Request.segment "region" name
    let kindSegment ← Request.segment "category" kind
    return ["region", nameSegment, kindSegment, toString period.toNat]
  | .publisher name period => do
    let nameSegment ← Request.segment "publisher" name
    return ["publisher", nameSegment, toString period.toNat]
  | .city name period => do
    let nameSegment ← Request.segment "city" name
    return ["local", nameSegment, toString period.toNat]
  | .search _ => .ok ["search"]

/-- The pairs that the subject adds behind the options. -/
def Subject.pairs : Subject → List (String × String)
  | .search text => [("q", text)]
  | _ => []

/-- The request of a listing. -/
def toRequest (l : Listing) : Except Error Request := do
  let segments ← l.subject.segments
  return ((Request.get ("/".intercalate segments)).withPairs l.options.pairs).withPairs
    l.subject.pairs

end Listing

end NewsAnalytics
