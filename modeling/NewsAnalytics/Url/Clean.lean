/-!
# What counts in the text of a URL

A text may stand between spaces and controls, which do not belong to it,
and tabs and line ends within it are passed over, so that a URL may be
broken over several lines.

## Main definitions

* `trimEdges` — a text without what stands around it.
* `clean` — its characters that count.
-/

namespace NewsAnalytics.Url

/-- A control or a space. -/
def isEdge (c : Char) : Bool := c ≤ ' '

/-- A tab or a line end. -/
def isIgnored (c : Char) : Bool := c = '\t' || c = '\n' || c = '\r'

/-- The characters of a text from the first to the last that is no edge. -/
def trimEdges (s : String) : List Char :=
  ((s.toList.dropWhile isEdge).reverse.dropWhile isEdge).reverse

/-- The characters that count. -/
def clean (cs : List Char) : List Char := cs.filter (!isIgnored ·)

end NewsAnalytics.Url
