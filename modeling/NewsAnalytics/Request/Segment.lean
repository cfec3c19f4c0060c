import NewsAnalytics.Error
import NewsAnalytics.Text.Blank
import NewsAnalytics.Text.FormEncoding

/-!
# Names as segments of a path

A name becomes a segment by form encoding, which leaves no character that
could end the segment. Two names would still be read as steps through the
path, `.` and `..`, and a blank one would be no segment at all; these are
refused, with the component they were given for.
-/

namespace NewsAnalytics.Request

/-- The segment of a name. -/
def segment (component name : String) : Except Error String :=
  if Text.isBlank name then .error (.validation (.emptyName component))
  else if name = "." ∨ name = ".." then .error (.validation (.dotName component))
  else .ok (Text.FormEncoding.encode name)

end NewsAnalytics.Request
