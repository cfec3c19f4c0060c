/-!
# Splitting at marks

Labels of a host, segments of a path and pairs of a form all stand between
marks that are characters. Splitting keeps empty parts, so that nothing but
the marks is lost.

## Main results

* `length_splitAt` — one part more than there are marks.
-/

namespace NewsAnalytics.Text

/-- The parts of a text between the marks. -/
def splitAt (isMark : Char → Bool) : List Char → List (List Char)
  | [] => [[]]
  | c :: rest =>
    if isMark c then [] :: splitAt isMark rest
    else match splitAt isMark rest with
      | [] => [[c]]
      | part :: parts => (c :: part) :: parts

theorem length_splitAt (isMark : Char → Bool) (cs : List Char) :
    (splitAt isMark cs).length = cs.countP isMark + 1 := by
  induction cs with
  | nil => rfl
  | cons c rest ih =>
      cases h : isMark c
      · cases hs : splitAt isMark rest with
        | nil => simp [hs] at ih
        | cons part parts => simpa [splitAt, h, hs] using ih
      · simp [splitAt, h, ih]

end NewsAnalytics.Text
