/-!
# White space, blank texts and words

Every emptiness check of this library is a check for *blank* text: names,
keys and filter values count as missing when they hold nothing but white
space. White space is the Unicode property `White_Space`, which has
twenty-five code points in ten runs; the class of core
(`Char.isWhitespace`) knows four of them.

## Main results

* `isBlank_eq_false_iff` — a text that is not blank shows a character.
* `wordsFrom_false_eq_zero_iff` — the texts without words are the blank ones.
-/

namespace NewsAnalytics.Text

/-! ## The property -/

/-- The runs of code points that have the property `White_Space`, first
and last member of each. -/
def blankRuns : List (Nat × Nat) :=
  [(0x0009, 0x000D), (0x0020, 0x0020), (0x0085, 0x0085), (0x00A0, 0x00A0),
   (0x1680, 0x1680), (0x2000, 0x200A), (0x2028, 0x2029), (0x202F, 0x202F),
   (0x205F, 0x205F), (0x3000, 0x3000)]

/-- The character has the property `White_Space`. -/
def isBlankChar (c : Char) : Bool :=
  blankRuns.any fun run => run.1 ≤ c.toNat && c.toNat ≤ run.2

/-- The table holds the twenty-five code points of the property. -/
example : (blankRuns.map fun run => run.2 + 1 - run.1).sum = 25 := by decide

/-! ## Blank texts -/

/-- The text holds nothing but white space. -/
def isBlank (s : String) : Bool := s.toList.all isBlankChar

theorem isBlank_eq_false_iff {s : String} :
    isBlank s = false ↔ ∃ c ∈ s.toList, isBlankChar c = false := by
  simp [isBlank]

/-! ## Words -/

/-- Words that begin in the text, when the character before it belongs to
a word (`inWord`) or not. -/
def wordsFrom : Bool → List Char → Nat
  | _, [] => 0
  | inWord, c :: rest =>
    if isBlankChar c then wordsFrom false rest
    else (if inWord then 0 else 1) + wordsFrom true rest

/-- The number of maximal runs of characters other than white space. -/
def wordCount (s : String) : Nat := wordsFrom false s.toList

/-- A text of several words, such as has to be quoted to stay together. -/
def isPhrase (s : String) : Bool := 1 < wordCount s

/-- No word begins in the texts that are blank. -/
theorem wordsFrom_false_eq_zero_iff (cs : List Char) :
    wordsFrom false cs = 0 ↔ cs.all isBlankChar = true := by
  induction cs with
  | nil => simp [wordsFrom]
  | cons c rest ih =>
      cases h : isBlankChar c
      · simp [wordsFrom, h]
      · simp [wordsFrom, h, ih]

end NewsAnalytics.Text
