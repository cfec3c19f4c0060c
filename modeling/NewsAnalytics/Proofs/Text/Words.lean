import NewsAnalytics.Proofs.Text.Split
import NewsAnalytics.Text.Blank

/-!
# Words and the places between them

A text falls into words, the maximal runs of characters other than white
space. Arguments about a text that is built from parts need two facts.
A text can be cut in one way only where a property of its characters
changes (`append_cut`), and a word that stands between white space is
found as a word of the whole text (`mem_words_of_delimited`).

## Main results

* `append_cut`, `append_word_cut` — the cuts are unique.
* `length_words` — the words are as many as are counted.
* `exists_single_word` — a text of one word is that word between blanks.
-/

namespace NewsAnalytics.Text

/-! ## Cuts -/

/-- A list can be cut where `p` first fails. -/
theorem exists_cut (p : Char → Bool) (cs : List Char) :
    ∃ a r, (∀ c ∈ a, p c = true) ∧ (∀ c ∈ r.head?, p c = false) ∧ cs = a ++ r := by
  induction cs with
  | nil => exact ⟨[], [], by simp, by simp, rfl⟩
  | cons c rest ih =>
      by_cases hc : p c = true
      · obtain ⟨a, r, ha, hr, rfl⟩ := ih
        refine ⟨c :: a, r, ?_, hr, rfl⟩
        intro d hd
        rcases List.mem_cons.1 hd with rfl | hd
        · exact hc
        · exact ha d hd
      · exact ⟨[], c :: rest, by simp, by simpa using hc, rfl⟩

/-- A list is cut in one way where `p` first fails. -/
theorem append_cut (p : Char → Bool) {a a' r r' : List Char}
    (ha : ∀ c ∈ a, p c = true) (ha' : ∀ c ∈ a', p c = true)
    (hr : ∀ c ∈ r.head?, p c = false) (hr' : ∀ c ∈ r'.head?, p c = false)
    (h : a ++ r = a' ++ r') : a = a' ∧ r = r' := by
  induction a generalizing a' with
  | nil =>
      cases a' with
      | nil => exact ⟨rfl, h⟩
      | cons d rest' =>
          have hd : p d = false := hr d (by rw [List.nil_append] at h; simp [h])
          rw [ha' d (by simp)] at hd
          cases hd
  | cons c rest ih =>
      cases a' with
      | nil =>
          have hc : p c = false := hr' c (by rw [List.nil_append] at h; simp [← h])
          rw [ha c (by simp)] at hc
          cases hc
      | cons d rest' =>
          simp only [List.cons_append, List.cons.injEq] at h
          obtain ⟨rfl, h⟩ := h
          obtain ⟨rfl, rfl⟩ := ih (fun x hx => ha x (by simp [hx]))
            (fun x hx => ha' x (by simp [hx])) h
          exact ⟨rfl, rfl⟩

/-- White space only. -/
def AllBlank (cs : List Char) : Prop := ∀ c ∈ cs, isBlankChar c = true

/-- A word: at least one character, and no white space. -/
def IsWord (cs : List Char) : Prop := cs ≠ [] ∧ ∀ c ∈ cs, isBlankChar c = false

theorem isWord_of_all {cs : List Char} (hNe : cs ≠ []) (h : cs.all (!isBlankChar ·) = true) :
    IsWord cs := by
  refine ⟨hNe, fun c hc => ?_⟩
  simpa using List.all_eq_true.1 h c hc

/-- The text begins with white space or is empty, so that a word may end
before it. -/
def StartsBlank (cs : List Char) : Prop := ∀ c ∈ cs.head?, isBlankChar c = true

theorem AllBlank.startsBlank_append {a r : List Char} (ha : AllBlank a) (hr : StartsBlank r) :
    StartsBlank (a ++ r) := by
  cases a with
  | nil => exact hr
  | cons c rest => simpa [StartsBlank] using ha c (by simp)

theorem IsWord.not_startsBlank {w : List Char} (hw : IsWord w) (r : List Char) :
    ∀ c ∈ (w ++ r).head?, isBlankChar c = false := by
  obtain ⟨hne, hw⟩ := hw
  cases w with
  | nil => exact absurd rfl hne
  | cons d rest => simpa using hw d (by simp)

/-- The first word of a text, the blanks before it and what stands behind
it are determined by the text. -/
theorem append_word_cut {a a' w w' r r' : List Char} (ha : AllBlank a) (ha' : AllBlank a')
    (hw : IsWord w) (hw' : IsWord w') (hr : StartsBlank r) (hr' : StartsBlank r')
    (h : a ++ (w ++ r) = a' ++ (w' ++ r')) : a = a' ∧ w = w' ∧ r = r' := by
  obtain ⟨hA, hRest⟩ := append_cut isBlankChar ha ha' (hw.not_startsBlank r)
    (hw'.not_startsBlank r') h
  have hCut := append_cut (fun c => !isBlankChar c)
    (fun c hc => by simpa using hw.2 c hc) (fun c hc => by simpa using hw'.2 c hc)
    (fun c hc => by simpa using hr c hc) (fun c hc => by simpa using hr' c hc) hRest
  exact ⟨hA, hCut⟩

/-- Blanks hold no word. -/
theorem AllBlank.ne_append_word {a b w r : List Char} (ha : AllBlank a) (hw : IsWord w) :
    a ≠ b ++ (w ++ r) := by
  rintro rfl
  obtain ⟨hne, hw⟩ := hw
  obtain ⟨c, rest, rfl⟩ := List.exists_cons_of_ne_nil hne
  have hc := ha c (by simp)
  rw [hw c (by simp)] at hc
  cases hc

/-! ## Words -/

/-- The words of a text, in order. -/
def words (cs : List Char) : List (List Char) :=
  (splitAt isBlankChar cs).filter (!·.isEmpty)

/-- Words do not reach across white space. -/
theorem words_append_blank {b : Char} (hb : isBlankChar b = true) (x y : List Char) :
    words (x ++ b :: y) = words x ++ words y := by
  unfold words
  rw [splitAt_append_mark hb, List.filter_append]

theorem words_of_isWord {w : List Char} (hw : IsWord w) : words w = [w] := by
  unfold words
  rw [splitAt_eq_singleton hw.2]
  simp [hw.1]

/-- A word with white space before it, and behind it or at the end, is one
of the words of the text. -/
theorem mem_words_of_delimited {b : Char} {w r : List Char} (hb : isBlankChar b = true)
    (hw : IsWord w) (hr : StartsBlank r) (x : List Char) : w ∈ words (x ++ b :: (w ++ r)) := by
  rw [words_append_blank hb]
  cases r with
  | nil => rw [List.append_nil, words_of_isWord hw]; simp
  | cons d rest =>
      rw [words_append_blank (hr d (by simp)), words_of_isWord hw]
      simp

/-! ## Counting -/

private theorem length_words_cut (cs : List Char) : ∀ part parts,
    splitAt isBlankChar cs = part :: parts →
      wordsFrom true cs = (parts.filter (!·.isEmpty)).length ∧
        wordsFrom false cs = ((part :: parts).filter (!·.isEmpty)).length := by
  induction cs with
  | nil =>
      intro part parts h
      obtain ⟨rfl, rfl⟩ := List.cons.inj h
      exact ⟨rfl, rfl⟩
  | cons c rest ih =>
      intro part parts h
      obtain ⟨next, others, hRest⟩ := List.exists_cons_of_ne_nil (splitAt_ne_nil rest)
      obtain ⟨hIn, hOut⟩ := ih next others hRest
      by_cases hc : isBlankChar c = true
      · simp only [splitAt, hc, if_true, List.cons.injEq] at h
        obtain ⟨rfl, rfl⟩ := h
        simp [wordsFrom, hc, hOut, hRest]
      · simp only [splitAt, hc, hRest] at h
        obtain ⟨rfl, rfl⟩ := List.cons.inj h
        simp [wordsFrom, hc, hIn, Nat.add_comm]

/-- The words of a text are as many as are counted. -/
theorem length_words (cs : List Char) : (words cs).length = wordsFrom false cs := by
  obtain ⟨part, parts, h⟩ := List.exists_cons_of_ne_nil (splitAt_ne_nil cs)
  rw [(length_words_cut cs part parts h).2, words, h]

theorem wordsFrom_append_word (w : List Char) (hw : ∀ c ∈ w, isBlankChar c = false)
    (r : List Char) : wordsFrom true (w ++ r) = wordsFrom true r := by
  induction w with
  | nil => rfl
  | cons c rest ih =>
      have hRest := ih fun d hd => hw d (by simp [hd])
      simp [wordsFrom, hw c (by simp), hRest]

theorem wordsFrom_append_blank {a : List Char} (ha : AllBlank a) (r : List Char) :
    wordsFrom false (a ++ r) = wordsFrom false r := by
  induction a with
  | nil => rfl
  | cons c rest ih =>
      have hRest := ih fun d hd => ha d (by simp [hd])
      simp [wordsFrom, ha c (by simp), hRest]

/-- Where blanks follow, it does not matter whether a word has just ended. -/
theorem wordsFrom_of_startsBlank {r : List Char} (hr : StartsBlank r) (inWord : Bool) :
    wordsFrom inWord r = wordsFrom false r := by
  cases r with
  | nil => rfl
  | cons c rest => simp [wordsFrom, hr c (by simp)]

/-- A word counts once. -/
theorem wordsFrom_word_append {w r : List Char} (hw : IsWord w) (hr : StartsBlank r) :
    wordsFrom false (w ++ r) = 1 + wordsFrom false r := by
  obtain ⟨hne, hw⟩ := hw
  cases w with
  | nil => exact absurd rfl hne
  | cons c rest =>
      rw [List.cons_append, wordsFrom, hw c (by simp),
        wordsFrom_append_word rest (fun d hd => hw d (by simp [hd])),
        wordsFrom_of_startsBlank hr]
      simp

/-- A text that shows something is blanks, a word, and a rest that begins
blank. -/
theorem exists_first_word {cs : List Char} (h : cs.all isBlankChar = false) :
    ∃ before word rest, AllBlank before ∧ IsWord word ∧ StartsBlank rest ∧
      cs = before ++ (word ++ rest) := by
  obtain ⟨before, shown, hBefore, hShown, rfl⟩ := exists_cut isBlankChar cs
  obtain ⟨word, rest, hWord, hRest, rfl⟩ := exists_cut (!isBlankChar ·) shown
  refine ⟨before, word, rest, hBefore, ⟨?_, fun c hc => by simpa using hWord c hc⟩,
    fun c hc => by simpa using hRest c hc, rfl⟩
  rintro rfl
  cases rest with
  | nil =>
      have hAll : before.all isBlankChar = true := List.all_eq_true.2 hBefore
      simp [hAll] at h
  | cons c tail =>
      have hIn := hRest c (by simp)
      have hOut := hShown c (by simp)
      simp [hOut] at hIn

/-- A text of one word is that word between blanks. -/
theorem exists_single_word {cs : List Char} (hShown : cs.all isBlankChar = false)
    (hCount : ¬ 1 < wordsFrom false cs) :
    ∃ before word after, AllBlank before ∧ IsWord word ∧ AllBlank after ∧
      cs = before ++ (word ++ after) := by
  obtain ⟨before, word, after, hBefore, hWord, hAfter, rfl⟩ := exists_first_word hShown
  rw [wordsFrom_append_blank hBefore, wordsFrom_word_append hWord hAfter] at hCount
  have hNone : wordsFrom false after = 0 := by omega
  rw [wordsFrom_false_eq_zero_iff, List.all_eq_true] at hNone
  exact ⟨before, word, after, hBefore, hWord, hNone, rfl⟩

end NewsAnalytics.Text
