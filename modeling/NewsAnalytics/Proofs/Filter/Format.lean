import Mathlib
import NewsAnalytics.Proofs.Filter.Fault
import NewsAnalytics.Proofs.Text.Words

/-!
# What the automatic format changes

A filter is compiled twice, with the automatic format and without it. The
two runs go through the same checks, so they fail together and with one
error. Where they succeed, the line with the format is longer by what it
marks: two quotation marks around each phrase, and in each group three
characters more between two members, ` OR ` in place of a blank.

The runs are compared step by step. `Agree` relates two results, and each
step adds its markup to the difference in length.

## Main results

* `agree_value_compile`, `agree_term_compile`, `agree_compileTerms` — the
  two runs of each step.
* `agree_compile` — the two runs of a filter.
-/

namespace NewsAnalytics.Filter

open Text

/-! ## Markup -/

/-- A single text of several words. -/
def Value.IsPhrase : Value → Prop
  | .one value => 2 ≤ (words value.toList).length
  | .anyOf _ => False

instance (v : Value) : Decidable v.IsPhrase :=
  match v with
  | .one value => inferInstanceAs (Decidable (2 ≤ (words value.toList).length))
  | .anyOf _ => inferInstanceAs (Decidable False)

/-- The places between the members of a group. -/
def Value.gaps : Value → Nat
  | .one _ => 0
  | .anyOf values => values.length - 1

/-- The characters that the automatic format adds to a value. -/
def Value.markup (v : Value) : Nat := 2 * (if v.IsPhrase then 1 else 0) + 3 * v.gaps

/-- There is nothing to mark: neither a phrase nor a group of several
members. -/
def Value.IsSimple (v : Value) : Prop :=
  ¬ v.IsPhrase ∧ ∀ values, v = .anyOf values → values.length = 1

/-- The phrases of a filter. -/
def phraseCount (f : Filter) : Nat := f.toTerms.countP fun t => t.value.IsPhrase

/-- The places between members, of all groups of a filter. -/
def gapCount (f : Filter) : Nat := (f.toTerms.map fun t => t.value.gaps).sum

theorem sum_markup (list : List Term) :
    (list.map fun t => t.value.markup).sum =
      2 * (list.countP fun t => t.value.IsPhrase) + 3 * (list.map fun t => t.value.gaps).sum := by
  induction list with
  | nil => rfl
  | cons t rest ih =>
      rw [List.map_cons, List.sum_cons, ih, List.countP_cons, List.map_cons, List.sum_cons,
        Value.markup]
      simp only [decide_eq_true_eq]
      omega

theorem Value.IsSimple.markup_eq_zero {v : Value} (h : v.IsSimple) : v.markup = 0 := by
  obtain ⟨hPhrase, hGroup⟩ := h
  cases v with
  | one value => simp [markup, hPhrase, gaps]
  | anyOf values => simp [markup, hPhrase, gaps, hGroup values rfl]

/-! ## Lengths -/

theorem length_intercalate_cons (sep s : String) (rest : List String) :
    (sep.intercalate (s :: rest)).length =
      s.length + (rest.map String.length).sum + sep.length * rest.length := by
  induction rest generalizing s with
  | nil => simp
  | cons t rest ih =>
      rw [String.intercalate_cons_cons, String.length_append, String.length_append, ih,
        List.map_cons, List.sum_cons, List.length_cons, Nat.mul_succ]
      omega

/-- Joined with a longer separator, texts are longer by the difference in
each place between two of them. -/
theorem length_intercalate_add (sep : String) (texts : List String) :
    (sep.intercalate texts).length =
      (texts.map String.length).sum + sep.length * (texts.length - 1) := by
  cases texts with
  | nil => simp
  | cons s rest => simp [length_intercalate_cons]

theorem isPhrase_iff {value : String} : isPhrase value = true ↔ (Value.one value).IsPhrase := by
  rw [isPhrase, decide_eq_true_eq, wordCount, ← length_words]
  exact Iff.rfl

/-! ## The two runs -/

/-- A text with the automatic format, and the same without it: one is longer
by its markup, and they are the same if there is none. -/
def IsMarked (markup : Nat) (marked plain : String) : Prop :=
  marked.length = plain.length + markup ∧ (markup = 0 → marked = plain)

theorem isMarked_phrase (value : String) :
    IsMarked (Value.one value).markup (formatPhrase true value) (formatPhrase false value) := by
  by_cases hPhrase : (Value.one value).IsPhrase
  · have hQuoted := isPhrase_iff.2 hPhrase
    have hMarks : ("\"" ++ value ++ "\"").length = value.length + 2 := by
      rw [String.length_append, String.length_append, show "\"".length = 1 by decide]
      omega
    simp [IsMarked, Value.markup, Value.gaps, hPhrase, formatPhrase, hQuoted, hMarks]
  · have hBare := mt isPhrase_iff.1 hPhrase
    simp [IsMarked, Value.markup, Value.gaps, hPhrase, formatPhrase, hBare]

/-- The separators differ by three characters. -/
theorem isMarked_group (values : List String) :
    IsMarked (Value.anyOf values).markup
      ("(" ++ (groupSeparator true).intercalate values ++ ")")
      ("(" ++ (groupSeparator false).intercalate values ++ ")") := by
  have hOr : " OR ".length = 4 := by decide
  have hBlank : " ".length = 1 := by decide
  constructor
  · simp [length_intercalate_add, groupSeparator, Value.markup, Value.IsPhrase, Value.gaps, hOr,
      hBlank]
    omega
  · intro hNone
    have hShort : values.length ≤ 1 := by
      simp [Value.markup, Value.IsPhrase, Value.gaps] at hNone
      omega
    match values, hShort with
    | [], _ => rfl
    | [value], _ => simp

/-- The two runs of a value. -/
theorem agree_value_compile (v : Value) (field : Option Field) :
    Agree (IsMarked v.markup) (v.compile true field) (v.compile false field) := by
  cases v with
  | one value =>
      simp only [Value.compile]
      split
      · rfl
      · exact isMarked_phrase value
  | anyOf values =>
      simp only [Value.compile]
      split
      · rfl
      · exact isMarked_group values

/-- The two runs of a term. -/
theorem agree_term_compile (t : Term) :
    Agree (IsMarked t.value.markup) (t.compile true) (t.compile false) := by
  refine Agree.bind (R := (· = ·)) (Agree.refl (fun _ => rfl) t.field?) ?_
  rintro field _ rfl
  refine Agree.bind (agree_value_compile t.value field) ?_
  rintro marked plain ⟨hLength, hSame⟩
  refine ⟨?_, fun hNone => by rw [hSame hNone]⟩
  rw [String.length_append, String.length_append, hLength, Nat.add_assoc]

/-- The texts of a list with the automatic format, and the same without
it. -/
def AreMarked (markup count : Nat) (marked plain : List String) : Prop :=
  marked.length = count ∧ plain.length = count ∧
    (marked.map String.length).sum = (plain.map String.length).sum + markup ∧
    (markup = 0 → marked = plain)

/-- The two runs of a list. -/
theorem agree_compileTerms (list : List Term) :
    Agree (AreMarked (list.map fun t => t.value.markup).sum list.length)
      (compileTerms true list) (compileTerms false list) := by
  induction list with
  | nil => exact ⟨rfl, rfl, rfl, fun _ => rfl⟩
  | cons t rest ih =>
      refine Agree.bind (agree_term_compile t) ?_
      rintro text text' ⟨hText, hSame⟩
      refine Agree.bind ih ?_
      rintro texts texts' ⟨hCount, hCount', hSum, hAll⟩
      refine ⟨by simp [hCount], by simp [hCount'], ?_, ?_⟩
      · simp only [List.map_cons, List.sum_cons, hText, hSum]
        omega
      · intro hNone
        rw [List.map_cons, List.sum_cons, Nat.add_eq_zero_iff] at hNone
        rw [hSame hNone.1, hAll hNone.2]

/-- A value without markup that compiles is simple: an empty group does not
compile. -/
theorem isSimple_of_markup_eq_zero {v : Value} {auto : Bool} {field : Option Field} {text : String}
    (h : v.compile auto field = .ok text) (hNone : v.markup = 0) : v.IsSimple := by
  cases v with
  | one value =>
      refine ⟨fun hPhrase => ?_, nofun⟩
      simp [Value.markup, hPhrase] at hNone
  | anyOf values =>
      obtain ⟨hNe, -, -⟩ := compile_anyOf_eq_ok_iff.1 h
      refine ⟨id, ?_⟩
      rintro _ ⟨⟩
      have hLength : values.length ≠ 0 := by simpa using hNe
      simp [Value.markup, Value.IsPhrase, Value.gaps] at hNone
      omega

/-- A filter that compiles has no markup iff all its values are simple. -/
theorem sum_markup_eq_zero_iff {f : Filter} {auto : Bool} {line : String}
    (h : f.compile auto = .ok line) :
    (f.toTerms.map fun t => t.value.markup).sum = 0 ↔ ∀ t ∈ f.toTerms, t.value.IsSimple := by
  obtain ⟨-, texts, hTexts, -⟩ := compile_eq_ok_iff.1 h
  rw [List.sum_eq_zero_iff_forall_eq_nat, List.forall_mem_map]
  constructor
  · intro hNone t ht
    obtain ⟨text, hText⟩ := exists_text_of_mem hTexts ht
    obtain ⟨field, valueText, -, hValue, -⟩ := term_compile_eq_ok_iff.1 hText
    exact isSimple_of_markup_eq_zero hValue (hNone t ht)
  · exact fun hSimple t ht => (hSimple t ht).markup_eq_zero

/-- The two runs of a filter. -/
theorem agree_compile_markup (f : Filter) :
    Agree (IsMarked (f.toTerms.map fun t => t.value.markup).sum)
      (f.compile true) (f.compile false) := by
  cases hEmpty : f.isEmpty with
  | true =>
      rw [compile_of_isEmpty hEmpty, compile_of_isEmpty hEmpty]
      rfl
  | false =>
      rw [compile_of_not_isEmpty hEmpty, compile_of_not_isEmpty hEmpty]
      refine (agree_compileTerms f.toTerms).map ?_
      rintro marked plain ⟨hCount, hCount', hSum, hSame⟩
      refine ⟨?_, fun hNone => by rw [hSame hNone]⟩
      rw [length_intercalate_add, length_intercalate_add, hCount, hCount', hSum]
      omega

/-- The automatic format changes nothing but the markup. With it and
without it a filter fails with one error, or it has a line both times. The
lines differ in length by two for each phrase and three for each place
between two members of a group, and they are the same iff there is neither
a phrase nor a group of several members. -/
theorem agree_compile (f : Filter) :
    Agree (fun marked plain =>
        marked.length = plain.length + 2 * f.phraseCount + 3 * f.gapCount ∧
        (marked = plain ↔ ∀ t ∈ f.toTerms, t.value.IsSimple))
      (f.compile true) (f.compile false) := by
  have hLines := (agree_compile_markup f).and_left (p := fun line => f.compile true = .ok line)
    fun _ hLine => hLine
  refine hLines.mono ?_
  rintro marked plain ⟨⟨hLength, hSame⟩, hLine⟩
  rw [← sum_markup_eq_zero_iff hLine]
  refine ⟨?_, ?_, hSame⟩
  · rw [hLength, sum_markup, phraseCount, gapCount, Nat.add_assoc]
  · rintro rfl
    omega

/-- Two marks around a phrase, and three characters more in each place. -/
example :
    let list : List Term :=
      [⟨none, .one "climate change"⟩, ⟨some "publisher", .anyOf ["a b", "c", "d"]⟩]
    (terms list).compile true = .ok "\"climate change\" AND publisher: (a b OR c OR d)" ∧
      (terms list).compile false = .ok "climate change AND publisher: (a b c d)" := ⟨rfl, rfl⟩

end NewsAnalytics.Filter
