import NewsAnalytics.Proofs.Filter.Compile
import NewsAnalytics.Proofs.Filter.Line

/-!
# The filters of a line

A filter can be read back from its automatically formatted line, as far as
its texts keep clear of the marks that compilation does not escape. The
line of such a filter is a line of entries in the sense of
`NewsAnalytics.Proofs.Filter.Line`, and the entries hold the terms; a line
has one reading, so it has one list of terms.

Two spellings are not told apart because they mean the same: a raw text is
a term without field, and the empty field name is no field.

## Main results

* `exists_reading` — the line of a plain filter is a line of readable
  entries that hold its terms.
* `canonicalTerms_eq_of_compile_eq` — plain filters with one line have the
  same terms.
-/

namespace NewsAnalytics.Filter

open Text

/-! ## Plain filters -/

/-- No quotation mark and no parenthesis: the marks of the query language,
which compilation does not escape. -/
def IsUnmarked (s : String) : Prop := '"' ∉ s.toList ∧ '(' ∉ s.toList ∧ ')' ∉ s.toList

/-- The texts of a value hold no marks, and no member of a group holds the
word that separates members. -/
def Value.IsPlain : Value → Prop
  | .one value => IsUnmarked value
  | .anyOf values => ∀ value ∈ values, IsUnmarked value ∧ IsMember value.toList

/-- All values of the filter are plain. -/
def IsPlain (f : Filter) : Prop := ∀ t ∈ f.toTerms, t.value.IsPlain

instance (s : String) : Decidable (IsUnmarked s) := inferInstanceAs (Decidable (_ ∧ _))

instance (v : Value) : Decidable v.IsPlain :=
  match v with
  | .one value => inferInstanceAs (Decidable (IsUnmarked value))
  | .anyOf values =>
    inferInstanceAs (Decidable (∀ value ∈ values, IsUnmarked value ∧ IsMember value.toList))

instance (f : Filter) : Decidable f.IsPlain :=
  inferInstanceAs (Decidable (∀ t ∈ f.toTerms, t.value.IsPlain))

/-- The term with no field in place of an empty field name. -/
def Term.canonical (t : Term) : Term :=
  ⟨if t.field = some "" then none else t.field, t.value⟩

/-- The terms of a filter, in one spelling. -/
def canonicalTerms (f : Filter) : List Term := f.toTerms.map Term.canonical

/-! ## Entries of terms -/

/-- The value that is held by a form. -/
def Form.value : Form → Value
  | .bare before word after => .one (String.ofList (before ++ (word ++ after)))
  | .phrase text => .one (String.ofList text)
  | .group members => .anyOf (members.map String.ofList)

/-- The term that is held by an entry. -/
def Entry.term (e : Entry) : Term := ⟨e.scope.map Field.name, e.form.value⟩

/-- A single value is a phrase or a word between blanks. -/
private theorem exists_form_one {value : String} (hPlain : IsUnmarked value)
    (hShown : isBlank value = false) :
    ∃ form : Form, form.IsReadable ∧ form.chars = (formatPhrase true value).toList ∧
      form.value = .one value := by
  by_cases hPhrase : isPhrase value = true
  · refine ⟨.phrase value.toList, hPlain.1, ?_, ?_⟩
    · simp [Form.chars, formatPhrase, hPhrase]
    · simp [Form.value]
  · have hCount : ¬ 1 < wordsFrom false value.toList := by
      intro hMany
      exact hPhrase (decide_eq_true hMany)
    obtain ⟨before, word, after, hBefore, hWord, hAfter, hParts⟩ :=
      exists_single_word hShown hCount
    have hMem : ∀ c ∈ word, c ∈ value.toList := by
      intro c hc
      rw [hParts]
      simp [hc]
    refine ⟨.bare before word after, ⟨hBefore, ⟨hWord, ?_, ?_⟩, hAfter⟩, ?_, ?_⟩
    · exact fun hQuote => hPlain.1 (hMem _ hQuote)
    · exact fun hParen => hPlain.2.1 (hMem _ hParen)
    · simp [Form.chars, formatPhrase, hPhrase, hParts]
    · rw [Form.value, ← hParts, String.ofList_toList]

/-- A plain value that compiles is held by a readable form. -/
private theorem exists_form {v : Value} {field : Option Field} {text : String}
    (hPlain : v.IsPlain) (h : v.compile true field = .ok text) :
    ∃ form : Form, form.IsReadable ∧ form.chars = text.toList ∧ form.value = v := by
  cases v with
  | one value =>
      obtain ⟨hShown, rfl⟩ := compile_one_eq_ok_iff.1 h
      exact exists_form_one hPlain hShown
  | anyOf values =>
      obtain ⟨hNe, -, rfl⟩ := compile_anyOf_eq_ok_iff.1 h
      refine ⟨.group (values.map String.toList), ⟨by simpa using hNe, ?_⟩, ?_, ?_⟩
      · intro m hm
        obtain ⟨value, hValue, rfl⟩ := List.mem_map.1 hm
        obtain ⟨⟨-, -, hParen⟩, hMember⟩ := hPlain value hValue
        exact ⟨hParen, hMember⟩
      · simp [Form.chars, groupSeparator, join_eq_intercalate, orChars]
      · simp [Form.value]

/-- The field of a term that compiles is its canonical field. -/
private theorem canonical_field {t : Term} {field : Option Field} (h : t.field? = .ok field) :
    t.canonical.field = field.map Field.name := by
  unfold Term.field? at h
  unfold Term.canonical
  cases hField : t.field with
  | none =>
      rw [hField] at h
      obtain rfl := Except.ok.inj h
      rfl
  | some name =>
      rw [hField] at h
      by_cases hEmpty : name = ""
      · simp only [hEmpty, if_true] at h
        obtain rfl := Except.ok.inj h
        simp [hEmpty]
      · cases hFound : Field.ofName? name with
        | none => simp [hEmpty, hFound] at h
        | some f =>
            simp only [hEmpty, hFound, if_false] at h
            obtain rfl := Except.ok.inj h
            simp [hEmpty, Field.name_of_ofName? hFound]

private theorem scopeChars_eq (field : Option Field) : scopeChars field = (scope field).toList := by
  cases field with
  | none => rfl
  | some f => simp [scopeChars, scope]

/-- A plain term that compiles is held by a readable entry. -/
private theorem exists_entry {t : Term} {text : String} (hPlain : t.value.IsPlain)
    (h : t.compile true = .ok text) :
    ∃ e : Entry, e.form.IsReadable ∧ e.chars = text.toList ∧ e.term = t.canonical := by
  obtain ⟨field, valueText, hField, hValue, rfl⟩ := term_compile_eq_ok_iff.1 h
  obtain ⟨form, hReadable, hChars, hHeld⟩ := exists_form hPlain hValue
  refine ⟨⟨field, form⟩, hReadable, ?_, ?_⟩
  · rw [Entry.chars, hChars, scopeChars_eq, String.toList_append]
  · rw [Entry.term, hHeld, ← canonical_field hField]
    rfl

/-- Plain terms that compile are held by readable entries, in order. -/
private theorem exists_entries {list : List Term} {texts : List String}
    (hPlain : ∀ t ∈ list, t.value.IsPlain)
    (h : List.Forall₂ (fun t text => t.compile true = .ok text) list texts) :
    ∃ entries : List Entry, (∀ e ∈ entries, e.form.IsReadable) ∧
      entries.map Entry.chars = texts.map String.toList ∧
      entries.map Entry.term = list.map Term.canonical := by
  induction h with
  | nil => exact ⟨[], by simp, rfl, rfl⟩
  | @cons t text list texts hTerm _ ih =>
      obtain ⟨e, hReadable, hChars, hHeld⟩ := exists_entry (hPlain t (by simp)) hTerm
      obtain ⟨entries, hRest, hRestChars, hRestHeld⟩ := ih fun x hx => hPlain x (by simp [hx])
      refine ⟨e :: entries, ?_, ?_, ?_⟩
      · intro x hx
        rcases List.mem_cons.1 hx with rfl | hx
        · exact hReadable
        · exact hRest x hx
      · rw [List.map_cons, List.map_cons, hChars, hRestChars]
      · rw [List.map_cons, List.map_cons, hHeld, hRestHeld]

/-! ## One reading -/

/-- The line of a plain filter is a line of readable entries that hold its
terms. -/
theorem exists_reading {f : Filter} {text : String} (hPlain : f.IsPlain)
    (h : f.compile true = .ok text) :
    ∃ entries : List Entry, entries ≠ [] ∧ (∀ e ∈ entries, e.form.IsReadable) ∧
      line entries = text.toList ∧ entries.map Entry.term = f.canonicalTerms := by
  obtain ⟨hNe, texts, hTexts, rfl⟩ := compile_eq_ok_iff.1 h
  obtain ⟨entries, hReadable, hChars, hHeld⟩ :=
    exists_entries hPlain (compileTerms_eq_ok_iff.1 hTexts)
  refine ⟨entries, ?_, hReadable, ?_, hHeld⟩
  · rintro rfl
    exact hNe (List.map_eq_nil_iff.1 hHeld.symm)
  · rw [line_eq_intercalate, hChars, String.toList_intercalate]
    rfl

/-- Plain filters with one automatically formatted line have the same
terms, in the same order. -/
theorem canonicalTerms_eq_of_compile_eq {f g : Filter} {text : String} (hF : f.IsPlain)
    (hG : g.IsPlain) (hf : f.compile true = .ok text) (hg : g.compile true = .ok text) :
    f.canonicalTerms = g.canonicalTerms := by
  obtain ⟨entries, hNe, hReadable, hLine, hHeld⟩ := exists_reading hF hf
  obtain ⟨entries', hNe', hReadable', hLine', hHeld'⟩ := exists_reading hG hg
  have hSame : entries = entries' :=
    line_injective hNe hNe' hReadable hReadable' (hLine.trans hLine'.symm)
  rw [← hHeld, ← hHeld', hSame]

/-- Two spellings of one list, with words that look like a separator and
like a scope. -/
theorem canonicalTerms_eq_look_alikes :
    (terms [⟨some "language", .one "AND"⟩, ⟨some "", .one " language: "⟩,
      ⟨none, .anyOf ["a AND b", "or"]⟩]).canonicalTerms =
    (terms [⟨some "language", .one "AND"⟩, ⟨none, .one " language: "⟩,
      ⟨none, .anyOf ["a AND b", "or"]⟩]).canonicalTerms :=
  canonicalTerms_eq_of_compile_eq (by decide) (by decide) rfl rfl

end NewsAnalytics.Filter
