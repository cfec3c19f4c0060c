import NewsAnalytics.Proofs.Error
import NewsAnalytics.Proofs.Filter.Compile

/-!
# The faults of a filter

Where compilation fails, the error names what is wrong with the filter, and
that can be said without compiling it. A term has at most one fault: its
field is looked at first, and its value only if the field is known. The
fault of a list is the one of its first term that has any. The automatic
format has no part in this.

The last check of a list, that its line is not blank, comes behind all of
these. It refuses nothing, so its complaint is never heard.

## Main results

* `term_compile_eq_error_iff` — a term fails with its fault.
* `compileTerms_eq_error_iff` — a list fails with its first fault.
* `compile_eq_error_iff` — so does a filter that is not empty.
* `compile_shows` — what compiles shows something, and no list of terms
  fails for its line.
-/

namespace NewsAnalytics.Filter

open Text

variable {auto : Bool} {t : Term} {list : List Term} {f : Filter} {e : Error}

/-! ## Faults of terms -/

/-- What is wrong with a term. Its value counts only if its field is
known. -/
inductive Term.HasFault (t : Term) : InvalidInput → Prop where
  | unknownField {name : String} (hField : t.field = some name) (hNe : name ≠ "")
      (hUnknown : Field.ofName? name = none) : t.HasFault (.unknownField name)
  | emptyValue {field : Option Field} {value : String} (hField : t.field? = .ok field)
      (hValue : t.value = .one value) (hBlank : isBlank value = true) :
      t.HasFault (.emptyValue field)
  | emptyGroup {field : Option Field} {values : List String} (hField : t.field? = .ok field)
      (hValue : t.value = .anyOf values)
      (hEmpty : values = [] ∨ ∃ value ∈ values, isBlank value = true) :
      t.HasFault (.emptyGroup field)

theorem field?_eq_error_iff :
    t.field? = .error e ↔ ∃ name, t.field = some name ∧ name ≠ "" ∧
      Field.ofName? name = none ∧ e = .validation (.unknownField name) := by
  unfold Term.field?
  cases t.field with
  | none => simp
  | some name =>
      by_cases hEmpty : name = ""
      · simp [hEmpty]
      · cases hFound : Field.ofName? name with
        | none => simp [hEmpty, hFound, eq_comm]
        | some field => simp [hEmpty, hFound]

theorem compile_one_eq_error_iff {field : Option Field} {value : String} :
    (Value.one value).compile auto field = .error e ↔
      isBlank value = true ∧ e = .validation (.emptyValue field) := by
  simp only [Value.compile]
  cases isBlank value <;> simp [eq_comm]

theorem compile_anyOf_eq_error_iff {field : Option Field} {values : List String} :
    (Value.anyOf values).compile auto field = .error e ↔
      (values = [] ∨ ∃ value ∈ values, isBlank value = true) ∧
        e = .validation (.emptyGroup field) := by
  have hEmpty : (values.isEmpty || values.any isBlank) = true ↔
      values = [] ∨ ∃ value ∈ values, isBlank value = true := by simp
  simp only [Value.compile]
  by_cases h : (values.isEmpty || values.any isBlank) = true
  · simp only [if_pos h, hEmpty.1 h, true_and, Except.error.injEq, eq_comm (a := e)]
  · simp only [if_neg h, mt hEmpty.2 h, false_and, reduceCtorEq]

/-- A term fails with its fault. -/
theorem term_compile_eq_error_iff :
    t.compile auto = .error e ↔ ∃ cause, t.HasFault cause ∧ e = .validation cause := by
  simp only [Term.compile, bind_eq_error_iff, pure_ne_error, and_false, exists_false, or_false]
  constructor
  · rintro (hField | ⟨field, hField, hValue⟩)
    · obtain ⟨name, hName, hNe, hUnknown, rfl⟩ := field?_eq_error_iff.1 hField
      exact ⟨_, .unknownField hName hNe hUnknown, rfl⟩
    · cases hKind : t.value with
      | one value =>
          rw [hKind] at hValue
          obtain ⟨hBlank, rfl⟩ := compile_one_eq_error_iff.1 hValue
          exact ⟨_, .emptyValue hField hKind hBlank, rfl⟩
      | anyOf values =>
          rw [hKind] at hValue
          obtain ⟨hEmpty, rfl⟩ := compile_anyOf_eq_error_iff.1 hValue
          exact ⟨_, .emptyGroup hField hKind hEmpty, rfl⟩
  · rintro ⟨cause, hFault, rfl⟩
    cases hFault with
    | unknownField hName hNe hUnknown =>
        exact .inl (field?_eq_error_iff.2 ⟨_, hName, hNe, hUnknown, rfl⟩)
    | emptyValue hField hKind hBlank =>
        rw [hKind]
        exact .inr ⟨_, hField, compile_one_eq_error_iff.2 ⟨hBlank, rfl⟩⟩
    | emptyGroup hField hKind hEmpty =>
        rw [hKind]
        exact .inr ⟨_, hField, compile_anyOf_eq_error_iff.2 ⟨hEmpty, rfl⟩⟩

/-! ## Faults of lists -/

/-- A list fails with the fault of its first term that has one. -/
theorem compileTerms_eq_error_iff :
    compileTerms auto list = .error e ↔
      ∃ before t after, list = before ++ t :: after ∧
        (∀ s ∈ before, ∃ text, s.compile auto = .ok text) ∧ t.compile auto = .error e := by
  induction list with
  | nil => simp [compileTerms]
  | cons s rest ih =>
      simp only [compileTerms, bind_eq_error_iff, pure_ne_error, and_false, exists_false, or_false]
      constructor
      · rintro (hFirst | ⟨text, hFirst, hRest⟩)
        · exact ⟨[], s, rest, rfl, by simp, hFirst⟩
        · obtain ⟨before, t, after, rfl, hBefore, hFault⟩ := ih.1 hRest
          refine ⟨s :: before, t, after, rfl, ?_, hFault⟩
          simp only [List.forall_mem_cons]
          exact ⟨⟨text, hFirst⟩, hBefore⟩
      · rintro ⟨before, t, after, hList, hBefore, hFault⟩
        rcases List.cons_eq_append_iff.1 hList with ⟨rfl, hTerms⟩ | ⟨inner, rfl, hRest⟩
        · rw [List.cons.injEq] at hTerms
          rw [← hTerms.1]
          exact .inl hFault
        · simp only [List.forall_mem_cons] at hBefore
          obtain ⟨⟨text, hFirst⟩, hInner⟩ := hBefore
          exact .inr ⟨text, hFirst, ih.2 ⟨inner, t, after, hRest, hInner, hFault⟩⟩

/-! ## Filters -/

theorem compile_eq_error_iff (hShown : f.isEmpty = false) :
    f.compile auto = .error e ↔ compileTerms auto f.toTerms = .error e := by
  rw [compile_of_not_isEmpty hShown]
  cases compileTerms auto f.toTerms <;> simp [Except.map]

/-! ## What compiles shows something -/

/-- A filter that is not empty fails with a fault of one of its terms. -/
theorem exists_fault_of_compile (hShown : f.isEmpty = false) (h : f.compile auto = .error e) :
    ∃ t ∈ f.toTerms, ∃ cause, t.HasFault cause ∧ e = .validation cause := by
  obtain ⟨before, t, after, hTerms, -, hTerm⟩ :=
    compileTerms_eq_error_iff.1 ((compile_eq_error_iff hShown).1 h)
  exact ⟨t, by simp [hTerms], term_compile_eq_error_iff.1 hTerm⟩

/-- The errors of a filter are faults of its terms, or there is nothing to
compile. -/
theorem ne_noFilter_of_compile (h : f.compile auto = .error e) : e ≠ .validation .noFilter := by
  rintro rfl
  cases hEmpty : f.isEmpty with
  | true =>
      rw [compile_of_isEmpty hEmpty] at h
      cases h
  | false =>
      obtain ⟨t, -, cause, hFault, hSame⟩ := exists_fault_of_compile hEmpty h
      obtain rfl := Error.validation.inj hSame
      cases hFault

/-- A compiled filter shows something. A list of terms shows something as
soon as its terms compile, so it never fails for a line that is blank. -/
theorem compile_shows (f : Filter) (auto : Bool) :
    (∀ line, f.compile auto = .ok line → ∃ c ∈ line.toList, isBlankChar c = false) ∧
      ∀ list, f = .terms list →
        (∀ e, f.compile auto = .error e → e.message ≠ (Error.validation .noFilter).message) ∧
          (list ≠ [] → ∀ texts, compileTerms auto list = .ok texts →
            (∃ c ∈ (" AND ".intercalate texts).toList, isBlankChar c = false) ∧
              f.compile auto = .ok (" AND ".intercalate texts)) := by
  refine ⟨fun line hLine => isBlank_eq_false_iff.1 (isBlank_compile hLine), ?_⟩
  rintro list rfl
  refine ⟨fun e hError hSame => ne_noFilter_of_compile hError (Error.eq_noFilter_of_message hSame),
    fun hNe texts hTexts => ?_⟩
  refine ⟨isBlank_eq_false_iff.1 (isBlank_line hNe hTexts), ?_⟩
  exact compile_eq_ok_iff.2 ⟨hNe, texts, hTexts, rfl⟩

end NewsAnalytics.Filter
