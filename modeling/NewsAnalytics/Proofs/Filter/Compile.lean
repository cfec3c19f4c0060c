import Mathlib.Data.List.Forall2
import NewsAnalytics.Filter.Compile
import NewsAnalytics.Proofs.Chain

/-!
# What it takes to compile

Each step of compilation succeeds under a condition that can be said
without the step: a value is not blank, a group has members and none of
them is blank, a field is known. The lemmas below say so, step by step,
and give the text of each step. `compile_of_not_isEmpty` puts them
together: raw texts and lists of terms compile alike, and the last check of
a list, that its line is not blank, never refuses anything.

## Main results

* `compile_of_not_isEmpty` — a filter that is not empty is the line of its
  terms.
* `compile_eq_ok_iff` — a filter compiles iff it has terms and each of them
  compiles; the texts are joined.
* `isBlank_compile` — a compiled filter shows something.
-/

namespace NewsAnalytics.Filter

open Text

/-! ## Blanks in joined texts -/

@[simp] theorem isBlank_append (s t : String) :
    isBlank (s ++ t) = (isBlank s && isBlank t) := by
  simp [isBlank]

theorem ne_empty_of_not_isBlank {s : String} (h : isBlank s = false) : s ≠ "" := by
  rintro rfl
  simp [isBlank] at h

/-- A joined text shows what its first part shows. -/
theorem isBlank_intercalate_cons {sep s : String} (hShown : isBlank s = false)
    (rest : List String) : isBlank (sep.intercalate (s :: rest)) = false := by
  cases rest with
  | nil => simpa using hShown
  | cons t rest =>
      rw [String.intercalate_cons_cons, isBlank_append, isBlank_append, hShown]
      rfl

theorem isBlank_formatPhrase (auto : Bool) {value : String} (hShown : isBlank value = false) :
    isBlank (formatPhrase auto value) = false := by
  unfold formatPhrase
  split
  · rw [isBlank_append, isBlank_append, hShown]
    simp
  · exact hShown

/-! ## Values, terms and lists of terms -/

theorem compile_one_eq_ok_iff {auto : Bool} {field : Option Field} {value text : String} :
    (Value.one value).compile auto field = .ok text ↔
      isBlank value = false ∧ text = formatPhrase auto value := by
  simp only [Value.compile]
  cases isBlank value <;> simp [eq_comm]

theorem compile_anyOf_eq_ok_iff {auto : Bool} {field : Option Field} {values : List String}
    {text : String} :
    (Value.anyOf values).compile auto field = .ok text ↔
      values ≠ [] ∧ (∀ value ∈ values, isBlank value = false) ∧
        text = "(" ++ (groupSeparator auto).intercalate values ++ ")" := by
  simp only [Value.compile]
  by_cases h : (values.isEmpty || values.any isBlank) = true
  · rw [if_pos h]
    simp only [reduceCtorEq, false_iff, not_and]
    intro hNe hAll
    simp only [Bool.or_eq_true, List.isEmpty_iff, List.any_eq_true] at h
    rcases h with h | ⟨value, hMem, hBlank⟩
    · exact absurd h hNe
    · rw [hAll value hMem] at hBlank
      cases hBlank
  · rw [if_neg h]
    simp only [Bool.or_eq_true, List.isEmpty_iff, List.any_eq_true, not_or, not_exists,
      not_and, Bool.not_eq_true] at h
    simp only [Except.ok.injEq, h.1, ne_eq, not_false_eq_true, true_and, eq_comm (b := text)]
    exact ⟨fun hText => ⟨h.2, hText⟩, fun hBoth => hBoth.2⟩

/-- A value that compiles shows something. -/
theorem isBlank_value_compile {auto : Bool} {field : Option Field} {value : Value}
    {text : String} (h : value.compile auto field = .ok text) : isBlank text = false := by
  cases value with
  | one value =>
      obtain ⟨hShown, rfl⟩ := compile_one_eq_ok_iff.1 h
      exact isBlank_formatPhrase auto hShown
  | anyOf values =>
      obtain ⟨-, -, rfl⟩ := compile_anyOf_eq_ok_iff.1 h
      simp [isBlank, show isBlankChar '(' = false by decide]

theorem term_compile_eq_ok_iff {auto : Bool} {t : Term} {text : String} :
    t.compile auto = .ok text ↔
      ∃ field valueText, t.field? = .ok field ∧ t.value.compile auto field = .ok valueText ∧
        text = scope field ++ valueText := by
  simp only [Term.compile, bind_eq_ok_iff, pure_eq_ok_iff, eq_comm (b := text)]
  constructor
  · rintro ⟨field, hField, valueText, hValue, hText⟩
    exact ⟨field, valueText, hField, hValue, hText⟩
  · rintro ⟨field, valueText, hField, hValue, hText⟩
    exact ⟨field, hField, valueText, hValue, hText⟩

theorem isBlank_term_compile {auto : Bool} {t : Term} {text : String}
    (h : t.compile auto = .ok text) : isBlank text = false := by
  obtain ⟨field, valueText, -, hValue, rfl⟩ := term_compile_eq_ok_iff.1 h
  rw [isBlank_append, isBlank_value_compile hValue, Bool.and_false]

/-- The texts of a list are the texts of its terms. -/
theorem compileTerms_eq_ok_iff {auto : Bool} {list : List Term} {texts : List String} :
    compileTerms auto list = .ok texts ↔
      List.Forall₂ (fun t text => t.compile auto = .ok text) list texts := by
  induction list generalizing texts with
  | nil => cases texts <;> simp [compileTerms]
  | cons t rest ih =>
      simp only [compileTerms, bind_eq_ok_iff, pure_eq_ok_iff]
      constructor
      · rintro ⟨text, hTerm, restTexts, hRest, rfl⟩
        exact .cons hTerm (ih.1 hRest)
      · intro h
        cases h with
        | cons hTerm hRest => exact ⟨_, hTerm, _, ih.2 hRest, rfl⟩

/-- Each term of a list that compiles has its text. -/
theorem exists_text_of_mem {auto : Bool} {list : List Term} {texts : List String} {t : Term}
    (h : compileTerms auto list = .ok texts) (hMem : t ∈ list) :
    ∃ text, t.compile auto = .ok text := by
  have hTexts := compileTerms_eq_ok_iff.1 h
  clear h
  induction hTexts with
  | nil => cases hMem
  | @cons s text _ _ hTerm _ ih =>
      rcases List.mem_cons.1 hMem with rfl | hRest
      · exact ⟨text, hTerm⟩
      · exact ih hRest

/-! ## Filters -/

/-- Where every term compiles, the joined line shows something. -/
theorem isBlank_line {auto : Bool} {list : List Term} {texts : List String} (hNe : list ≠ [])
    (h : compileTerms auto list = .ok texts) : isBlank (" AND ".intercalate texts) = false := by
  rw [compileTerms_eq_ok_iff] at h
  cases h with
  | nil => exact absurd rfl hNe
  | cons hTerm _ => exact isBlank_intercalate_cons (isBlank_term_compile hTerm) _

theorem compile_of_isEmpty {f : Filter} {auto : Bool} (hEmpty : f.isEmpty = true) :
    f.compile auto = .error (.validation .emptyFilter) := by
  simp [compile, hEmpty]

theorem toTerms_ne_nil {f : Filter} (hShown : f.isEmpty = false) : f.toTerms ≠ [] := by
  cases f with
  | raw text => simp [toTerms]
  | terms list => simpa [isEmpty, toTerms] using hShown

/-- Terms that compile are those of a filter that is not empty: a blank raw
text is a term that shows nothing. -/
theorem isEmpty_eq_false {f : Filter} {auto : Bool} {texts : List String} (hNe : f.toTerms ≠ [])
    (h : compileTerms auto f.toTerms = .ok texts) : f.isEmpty = false := by
  cases f with
  | raw text =>
      obtain ⟨_, hTerm⟩ := exists_text_of_mem h (List.mem_singleton_self _)
      obtain ⟨_, _, -, hValue, -⟩ := term_compile_eq_ok_iff.1 hTerm
      exact (compile_one_eq_ok_iff.1 hValue).1
  | terms list => simpa [isEmpty, toTerms] using hNe

/-- A filter that is not empty is the line of its terms. Nothing is left to
check once they compile. -/
theorem compile_of_not_isEmpty {f : Filter} {auto : Bool} (hShown : f.isEmpty = false) :
    f.compile auto = (compileTerms auto f.toTerms).map (" AND ".intercalate ·) := by
  cases f with
  | raw text =>
      have hValue : (Value.one text).compile auto none = .ok (formatPhrase auto text) :=
        compile_one_eq_ok_iff.2 ⟨hShown, rfl⟩
      have hTerm : Term.compile auto ⟨none, .one text⟩ = .ok (formatPhrase auto text) :=
        term_compile_eq_ok_iff.2 ⟨none, _, rfl, hValue, (String.empty_append).symm⟩
      have hTerms : compileTerms auto (raw text).toTerms = .ok [formatPhrase auto text] :=
        compileTerms_eq_ok_iff.2 (.cons hTerm .nil)
      simp [compile, hShown, hTerms, Except.map]
  | terms list =>
      have hNe : list ≠ [] := toTerms_ne_nil hShown
      simp only [compile, hShown, toTerms]
      cases hTexts : compileTerms auto list with
      | error e => simp [bind, Except.bind, Except.map]
      | ok texts => simp [bind, Except.bind, pure, Except.pure, Except.map, isBlank_line hNe hTexts]

/-- A filter compiles iff it has terms and each of them compiles. -/
theorem compile_eq_ok_iff {f : Filter} {auto : Bool} {line : String} :
    f.compile auto = .ok line ↔
      f.toTerms ≠ [] ∧ ∃ texts, compileTerms auto f.toTerms = .ok texts ∧
        line = " AND ".intercalate texts := by
  constructor
  · intro h
    cases hEmpty : f.isEmpty with
    | true =>
        rw [compile_of_isEmpty hEmpty] at h
        cases h
    | false =>
        rw [compile_of_not_isEmpty hEmpty] at h
        obtain ⟨texts, hTexts, hLine⟩ := bind_eq_ok_iff.1 h
        exact ⟨toTerms_ne_nil hEmpty, texts, hTexts, (Except.ok.inj hLine).symm⟩
  · rintro ⟨hNe, texts, hTexts, rfl⟩
    rw [compile_of_not_isEmpty (isEmpty_eq_false hNe hTexts), hTexts]
    rfl

/-- A compiled filter shows something. -/
theorem isBlank_compile {f : Filter} {auto : Bool} {line : String}
    (h : f.compile auto = .ok line) : isBlank line = false := by
  obtain ⟨hNe, texts, hTexts, rfl⟩ := compile_eq_ok_iff.1 h
  exact isBlank_line hNe hTexts

end NewsAnalytics.Filter
