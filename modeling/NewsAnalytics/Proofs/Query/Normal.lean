import NewsAnalytics.Proofs.Json.Zero
import NewsAnalytics.Proofs.Query.Required

/-!
# Settings that cannot be told from unset ones

A body leaves out what says nothing, so a request does not show whether a
setting was left alone or set to such a value. The normal form of the
options makes the two one: zero is no number, and the texts `""` and `"0"`
are no text. Nothing else is merged. Two accepted queries have the same
request iff they have the same line of terms and the same normal form.

The line is kept apart from this. Only the line `"0"` is left out, and an
accepted query never has the empty line, so a missing line is `"0"` too.

## Main results

* `kept_numberValue`, `kept_textValue` — what a body keeps of a setting is
  its normal form.
* `ArticlesQuery.request_eq_iff`, `StatsQuery.request_eq_iff` — when two
  queries have the same request.
* `request_eq_iff_normal_eq` — both, with what the normal form merges.
-/

namespace NewsAnalytics

open Text Request

/-! ## Normal forms -/

namespace Query

/-- Zero is no number. -/
def normalNumber : Option Int64 → Option Int64
  | none => none
  | some n => if n = 0 then none else some n

/-- The texts `""` and `"0"` are no text. -/
def normalText : Option String → Option String
  | none => none
  | some s => if s = "" ∨ s = "0" then none else some s

/-- The options that all queries with a body have. -/
structure Options where
  start : Option Int64
  stop : Option Int64
  language : Option String
  sortBy : Option String
  videoOnly : Bool
  defaultField : Option String
  size : Option Int64
  deriving DecidableEq

/-- The options as the service sees them. -/
def Options.normal (o : Options) : Options where
  start := normalNumber o.start
  stop := normalNumber o.stop
  language := normalText o.language
  sortBy := normalText o.sortBy
  videoOnly := o.videoOnly
  defaultField := normalText o.defaultField
  size := normalNumber o.size

/-- A number that no body names. -/
def IsUnsetNumber (n : Option Int64) : Prop := n = none ∨ n = some 0

/-- A text that no body names. -/
def IsUnsetText (s : Option String) : Prop := s = none ∨ s = some "" ∨ s = some "0"

/-- A normal form that takes what is unset for nothing, and leaves the rest
alone, merges only what is unset. -/
private theorem normal_eq_iff {α : Type} {normal : Option α → Option α} {unset : Option α → Prop}
    (hNone : unset none) (hUnset : ∀ x, unset x → normal x = none)
    (hSet : ∀ x, ¬ unset x → normal x = x) (x y : Option α) :
    normal x = normal y ↔ x = y ∨ unset x ∧ unset y := by
  by_cases hx : unset x
  · by_cases hy : unset y
    · simp [hUnset x hx, hUnset y hy, hx, hy]
    · rw [hUnset x hx, hSet y hy]
      constructor
      · rintro rfl
        exact absurd hNone hy
      · rintro (rfl | ⟨-, hBoth⟩)
        · exact absurd hx hy
        · exact absurd hBoth hy
  · by_cases hy : unset y
    · rw [hSet x hx, hUnset y hy]
      constructor
      · rintro rfl
        exact absurd hNone hx
      · rintro (rfl | ⟨hBoth, -⟩)
        · exact absurd hy hx
        · exact absurd hBoth hx
    · simp [hSet x hx, hSet y hy, hx]

theorem normalNumber_eq_iff (n m : Option Int64) :
    normalNumber n = normalNumber m ↔ n = m ∨ IsUnsetNumber n ∧ IsUnsetNumber m := by
  refine normal_eq_iff (.inl rfl) ?_ ?_ n m
  · rintro n (rfl | rfl) <;> rfl
  · rintro (_ | n) hSet
    · rfl
    · simp only [IsUnsetNumber, reduceCtorEq, Option.some.injEq, false_or] at hSet
      simp [normalNumber, hSet]

theorem normalText_eq_iff (s u : Option String) :
    normalText s = normalText u ↔ s = u ∨ IsUnsetText s ∧ IsUnsetText u := by
  refine normal_eq_iff (.inl rfl) ?_ ?_ s u
  · rintro s (rfl | rfl | rfl) <;> rfl
  · rintro (_ | s) hSet
    · rfl
    · simp only [IsUnsetText, reduceCtorEq, Option.some.injEq, false_or] at hSet
      simp [normalText, hSet]

end Query

/-- The options of a query for articles that other queries have too. -/
def ArticlesQuery.options (q : ArticlesQuery) : Query.Options where
  start := q.start
  stop := q.stop
  language := q.language
  sortBy := some q.sortBy
  videoOnly := q.videoOnly
  defaultField := q.defaultField
  size := q.size

/-- The options of a query for statistics that other queries have too. -/
def StatsQuery.options (q : StatsQuery) : Query.Options where
  start := q.start
  stop := q.stop
  language := q.language
  sortBy := some q.sortBy
  videoOnly := q.videoOnly
  defaultField := q.defaultField
  size := q.size

namespace Query

/-! ## What is kept -/

theorem kept_numberValue (n : Option Int64) :
    Body.kept (numberValue n) = (normalNumber n).map fun n => .num (.int n.toInt) := by
  cases n with
  | none => rfl
  | some n =>
      by_cases hZero : n = 0
      · subst hZero
        rfl
      · have hInt : n.toInt ≠ 0 := fun h => hZero (Int64.toInt_inj.1 h)
        simp [Body.kept, Body.isFalsy, numberValue, normalNumber, Json.Number.isZero, hZero, hInt]

theorem kept_textValue (s : Option String) :
    Body.kept (textValue s) = (normalText s).map .str := by
  cases s with
  | none => rfl
  | some s => by_cases hNone : s = "" ∨ s = "0" <;>
      simp [Body.kept, Body.isFalsy, textValue, normalText, hNone]

theorem kept_numberValue_inj {n m : Option Int64} :
    Body.kept (numberValue n) = Body.kept (numberValue m) ↔ normalNumber n = normalNumber m := by
  rw [kept_numberValue, kept_numberValue]
  refine (Option.map_injective ?_).eq_iff
  intro i j h
  simpa [Int64.toInt_inj] using h

theorem kept_textValue_inj {s u : Option String} :
    Body.kept (textValue s) = Body.kept (textValue u) ↔ normalText s = normalText u := by
  rw [kept_textValue, kept_textValue]
  refine (Option.map_injective ?_).eq_iff
  intro s u h
  simpa using h

theorem kept_str_inj {s u : String} :
    Body.kept (.str s) = Body.kept (.str u) ↔ normalText (some s) = normalText (some u) :=
  kept_textValue_inj (s := some s) (u := some u)

theorem kept_bool_inj {b c : Bool} : Body.kept (.bool b) = Body.kept (.bool c) ↔ b = c := by
  cases b <;> cases c <;> simp [Body.kept, Body.isFalsy]

/-- Of the texts that show something no two are merged. -/
theorem normalText_inj_of_shown {s u : String} (hs : isBlank s = false) (hu : isBlank u = false) :
    normalText (some s) = normalText (some u) ↔ s = u := by
  have hsNe := Filter.ne_empty_of_not_isBlank hs
  have huNe := Filter.ne_empty_of_not_isBlank hu
  simp only [normalText_eq_iff, IsUnsetText, Option.some.injEq, reduceCtorEq, hsNe, huNe, false_or,
    or_iff_left_iff_imp]
  rintro ⟨rfl, rfl⟩
  rfl

end Query

/-! ## Equal requests -/

theorem Request.post_inj {path : String} {fields others : Json.Fields} :
    Request.post path fields = Request.post path others ↔ fields = others := by
  simp [Request.post]

open Query in
/-- Two accepted queries for articles have the same request iff they have the
same line and the same normal options. -/
theorem ArticlesQuery.request_eq_iff {q p : ArticlesQuery} {r s : Request}
    (hq : q.toRequest = .ok r) (hp : p.toRequest = .ok s) :
    r = s ↔ q.filter.compile q.autoFormat = p.filter.compile p.autoFormat ∧
      q.options.normal = p.options.normal ∧ q.findRelated = p.findRelated := by
  obtain ⟨filters, hFilters, rfl⟩ := toRequest_eq_ok_iff.1 hq
  obtain ⟨others, hOthers, rfl⟩ := toRequest_eq_ok_iff.1 hp
  have hNames : (q.entries filters).map Prod.fst = (p.entries others).map Prod.fst := rfl
  have hLine := normalText_inj_of_shown (Filter.isBlank_compile hFilters)
    (Filter.isBlank_compile hOthers)
  rw [Request.post_inj, Body.ofEntries_eq_iff hNames (q.entries_nodup filters), hFilters, hOthers]
  simp only [entries, List.map_cons, List.map_nil, List.cons.injEq, kept_str_inj, kept_bool_inj,
    kept_numberValue_inj, kept_textValue_inj, hLine, options, Options.normal, Options.mk.injEq,
    Except.ok.injEq, and_true, and_assoc]

open Query in
/-- Two accepted queries for statistics have the same request iff they have
the same line, the same normal options and the same normal grouping. -/
theorem StatsQuery.request_eq_iff {q p : StatsQuery} {r s : Request}
    (hq : q.toRequest = .ok r) (hp : p.toRequest = .ok s) :
    r = s ↔ q.filter.compile q.autoFormat = p.filter.compile p.autoFormat ∧
      q.options.normal = p.options.normal ∧
      normalText (some q.aggregateBy) = normalText (some p.aggregateBy) := by
  obtain ⟨-, filters, hFilters, rfl⟩ := toRequest_eq_ok_iff.1 hq
  obtain ⟨-, others, hOthers, rfl⟩ := toRequest_eq_ok_iff.1 hp
  have hNames : (q.entries filters).map Prod.fst = (p.entries others).map Prod.fst := rfl
  have hLine := normalText_inj_of_shown (Filter.isBlank_compile hFilters)
    (Filter.isBlank_compile hOthers)
  rw [Request.post_inj, Body.ofEntries_eq_iff hNames (q.entries_nodup filters), hFilters, hOthers]
  simp only [entries, List.map_cons, List.map_nil, List.cons.injEq, kept_str_inj, kept_bool_inj,
    kept_numberValue_inj, kept_textValue_inj, hLine, options, Options.normal, Options.mk.injEq,
    Except.ok.injEq, and_true]
  -- the grouping is named among the shared options
  constructor
  · rintro ⟨hText, hStart, hStop, hLanguage, hSort, hGroup, hVideo, hField, hSize⟩
    exact ⟨hText, ⟨hStart, hStop, hLanguage, hSort, hVideo, hField, hSize⟩, hGroup⟩
  · rintro ⟨hText, ⟨hStart, hStop, hLanguage, hSort, hVideo, hField, hSize⟩, hGroup⟩
    exact ⟨hText, hStart, hStop, hLanguage, hSort, hGroup, hVideo, hField, hSize⟩

open Query in
/-- A number is left out iff the float nearest to it is zero, and that is so
for no number but zero. -/
theorem isFalsy_numberValue_some (n : Int64) :
    Body.isFalsy (numberValue (some n)) = (Json.nearest n.toInt == 0.0) ∧
      (Body.isFalsy (numberValue (some n)) = true ↔ n = 0) := by
  have hNumber : Body.isFalsy (numberValue (some n)) = (Json.Number.int n.toInt).isZero := rfl
  rw [hNumber]
  refine ⟨(Json.isZero_nearest n.toInt).symm, ?_⟩
  rw [Json.Number.isZero, beq_iff_eq, ← Int64.toInt_zero, Int64.toInt_inj]

open Query in
/-- Two accepted queries have the same request iff they have the same line
of terms and the same options in normal form. The normal form merges
nothing but settings that no body names, and of the numbers only zero is
left out. -/
theorem request_eq_iff_normal_eq :
    (∀ (q p : ArticlesQuery) (r s : Request), q.toRequest = .ok r → p.toRequest = .ok s →
      (r = s ↔ q.filter.compile q.autoFormat = p.filter.compile p.autoFormat ∧
        q.options.normal = p.options.normal ∧ q.findRelated = p.findRelated)) ∧
    (∀ (q p : StatsQuery) (r s : Request), q.toRequest = .ok r → p.toRequest = .ok s →
      (r = s ↔ q.filter.compile q.autoFormat = p.filter.compile p.autoFormat ∧
        q.options.normal = p.options.normal ∧
        normalText (some q.aggregateBy) = normalText (some p.aggregateBy))) ∧
    (∀ n m, normalNumber n = normalNumber m ↔ n = m ∨ IsUnsetNumber n ∧ IsUnsetNumber m) ∧
    (∀ s u, normalText s = normalText u ↔ s = u ∨ IsUnsetText s ∧ IsUnsetText u) ∧
    ∀ n : Int64, Body.isFalsy (numberValue (some n)) = (Json.nearest n.toInt == 0.0) ∧
      (Body.isFalsy (numberValue (some n)) = true ↔ n = 0) :=
  ⟨fun _ _ _ _ hq hp => ArticlesQuery.request_eq_iff hq hp,
    fun _ _ _ _ hq hp => StatsQuery.request_eq_iff hq hp,
    normalNumber_eq_iff, normalText_eq_iff, isFalsy_numberValue_some⟩

/-- A size of zero cannot be told from none, and a blank language can. -/
theorem request_eq_iff_normal_eq_brexit :
    ∃ r s t, ((ArticlesQuery.ofFilter (.raw "brexit")).set (.size 0)).toRequest = .ok r ∧
      (ArticlesQuery.ofFilter (.raw "brexit")).toRequest = .ok s ∧
      ((ArticlesQuery.ofFilter (.raw "brexit")).set (.language (some " "))).toRequest = .ok t ∧
      r = s ∧ s ≠ t := by
  refine ⟨_, _, _, rfl, rfl, rfl, ?_, ?_⟩
  · exact (request_eq_iff_normal_eq.1 ((ArticlesQuery.ofFilter (.raw "brexit")).set (.size 0))
      (ArticlesQuery.ofFilter (.raw "brexit")) _ _ rfl rfl).2 ⟨rfl, by decide, rfl⟩
  · intro hSame
    obtain ⟨-, hOptions, -⟩ := (request_eq_iff_normal_eq.1 (ArticlesQuery.ofFilter (.raw "brexit"))
      ((ArticlesQuery.ofFilter (.raw "brexit")).set (.language (some " "))) _ _ rfl rfl).1 hSame
    exact absurd hOptions (by decide)

end NewsAnalytics
