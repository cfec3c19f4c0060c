import NewsAnalytics.Proofs.Json.Zero
import NewsAnalytics.Proofs.Request.Body

/-!
# Entries and the body they leave

An entry says nothing if its value is one of nine; all others say something.
A body has the names of the entries that say something, each with the value
of the last such entry. An entry that says nothing takes nothing back: it is
as if it were not there.

So a body is built from its own fields once more, and where the names are
distinct the order of the entries does not matter.

## Main results

* `isFalsy_iff` — the values that say nothing.
* `mem_ofEntries_iff` — the fields of a body, by the entries.
* `ofEntries_ofEntries` — a body is left by its own fields.
* `ofEntries_perm` — entries of distinct names may be listed in any order.
* `body_keeps_last_of_each_name` — all of it.
-/

namespace NewsAnalytics.Request.Body

open Json

variable {name : String} {value : Json} {entry : String × Json}
  {entries others : List (String × Json)}

/-! ## Values that say nothing -/

/-- The values that say nothing. -/
inductive SaysNothing : Json → Prop where
  | null : SaysNothing .null
  | no : SaysNothing (.bool false)
  | zero : SaysNothing (.num (.int 0))
  | floatZero : SaysNothing (.num (.float 0.0))
  | negativeZero : SaysNothing (.num (.float (-0.0)))
  | noText : SaysNothing (.str "")
  | zeroText : SaysNothing (.str "0")
  | noItems : SaysNothing (.arr [])
  | noFields : SaysNothing (.obj [])

/-- What is left out of a body is what says nothing. -/
theorem isFalsy_iff (value : Json) : isFalsy value = true ↔ SaysNothing value := by
  constructor
  · intro h
    cases value with
    | null => exact .null
    | bool b =>
        cases b with
        | false => exact .no
        | true => cases h
    | num n =>
        cases n with
        | int i =>
            obtain rfl : i = 0 := by simpa [isFalsy, Number.isZero] using h
            exact .zero
        | float x =>
            rcases (isZero_float_iff x).1 h with rfl | rfl
            · exact .floatZero
            · exact .negativeZero
    | str s =>
        rcases (by simpa [isFalsy] using h : s = "" ∨ s = "0") with rfl | rfl
        · exact .noText
        · exact .zeroText
    | arr items =>
        obtain rfl := List.isEmpty_iff.1 h
        exact .noItems
    | obj fields =>
        obtain rfl := List.isEmpty_iff.1 h
        exact .noFields
  · intro h
    cases h with
    | floatZero => exact (isZero_float_iff _).2 (.inl rfl)
    | negativeZero => exact (isZero_float_iff _).2 (.inr rfl)
    | _ => rfl

theorem isFalsy_eq_false_iff : isFalsy value = false ↔ ¬ SaysNothing value := by
  rw [← isFalsy_iff, Bool.not_eq_true]

/-- An integer is left out iff the float that is nearest to it is zero. -/
theorem isFalsy_int (i : Int) : isFalsy (.num (.int i)) = (nearest i == 0.0) :=
  (isZero_nearest i).symm

/-! ## Fields of a body -/

/-- A field of a body is the last entry of its name that says something. -/
theorem mem_ofEntries_iff :
    (name, value) ∈ ofEntries entries ↔
      ∃ before behind, entries = before ++ (name, value) :: behind ∧ ¬ SaysNothing value ∧
        ∀ later, (name, later) ∈ behind → SaysNothing later := by
  rw [← (isSorted_ofEntries entries).get?_eq_some_iff, get?_body,
    Fields.last?_filter_eq_some_iff]
  simp only [Bool.not_eq_true', Bool.not_eq_false', isFalsy_iff, isFalsy_eq_false_iff, Prod.forall]
  constructor
  · rintro ⟨before, behind, hEntries, hShown, hLater⟩
    exact ⟨before, behind, hEntries, hShown, fun later hMem => hLater _ later hMem rfl⟩
  · rintro ⟨before, behind, hEntries, hShown, hLater⟩
    refine ⟨before, behind, hEntries, hShown, ?_⟩
    rintro _ later hMem rfl
    exact hLater later hMem

/-- A body has the names of the entries that say something. -/
theorem name_mem_ofEntries_iff :
    name ∈ (ofEntries entries).map Prod.fst ↔
      ∃ value, (name, value) ∈ entries ∧ ¬ SaysNothing value := by
  constructor
  · intro h
    obtain ⟨⟨_, value⟩, hField, rfl⟩ := List.mem_map.1 h
    obtain ⟨before, behind, rfl, hShown, -⟩ := mem_ofEntries_iff.1 hField
    exact ⟨value, by simp, hShown⟩
  · rintro ⟨value, hMem, hShown⟩
    cases hLast : Fields.get? name (ofEntries entries) with
    | some last => exact List.mem_map.2 ⟨_, Fields.mem_of_get? hLast, rfl⟩
    | none =>
        rw [get?_body, Fields.last?_eq_none_iff] at hLast
        refine absurd rfl (hLast (name, value) (List.mem_filter.2 ⟨hMem, ?_⟩))
        rw [Bool.not_eq_true', isFalsy_eq_false_iff]
        exact hShown

/-- A body is left by its own fields. -/
theorem ofEntries_ofEntries (entries : List (String × Json)) :
    ofEntries (ofEntries entries) = ofEntries entries := by
  have hShown : ∀ f ∈ ofEntries entries, (!isFalsy f.2) = true := fun f hf =>
    (List.mem_filter.1 (Fields.mem_of_mem_ofEntries hf)).2
  rw [ofEntries, List.filter_eq_self.2 hShown]
  exact Fields.ofEntries_of_isSorted (Fields.isSorted_ofEntries _)

/-! ## Order of the entries -/

/-- One entry more sets its field, or changes nothing. -/
theorem ofEntries_concat (entries : List (String × Json)) (entry : String × Json) :
    ofEntries (entries ++ [entry]) =
      if isFalsy entry.2 then ofEntries entries
      else Fields.insert entry.1 entry.2 (ofEntries entries) := by
  unfold ofEntries
  rw [List.filter_append]
  cases hFalsy : isFalsy entry.2 with
  | true => simp [hFalsy]
  | false => simp [hFalsy, Fields.ofEntries]

/-- One entry more leaves the other names as they are. -/
theorem get?_ofEntries_concat_of_ne (h : name ≠ entry.1) :
    Fields.get? name (ofEntries (entries ++ [entry])) =
      Fields.get? name (ofEntries entries) := by
  rw [ofEntries_concat]
  split
  · rfl
  · exact Fields.get?_insert_of_ne h _ _

/-- Among distinct names each entry that says something is a field. -/
theorem mem_ofEntries_iff_of_nodup (hNodup : (entries.map Prod.fst).Nodup) :
    entry ∈ ofEntries entries ↔ entry ∈ entries ∧ isFalsy entry.2 = false := by
  constructor
  · intro h
    obtain ⟨hMem, hShown⟩ := List.mem_filter.1 (Fields.mem_of_mem_ofEntries h)
    exact ⟨hMem, by simpa using hShown⟩
  · rintro ⟨hMem, hShown⟩
    apply Fields.mem_of_get?
    rw [get?_body_of_mem hNodup hMem, hShown]
    rfl

/-- Entries of distinct names may be listed in any order. -/
theorem ofEntries_perm (hNodup : (entries.map Prod.fst).Nodup) (hPerm : entries.Perm others) :
    ofEntries entries = ofEntries others := by
  have hNodup' : (others.map Prod.fst).Nodup := (hPerm.map Prod.fst).nodup_iff.1 hNodup
  refine (isSorted_ofEntries _).eq_of_forall_mem_iff (isSorted_ofEntries _) fun f => ?_
  rw [mem_ofEntries_iff_of_nodup hNodup, mem_ofEntries_iff_of_nodup hNodup', hPerm.mem_iff]

/-! ## Bodies -/

/-- What says nothing is one of nine values. A body is sorted and has the
names of the entries that say something, each with the last value of its own
that does. It is left by its own fields, and entries of distinct names may be
listed in any order. -/
theorem body_keeps_last_of_each_name :
    (∀ value, isFalsy value = true ↔ SaysNothing value) ∧
    (∀ i : Int, isFalsy (.num (.int i)) = (nearest i == 0.0)) ∧
    (∀ entries, Fields.IsSorted (ofEntries entries)) ∧
    (∀ entries name, name ∈ (ofEntries entries).map Prod.fst ↔
      ∃ value, (name, value) ∈ entries ∧ ¬ SaysNothing value) ∧
    (∀ entries name value, (name, value) ∈ ofEntries entries ↔
      ∃ before behind, entries = before ++ (name, value) :: behind ∧ ¬ SaysNothing value ∧
        ∀ later, (name, later) ∈ behind → SaysNothing later) ∧
    (∀ entries, ofEntries (ofEntries entries) = ofEntries entries) ∧
    ∀ entries others : List (String × Json), (entries.map Prod.fst).Nodup →
      entries.Perm others → ofEntries entries = ofEntries others :=
  ⟨isFalsy_iff, isFalsy_int, isSorted_ofEntries, fun _ _ => name_mem_ofEntries_iff,
    fun _ _ _ => mem_ofEntries_iff, ofEntries_ofEntries,
    fun _ _ hNodup hPerm => ofEntries_perm hNodup hPerm⟩

/-- A later zero does not take a size back, and two settings may change
places. -/
theorem body_keeps_last_of_each_name_size :
    ("size", .num (.int 5)) ∈ ofEntries [("size", .num (.int 4)), ("size", .num (.int 5)),
        ("from", .null), ("size", .num (.float (-0.0)))] ∧
      "from" ∉ (ofEntries [("size", .num (.int 5)), ("from", .null)]).map Prod.fst ∧
      ofEntries [("size", .num (.int 5)), ("language", .str "en")] =
        ofEntries [("language", .str "en"), ("size", .num (.int 5))] := by
  obtain ⟨hFalsy, -, -, hNames, hFields, -, hOrder⟩ := body_keeps_last_of_each_name
  have hShown : ¬ SaysNothing (.num (.int 5)) := fun h => absurd ((hFalsy _).2 h) (by decide)
  refine ⟨(hFields _ _ _).2 ⟨[("size", .num (.int 4))], _, rfl, hShown, ?_⟩, ?_, ?_⟩
  · intro later hMem
    obtain rfl : later = .num (.float (-0.0)) := by simpa using hMem
    exact .negativeZero
  · rw [hNames]
    rintro ⟨value, hMem, hValue⟩
    obtain rfl : value = .null := by simpa using hMem
    exact hValue .null
  · exact hOrder _ _ (by decide) (List.Perm.swap _ _ _)

end NewsAnalytics.Request.Body
