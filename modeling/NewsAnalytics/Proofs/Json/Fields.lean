import Mathlib.Data.List.Nodup
import NewsAnalytics.Json.Value

/-!
# Fields that are set in order

An object is built by setting fields one after the other, so a name that
is set twice keeps its last value. `last?` reads that value off the list
of entries, and `get?_ofEntries` says that it is what the object holds.

Each field is set at its place in the order of names. So an object is
sorted, whatever the order of its entries, and setting sorted fields anew
changes nothing.

## Main results

* `get?_ofEntries` — an object holds the last value of each name.
* `last?_of_mem` — with distinct names, every entry is the last of its name.
* `isSorted_ofEntries`, `mem_of_mem_ofEntries` — an object is sorted entries.
* `ofEntries_of_isSorted` — sorted fields stay as they are.
* `IsSorted.eq_of_forall_mem_iff` — sorted fields are known without their
  order.
-/

namespace NewsAnalytics.Json.Fields

/-- The value of the last entry of a name. -/
def last? (name : String) (entries : List (String × Json)) : Option Json :=
  (entries.reverse.find? (·.1 == name)).map Prod.snd

/-- An entry counts only if its name does not come again. -/
theorem last?_cons (name : String) (entry : String × Json) (rest : List (String × Json)) :
    last? name (entry :: rest) =
      (last? name rest).or (if entry.1 = name then some entry.2 else none) := by
  unfold last?
  rw [List.reverse_cons, List.find?_append]
  cases rest.reverse.find? (·.1 == name) with
  | some e => rfl
  | none => by_cases h : entry.1 = name <;> simp [h]

/-- The last entry of a name among those that are kept. -/
theorem last?_filter_eq_some_iff {keep : String × Json → Bool} {name : String} {value : Json}
    {entries : List (String × Json)} :
    last? name (entries.filter keep) = some value ↔
      ∃ before behind, entries = before ++ (name, value) :: behind ∧ keep (name, value) = true ∧
        ∀ e ∈ behind, e.1 = name → keep e = false := by
  unfold last?
  simp only [← List.filter_reverse, List.find?_filter, Option.map_eq_some_iff,
    List.find?_eq_some_iff_append, decide_eq_true_eq, beq_iff_eq]
  constructor
  · rintro ⟨⟨_, _⟩, ⟨⟨hKept, rfl⟩, behind, before, hEntries, hBehind⟩, rfl⟩
    refine ⟨before.reverse, behind.reverse, ?_, hKept, fun e he hName => ?_⟩
    · rw [← List.reverse_reverse entries, hEntries]
      simp
    · have hNot := hBehind e (List.mem_reverse.1 he)
      simpa [hName] using hNot
  · rintro ⟨before, behind, rfl, hKept, hBehind⟩
    refine ⟨(name, value), ⟨⟨hKept, rfl⟩, behind.reverse, before.reverse, by simp, ?_⟩, rfl⟩
    intro e he
    by_cases hName : e.1 = name
    · simp [hBehind e (List.mem_reverse.1 he) hName]
    · simp [hName]

theorem last?_eq_none_iff {name : String} {entries : List (String × Json)} :
    last? name entries = none ↔ ∀ entry ∈ entries, entry.1 ≠ name := by
  unfold last?
  rw [Option.map_eq_none_iff, List.find?_eq_none]
  simp

/-- With distinct names, the value of an entry is the last of its name. -/
theorem last?_of_mem {name : String} {value : Json} {entries : List (String × Json)}
    (hNodup : (entries.map Prod.fst).Nodup) (hMem : (name, value) ∈ entries) :
    last? name entries = some value := by
  induction entries with
  | nil => cases hMem
  | cons entry rest ih =>
      simp only [List.map_cons, List.nodup_cons] at hNodup
      rw [last?_cons]
      rcases List.mem_cons.1 hMem with rfl | hRest
      · have hNone : last? name rest = none :=
          last?_eq_none_iff.2 fun e hE hName => hNodup.1 (List.mem_map.2 ⟨e, hE, hName⟩)
        simp [hNone]
      · rw [ih hNodup.2 hRest, Option.some_or]

/-- Setting entries on top of fields replaces what they name. -/
theorem get?_foldl_insert (name : String) (entries : List (String × Json)) :
    ∀ fields : Fields,
      (entries.foldl (fun fields entry => fields.insert entry.1 entry.2) fields).get? name =
        (last? name entries).or (fields.get? name) := by
  induction entries with
  | nil => intro fields; rfl
  | cons entry rest ih =>
      intro fields
      rw [List.foldl_cons, ih, last?_cons]
      by_cases h : entry.1 = name
      · subst h
        simp [get?_insert_self]
      · rw [get?_insert_of_ne (Ne.symm h)]
        simp [h]

/-- An object holds the last value of each name. -/
theorem get?_ofEntries (name : String) (entries : List (String × Json)) :
    (ofEntries entries).get? name = last? name entries := by
  unfold ofEntries
  rw [get?_foldl_insert]
  simp [get?]

/-! ## Order -/

/-- The fields stand in the order of their names, without repeated names. -/
def IsSorted (fields : Fields) : Prop := fields.Pairwise fun f g => f.1 < g.1

theorem mem_of_mem_insert {name : String} {value : Json} {fields : Fields} {f : String × Json}
    (h : f ∈ fields.insert name value) : f = (name, value) ∨ f ∈ fields := by
  induction fields with
  | nil => exact .inl (List.mem_singleton.1 h)
  | cons g rest ih =>
      obtain ⟨n, v⟩ := g
      rw [insert] at h
      split at h
      · rcases List.mem_cons.1 h with hNew | hRest
        · exact .inl hNew
        · exact .inr (List.mem_cons_of_mem _ hRest)
      · split at h
        · rcases List.mem_cons.1 h with hNew | hRest
          · exact .inl hNew
          · exact .inr hRest
        · rcases List.mem_cons.1 h with hFirst | hRest
          · exact .inr (List.mem_cons.2 (.inl hFirst))
          · exact (ih hRest).imp_right (List.mem_cons_of_mem _)

/-- Setting a field keeps the order. -/
theorem IsSorted.insert {fields : Fields} (h : IsSorted fields) (name : String) (value : Json) :
    IsSorted (fields.insert name value) := by
  induction fields with
  | nil => exact List.pairwise_singleton _ _
  | cons g rest ih =>
      obtain ⟨n, v⟩ := g
      obtain ⟨hFirst, hRest⟩ := List.pairwise_cons.1 h
      rw [Fields.insert]
      split
      · next hSame =>
          subst hSame
          exact List.pairwise_cons.2 ⟨hFirst, hRest⟩
      · next hNe =>
          split
          · next hLt =>
              refine List.pairwise_cons.2 ⟨?_, h⟩
              intro f hf
              rcases List.mem_cons.1 hf with rfl | hf
              · exact hLt
              · exact String.lt_trans hLt (hFirst f hf)
          · next hNotLt =>
              have hBehind : n < name := by
                by_contra hNot
                exact hNe (String.le_antisymm (String.not_lt.1 hNot) (String.not_lt.1 hNotLt))
              refine List.pairwise_cons.2 ⟨?_, ih hRest⟩
              intro f hf
              rcases mem_of_mem_insert hf with rfl | hf
              · exact hBehind
              · exact hFirst f hf

theorem isSorted_foldl_insert (entries : List (String × Json)) :
    ∀ fields : Fields, IsSorted fields →
      IsSorted (entries.foldl (fun fields entry => fields.insert entry.1 entry.2) fields) := by
  induction entries with
  | nil => exact fun _ h => h
  | cons entry rest ih => exact fun fields h => ih _ (h.insert entry.1 entry.2)

/-- An object is sorted. -/
theorem isSorted_ofEntries (entries : List (String × Json)) : IsSorted (ofEntries entries) :=
  isSorted_foldl_insert entries [] List.Pairwise.nil

theorem mem_of_mem_foldl_insert {f : String × Json} (entries : List (String × Json)) :
    ∀ fields : Fields,
      f ∈ entries.foldl (fun fields entry => fields.insert entry.1 entry.2) fields →
        f ∈ entries ∨ f ∈ fields := by
  induction entries with
  | nil => exact fun _ h => .inr h
  | cons entry rest ih =>
      intro fields h
      rcases ih _ h with hRest | hInserted
      · exact .inl (List.mem_cons_of_mem _ hRest)
      · rcases mem_of_mem_insert hInserted with rfl | hFields
        · exact .inl List.mem_cons_self
        · exact .inr hFields

/-- An object holds nothing but entries. -/
theorem mem_of_mem_ofEntries {f : String × Json} {entries : List (String × Json)}
    (h : f ∈ ofEntries entries) : f ∈ entries :=
  (mem_of_mem_foldl_insert entries [] h).resolve_right List.not_mem_nil

/-- A field behind all others is set at the end. -/
theorem insert_of_forall_lt {name : String} {fields : Fields} (h : ∀ f ∈ fields, f.1 < name)
    (value : Json) : fields.insert name value = fields ++ [(name, value)] := by
  induction fields with
  | nil => rfl
  | cons g rest ih =>
      obtain ⟨n, v⟩ := g
      have hLt : n < name := h (n, v) List.mem_cons_self
      have hNe : name ≠ n := fun hSame => String.lt_irrefl n (hSame ▸ hLt)
      rw [insert, if_neg hNe, if_neg (String.lt_asymm hLt),
        ih fun f hf => h f (List.mem_cons_of_mem _ hf)]
      rfl

/-- Fields that are set in their order are set one behind the other. -/
theorem foldl_insert_of_isSorted (entries : List (String × Json)) :
    ∀ fields : Fields, IsSorted (fields ++ entries) →
      entries.foldl (fun fields entry => fields.insert entry.1 entry.2) fields =
        fields ++ entries := by
  induction entries with
  | nil => exact fun fields _ => (List.append_nil fields).symm
  | cons entry rest ih =>
      intro fields h
      have hBefore : ∀ f ∈ fields, f.1 < entry.1 := fun f hf =>
        (List.pairwise_append.1 h).2.2 f hf entry List.mem_cons_self
      have hSplit : fields ++ [entry] ++ rest = fields ++ entry :: rest :=
        List.append_cons fields entry rest |>.symm
      rw [List.foldl_cons, insert_of_forall_lt hBefore, ih _ (by rwa [hSplit]), hSplit]

/-- Sorted fields are what setting them in order leaves. -/
theorem ofEntries_of_isSorted {fields : Fields} (h : IsSorted fields) : ofEntries fields = fields :=
  foldl_insert_of_isSorted fields [] h

/-! ## Values -/

theorem mem_of_get? {name : String} {value : Json} {fields : Fields}
    (h : fields.get? name = some value) : (name, value) ∈ fields := by
  induction fields with
  | nil => cases h
  | cons g rest ih =>
      obtain ⟨n, v⟩ := g
      rw [get?] at h
      split at h
      · next hSame =>
          obtain rfl := Option.some.inj h
          rw [hSame]
          exact List.mem_cons_self
      · exact List.mem_cons_of_mem _ (ih h)

/-- Among sorted fields each one is found by its name. -/
theorem IsSorted.get?_eq_some_iff {fields : Fields} (h : IsSorted fields) {name : String}
    {value : Json} : fields.get? name = some value ↔ (name, value) ∈ fields := by
  refine ⟨mem_of_get?, fun hMem => ?_⟩
  induction fields with
  | nil => cases hMem
  | cons g rest ih =>
      obtain ⟨n, v⟩ := g
      obtain ⟨hFirst, hRest⟩ := List.pairwise_cons.1 h
      rw [get?]
      rcases List.mem_cons.1 hMem with hSame | hMem
      · obtain ⟨rfl, rfl⟩ := Prod.mk.inj hSame
        exact if_pos rfl
      · have hNe : name ≠ n := fun hSame => String.lt_irrefl n (hSame ▸ hFirst _ hMem)
        rw [if_neg hNe, ih hRest hMem]

/-- Sorted fields are known without their order. -/
theorem IsSorted.eq_of_forall_mem_iff {fields others : Fields} (h : IsSorted fields)
    (hOthers : IsSorted others) (hSame : ∀ f, f ∈ fields ↔ f ∈ others) : fields = others := by
  have hNodup : ∀ f : Fields, IsSorted f → f.Nodup := by
    intro f hf
    refine List.Pairwise.imp ?_ hf
    rintro a _ hLt rfl
    exact String.lt_irrefl _ hLt
  refine List.Perm.eq_of_pairwise ?_ h hOthers
    ((List.perm_ext_iff_of_nodup (hNodup _ h) (hNodup _ hOthers)).2 hSame)
  exact fun f g _ _ hLt hGt => absurd hGt (String.lt_asymm hLt)

end NewsAnalytics.Json.Fields
