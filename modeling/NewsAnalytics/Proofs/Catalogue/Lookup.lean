import Mathlib.Data.List.Forall2
import Mathlib.Data.List.Nodup
import NewsAnalytics.Catalogue.Category
import NewsAnalytics.Catalogue.Place

/-!
# Looking up by name and by number

A table is searched from the front and the first row that fits is taken. So
a row could hide behind an earlier one whose name differs from its own in
case only, or that has the same number. No row of the three tables does: the
names stay distinct when case is disregarded, and so do the numbers of
categories and of regions. This is checked once for each table. What is
said of looking up follows from it, for every text.

Names are compared in lower case. `SameUpToCase` says the same letter by
letter and without a folded form, so that it is plain that no letter beyond
the ASCII alphabet has two cases here.

## Main results

* `sameName_iff_sameUpToCase` — what is taken for the same name.
* `find?_eq_some_iff_of_nodup` — the first row that fits is the only one.
* `findsByName_named?` — a table of distinct names finds its rows by name.
* `lookups_find_only_row` — the three tables do, and their numbers and the
  cities of a country agree with that.
-/

namespace NewsAnalytics.Catalogue

/-! ## Names up to case -/

/-- A capital of the ASCII alphabet and its small letter. -/
def IsCapitalOf (c d : Char) : Prop := 'A' ≤ c ∧ c ≤ 'Z' ∧ d.toNat = c.toNat + 32

/-- The same character, or the two forms of an ASCII letter. -/
def SameLetter (c d : Char) : Prop := c = d ∨ IsCapitalOf c d ∨ IsCapitalOf d c

/-- The names have the same letters in the same places. -/
def SameUpToCase (a b : String) : Prop := List.Forall₂ SameLetter a.toList b.toList

instance : DecidableRel IsCapitalOf := fun _ _ => inferInstanceAs (Decidable (_ ∧ _ ∧ _))

instance : DecidableRel SameLetter := fun _ _ => inferInstanceAs (Decidable (_ ∨ _ ∨ _))

instance : DecidableRel SameUpToCase := fun a b =>
  inferInstanceAs (Decidable (List.Forall₂ SameLetter a.toList b.toList))

theorem isCapitalOf_iff {c d : Char} :
    IsCapitalOf c d ↔ 65 ≤ c.toNat ∧ c.toNat ≤ 90 ∧ d.toNat = c.toNat + 32 := Iff.rfl

theorem toNat_toLower (c : Char) :
    c.toLower.toNat = if 65 ≤ c.toNat ∧ c.toNat ≤ 90 then c.toNat + 32 else c.toNat := by
  have hVal : c.val.toNat = c.toNat := rfl
  unfold Char.toLower
  split
  · rename_i hCapital
    have hBounds : 65 ≤ c.toNat ∧ c.toNat ≤ 90 := hCapital
    rw [if_pos hBounds, Char.toNat_mk, UInt32.toNat_add, hVal]
    show (c.toNat + 32) % 2 ^ 32 = c.toNat + 32
    omega
  · rename_i hOther
    exact (if_neg hOther).symm

theorem toLower_eq_toLower_iff {c d : Char} : c.toLower = d.toLower ↔ SameLetter c d := by
  rw [← Char.toNat_inj, toNat_toLower, toNat_toLower, SameLetter, ← Char.toNat_inj,
    isCapitalOf_iff, isCapitalOf_iff]
  split <;> split <;> omega

theorem foldCase_eq_iff {a b : String} : foldCase a = foldCase b ↔ SameUpToCase a b := by
  rw [← List.forall₂_eq_eq_eq, foldCase, foldCase, List.forall₂_map_left_iff,
    List.forall₂_map_right_iff]
  simp only [toLower_eq_toLower_iff]
  rfl

/-- Two names are taken for the same iff they have the same letters. -/
theorem sameName_iff_sameUpToCase {a b : String} : sameName a b = true ↔ SameUpToCase a b := by
  rw [sameName_iff, foldCase_eq_iff]

/-! ## Tables of distinct rows -/

section Rows

variable {K : Type} {key : Entry → K} {table : List Entry} {x : Entry}

/-- Where no two rows have the same key, the first row that has a key is the
only one. -/
theorem find?_eq_some_iff_of_nodup [BEq K] [LawfulBEq K] {k : K}
    (hNodup : (table.map key).Nodup) :
    table.find? (key · == k) = some x ↔ x ∈ table ∧ key x = k := by
  constructor
  · intro hFound
    exact ⟨List.mem_of_find?_eq_some hFound, by simpa using List.find?_some hFound⟩
  · rintro ⟨hMem, rfl⟩
    have hSome : (table.find? (key · == key x)).isSome = true :=
      List.find?_isSome.2 ⟨x, hMem, beq_self_eq_true _⟩
    obtain ⟨y, hFound⟩ := Option.isSome_iff_exists.1 hSome
    have hKey : key y = key x := by simpa using List.find?_some hFound
    rw [hFound, List.inj_on_of_nodup_map hNodup (List.mem_of_find?_eq_some hFound) hMem hKey]

/-- Where no two rows have the same key, no other row has the key of a row. -/
theorem key_ne_of_nodup {before behind : List Entry}
    (hNodup : ((before ++ x :: behind).map key).Nodup) {y : Entry} (hMem : y ∈ before ++ behind) :
    key y ≠ key x := by
  rw [List.map_append, List.map_cons, List.nodup_middle, ← List.map_append] at hNodup
  intro hSame
  exact (List.nodup_cons.1 hNodup).1 (List.mem_map.2 ⟨y, hMem, hSame⟩)

end Rows

/-- Names are looked up as a table of distinct names allows: a name finds the
one row that has it, in the spelling of the table. -/
structure FindsByName (table : List Entry) (find? : String → Option Entry) : Prop where
  /-- What is found is a row that has the name, and each such row is found. -/
  found_iff : ∀ name x, find? name = some x ↔ x ∈ table ∧ SameUpToCase x.name name
  /-- No other row has the name. -/
  only : ∀ name before x behind, table = before ++ x :: behind → SameUpToCase x.name name →
    ∀ y ∈ before ++ behind, ¬ SameUpToCase y.name name
  /-- Names that differ in case find the same. -/
  alike : ∀ name other, SameUpToCase name other → find? name = find? other

/-- A table of distinct names finds its rows by name. -/
theorem findsByName_named? {table : List Entry}
    (hNodup : (table.map fun e => foldCase e.name).Nodup) : FindsByName table (named? table) where
  found_iff name x := by
    rw [← foldCase_eq_iff]
    show table.find? (fun e => foldCase e.name == foldCase name) = some x ↔ _
    exact find?_eq_some_iff_of_nodup hNodup
  only name before x behind hTable hName y hMem hOther := by
    subst hTable
    exact key_ne_of_nodup hNodup hMem
      ((foldCase_eq_iff.2 hOther).trans (foldCase_eq_iff.2 hName).symm)
  alike name other hSame := by
    unfold named? sameName
    rw [foldCase_eq_iff.2 hSame]

/-- A table of distinct numbers finds the name of each row by its number. -/
theorem nameOf?_id {table : List Entry} (hNodup : (table.map Entry.id).Nodup) {x : Entry}
    (hMem : x ∈ table) : nameOf? table x.id = some x.name := by
  unfold nameOf?
  rw [(find?_eq_some_iff_of_nodup hNodup).2 ⟨hMem, rfl⟩, Option.map_some]

/-! ## The tables -/

-- The names are spelled out as characters first: to take a string apart costs
-- the kernel far more than to compare the parts.

theorem nodup_names_categories : (categories.map fun e => foldCase e.name).Nodup := by
  simp only [categories, List.map_cons, List.map_nil, foldCase, String.reduceToList]
  decide +kernel

theorem nodup_names_regions : (regions.map fun e => foldCase e.name).Nodup := by
  simp only [regions, List.map_cons, List.map_nil, foldCase, String.reduceToList]
  decide +kernel

theorem nodup_names_allCities : (allCities.map fun e => foldCase e.name).Nodup := by
  simp only [allCities, cityGroups, List.flatMap_cons, List.flatMap_nil, List.append_nil,
    List.cons_append, List.nil_append, List.map_cons, List.map_nil, foldCase, String.reduceToList]
  decide +kernel

theorem nodup_ids_categories : (categories.map Entry.id).Nodup := by decide +kernel

theorem nodup_ids_regions : (regions.map Entry.id).Nodup := by decide +kernel

/-- The cities of a country are those of its group. -/
theorem mem_cities_iff {country : String} {x : Entry} :
    x ∈ cities country ↔ ∃ group ∈ cityGroups, SameUpToCase group.1 country ∧ x ∈ group.2 := by
  simp only [cities, List.mem_flatMap, List.mem_filter, sameName_iff_sameUpToCase, and_assoc]

theorem mem_allCities_of_mem_cities {country : String} {x : Entry} (hCity : x ∈ cities country) :
    x ∈ allCities := by
  obtain ⟨group, hGroup, -, hMem⟩ := mem_cities_iff.1 hCity
  exact List.mem_flatMap.2 ⟨group, hGroup, hMem⟩

theorem cities_eq_of_sameUpToCase {country other : String} (hSame : SameUpToCase country other) :
    cities country = cities other := by
  unfold cities sameName
  rw [foldCase_eq_iff.2 hSame]

/-- A name finds the one row of its table that has it up to case, and the
number of a category or region leads back to the name. The cities of a
country are those of its group, however it is written, and each is found by
its own name in any country. -/
theorem lookups_find_only_row :
    FindsByName categories category? ∧ FindsByName regions region? ∧
      FindsByName allCities city? ∧
    (∀ name x, category? name = some x → categoryName? x.id = some x.name) ∧
    (∀ name x, region? name = some x → regionName? x.id = some x.name) ∧
    (∀ country other, SameUpToCase country other → cities country = cities other) ∧
    (∀ country x, x ∈ cities country ↔
      ∃ group ∈ cityGroups, SameUpToCase group.1 country ∧ x ∈ group.2) ∧
    ∀ country, ∀ x ∈ cities country, ∀ name, SameUpToCase x.name name → city? name = some x := by
  have hCategories : FindsByName categories category? := findsByName_named? nodup_names_categories
  have hRegions : FindsByName regions region? := findsByName_named? nodup_names_regions
  have hCities : FindsByName allCities city? := findsByName_named? nodup_names_allCities
  refine ⟨hCategories, hRegions, hCities, ?_, ?_, ?_, ?_, ?_⟩
  · intro name x hFound
    exact nameOf?_id nodup_ids_categories ((hCategories.found_iff name x).1 hFound).1
  · intro name x hFound
    exact nameOf?_id nodup_ids_regions ((hRegions.found_iff name x).1 hFound).1
  · exact fun _ _ => cities_eq_of_sameUpToCase
  · exact fun _ _ => mem_cities_iff
  · intro country x hCity name hName
    exact (hCities.found_iff name x).2 ⟨mem_allCities_of_mem_cities hCity, hName⟩

/-- The letter `ü` is beyond the ASCII alphabet, so its capital is another
letter and makes another name. -/
theorem lookups_find_only_row_thueringen :
    SameUpToCase "Thüringen" "tHüRINGEN" ∧ ¬ SameUpToCase "Thüringen" "THÜRINGEN" ∧
      (⟨276, "Thüringen"⟩ : Entry) ∈ cities "deutschland" ∧
      city? "tHüRINGEN" = some ⟨276, "Thüringen"⟩ ∧
      category? "TECH" = some ⟨25, "Tech"⟩ ∧ categoryName? 25 = some "Tech" := by
  obtain ⟨hCategories, -, -, hNumber, -, -, hGroup, hCity⟩ := lookups_find_only_row
  have hMem : (⟨276, "Thüringen"⟩ : Entry) ∈ cities "deutschland" :=
    (hGroup _ _).2 ⟨_, List.mem_of_getElem? (i := 3) rfl, by decide, by decide⟩
  have hTech : category? "TECH" = some ⟨25, "Tech"⟩ :=
    (hCategories.found_iff _ _).2 ⟨by decide, by decide⟩
  exact ⟨by decide, by decide, hMem, hCity _ _ hMem _ (by decide), hTech, hNumber _ _ hTech⟩

end NewsAnalytics.Catalogue
