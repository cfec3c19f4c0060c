import Mathlib
import NewsAnalytics.Proofs.Query.Path
import NewsAnalytics.Proofs.Text.FormDecoding

/-!
# Listings are told apart by their requests

A listing is accepted iff its names are, and the first name that is not
accepted is the reason. The path of an accepted listing comes apart at its
slashes into a fixed word, one segment for each name and perhaps a number,
and each segment is read as its name. The word tells the kind of listing,
and the pairs of the query hold the options and the text of a search, so a
request determines the listing that it was made from.

## Main results

* `segments_eq` — names are worked off in the order of the path.
* `Subject.eq_of_writtenSegments` — the path and the pairs determine the subject.
* `toRequest_faithful` — which listings are accepted, what their paths say,
  and that no two of them have the same request.
-/

namespace NewsAnalytics

open Text

/-! ## Names -/

namespace Request

/-- A name that is accepted: it shows something, and it is not a step
through the path. -/
structure IsName (name : String) : Prop where
  shown : ∃ c ∈ name.toList, isBlankChar c = false
  notDot : name ≠ "."
  notDots : name ≠ ".."

theorem isName_iff {name : String} :
    IsName name ↔ isBlank name = false ∧ name ≠ "." ∧ name ≠ ".." := by
  rw [isBlank_eq_false_iff]
  constructor
  · intro h
    exact ⟨h.shown, h.notDot, h.notDots⟩
  · rintro ⟨hShown, hDot, hDots⟩
    exact ⟨hShown, hDot, hDots⟩

instance (name : String) : Decidable (IsName name) := decidable_of_iff _ isName_iff.symm

/-- Why a name that is not accepted is refused, with its component. -/
def refusal (component name : String) : InvalidInput :=
  if isBlank name then .emptyName component else .dotName component

theorem segment_of_isName {name : String} (h : IsName name) (component : String) :
    segment component name = .ok (FormEncoding.encode name) := by
  obtain ⟨hShown, hDot, hDots⟩ := isName_iff.1 h
  exact segment_eq_ok_iff.2 ⟨hShown, hDot, hDots, rfl⟩

theorem segment_of_not_isName {name : String} (h : ¬ IsName name) (component : String) :
    segment component name = .error (.validation (refusal component name)) := by
  unfold segment refusal
  by_cases hBlank : isBlank name = true
  · rw [if_pos hBlank, if_pos hBlank]
  · have hDots : name = "." ∨ name = ".." := by
      by_contra hNot
      rw [not_or] at hNot
      exact h (isName_iff.2 ⟨by simpa using hBlank, hNot⟩)
    rw [if_neg hBlank, if_neg hBlank, if_pos hDots]

/-- Names that are all accepted are all encoded. -/
theorem mapM_segment_of_isName {names : List (String × String)} (h : ∀ n ∈ names, IsName n.2) :
    names.mapM (fun n => segment n.1 n.2) = .ok (names.map fun n => FormEncoding.encode n.2) := by
  induction names with
  | nil => rfl
  | cons n rest ih =>
      rw [List.mapM_cons, segment_of_isName (h n (by simp)), ih fun m hm => h m (by simp [hm])]
      rfl

/-- The first name that is not accepted is the reason for the failure. -/
theorem mapM_segment_of_find? {names : List (String × String)} {component name : String}
    (h : names.find? (fun n => ¬ IsName n.2) = some (component, name)) :
    names.mapM (fun n => segment n.1 n.2) = .error (.validation (refusal component name)) := by
  induction names with
  | nil => cases h
  | cons n rest ih =>
      rw [List.mapM_cons]
      by_cases hName : IsName n.2
      · rw [List.find?_cons_of_neg (by simpa using hName)] at h
        rw [segment_of_isName hName, ih h]
        rfl
      · rw [List.find?_cons_of_pos (by simpa using hName)] at h
        obtain rfl := Option.some.inj h
        rw [segment_of_not_isName hName]
        rfl

end Request

namespace Listing

open Request FormEncoding

/-! ## Segments -/

namespace Subject

/-- The word that the path begins with. -/
def word : Subject → String
  | .region .. => "region"
  | .publisher .. => "publisher"
  | .city .. => "local"
  | .search _ => "search"

/-- The names in the path, in their order, each with its component. A
search has none. -/
def names : Subject → List (String × String)
  | .region name kind _ => [("region", name), ("category", kind)]
  | .publisher name _ => [("publisher", name)]
  | .city name _ => [("city", name)]
  | .search _ => []

/-- The period in decimal, which the path ends with. -/
def number : Subject → List String
  | .region _ _ period | .publisher _ period | .city _ period => [toString period.toNat]
  | .search _ => []

/-- The segments of the path when all names are accepted. -/
def writtenSegments (s : Subject) : List String :=
  s.word :: (s.names.map fun n => encode n.2) ++ s.number

/-- Names are worked off in the order of the path. -/
theorem segments_eq (s : Subject) :
    s.segments = do
      let inner ← s.names.mapM fun n => segment n.1 n.2
      return s.word :: inner ++ s.number := by
  cases s with
  | region | publisher | city =>
      simp only [segments, names, word, number, List.mapM_cons, List.mapM_nil, bind_assoc,
        pure_bind]
      rfl
  | search => rfl

theorem segments_of_isName {s : Subject} (h : ∀ n ∈ s.names, IsName n.2) :
    s.segments = .ok s.writtenSegments := by
  rw [segments_eq, mapM_segment_of_isName h]
  rfl

theorem segments_of_find? {s : Subject} {component name : String}
    (h : s.names.find? (fun n => ¬ IsName n.2) = some (component, name)) :
    s.segments = .error (.validation (refusal component name)) := by
  rw [segments_eq, mapM_segment_of_find? h]
  rfl

/-- The path and the pairs determine the subject. -/
theorem eq_of_writtenSegments {s t : Subject} (hPath : s.writtenSegments = t.writtenSegments)
    (hPairs : s.pairs = t.pairs) : s = t := by
  have hName : ∀ {a b : String}, encode a = encode b → a = b := fun h => encode_injective h
  have hPeriod : ∀ {m n : UInt32}, toString m.toNat = toString n.toNat → m = n :=
    fun h => UInt32.toNat_inj.1 (Nat.repr_inj.1 h)
  cases s with
  | region name kind period =>
      cases t with
      | region name' kind' period' =>
          simp only [writtenSegments, word, names, number, List.map_cons, List.map_nil,
            List.cons_append, List.nil_append, List.cons.injEq, and_true, true_and] at hPath
          obtain ⟨h₁, h₂, h₃⟩ := hPath
          rw [hName h₁, hName h₂, hPeriod h₃]
      | publisher | city | search => simp [writtenSegments, word] at hPath
  | publisher name period =>
      cases t with
      | publisher name' period' =>
          simp only [writtenSegments, word, names, number, List.map_cons, List.map_nil,
            List.cons_append, List.nil_append, List.cons.injEq, and_true, true_and] at hPath
          obtain ⟨h₁, h₂⟩ := hPath
          rw [hName h₁, hPeriod h₂]
      | region | city | search => simp [writtenSegments, word] at hPath
  | city name period =>
      cases t with
      | city name' period' =>
          simp only [writtenSegments, word, names, number, List.map_cons, List.map_nil,
            List.cons_append, List.nil_append, List.cons.injEq, and_true, true_and] at hPath
          obtain ⟨h₁, h₂⟩ := hPath
          rw [hName h₁, hPeriod h₂]
      | region | publisher | search => simp [writtenSegments, word] at hPath
  | search text =>
      cases t with
      | search text' => simpa [pairs] using hPairs
      | region | publisher | city => simp [writtenSegments, word] at hPath

end Subject

/-! ## Options -/

theorem flagText_injective : Function.Injective flagText := by
  intro a b h
  revert h
  cases a <;> cases b <;> decide

/-- The pairs of options determine the options. -/
theorem pairs_injective : Function.Injective ListingOptions.pairs := by
  intro a b h
  simp only [ListingOptions.pairs, List.cons.injEq, Prod.mk.injEq, true_and, and_true] at h
  obtain ⟨hSize, hSortBy, hVideoOnly⟩ := h
  have hSize : a.size = b.size := Int64.toInt_inj.1 (Int.repr_inj.1 hSize)
  cases a
  cases b
  simp only [ListingOptions.mk.injEq]
  exact ⟨hSize, hSortBy, flagText_injective hVideoOnly⟩

/-! ## Requests -/

/-- The request of a listing whose names are all accepted. -/
def written (l : Listing) : Request :=
  { method := .get
    path := "/".intercalate l.subject.writtenSegments
    pairs := l.options.pairs ++ l.subject.pairs }

theorem toRequest_of_isName {l : Listing} (h : ∀ n ∈ l.subject.names, IsName n.2) :
    l.toRequest = .ok l.written := by
  unfold toRequest
  rw [Subject.segments_of_isName h]
  rfl

theorem toRequest_of_find? {l : Listing} {component name : String}
    (h : l.subject.names.find? (fun n => ¬ IsName n.2) = some (component, name)) :
    l.toRequest = .error (.validation (refusal component name)) := by
  unfold toRequest
  rw [Subject.segments_of_find? h]
  rfl

/-- A listing is accepted iff its names are. -/
theorem toRequest_eq_ok_iff {l : Listing} {r : Request} :
    l.toRequest = .ok r ↔ (∀ n ∈ l.subject.names, IsName n.2) ∧ r = l.written := by
  constructor
  · intro hRequest
    cases hFind : l.subject.names.find? (fun n => ¬ IsName n.2) with
    | some n =>
        rw [toRequest_of_find? hFind] at hRequest
        cases hRequest
    | none =>
        have hNames : ∀ n ∈ l.subject.names, IsName n.2 := by
          simpa [List.find?_eq_none] using hFind
        rw [toRequest_of_isName hNames] at hRequest
        exact ⟨hNames, (Except.ok.inj hRequest).symm⟩
  · rintro ⟨hNames, rfl⟩
    exact toRequest_of_isName hNames

/-- The segments that a path comes apart into at its slashes. -/
def pathSegments (path : String) : List String :=
  (splitAt (· = '/') path.toList).map String.ofList

/-- The path of an accepted listing comes apart into its segments. -/
theorem pathSegments_written {l : Listing} (h : ∀ n ∈ l.subject.names, IsName n.2) :
    pathSegments l.written.path = l.subject.writtenSegments := by
  obtain ⟨hNe, hPlain⟩ := Subject.isPlain_segments (Subject.segments_of_isName h)
  have hParts : ∀ part ∈ l.subject.writtenSegments.map String.toList, ∀ c ∈ part,
      decide (c = '/') = false := by
    intro part hPart c hc
    obtain ⟨segment, hSegment, rfl⟩ := List.mem_map.1 hPart
    have hSeparator := ((hPlain segment hSegment).inert c hc).notSeparator
    simp only [Url.Segments.isSeparator, Bool.or_eq_false_iff] at hSeparator
    exact hSeparator.1
  have hSlash : "/".toList = ['/'] := rfl
  rw [pathSegments, written, String.toList_intercalate, hSlash,
    splitAt_intercalate (by decide) (by simpa using hNe) hParts]
  simp [Function.comp_def]

/-- Accepted listings with the same request are the same. -/
theorem eq_of_written {l other : Listing} (hNames : ∀ n ∈ l.subject.names, IsName n.2)
    (hOther : ∀ n ∈ other.subject.names, IsName n.2) (h : other.written = l.written) :
    other = l := by
  have hPath : other.subject.writtenSegments = l.subject.writtenSegments := by
    rw [← pathSegments_written hOther, ← pathSegments_written hNames, h]
  have hPairs : other.options.pairs ++ other.subject.pairs = l.options.pairs ++ l.subject.pairs :=
    congrArg Request.pairs h
  obtain ⟨hOptions, hText⟩ := List.append_inj hPairs (by simp [ListingOptions.pairs])
  have hSubject := Subject.eq_of_writtenSegments hPath hText
  have hSame := pairs_injective hOptions
  cases l
  cases other
  simp only [Listing.mk.injEq]
  exact ⟨hSubject, hSame⟩

/-- A listing is accepted iff its names are, and otherwise the first one that
is not is named. The path of an accepted listing is a word, a segment for
each name and a number; each segment is form text that is read as the name.
No other listing has the same request. -/
theorem toRequest_faithful (l : Listing) :
    ((∃ r, l.toRequest = .ok r) ↔ ∀ n ∈ l.subject.names, IsName n.2) ∧
    (∀ component name,
      l.subject.names.find? (fun n => ¬ IsName n.2) = some (component, name) →
        l.toRequest = .error (.validation (refusal component name))) ∧
    ∀ r, l.toRequest = .ok r →
      (∃ inner, pathSegments r.path = l.subject.word :: inner ++ l.subject.number ∧
        List.Forall₂ (fun segment n => isFormText segment.toList = true ∧
          decode segment = n.2) inner l.subject.names) ∧
      ∀ other : Listing, other.toRequest = .ok r → other = l := by
  refine ⟨?_, fun component name => toRequest_of_find?, ?_⟩
  · constructor
    · rintro ⟨r, hRequest⟩
      exact (toRequest_eq_ok_iff.1 hRequest).1
    · exact fun hNames => ⟨l.written, toRequest_of_isName hNames⟩
  · intro r hRequest
    obtain ⟨hNames, rfl⟩ := toRequest_eq_ok_iff.1 hRequest
    refine ⟨⟨_, pathSegments_written hNames, ?_⟩, ?_⟩
    · rw [List.forall₂_map_left_iff, List.forall₂_same]
      exact fun n _ => ⟨isFormText_encode n.2, decode_encode n.2⟩
    · intro other hOther
      obtain ⟨hOtherNames, hSame⟩ := toRequest_eq_ok_iff.1 hOther
      exact eq_of_written hNames hOtherNames hSame.symm

/-- A slash, a plus sign and a percent sign in names; and two names that are
refused, of which the first one is named. -/
theorem toRequest_faithful_marks :
    (∃ r, (Listing.mk (.region "A/B+é" "50%" 7) { size := -3 }).toRequest = .ok r ∧
      pathSegments r.path = ["region", "A%2FB%2B%C3%A9", "50%25", "7"] ∧
      ∀ other : Listing, other.toRequest = .ok r →
        other = ⟨.region "A/B+é" "50%" 7, { size := -3 }⟩) ∧
    (Listing.mk (.region " " ".." 7) {}).toRequest =
      .error (.validation (.emptyName "region")) := by
  obtain ⟨hAccepted, -, hRequest⟩ := toRequest_faithful ⟨.region "A/B+é" "50%" 7, { size := -3 }⟩
  obtain ⟨-, hRefused, -⟩ := toRequest_faithful ⟨.region " " ".." 7, {}⟩
  obtain ⟨r, hOk⟩ := hAccepted.2 (by decide)
  obtain rfl := (toRequest_eq_ok_iff.1 hOk).2
  refine ⟨⟨_, hOk, ?_, (hRequest _ hOk).2⟩, hRefused "region" " " (by decide)⟩
  rw [pathSegments_written (by decide)]
  decide +kernel

end Listing

end NewsAnalytics
