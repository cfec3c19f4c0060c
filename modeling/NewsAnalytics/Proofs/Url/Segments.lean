import NewsAnalytics.Proofs.Text.Split
import NewsAnalytics.Url.Segments

/-!
# Paths that are read as they stand

A character is *inert* if no step of reading a URL looks at it. A segment
of inert characters that is not dots is *plain*: it is added to a path as
it stands. So plain segments can be read behind any path and are found at
its end, unchanged.

The other half of the module is about paths that have been read, from
whatever text: a path of the web has a segment, and none of its segments
holds a slash. That is what makes the written form of a path come apart
into its segments again.

## Main results

* `resolve_of_plain` — plain segments are added as they stand.
* `resolve_ne_nil`, `slash_not_mem_resolve` — paths that have been read.
* `Path.text_append`, `Path.upToLastSlash_text` — their written form.
-/

namespace NewsAnalytics.Url

open Text

/-! ## Inert characters -/

/-- No step of reading a URL looks at the character. -/
structure IsInert (c : Char) : Prop where
  notEdge : isEdge c = false
  notIgnored : isIgnored c = false
  notSeparator : Segments.isSeparator true c = false
  notExcluded : Excluded.path c = false
  notColon : c ≠ ':'

instance (c : Char) : Decidable (IsInert c) :=
  decidable_of_iff (isEdge c = false ∧ isIgnored c = false ∧
    Segments.isSeparator true c = false ∧ Excluded.path c = false ∧ c ≠ ':')
    ⟨fun ⟨h₁, h₂, h₃, h₄, h₅⟩ => ⟨h₁, h₂, h₃, h₄, h₅⟩,
      fun h => ⟨h.notEdge, h.notIgnored, h.notSeparator, h.notExcluded, h.notColon⟩⟩

theorem clean_eq_self {cs : List Char} (h : ∀ c ∈ cs, isIgnored c = false) : clean cs = cs := by
  unfold clean
  rw [List.filter_eq_self]
  intro c hc
  rw [h c hc]
  rfl

namespace Segments

/-- Inert characters that are not dots, and at least one. -/
structure IsPlain (segment : List Char) : Prop where
  notEmpty : segment ≠ []
  inert : ∀ c ∈ segment, IsInert c
  notSingleDot : isSingleDot segment = false
  notDoubleDot : isDoubleDot segment = false

/-! ## Plain segments -/

theorem encode_of_plain {segment : List Char} (h : IsPlain segment) :
    encode segment = String.ofList segment := by
  rw [encode, clean_eq_self fun c hc => (h.inert c hc).notIgnored,
    Percent.encode_eq_self fun c hc => (h.inert c hc).notExcluded]

theorem add_of_plain {segment : List Char} (h : IsPlain segment) (done : List String) :
    add false done segment = done ++ [String.ofList segment] := by
  simp [add, append, h.notDoubleDot, h.notSingleDot, encode_of_plain h]

theorem addLast_of_plain {segment : List Char} (h : IsPlain segment) (done : List String) :
    addLast false done segment = done ++ [String.ofList segment] := by
  simp [addLast, append, h.notDoubleDot, h.notSingleDot, encode_of_plain h]

/-- Plain segments are added as they stand. -/
theorem resolve_of_plain {segments : List (List Char)} (h : ∀ s ∈ segments, IsPlain s)
    (done : List String) :
    resolve false done segments = done ++ segments.map String.ofList := by
  induction segments generalizing done with
  | nil => simp [resolve]
  | cons segment more ih =>
      have hPlain := h segment (by simp)
      have hMore : ∀ s ∈ more, IsPlain s := fun s hs => h s (by simp [hs])
      cases more with
      | nil =>
          rw [resolve, addLast_of_plain hPlain]
          rfl
      | cons next rest =>
          rw [resolve, ih hMore, add_of_plain hPlain, List.append_assoc]
          · rfl
          · exact List.cons_ne_nil next rest

/-! ## Paths that have been read -/

/-- The written form of a segment has no slash that the segment has not. -/
theorem slash_not_mem_encode {segment : List Char} (h : '/' ∉ segment) :
    '/' ∉ (encode segment).toList := by
  have hDigit : ∀ n < 16, Hex.upper n ≠ '/' := by decide
  rw [encode, String.toList_ofList, Percent.encode]
  intro hMem
  obtain ⟨c, hc, hMem⟩ := List.mem_flatMap.1 hMem
  unfold Percent.encodeChar at hMem
  split at hMem
  · obtain ⟨b, -, hEscape⟩ := List.mem_flatMap.1 hMem
    have hByte : b.toNat < 256 := UInt8.toNat_lt b
    simp only [Percent.escapeByte, List.mem_cons, List.not_mem_nil, or_false] at hEscape
    rcases hEscape with hEscape | hEscape | hEscape
    · cases hEscape
    · exact hDigit (b.toNat / 16) (by omega) hEscape.symm
    · exact hDigit (b.toNat % 16) (by omega) hEscape.symm
  · rw [List.mem_singleton] at hMem
    rw [← hMem] at hc
    exact h (List.mem_of_mem_filter hc)

/-- A path of the web has a segment. -/
theorem resolve_ne_nil {segments : List (List Char)} (hNe : segments ≠ []) (done : List String) :
    resolve false done segments ≠ [] := by
  induction segments generalizing done with
  | nil => exact absurd rfl hNe
  | cons segment more ih =>
      cases more with
      | nil =>
          rw [resolve, addLast]
          split
          · simp
          · simp [append]
      | cons next rest =>
          rw [resolve]
          · exact ih (List.cons_ne_nil next rest) _
          · exact List.cons_ne_nil next rest

/-- No segment holds a slash. -/
def HasNoSlash (done : List String) : Prop := ∀ s ∈ done, '/' ∉ s.toList

theorem HasNoSlash.append {done more : List String} (hDone : HasNoSlash done)
    (hMore : HasNoSlash more) : HasNoSlash (done ++ more) := by
  intro s hs
  rcases List.mem_append.1 hs with hs | hs
  · exact hDone s hs
  · exact hMore s hs

private theorem hasNoSlash_singleton {s : String} (h : '/' ∉ s.toList) : HasNoSlash [s] := by
  intro t ht
  rwa [List.mem_singleton.1 ht]

private theorem hasNoSlash_add {done : List String} {segment : List Char}
    (hDone : HasNoSlash done) (h : '/' ∉ segment) : HasNoSlash (add false done segment) := by
  unfold add
  split
  · unfold shorten
    split
    · exact hDone
    · exact fun s hs => hDone s ((List.dropLast_sublist done).mem hs)
  · split
    · exact hDone
    · exact hDone.append (hasNoSlash_singleton (slash_not_mem_encode h))

private theorem hasNoSlash_addLast {done : List String} {segment : List Char}
    (hDone : HasNoSlash done) (h : '/' ∉ segment) : HasNoSlash (addLast false done segment) := by
  unfold addLast
  split
  · exact (hasNoSlash_add hDone h).append (hasNoSlash_singleton (by simp))
  · exact hDone.append (hasNoSlash_singleton (slash_not_mem_encode h))

/-- No segment of a path that has been read holds a slash. -/
theorem slash_not_mem_resolve {segments : List (List Char)} (h : ∀ s ∈ segments, '/' ∉ s)
    {done : List String} (hDone : HasNoSlash done) :
    HasNoSlash (resolve false done segments) := by
  induction segments generalizing done with
  | nil => exact hDone
  | cons segment more ih =>
      have hSegment := h segment (by simp)
      cases more with
      | nil => exact hasNoSlash_addLast hDone hSegment
      | cons next rest =>
          rw [resolve]
          · exact ih (fun s hs => h s (by simp [hs])) (hasNoSlash_add hDone hSegment)
          · exact List.cons_ne_nil next rest

/-- What a text of the web is read to. -/
theorem extend_spec {scheme : String} (hFile : scheme ≠ "file") (cs : List Char) :
    extend scheme [] cs ≠ [] ∧ HasNoSlash (extend scheme [] cs) := by
  simp only [extend, hFile, decide_false, if_false]
  constructor
  · exact resolve_ne_nil (splitAt_ne_nil cs) []
  · apply slash_not_mem_resolve
    · intro s hs hSlash
      have hMark := (mem_part_of_splitAt hs hSlash).2
      simp [isSeparator] at hMark
    · intro s hs
      cases hs

end Segments

/-! ## Written paths -/

/-- A text up to its last slash. -/
def upToLastSlash (s : String) : String :=
  String.ofList (s.toList.reverse.dropWhile (· ≠ '/')).reverse

theorem upToLastSlash_append {s t : String} (h : '/' ∉ t.toList) :
    upToLastSlash (s ++ "/" ++ t) = s ++ "/" := by
  have hBehind : ∀ c ∈ t.toList.reverse, (decide (c ≠ '/')) = true := by
    intro c hc
    have hNe : c ≠ '/' := by
      rintro rfl
      exact h (List.mem_reverse.1 hc)
    simpa using hNe
  rw [upToLastSlash, String.toList_append, List.reverse_append,
    List.dropWhile_append_of_pos hBehind]
  simp

/-- Segments behind a path are written behind it. -/
theorem Path.text_append (before : List String) {more : List String} (hNe : more ≠ []) :
    (Path.segments (before ++ more)).text =
      (Path.segments before).text ++ "/" ++ "/".intercalate more := by
  have hJoin : ∀ (s : String) (rest : List String),
      String.join ((s :: rest).map ("/" ++ ·)) = "/" ++ "/".intercalate (s :: rest) := by
    intro s rest
    induction rest generalizing s with
    | nil => simp
    | cons t rest ih =>
        rw [List.map_cons, String.join_cons, ih t, String.intercalate_cons_cons,
          String.append_assoc, String.append_assoc]
  obtain ⟨s, rest, rfl⟩ := List.exists_cons_of_ne_nil hNe
  simp only [Path.text, List.map_append, String.join_append]
  rw [hJoin, String.append_assoc]

/-- Up to its last slash, a written path is its segments but the last. -/
theorem Path.upToLastSlash_text {segments : List String} (hNe : segments ≠ [])
    (h : Segments.HasNoSlash segments) :
    upToLastSlash (Path.segments segments).text =
      (Path.segments segments.dropLast).text ++ "/" := by
  obtain ⟨before, last, rfl⟩ := (List.eq_nil_or_concat' segments).resolve_left hNe
  rw [Path.text_append before (List.cons_ne_nil last []), List.dropLast_concat]
  simp [upToLastSlash_append (h last (by simp))]

end NewsAnalytics.Url
