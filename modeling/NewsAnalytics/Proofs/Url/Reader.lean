import Mathlib.Data.List.TakeWhile
import NewsAnalytics.Proofs.Chain
import NewsAnalytics.Proofs.Url.Segments
import NewsAnalytics.Url.Reader

/-!
# What reading a URL leaves

A URL that has been read has the scheme that its text begins with, and if
that is one of the web, its path has been read from some text, so that it
has a segment and no slash in a segment. Behind such a URL a reference of
plain segments is resolved by putting them in place of the last segment:
nothing else of the URL changes, except that query and fragment go.

## Main results

* `path_of_parse` — the path of a URL of the web.
* `join_plain` — references of plain segments.
* `exists_join_plain` — the path they lead to, in written form.
-/

namespace NewsAnalytics.Url

open Segments

/-! ## Reading a URL of its own -/

/-- The URL has the scheme, and if that is one of the web, a path that has
been read behind nothing. -/
structure IsRead (scheme : String) (u : Url) : Prop where
  scheme_eq : u.scheme = scheme
  path_eq : isSpecialScheme scheme = true → ∃ cs, u.path = .segments (extend scheme [] cs)

theorem isRead_withPath (scheme : String) (authority : Option Authority) (cs : List Char) :
    IsRead scheme (withPath scheme authority [] cs) :=
  ⟨rfl, fun _ => ⟨_, rfl⟩⟩

private theorem isRead_of_pure {scheme : String} {authority : Option Authority} {cs : List Char}
    {u : Url} (h : (pure (withPath scheme authority [] cs) : Except Error Url) = .ok u) :
    IsRead scheme u := by
  obtain rfl := pure_eq_ok_iff.1 h
  exact isRead_withPath scheme authority cs

/-- A URL without a path, whose scheme is not of the web. -/
private theorem isRead_withTail {scheme : String} (hOther : isSpecialScheme scheme ≠ true)
    {u : Url} (hScheme : u.scheme = scheme) (cs : List Char) : IsRead scheme (withTail u cs) :=
  ⟨hScheme, fun hSpecial => absurd hSpecial hOther⟩

/-- Without a path of its own, a URL of the web has the root. -/
private theorem isRead_withoutPath {scheme : String} {authority : Authority} {rest : List Char}
    {u : Url}
    (h : (if isSpecialScheme scheme = true then
        (pure (withPath scheme (some authority) [] rest) : Except Error Url)
      else pure (withTail ⟨scheme, some authority, .segments [], none, none⟩ rest)) = .ok u) :
    IsRead scheme u := by
  split at h
  · exact isRead_of_pure h
  · next hOther =>
      obtain rfl := pure_eq_ok_iff.1 h
      exact isRead_withTail hOther rfl rest

theorem isRead_readAuthority {scheme : String} {cs : List Char} {u : Url}
    (h : readAuthority scheme cs = .ok u) : IsRead scheme u := by
  unfold readAuthority at h
  obtain ⟨⟨⟨user, password⟩, behindUser⟩, -, h⟩ := bind_eq_ok_iff.1 h
  obtain ⟨⟨host, behindHost⟩, -, h⟩ := bind_eq_ok_iff.1 h
  obtain ⟨⟨port, rest⟩, -, h⟩ := bind_eq_ok_iff.1 h
  dsimp only at h
  by_cases hHost : (host.isEmpty && (decide (user ≠ "") || password.isSome)) = true
  · rw [if_pos hHost] at h
    cases h
  · rw [if_neg hHost] at h
    split at h
    · exact isRead_withoutPath h
    · exact isRead_withoutPath h
    · exact isRead_withoutPath h
    · split at h
      · exact isRead_of_pure h
      · exact isRead_of_pure h

theorem isRead_readFileHost {cs : List Char} {u : Url} (h : readFileHost cs = .ok u) :
    IsRead "file" u := by
  unfold readFileHost at h
  dsimp only at h
  split at h
  · exact isRead_of_pure h
  · split at h
    · obtain ⟨host, -, h⟩ := bind_eq_ok_iff.1 h
      split at h
      · exact isRead_of_pure h
      · exact isRead_of_pure h
    · obtain ⟨host, -, h⟩ := bind_eq_ok_iff.1 h
      split at h
      · exact isRead_of_pure h
      · exact isRead_of_pure h

private theorem isRead_readFile {text : List Char} {u : Url} (h : readFile none text = .ok u) :
    IsRead "file" u := by
  unfold readFile at h
  dsimp only at h
  split at h
  · split at h
    · exact isRead_readFileHost h
    · exact isRead_of_pure h
  · exact isRead_of_pure h

theorem isRead_readOther {scheme : String} (hOther : isSpecialScheme scheme ≠ true)
    {cs : List Char} {u : Url} (h : readOther scheme cs = .ok u) : IsRead scheme u := by
  unfold readOther at h
  split at h
  · exact isRead_readAuthority h
  · exact isRead_of_pure h
  · obtain rfl := Except.ok.inj h
    exact isRead_withTail hOther rfl _

/-- What has been read has the scheme that its text begins with. -/
theorem isRead_of_readScheme {scheme : String} {cs : List Char} {u : Url}
    (h : readScheme none scheme cs = .ok u) : IsRead scheme u := by
  unfold readScheme at h
  split at h
  · next hFile =>
      subst hFile
      exact isRead_readFile h
  · split at h
    · exact isRead_readAuthority h
    · next hOther => exact isRead_readOther hOther h

/-- A URL of the web has a path with a segment and no slash in a segment. -/
theorem path_of_parse {s : String} {u : Url} (h : parse s = .ok u)
    (hHttp : isHttpScheme u.scheme = true) :
    ∃ list, u.path = .segments list ∧ list ≠ [] ∧ HasNoSlash list := by
  unfold parse at h
  split at h
  · next scheme rest _ =>
      have hRead := isRead_of_readScheme h
      have hScheme : scheme = "http" ∨ scheme = "https" := by
        rw [← hRead.scheme_eq]
        simpa [isHttpScheme] using hHttp
      have hSpecial : isSpecialScheme scheme = true := by
        rcases hScheme with rfl | rfl <;> decide
      have hFile : scheme ≠ "file" := by
        rcases hScheme with rfl | rfl <;> decide
      obtain ⟨cs, hPath⟩ := hRead.path_eq hSpecial
      exact ⟨_, hPath, extend_spec hFile cs⟩
  · cases h

/-! ## References of plain segments -/

/-- Segments with slashes between them. -/
def slashed (segments : List (List Char)) : List Char := ['/'].intercalate segments

/-- Nothing in plain segments, nor the slashes between them, is looked at
before the path is split. -/
structure IsPathChar (c : Char) : Prop where
  notEdge : isEdge c = false
  notIgnored : isIgnored c = false
  notColon : c ≠ ':'
  notTail : c ≠ '?' ∧ c ≠ '#'

theorem IsInert.isPathChar {c : Char} (h : IsInert c) : IsPathChar c := by
  refine ⟨h.notEdge, h.notIgnored, h.notColon, ?_, ?_⟩
  · rintro rfl
    exact absurd h.notExcluded (by decide)
  · rintro rfl
    exact absurd h.notExcluded (by decide)

theorem isPathChar_slash : IsPathChar '/' := ⟨by decide, by decide, by decide, by decide⟩

theorem isPathChar_of_mem_slashed {segments : List (List Char)}
    (h : ∀ s ∈ segments, IsPlain s) {c : Char} (hc : c ∈ slashed segments) : IsPathChar c := by
  induction segments with
  | nil => cases hc
  | cons segment more ih =>
      have hSegment : ∀ d ∈ segment, IsPathChar d :=
        fun d hd => ((h segment (by simp)).inert d hd).isPathChar
      cases more with
      | nil =>
          rw [slashed, List.intercalate_singleton] at hc
          exact hSegment c hc
      | cons next rest =>
          rw [slashed, List.intercalate_cons_cons] at hc
          simp only [List.mem_append, List.mem_singleton] at hc
          rcases hc with (hc | rfl) | hc
          · exact hSegment c hc
          · exact isPathChar_slash
          · exact ih (fun s hs => h s (by simp [hs])) hc

theorem trimEdges_eq_toList {s : String} (h : ∀ c ∈ s.toList, isEdge c = false) :
    trimEdges s = s.toList := by
  have hSelf : ∀ cs : List Char, (∀ c ∈ cs, isEdge c = false) → cs.dropWhile isEdge = cs := by
    intro cs hEdge
    cases cs with
    | nil => rfl
    | cons c rest => rw [List.dropWhile_cons_of_neg (by simp [hEdge c (by simp)])]
  rw [trimEdges, hSelf _ h, hSelf _ fun c hc => h c (List.mem_reverse.1 hc), List.reverse_reverse]

/-- What holds no colon has no scheme. -/
theorem takeScheme_eq_none {cs : List Char} (h : ':' ∉ cs) : takeScheme cs = none := by
  unfold takeScheme
  dsimp only
  split
  · next rest hRest =>
      have hMem : ':' ∈ cs.dropWhile fun c => isSchemeChar c || isIgnored c := by
        rw [hRest]
        exact List.mem_cons_self
      exact absurd ((List.dropWhile_sublist _).mem hMem) h
  · rfl

/-- A text without question mark and number sign is all path. -/
theorem pathPart_eq_self {cs : List Char} (h : ∀ c ∈ cs, c ≠ '?' ∧ c ≠ '#') :
    pathPart cs = cs ∧ tailPart cs = [] := by
  have hAll : ∀ c ∈ cs, (decide (c ≠ '?') && decide (c ≠ '#')) = true := by
    intro c hc
    simp [(h c hc).1, (h c hc).2]
  exact ⟨List.takeWhile_eq_self_iff.2 hAll, List.dropWhile_eq_nil_iff.2 hAll⟩

/-- A reference that begins with an inert character is read in place of the
last segment. -/
theorem readRelative_of_inert (u : Url) {c : Char} (h : IsInert c) (rest : List Char) :
    readRelative u (c :: rest) =
      .ok (withPath u.scheme u.authority u.segments.dropLast (c :: rest)) := by
  have hTail := h.isPathChar.notTail
  have hSlash : c ≠ '/' ∧ c ≠ '\\' := by
    simpa [isSeparator] using h.notSeparator
  unfold readRelative
  split
  · next hEq => cases hEq
  · next hEq => exact absurd (List.cons.inj hEq).1 hTail.1
  · next hEq => exact absurd (List.cons.inj hEq).1 hTail.2
  · next hEq => exact absurd (List.cons.inj hEq).1 hSlash.1
  · next hEq =>
      obtain ⟨rfl, rfl⟩ := List.cons.inj hEq
      rw [if_neg (by simp [isSlash, hSlash.1, hSlash.2])]

/-- Slashed segments are split into what they are. -/
theorem split_slashed {segments : List (List Char)} (hNe : segments ≠ [])
    (h : ∀ s ∈ segments, IsPlain s) (special : Bool) :
    split special (slashed segments) = segments := by
  apply Text.splitAt_intercalate (by simp [isSeparator]) hNe
  intro s hs c hc
  have hSeparator := ((h s hs).inert c hc).notSeparator
  cases special with
  | true => exact hSeparator
  | false =>
      simp only [isSeparator, Bool.or_eq_false_iff] at hSeparator ⊢
      exact ⟨hSeparator.1, rfl⟩

/-- Nothing of slashed plain segments is dropped, and they have no scheme. -/
theorem looks_slashed {segments : List (List Char)} (h : ∀ s ∈ segments, IsPlain s)
    {text : String} (hText : text.toList = slashed segments) :
    trimEdges text = slashed segments ∧ takeScheme (slashed segments) = none ∧
      clean (slashed segments) = slashed segments := by
  have hChar : ∀ c ∈ slashed segments, IsPathChar c := fun c => isPathChar_of_mem_slashed h
  refine ⟨?_, ?_, ?_⟩
  · rw [trimEdges_eq_toList, hText]
    rw [hText]
    exact fun c hc => (hChar c hc).notEdge
  · exact takeScheme_eq_none fun hMem => (hChar _ hMem).notColon rfl
  · exact clean_eq_self fun c hc => (hChar c hc).notIgnored

/-- Slashed plain segments begin with an inert character. -/
theorem exists_cons_slashed {segments : List (List Char)} (hNe : segments ≠ [])
    (h : ∀ s ∈ segments, IsPlain s) : ∃ c rest, slashed segments = c :: rest ∧ IsInert c := by
  obtain ⟨segment, more, rfl⟩ := List.exists_cons_of_ne_nil hNe
  have hSegment := h segment (by simp)
  obtain ⟨c, rest, rfl⟩ := List.exists_cons_of_ne_nil hSegment.notEmpty
  refine ⟨c, (slashed ((c :: rest) :: more)).tail, ?_, hSegment.inert c (by simp)⟩
  cases more <;> simp [slashed, List.intercalate_cons_cons]

/-- A reference of plain segments puts them in place of the last segment of
the path. -/
theorem join_plain {u : Url} (hFile : u.scheme ≠ "file") {segments : List (List Char)}
    (hNe : segments ≠ []) (h : ∀ s ∈ segments, IsPlain s) {text : String}
    (hText : text.toList = slashed segments) :
    u.join text = .ok
      { scheme := u.scheme
        authority := u.authority
        path := .segments (u.segments.dropLast ++ segments.map String.ofList) } := by
  obtain ⟨hTrim, hScheme, hClean⟩ := looks_slashed h hText
  obtain ⟨hPath, hTail⟩ := pathPart_eq_self fun c hc => (isPathChar_of_mem_slashed h hc).notTail
  obtain ⟨c, rest, hCons, hInert⟩ := exists_cons_slashed hNe h
  have hExtend : extend u.scheme u.segments.dropLast (slashed segments) =
      u.segments.dropLast ++ segments.map String.ofList := by
    simp only [extend, hFile, decide_false, if_false]
    rw [split_slashed hNe h, resolve_of_plain h]
  unfold join
  simp only [hTrim, hScheme, if_neg hFile, hClean]
  rw [hCons, readRelative_of_inert u hInert, ← hCons, withPath, hPath, hTail, hExtend]
  rfl

/-- A reference of plain segments keeps scheme and authority of a URL of the
web, and is written behind the last slash of its path. -/
theorem exists_join_plain {u : Url} (hHttp : isHttpScheme u.scheme = true) {list : List String}
    (hPath : u.path = .segments list) (hList : list ≠ [] ∧ HasNoSlash list)
    {segments : List (List Char)} (hNe : segments ≠ []) (h : ∀ s ∈ segments, IsPlain s)
    {text : String} (hText : text.toList = slashed segments) :
    ∃ v, u.join text = .ok v ∧ v.scheme = u.scheme ∧ v.authority = u.authority ∧
      v.query = none ∧ v.fragment = none ∧ v.path.text = upToLastSlash u.path.text ++ text := by
  have hFile : u.scheme ≠ "file" := by
    intro hEq
    rw [hEq] at hHttp
    exact absurd hHttp (by decide)
  have hSegments : u.segments = list := by
    rw [Url.segments, hPath]
  refine ⟨_, join_plain hFile hNe h hText, rfl, rfl, rfl, rfl, ?_⟩
  have hWritten : "/".intercalate (segments.map String.ofList) = text := by
    rw [← String.toList_inj, String.toList_intercalate, hText, List.map_map]
    simp [slashed, Function.comp_def]
  rw [Path.text_append _ (by simpa using hNe), hWritten, hSegments, hPath,
    Path.upToLastSlash_text hList.1 hList.2]

end NewsAnalytics.Url
