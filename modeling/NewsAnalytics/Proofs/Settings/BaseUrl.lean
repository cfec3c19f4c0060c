import NewsAnalytics.Proofs.Client.Reachable
import NewsAnalytics.Proofs.Query.Path
import NewsAnalytics.Proofs.Url.Ending

/-!
# Paths beneath a base URL

Settings end the text of a base URL with a slash, so that relative paths
resolve beneath it. The slash goes to the end of the text. Where the text
has a query or a fragment, that is not the end of the path: the slash
becomes a part of the query or the fragment, and a relative path replaces
the last segment of a path without slash.

## Main results

* `Settings.takesBeneath_iff` — when relative paths resolve beneath the base
  URL.
* `Settings.not_takesBeneath_of_query` — a base URL with a query that they do
  not resolve beneath.
-/

namespace NewsAnalytics

open Url Url.Segments Text

/-! ## Relative paths -/

/-- Written segments with slashes between them: letters, digits, the marks
`-._*+` and escapes, and none of the segments dots. -/
def IsWrittenPath (path : String) : Prop :=
  ∃ segments : List String, segments ≠ [] ∧ path = "/".intercalate segments ∧
    ∀ s ∈ segments, s ≠ "" ∧ s.toList.all FormEncoding.isWritten = true ∧
      isSingleDot s.toList = false ∧ isDoubleDot s.toList = false

theorem IsWrittenPath.isPlainPath {path : String} (h : IsWrittenPath path) : IsPlainPath path := by
  obtain ⟨segments, hNe, rfl, hSegments⟩ := h
  refine isPlainPath_intercalate hNe ?_
  intro s hs
  obtain ⟨hEmpty, hWritten, hSingle, hDouble⟩ := hSegments s hs
  have hInert : ∀ c ∈ s.toList, IsInert c := fun c hc =>
    Request.isInert_of_isWritten (List.all_eq_true.1 hWritten c hc)
  exact ⟨by simpa using hEmpty, hInert, hSingle, hDouble⟩

/-! ## Slashes at the end -/

/-- The text ends with a slash. -/
def EndsWithSlash (s : String) : Prop := s.toList.getLast? = some '/'

instance (s : String) : Decidable (EndsWithSlash s) :=
  inferInstanceAs (Decidable (s.toList.getLast? = some '/'))

/-- Nothing stands behind the last slash iff the text ends with it. -/
theorem upToLastSlash_eq_self_iff {s : String} (hNe : s ≠ "") :
    upToLastSlash s = s ↔ EndsWithSlash s := by
  obtain ⟨before, c, hText⟩ :=
    (List.eq_nil_or_concat' s.toList).resolve_left (by simpa using hNe)
  rw [EndsWithSlash, upToLastSlash, ← String.toList_inj, String.toList_ofList, hText,
    List.getLast?_concat, List.reverse_append, List.reverse_singleton, List.singleton_append]
  by_cases hc : c = '/'
  · simp [hc]
  · have hShort : (before.reverse.dropWhile (· ≠ '/')).length ≤ before.length := by
      simpa using (List.dropWhile_sublist (· ≠ '/') (l := before.reverse)).length_le
    have hLonger : (before.reverse.dropWhile (· ≠ '/')).reverse ≠ before ++ [c] := by
      intro hSame
      have hLength := congrArg List.length hSame
      rw [List.length_reverse, List.length_append, List.length_singleton] at hLength
      omega
    rw [List.dropWhile_cons_of_pos (by simpa using hc)]
    simp only [Option.some.injEq, hc, iff_false]
    exact hLonger

theorem endsWithSlash_concat_empty (list : List String) :
    EndsWithSlash (Path.segments (list ++ [""])).text := by
  rw [Path.text_append list (List.cons_ne_nil "" [])]
  simp [EndsWithSlash]

theorem text_segments_ne_empty {list : List String} (hNe : list ≠ []) :
    (Path.segments list).text ≠ "" := by
  have hText := Path.text_append [] hNe
  rw [List.nil_append] at hText
  have hSlash : "/".length = 1 := by decide
  intro hEmpty
  rw [hEmpty] at hText
  have hLength := congrArg String.length hText
  simp only [String.length_append, hSlash, String.length_empty] at hLength
  omega

/-! ## Base URLs -/

namespace Settings

variable {s : Settings} {u : Url}

/-- The settings end the text of the base URL with a slash. -/
theorem exists_withSlash (raw : String) :
    ∃ before, (withSlash raw).toList = before ++ ['/'] ∧
      (withSlash raw = raw ∨ raw.toList = before) := by
  unfold withSlash
  by_cases hEnds : raw.toList.getLast? = some '/'
  · rw [if_pos hEnds]
    obtain ⟨before, hText⟩ := List.getLast?_eq_some_iff.1 hEnds
    exact ⟨before, hText, .inl rfl⟩
  · rw [if_neg hEnds]
    exact ⟨raw.toList, by simp, .inr rfl⟩

/-- If there is a mark in the text as given, the path is already in it. -/
theorem exists_parse_of_mark (h : s.url = .ok u) (hHttp : isHttpScheme u.scheme = true)
    (hMark : ¬ HasNoMark s.rawUrl.toList) : ∃ v, Url.parse s.rawUrl = .ok v ∧ v.path = u.path := by
  obtain ⟨hParse, -⟩ := url_eq_ok_iff.1 h
  obtain ⟨before, hSlash, hSame | hRaw⟩ := exists_withSlash s.rawUrl
  · rw [hSame] at hParse
    exact ⟨u, hParse, rfl⟩
  · subst hRaw
    obtain ⟨head, m, tail, hText, hHead, hm⟩ := exists_first_mark hMark
    rw [hText, List.append_assoc, List.cons_append] at hSlash
    obtain ⟨v, hRead, -, -, hPath⟩ := path_of_mark hm hHead hSlash hText hParse hHttp
    exact ⟨v, hRead, hPath⟩

/-- If there is no mark in the text, the path ends with a slash. -/
theorem endsWithSlash_of_hasNoMark (h : s.url = .ok u) (hHttp : isHttpScheme u.scheme = true)
    (hNoMark : HasNoMark s.rawUrl.toList) : EndsWithSlash u.path.text := by
  obtain ⟨hParse, -⟩ := url_eq_ok_iff.1 h
  obtain ⟨before, hSlash, hRaw⟩ := exists_withSlash s.rawUrl
  have hBefore : HasNoMark before := by
    refine hNoMark.mono fun c hc => ?_
    rcases hRaw with hSame | hRaw
    · rw [hSame] at hSlash
      rw [hSlash]
      exact List.mem_append_left ['/'] hc
    · rwa [hRaw]
  obtain ⟨list, hPath⟩ := path_of_slash hBefore hSlash hParse hHttp
  rw [hPath]
  exact endsWithSlash_concat_empty list

/-- The path of a URL ends with a slash, and relative paths are resolved
beneath it, on the same server. -/
def TakesBeneath (u : Url) : Prop :=
  EndsWithSlash u.path.text ∧ ∀ path, IsWrittenPath path →
    ∃ v, u.join path = .ok v ∧ v.scheme = u.scheme ∧ v.authority = u.authority ∧
      v.path.text = u.path.text ++ path

/-- The slash at the end of its path is all that a base URL needs. -/
theorem takesBeneath_of_endsWithSlash (h : s.url = .ok u) (hHttp : isHttpScheme u.scheme = true)
    (hEnds : EndsWithSlash u.path.text) : TakesBeneath u := by
  obtain ⟨hParse, -⟩ := url_eq_ok_iff.1 h
  obtain ⟨list, hPath, hList⟩ := path_of_parse hParse hHttp
  have hNe : u.path.text ≠ "" := by
    rw [hPath]
    exact text_segments_ne_empty hList.1
  refine ⟨hEnds, ?_⟩
  intro path hWritten
  obtain ⟨segments, hSegments, hPlain, hText⟩ := hWritten.isPlainPath
  obtain ⟨v, hJoin, hScheme, hAuthority, -, -, hJoined⟩ :=
    exists_join_plain hHttp hPath hList hSegments hPlain hText
  rw [(upToLastSlash_eq_self_iff hNe).2 hEnds] at hJoined
  exact ⟨v, hJoin, hScheme, hAuthority, hJoined⟩

/-- A base URL of the web takes relative paths beneath its path iff there is
neither a question mark nor a number sign in the text as given, or the path
in that text ends with a slash by itself. -/
theorem takesBeneath_iff (h : s.url = .ok u) (hHttp : isHttpScheme u.scheme = true) :
    TakesBeneath u ↔
      HasNoMark s.rawUrl.toList ∨ ∃ v, Url.parse s.rawUrl = .ok v ∧ EndsWithSlash v.path.text := by
  constructor
  · rintro ⟨hEnds, -⟩
    by_cases hNoMark : HasNoMark s.rawUrl.toList
    · exact .inl hNoMark
    · obtain ⟨v, hParse, hPath⟩ := exists_parse_of_mark h hHttp hNoMark
      exact .inr ⟨v, hParse, hPath ▸ hEnds⟩
  · intro hText
    apply takesBeneath_of_endsWithSlash h hHttp
    by_cases hNoMark : HasNoMark s.rawUrl.toList
    · exact endsWithSlash_of_hasNoMark h hHttp hNoMark
    · obtain ⟨v, hParse, hEnds⟩ := hText.resolve_left hNoMark
      obtain ⟨w, hSame, hPath⟩ := exists_parse_of_mark h hHttp hNoMark
      obtain rfl := Except.ok.inj (hParse.symm.trans hSame)
      exact hPath ▸ hEnds

/-- A text with a fragment behind a path that ends with a slash. -/
theorem takesBeneath_iff_fragment :
    ∃ u v, (({} : Settings).withBaseUrl "https://a.test:8443/v1/#top").url = .ok u ∧
      isHttpScheme u.scheme = true ∧ u.join "region/S%C3%A3o+Paulo" = .ok v ∧
      v.authority = some { host := .name "a.test", port := some 8443 } ∧
      v.path.text = "/v1/region/S%C3%A3o+Paulo" := by
  let s : Settings := ({} : Settings).withBaseUrl "https://a.test:8443/v1/#top"
  let u : Url := ⟨"https", some { host := .name "a.test", port := some 8443 },
    .segments ["v1", ""], none, some "top/"⟩
  have hUrl : s.url = .ok u := url_eq_ok_iff.2 ⟨by decide +kernel, rfl⟩
  have hParse : Url.parse s.rawUrl = .ok { u with fragment := some "top" } := by decide +kernel
  have hEnds : EndsWithSlash u.path.text := by decide +kernel
  have hPath : IsWrittenPath "region/S%C3%A3o+Paulo" :=
    ⟨["region", "S%C3%A3o+Paulo"], by decide, by decide +kernel, by decide +kernel⟩
  obtain ⟨-, hBeneath⟩ := (takesBeneath_iff hUrl (by decide)).2 (.inr ⟨_, hParse, hEnds⟩)
  obtain ⟨v, hJoin, -, hAuthority, hText⟩ := hBeneath _ hPath
  exact ⟨u, v, hUrl, by decide, hJoin, hAuthority, hText.trans (by decide +kernel)⟩

/-- Behind a query the slash does not end the path, and a relative path
replaces its last segment. -/
theorem not_takesBeneath_of_query :
    ∃ u v, (({} : Settings).withBaseUrl "http://a.test/v1?x=1").url = .ok u ∧
      isHttpScheme u.scheme = true ∧ u.path.text = "/v1" ∧ u.query = some "x=1/" ∧
      IsWrittenPath "region" ∧ u.join "region" = .ok v ∧ v.path.text = "/region" ∧
      ¬ TakesBeneath u := by
  let u : Url := ⟨"http", some { host := .name "a.test" }, .segments ["v1"], some "x=1/", none⟩
  have hUrl : (({} : Settings).withBaseUrl "http://a.test/v1?x=1").url = .ok u := rfl
  have hJoin : u.join "region" = .ok
      ⟨"http", some { host := .name "a.test" }, .segments ["region"], none, none⟩ := by
    decide +kernel
  have hPath : IsWrittenPath "region" := ⟨["region"], by decide, by decide, by decide +kernel⟩
  have hNot : ¬ EndsWithSlash u.path.text := by decide +kernel
  exact ⟨u, _, hUrl, by decide, by decide +kernel, rfl, hPath, hJoin, by decide +kernel,
    fun h => hNot h.1⟩

end Settings

end NewsAnalytics
