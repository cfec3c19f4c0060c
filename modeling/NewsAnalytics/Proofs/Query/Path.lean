import NewsAnalytics.Proofs.Client.Ending
import NewsAnalytics.Proofs.Client.Reachable
import NewsAnalytics.Proofs.Query.Required
import NewsAnalytics.Proofs.Request.Segment
import NewsAnalytics.Proofs.Url.Reader

/-!
# Paths of queries

The path of an accepted query consists of plain segments: fixed words,
accepted names and a number. Hence it is resolved verbatim beneath any base
URL of the web. No name can leave the base, reach another server or begin
a query or a fragment, and the path of a query is never refused.

## Main results

* `Query.isPlain_path` — the path of a query is slashed plain segments.
* `join_path_verbatim` — it is resolved verbatim beneath the base.
-/

namespace NewsAnalytics

open Url Url.Segments

/-! ## Segments -/

/-- The text is plain segments with slashes between them. -/
def IsPlainPath (path : String) : Prop :=
  ∃ segments, segments ≠ [] ∧ (∀ s ∈ segments, IsPlain s) ∧ path.toList = slashed segments

theorem isPlainPath_intercalate {list : List String} (hNe : list ≠ [])
    (h : ∀ s ∈ list, IsPlain s.toList) : IsPlainPath ("/".intercalate list) := by
  refine ⟨list.map String.toList, by simpa using hNe, ?_, ?_⟩
  · intro s hs
    obtain ⟨t, ht, rfl⟩ := List.mem_map.1 hs
    exact h t ht
  · rw [String.toList_intercalate]
    rfl

/-- A path of one fixed word. -/
theorem isPlainPath_word {word : String} (hNe : word ≠ "")
    (h : word.toList.all Char.isAlphanum = true) : IsPlainPath word := by
  have hPlain : IsPlain word.toList :=
    Request.isPlain_of_alphanum (by simpa using hNe) (List.all_eq_true.1 h)
  refine ⟨[word.toList], by simp, ?_, ?_⟩
  · intro s hs
    rwa [List.mem_singleton.1 hs]
  · rw [slashed, List.intercalate_singleton]

/-- The segments of a subject are plain. -/
theorem Listing.Subject.isPlain_segments {subject : Listing.Subject} {list : List String}
    (h : subject.segments = .ok list) : list ≠ [] ∧ ∀ s ∈ list, IsPlain s.toList := by
  have hWord : ∀ word ∈ ["region", "publisher", "local", "search"], IsPlain word.toList := by
    intro word hMem
    have hAll : ∀ word ∈ ["region", "publisher", "local", "search"],
        word.toList ≠ [] ∧ word.toList.all Char.isAlphanum = true := by decide
    exact Request.isPlain_of_alphanum (hAll word hMem).1 (List.all_eq_true.1 (hAll word hMem).2)
  cases subject with
  | region name kind period =>
      obtain ⟨nameSegment, hName, h⟩ := bind_eq_ok_iff.1 h
      obtain ⟨kindSegment, hKind, h⟩ := bind_eq_ok_iff.1 h
      obtain rfl := pure_eq_ok_iff.1 h
      simp only [List.forall_mem_cons]
      exact ⟨by simp, hWord _ (by simp), Request.isPlain_of_segment hName,
        Request.isPlain_of_segment hKind, Request.isPlain_toString _, by simp⟩
  | publisher name period =>
      obtain ⟨nameSegment, hName, h⟩ := bind_eq_ok_iff.1 h
      obtain rfl := pure_eq_ok_iff.1 h
      simp only [List.forall_mem_cons]
      exact ⟨by simp, hWord _ (by simp), Request.isPlain_of_segment hName,
        Request.isPlain_toString _, by simp⟩
  | city name period =>
      obtain ⟨nameSegment, hName, h⟩ := bind_eq_ok_iff.1 h
      obtain rfl := pure_eq_ok_iff.1 h
      simp only [List.forall_mem_cons]
      exact ⟨by simp, hWord _ (by simp), Request.isPlain_of_segment hName,
        Request.isPlain_toString _, by simp⟩
  | search text =>
      obtain rfl := Except.ok.inj h
      simp only [List.forall_mem_cons]
      exact ⟨by simp, hWord _ (by simp), by simp⟩

/-! ## Queries -/

/-- The path of a query is slashed plain segments. -/
theorem Query.isPlain_path {q : Query} {r : Request} (h : q.toRequest = .ok r) :
    IsPlainPath r.path := by
  cases q with
  | listing l =>
      obtain ⟨list, hSegments, hRequest⟩ := bind_eq_ok_iff.1 h
      obtain rfl := pure_eq_ok_iff.1 hRequest
      obtain ⟨hNe, hPlain⟩ := Listing.Subject.isPlain_segments hSegments
      exact isPlainPath_intercalate hNe hPlain
  | articles q =>
      obtain ⟨filters, -, rfl⟩ := ArticlesQuery.toRequest_eq_ok_iff.1 h
      have hWord : IsPlainPath "articles" := isPlainPath_word (by decide) (by decide)
      exact hWord
  | stats q =>
      obtain ⟨-, filters, -, rfl⟩ := StatsQuery.toRequest_eq_ok_iff.1 h
      have hWord : IsPlainPath "stats" := isPlainPath_word (by decide) (by decide)
      exact hWord

/-! ## Beneath the base -/

/-- A plain path is resolved verbatim beneath the base URL of a client. -/
theorem Client.Reachable.join_plainPath {c : Client} (hReach : c.Reachable)
    (hHttp : isHttpScheme c.baseUrl.scheme = true) {path : String} (h : IsPlainPath path) :
    ∃ v, c.baseUrl.join path = .ok v ∧ v.scheme = c.baseUrl.scheme ∧
      v.authority = c.baseUrl.authority ∧ v.query = none ∧ v.fragment = none ∧
      v.path.text = upToLastSlash c.baseUrl.path.text ++ path := by
  obtain ⟨segments, hNe, hPlain, hText⟩ := h
  obtain ⟨hParse, -⟩ := Settings.url_eq_ok_iff.1 hReach.url_settings
  obtain ⟨list, hPath, hList⟩ := path_of_parse hParse hHttp
  exact exists_join_plain hHttp hPath hList hNe hPlain hText

/-- The path of an accepted query is resolved verbatim beneath a base URL of
the web, and a dispatch never refuses it. -/
theorem join_path_verbatim {c : Client} (hReach : c.Reachable)
    (hHttp : isHttpScheme c.baseUrl.scheme = true) {q : Query} {r : Request}
    (hRequest : q.toRequest = .ok r) :
    (∃ v, c.baseUrl.join r.path = .ok v ∧ v.scheme = c.baseUrl.scheme ∧
      v.authority = c.baseUrl.authority ∧ v.query = none ∧ v.fragment = none ∧
      v.path.text = upToLastSlash c.baseUrl.path.text ++ r.path) ∧
    ∀ network path cause,
      (c.dispatch r network).result ≠ .error (.validation (.invalidPath path cause)) := by
  obtain ⟨v, hJoin, hParts⟩ := hReach.join_plainPath hHttp (Query.isPlain_path hRequest)
  refine ⟨⟨v, hJoin, hParts⟩, ?_⟩
  intro network path cause
  exact Ending.result_ne_validation hJoin _

/-- A name that holds a slash and dots stays one segment beneath the base. -/
theorem join_path_verbatim_city :
    ∃ (c : Client) (r : Request) (v : Url), Client.new "key" = .ok c ∧
      (Query.listing ⟨.city "São Paulo/.." 24, {}⟩).toRequest = .ok r ∧
      r.path = "local/S%C3%A3o+Paulo%2F../24" ∧ c.baseUrl.join r.path = .ok v ∧
      v.path.text = "/v1/" ++ r.path := by
  have hNew : Client.new "key" = .ok
      { key := "key"
        settings := {}
        baseUrl := ⟨"https", some { host := .name "api.newswhip.com" }, .segments ["v1", ""],
          none, none⟩ } := rfl
  have hPath : "/".intercalate ["local", Text.FormEncoding.encode "São Paulo/..",
      toString (UInt32.toNat 24)] = "local/S%C3%A3o+Paulo%2F../24" := by decide +kernel
  have hBase : upToLastSlash (Path.segments ["v1", ""]).text = "/v1/" := by decide +kernel
  obtain ⟨⟨v, hJoin, -, -, -, -, hText⟩, -⟩ := join_path_verbatim (.new hNew) (by decide)
    (q := .listing ⟨.city "São Paulo/.." 24, {}⟩) rfl
  exact ⟨_, _, v, hNew, rfl, hPath, hJoin, hText.trans (congrArg (· ++ _) hBase)⟩

end NewsAnalytics
