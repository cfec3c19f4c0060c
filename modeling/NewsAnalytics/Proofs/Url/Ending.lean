import NewsAnalytics.Proofs.Url.Authority
import NewsAnalytics.Proofs.Url.Reference

/-!
# How a path ends

The path of a URL of the web ends where the text ends, or at the first
question mark or number sign. So what is written behind such a mark does
not touch the path, and a slash at the end of the text ends the path only
if there is no such mark.

## Main results

* `path_of_mark` — behind a mark, the path stays as it is.
* `path_of_slash` — a slash behind a text without marks ends the path.
-/

namespace NewsAnalytics.Url

open Segments

/-! ## Cutting a text -/

theorem dropWhile_append_cons {α : Type} {p : α → Bool} {m : α} (hm : p m = false)
    (before behind : List α) :
    (before ++ m :: behind).dropWhile p = before.dropWhile p ++ m :: behind := by
  rw [List.dropWhile_append, List.dropWhile_cons_of_neg (by simp [hm])]
  split
  · next hEmpty => rw [List.isEmpty_iff.1 hEmpty, List.nil_append]
  · rfl

theorem takeWhile_append_cons {α : Type} {p : α → Bool} {m : α} (hm : p m = false)
    (before behind : List α) :
    (before ++ m :: behind).takeWhile p = before.takeWhile p := by
  induction before with
  | nil => simp [hm]
  | cons c before ih => by_cases hc : p c = true <;> simp [hc, ih]

/-- A text up to the last character that is no edge. -/
def trimEnd (cs : List Char) : List Char := (cs.reverse.dropWhile isEdge).reverse

/-- A character that is no edge divides what is trimmed. -/
theorem trimEdges_cut {m : Char} (hm : isEdge m = false) {s : String} {before behind : List Char}
    (hText : s.toList = before ++ m :: behind) :
    trimEdges s = before.dropWhile isEdge ++ m :: trimEnd behind := by
  rw [trimEdges, hText, dropWhile_append_cons hm, List.reverse_append, List.reverse_cons,
    List.append_assoc, List.singleton_append, dropWhile_append_cons hm]
  simp [trimEnd]

/-- What stands behind a scheme stands in the text. -/
theorem mem_of_takeScheme {cs rest : List Char} {scheme : String}
    (h : takeScheme cs = some (scheme, rest)) {c : Char} (hc : c ∈ rest) : c ∈ cs := by
  unfold takeScheme at h
  dsimp only at h
  split at h
  · next behind hBehind =>
      split at h
      · obtain ⟨-, rfl⟩ := Prod.mk.inj (Option.some.inj h)
        have hMem : c ∈ cs.dropWhile fun d => isSchemeChar d || isIgnored d := by
          rw [hBehind]
          exact List.mem_cons_of_mem ':' hc
        exact (List.dropWhile_sublist _).mem hMem
      · cases h
  · cases h

/-- A scheme ends before a character that it cannot hold. -/
theorem takeScheme_cut {m : Char} (hm : isSchemeChar m = false ∧ isIgnored m = false ∧ m ≠ ':')
    (before behind : List Char) :
    takeScheme (before ++ m :: behind) =
      (takeScheme before).map fun found => (found.1, found.2 ++ m :: behind) := by
  have hOutside : (fun d => isSchemeChar d || isIgnored d) m = false := by
    show (isSchemeChar m || isIgnored m) = false
    rw [hm.1, hm.2.1]
    rfl
  unfold takeScheme
  dsimp only
  rw [dropWhile_append_cons (p := fun d => isSchemeChar d || isIgnored d) hOutside,
    takeWhile_append_cons (p := fun d => isSchemeChar d || isIgnored d) hOutside]
  cases hDrop : before.dropWhile fun d => isSchemeChar d || isIgnored d with
  | nil =>
      rw [List.nil_append]
      split
      · next hColon => exact absurd (List.cons.inj hColon).1 hm.2.2
      · rfl
  | cons c rest =>
      obtain ⟨d, more, rfl⟩ := List.exists_cons_of_ne_nil (l := before) (by rintro rfl; cases hDrop)
      by_cases hColon : c = ':'
      · subst hColon
        have hHead : (d :: more ++ m :: behind).head? = (d :: more).head? := rfl
        rw [hHead]
        show (if _ then _ else none) = Option.map _ (if _ then _ else none)
        by_cases hLetter : (d :: more).head?.any Char.isAlpha = true
        · rw [if_pos hLetter, if_pos hLetter]
          rfl
        · rw [if_neg hLetter, if_neg hLetter]
          rfl
      · rw [List.cons_append]
        split
        · next hEq => exact absurd (List.cons.inj hEq).1 hColon
        · split
          · next hEq => exact absurd (List.cons.inj hEq).1 hColon
          · rfl

/-- What ends an authority is neither trimmed nor passed over, and no scheme
holds it. -/
theorem looks_of_endsAuthority {m : Char} (hm : endsAuthority true m = true) :
    isEdge m = false ∧ isSchemeChar m = false ∧ isIgnored m = false ∧ m ≠ ':' := by
  simp only [endsAuthority, Bool.true_and, Bool.or_eq_true, decide_eq_true_eq] at hm
  rcases hm with ((rfl | rfl) | rfl) | rfl <;> decide

theorem clean_cut {m : Char} (hm : isIgnored m = false) (before behind : List Char) :
    clean (before ++ m :: behind) = clean before ++ m :: clean behind := by
  simp [clean, hm]

/-! ## URLs of the web -/

/-- A URL of the web is an authority behind a scheme and slashes. -/
theorem exists_of_parse {s : String} {u : Url} (h : parse s = .ok u)
    (hHttp : isHttpScheme u.scheme = true) :
    ∃ rest, isSpecialScheme u.scheme = true ∧ u.scheme ≠ "file" ∧
      takeScheme (trimEdges s) = some (u.scheme, rest) ∧
      readAuthority u.scheme ((clean rest).dropWhile isSlash) = .ok u := by
  unfold parse at h
  split at h
  · next scheme rest hTake =>
      obtain rfl := (isRead_of_readScheme h).scheme_eq
      obtain ⟨hSpecial, hFile⟩ := isSpecialScheme_of_isHttpScheme hHttp
      rw [readScheme_none_of_special hFile hSpecial] at h
      exact ⟨rest, hSpecial, hFile, hTake, h⟩
  · cases h

theorem parse_of_takeScheme {s scheme : String} {rest : List Char}
    (hSpecial : isSpecialScheme scheme = true) (hFile : scheme ≠ "file")
    (hTake : takeScheme (trimEdges s) = some (scheme, rest)) :
    parse s = readAuthority scheme ((clean rest).dropWhile isSlash) := by
  rw [parse, hTake]
  exact readScheme_none_of_special hFile hSpecial rest

theorem path_withPath (scheme : String) (authority : Option Authority) (done : List String)
    (cs : List Char) :
    (withPath scheme authority done cs).path = .segments (extend scheme done (pathPart cs)) :=
  rfl

/-! ## Marks -/

/-- Neither a question mark nor a number sign stands in the text. -/
def HasNoMark (cs : List Char) : Prop := ∀ c ∈ cs, c ≠ '?' ∧ c ≠ '#'

theorem HasNoMark.mono {cs ds : List Char} (h : HasNoMark cs) (hSub : ∀ c ∈ ds, c ∈ cs) :
    HasNoMark ds := fun c hc => h c (hSub c hc)

/-- A text with marks has a first one. -/
theorem exists_first_mark {cs : List Char} (h : ¬ HasNoMark cs) :
    ∃ before m behind, cs = before ++ m :: behind ∧ HasNoMark before ∧ (m = '?' ∨ m = '#') := by
  induction cs with
  | nil => exact absurd (fun c hc => absurd hc List.not_mem_nil) h
  | cons c rest ih =>
      by_cases hMark : c = '?' ∨ c = '#'
      · exact ⟨[], c, rest, rfl, fun d hd => absurd hd List.not_mem_nil, hMark⟩
      · have hFirst : c ≠ '?' ∧ c ≠ '#' := not_or.1 hMark
        obtain ⟨before, m, behind, rfl, hBefore, hm⟩ :=
          ih fun hRest => h (List.forall_mem_cons.2 ⟨hFirst, hRest⟩)
        exact ⟨c :: before, m, behind, rfl, List.forall_mem_cons.2 ⟨hFirst, hBefore⟩, hm⟩

theorem pathPart_cut {m : Char} (hm : m = '?' ∨ m = '#') {before : List Char}
    (hBefore : HasNoMark before) (behind : List Char) :
    pathPart (before ++ m :: behind) = before := by
  have hMark : (decide (m ≠ '?') && decide (m ≠ '#')) = false := by
    rcases hm with rfl | rfl <;> decide
  rw [pathPart, takeWhile_append_cons (p := fun c => c ≠ '?' && c ≠ '#') hMark]
  exact (pathPart_eq_self hBefore).1

theorem behindSlash_cut {m : Char} (hm : isSlash m = false) (before behind : List Char) :
    behindSlash (before ++ m :: behind) = behindSlash before ++ m :: behind := by
  cases before with
  | nil => simp [behindSlash, startsWithSlash, hm]
  | cons c before =>
      by_cases hc : isSlash c = true <;> simp [behindSlash, startsWithSlash, hc]

/-- The text before a cut decides on scheme and authority. -/
theorem takeScheme_trimEdges_cut {m : Char} (hm : endsAuthority true m = true) {s : String}
    {before behind : List Char} (hText : s.toList = before ++ m :: behind) :
    takeScheme (trimEdges s) = (takeScheme (before.dropWhile isEdge)).map
      fun found => (found.1, found.2 ++ m :: trimEnd behind) := by
  obtain ⟨hEdge, hScheme⟩ := looks_of_endsAuthority hm
  rw [trimEdges_cut hEdge hText, takeScheme_cut hScheme]

/-- The authority of a text with a cut, the cut, and the text before it. -/
theorem exists_of_parse_cut {m : Char} (hm : endsAuthority true m = true) {s : String}
    {before behind : List Char} (hBefore : HasNoMark before)
    (hText : s.toList = before ++ m :: behind) {u : Url} (h : parse s = .ok u)
    (hHttp : isHttpScheme u.scheme = true) :
    ∃ rest, isSpecialScheme u.scheme = true ∧ u.scheme ≠ "file" ∧ HasNoMark (clean rest) ∧
      takeScheme (before.dropWhile isEdge) = some (u.scheme, rest) ∧
      readAuthority u.scheme ((clean rest ++ m :: clean (trimEnd behind)).dropWhile isSlash) =
        .ok u := by
  obtain ⟨all, hSpecial, hFile, hTake, hRead⟩ := exists_of_parse h hHttp
  rw [takeScheme_trimEdges_cut hm hText] at hTake
  obtain ⟨⟨scheme, rest⟩, hFound, hPair⟩ := Option.map_eq_some_iff.1 hTake
  obtain ⟨rfl, rfl⟩ := Prod.mk.inj hPair
  rw [clean_cut (looks_of_endsAuthority hm).2.2.1] at hRead
  refine ⟨rest, hSpecial, hFile, ?_, hFound, hRead⟩
  exact hBefore.mono fun c hc => (List.dropWhile_sublist _).mem
    (mem_of_takeScheme hFound (List.mem_of_mem_filter hc))

theorem mem_of_mem_behindSlash {cs : List Char} {c : Char} (h : c ∈ behindSlash cs) : c ∈ cs := by
  unfold behindSlash at h
  split at h
  · exact List.mem_of_mem_drop h
  · exact h

/-- The authority in a text behind a scheme, and the path behind it. -/
theorem exists_cut_of_hasNoMark {rest : List Char} (h : HasNoMark rest) :
    ∃ inside cut, rest.dropWhile isSlash = inside ++ cut ∧ IsInside inside ∧
      (cut = [] ∨ IsCut cut) ∧ HasNoMark cut := by
  obtain ⟨inside, cut, hCut, hInside, hBehind⟩ := exists_cut (rest.dropWhile isSlash)
  refine ⟨inside, cut, hCut, hInside, hBehind, h.mono fun c hc => ?_⟩
  exact (List.dropWhile_sublist _).mem (hCut ▸ List.mem_append_right inside hc)

/-- What is written behind a mark does not touch the path. -/
theorem path_of_mark {m : Char} (hm : m = '?' ∨ m = '#') {before behind other : List Char}
    (hBefore : HasNoMark before) {s t : String} (hText : s.toList = before ++ m :: behind)
    (hOther : t.toList = before ++ m :: other) {u : Url} (h : parse s = .ok u)
    (hHttp : isHttpScheme u.scheme = true) :
    ∃ v, parse t = .ok v ∧ v.scheme = u.scheme ∧ v.authority = u.authority ∧ v.path = u.path := by
  have hEnds : endsAuthority true m = true := by
    rcases hm with rfl | rfl <;> decide
  have hSlash : isSlash m = false := by
    rcases hm with rfl | rfl <;> decide
  obtain ⟨rest, hSpecial, hFile, hNoMark, hTake, hRead⟩ :=
    exists_of_parse_cut hEnds hBefore hText h hHttp
  obtain ⟨inside, cut, hCut, hInside, hBehind, hCutNoMark⟩ := exists_cut_of_hasNoMark hNoMark
  -- whatever is behind the mark, the authority and the path are read from the same texts
  have hDrop : ∀ w, (clean rest ++ m :: w).dropWhile isSlash = inside ++ (cut ++ m :: w) := by
    intro w
    rw [dropWhile_append_cons hSlash, hCut, List.append_assoc]
  have hIsCut : ∀ w, IsCut (cut ++ m :: w) := isCut_append_cons hBehind hEnds
  have hPath : ∀ w, pathPart (behindSlash (cut ++ m :: w)) = behindSlash cut := by
    intro w
    rw [behindSlash_cut hSlash]
    exact pathPart_cut hm (hCutNoMark.mono fun c => mem_of_mem_behindSlash) w
  rw [hDrop] at hRead
  obtain ⟨authority, hUrl, hSame⟩ := readAuthority_of_cut hSpecial hInside (hIsCut _) hRead
  have hTakeOther : takeScheme (trimEdges t) = some (u.scheme, rest ++ m :: trimEnd other) := by
    rw [takeScheme_trimEdges_cut hEnds hOther, hTake]
    rfl
  refine ⟨withPath u.scheme (some authority) [] (behindSlash (cut ++ m :: clean (trimEnd other))),
    ?_, rfl, (congrArg Url.authority hUrl).symm, ?_⟩
  · rw [parse_of_takeScheme hSpecial hFile hTakeOther,
      clean_cut (looks_of_endsAuthority hEnds).2.2.1, hDrop, hSame _ (hIsCut _)]
  · rw [congrArg Url.path hUrl, path_withPath, path_withPath, hPath, hPath]

/-- An authority of the web is not empty. -/
theorem readAuthority_nil_ne_ok {scheme : String} (hSpecial : isSpecialScheme scheme = true)
    (u : Url) : readAuthority scheme [] ≠ .ok u := by
  intro h
  unfold readAuthority at h
  rw [hSpecial] at h
  cases h

/-- An empty segment at the end of a text ends the path. -/
theorem resolve_concat_nil (segments : List (List Char)) (done : List String) :
    ∃ list, resolve false done (segments ++ [[]]) = list ++ [""] := by
  induction segments generalizing done with
  | nil => exact ⟨done, rfl⟩
  | cons segment more ih =>
      obtain ⟨list, hList⟩ := ih (add false done segment)
      refine ⟨list, ?_⟩
      rw [List.cons_append, resolve]
      · exact hList
      · simp

/-- A text that is empty or ends with a slash is read to a path that does. -/
theorem extend_slash {scheme : String} (hSpecial : isSpecialScheme scheme = true)
    (hFile : scheme ≠ "file") (before : List Char) :
    (∃ list, extend scheme [] [] = list ++ [""]) ∧
      ∃ list, extend scheme [] (before ++ ['/']) = list ++ [""] := by
  simp only [extend, hFile, decide_false, if_false, hSpecial]
  refine ⟨resolve_concat_nil [] [], ?_⟩
  have hSplit : split true (before ++ ['/']) = split true before ++ [[]] :=
    Text.splitAt_append_mark (by decide) before []
  rw [hSplit]
  exact resolve_concat_nil (split true before) []

/-- A path that is ended by a slash, and has no mark, is read to one that ends
with a slash. -/
theorem extend_pathPart_slash {scheme : String} (hSpecial : isSpecialScheme scheme = true)
    (hFile : scheme ≠ "file") {cut : List Char} (hCut : HasNoMark cut) :
    ∃ list, extend scheme [] (pathPart (behindSlash (cut ++ ['/']))) = list ++ [""] := by
  obtain ⟨hNone, hSome⟩ := extend_slash hSpecial hFile (behindSlash cut)
  have hPart : pathPart (behindSlash (cut ++ ['/'])) = behindSlash (cut ++ ['/']) := by
    refine (pathPart_eq_self fun c hc => ?_).1
    rcases List.mem_append.1 (mem_of_mem_behindSlash hc) with hc | hc
    · exact hCut c hc
    · obtain rfl := List.mem_singleton.1 hc
      decide
  rw [hPart]
  cases cut with
  | nil => exact hNone
  | cons c more =>
      have hBehind : behindSlash (c :: more ++ ['/']) = behindSlash (c :: more) ++ ['/'] := by
        by_cases hc : isSlash c = true <;> simp [behindSlash, startsWithSlash, hc]
      rw [hBehind]
      exact hSome

/-- A slash at the end of a text without marks ends the path. -/
theorem path_of_slash {before : List Char} (hBefore : HasNoMark before) {s : String}
    (hText : s.toList = before ++ ['/']) {u : Url} (h : parse s = .ok u)
    (hHttp : isHttpScheme u.scheme = true) : ∃ list, u.path = .segments (list ++ [""]) := by
  obtain ⟨rest, hSpecial, hFile, hNoMark, -, hRead⟩ :=
    exists_of_parse_cut (by decide) hBefore hText h hHttp
  have hEmpty : clean (trimEnd []) = [] := rfl
  rw [hEmpty, List.dropWhile_append] at hRead
  by_cases hSlashes : ((clean rest).dropWhile isSlash).isEmpty = true
  · -- nothing but slashes stands behind the scheme
    rw [if_pos hSlashes] at hRead
    exact absurd hRead (readAuthority_nil_ne_ok hSpecial u)
  · obtain ⟨inside, cut, hCut, hInside, hBehind, hCutNoMark⟩ := exists_cut_of_hasNoMark hNoMark
    have hIsCut : IsCut (cut ++ ['/']) := isCut_append_cons hBehind (by decide) []
    rw [if_neg hSlashes, hCut, List.append_assoc] at hRead
    obtain ⟨authority, hUrl, -⟩ := readAuthority_of_cut hSpecial hInside hIsCut hRead
    obtain ⟨list, hList⟩ := extend_pathPart_slash hSpecial hFile hCutNoMark
    refine ⟨list, ?_⟩
    rw [congrArg Url.path hUrl, path_withPath, hList]

end NewsAnalytics.Url
