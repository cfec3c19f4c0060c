import NewsAnalytics.Proofs.Url.Reader

/-!
# What a reference leaves to its base

A reference that is read with the scheme of its base and begins with fewer
than two slashes keeps the authority of the base. Any other reference has
an authority of its own, and then the base does not matter beyond its
scheme: the reference is read as a URL that stands alone.

The statements are about references that lead to a URL of the web. A
reference to a file keeps its host in some more cases, and one of a scheme
that is not special loses it.

## Main results

* `join_cases` — what a reference to the web leads to.
-/

namespace NewsAnalytics.Url

/-! ## References -/

/-- The scheme that a reference is read with, its own or else that of its
base, and the text behind it. -/
def referenceScheme (scheme : String) (s : String) : String × List Char :=
  (takeScheme (trimEdges s)).getD (scheme, trimEdges s)

/-- The number of slashes of either kind that the text begins with. -/
def leadingSlashes (cs : List Char) : Nat := (cs.takeWhile isSlash).length

/-- The reference has no authority of its own beside a base of this scheme. -/
def leavesAuthority (scheme : String) (s : String) : Bool :=
  let (own, cs) := referenceScheme scheme s
  own = scheme && leadingSlashes (clean cs) < 2

/-- The reference as a URL that stands alone, behind the scheme of its base
if it has none of its own. -/
def alone (scheme : String) (s : String) : Except Error Url :=
  let (own, cs) := referenceScheme scheme s
  readScheme none own cs

/-! ## Schemes -/

theorem isSpecialScheme_of_isHttpScheme {scheme : String} (h : isHttpScheme scheme = true) :
    isSpecialScheme scheme = true ∧ scheme ≠ "file" := by
  have hScheme : scheme = "http" ∨ scheme = "https" := by simpa [isHttpScheme] using h
  rcases hScheme with rfl | rfl <;> decide

/-- A file beside a file is a file. -/
theorem scheme_readFileBeside {base : Url} (hBase : base.scheme = "file") (cs : List Char) :
    (readFileBeside base cs).scheme = "file" := by
  unfold readFileBeside
  split
  · exact hBase
  · exact hBase
  · exact hBase
  · split
    · rfl
    · exact hBase

theorem scheme_readFileRoot (base : Option Url) (cs : List Char) :
    (readFileRoot base cs).scheme = "file" := by
  unfold readFileRoot
  split
  · rfl
  · split
    · rfl
    · split <;> rfl

theorem scheme_readFile {base : Option Url} (hBase : ∀ b, base = some b → b.scheme = "file")
    {text : List Char} {u : Url} (h : readFile base text = .ok u) : u.scheme = "file" := by
  unfold readFile at h
  dsimp only at h
  split at h
  · split at h
    · exact (isRead_readFileHost h).scheme_eq
    · obtain rfl := Except.ok.inj h
      exact scheme_readFileRoot base _
  · split at h
    · obtain rfl := Except.ok.inj h
      rfl
    · next b =>
        obtain rfl := Except.ok.inj h
        exact scheme_readFileBeside (hBase b rfl) _

/-! ## Slashes -/

theorem leadingSlashes_cons {c : Char} (hc : isSlash c = true) (cs : List Char) :
    leadingSlashes (c :: cs) = leadingSlashes cs + 1 := by
  simp [leadingSlashes, hc]

theorem leadingSlashes_pos_iff {cs : List Char} :
    0 < leadingSlashes cs ↔ startsWithSlash cs = true := by
  cases cs with
  | nil => simp [leadingSlashes, startsWithSlash]
  | cons c rest => by_cases hc : isSlash c = true <;> simp [leadingSlashes, startsWithSlash, hc]

/-- An authority of the web does not begin with a slash. -/
theorem startsWithSlash_of_readAuthority {scheme : String}
    (hSpecial : isSpecialScheme scheme = true) {cs : List Char} {u : Url}
    (h : readAuthority scheme cs = .ok u) : startsWithSlash cs = false := by
  cases cs with
  | nil => rfl
  | cons c rest =>
      by_contra hSlash
      have hEnds : endsAuthority true c = true := by
        simp only [startsWithSlash, isSlash, Bool.not_eq_false, Bool.or_eq_true,
          decide_eq_true_eq] at hSlash
        rcases hSlash with rfl | rfl <;> decide
      have hUser : takeUser true (c :: rest) = .ok (("", none), c :: rest) := by
        simp [takeUser, hEnds, cutAtLast]
      have hHost : readHost true (c :: rest) = .error .emptyHost := by
        simp [readHost, takeHost, hEnds]
        rfl
      unfold readAuthority at h
      rw [hSpecial] at h
      obtain ⟨⟨⟨user, password⟩, behindUser⟩, hTake, h⟩ := bind_eq_ok_iff.1 h
      obtain ⟨⟨host, behindHost⟩, hRead, -⟩ := bind_eq_ok_iff.1 h
      obtain ⟨-, rfl⟩ := Prod.mk.inj (Except.ok.inj (hUser.symm.trans hTake))
      cases hHost.symm.trans hRead

/-! ## References without scheme -/

/-- A reference without scheme has that of its base. -/
theorem scheme_readRelative {base v : Url} {cs : List Char} (h : readRelative base cs = .ok v) :
    v.scheme = base.scheme := by
  unfold readRelative at h
  split at h
  · obtain rfl := Except.ok.inj h
    rfl
  · obtain rfl := Except.ok.inj h
    rfl
  · obtain rfl := Except.ok.inj h
    rfl
  · exact (isRead_readAuthority h).scheme_eq
  · split at h
    · split at h
      · exact (isRead_readAuthority h).scheme_eq
      · obtain rfl := Except.ok.inj h
        rfl
    · obtain rfl := Except.ok.inj h
      rfl

/-- Fewer than two slashes leave the authority to the base. -/
theorem authority_readRelative {base v : Url} {cs : List Char}
    (hSlashes : leadingSlashes cs < 2) (h : readRelative base cs = .ok v) :
    v.authority = base.authority := by
  unfold readRelative at h
  split at h
  · obtain rfl := Except.ok.inj h
    rfl
  · obtain rfl := Except.ok.inj h
    rfl
  · obtain rfl := Except.ok.inj h
    rfl
  · rw [leadingSlashes_cons (by decide), leadingSlashes_cons (by decide)] at hSlashes
    omega
  · next c rest _ _ _ =>
      split at h
      · next hc =>
          split at h
          · next hRest =>
              rw [leadingSlashes_cons hc] at hSlashes
              have hPos := leadingSlashes_pos_iff.2 hRest
              omega
          · obtain rfl := Except.ok.inj h
            rfl
      · obtain rfl := Except.ok.inj h
        rfl

theorem dropWhile_isSlash_of_not_startsWithSlash {cs : List Char}
    (h : startsWithSlash cs = false) : cs.dropWhile isSlash = cs := by
  cases cs with
  | nil => rfl
  | cons c rest => exact List.dropWhile_cons_of_neg (by simpa [startsWithSlash] using h)

/-- Behind two slashes or more, an authority of the web is read. -/
theorem readRelative_of_two_le_leadingSlashes {base v : Url}
    (hSpecial : isSpecialScheme base.scheme = true) {cs : List Char}
    (hSlashes : 2 ≤ leadingSlashes cs) (h : readRelative base cs = .ok v) :
    readAuthority base.scheme (cs.dropWhile isSlash) = .ok v := by
  unfold readRelative at h
  split at h
  · cases hSlashes
  · cases hSlashes
  · cases hSlashes
  · next rest =>
      have hSlash : isSlash '/' = true := by decide
      rw [List.dropWhile_cons_of_pos hSlash, List.dropWhile_cons_of_pos hSlash,
        dropWhile_isSlash_of_not_startsWithSlash (startsWithSlash_of_readAuthority hSpecial h)]
      exact h
  · next c rest _ _ _ =>
      split at h
      · next hc =>
          rw [leadingSlashes_cons hc] at hSlashes
          rw [if_pos (leadingSlashes_pos_iff.1 (by omega : 0 < leadingSlashes rest))] at h
          rw [List.dropWhile_cons_of_pos hc]
          exact h
      · next hc => simp [leadingSlashes, hc] at hSlashes

/-! ## References -/

theorem readScheme_none_of_special {scheme : String} (hFile : scheme ≠ "file")
    (hSpecial : isSpecialScheme scheme = true) (cs : List Char) :
    readScheme none scheme cs = readAuthority scheme ((clean cs).dropWhile isSlash) := by
  rw [readScheme, if_neg hFile, if_pos hSpecial]
  rfl

/-- A reference that leads to the web keeps the authority of its base if it
has none of its own, and otherwise is what it says alone. -/
theorem join_cases {base v : Url} {s : String} (h : base.join s = .ok v)
    (hHttp : isHttpScheme v.scheme = true) :
    (leavesAuthority base.scheme s = true ∧
      v.scheme = base.scheme ∧ v.authority = base.authority) ∨
    (leavesAuthority base.scheme s = false ∧ alone base.scheme s = .ok v) := by
  have hNotFile : v.scheme ≠ "file" := fun hFile => by
    rw [hFile] at hHttp
    exact absurd hHttp (by decide)
  unfold join at h
  dsimp only at h
  unfold leavesAuthority alone referenceScheme
  cases hTake : takeScheme (trimEdges s) with
  | some found =>
      obtain ⟨own, rest⟩ := found
      simp only [hTake] at h
      simp only [Option.getD_some]
      by_cases hFile : own = "file"
      · rw [readScheme, if_pos hFile] at h
        exact absurd (scheme_readFile (by simp [Option.filter_eq_some_iff]) h) hNotFile
      · by_cases hSpecial : isSpecialScheme own = true
        · rw [readScheme_none_of_special hFile hSpecial]
          rw [readScheme, if_neg hFile, if_pos hSpecial] at h
          by_cases hRelative : own = base.scheme ∧ leadingSlashes (clean rest) < 2
          · obtain ⟨rfl, hSlashes⟩ := hRelative
            rw [readWeb, if_pos (by simpa [leadingSlashes] using hSlashes)] at h
            exact .inl ⟨by simp [hSlashes], scheme_readRelative h,
              authority_readRelative hSlashes h⟩
          · have hOwn : ¬ (leadingSlashes (clean rest) < 2 ∧ base.scheme = own) :=
              fun ⟨hSlashes, hScheme⟩ => hRelative ⟨hScheme.symm, hSlashes⟩
            rw [readWeb, if_neg (by simpa [leadingSlashes] using hOwn)] at h
            exact .inr ⟨by simpa using hRelative, h⟩
        · rw [readScheme, if_neg hFile, if_neg hSpecial] at h
          rw [(isRead_readOther hSpecial h).scheme_eq] at hHttp
          exact absurd (isSpecialScheme_of_isHttpScheme hHttp).1 hSpecial
  | none =>
      simp only [hTake] at h
      simp only [Option.getD_none]
      by_cases hFile : base.scheme = "file"
      · rw [if_pos hFile] at h
        exact absurd (scheme_readFile (fun b hb => Option.some.inj hb ▸ hFile) h) hNotFile
      · rw [if_neg hFile] at h
        by_cases hSlashes : leadingSlashes (clean (trimEdges s)) < 2
        · exact .inl ⟨by simp [hSlashes], scheme_readRelative h,
            authority_readRelative hSlashes h⟩
        · have hSpecial : isSpecialScheme base.scheme = true := by
            rw [scheme_readRelative h] at hHttp
            exact (isSpecialScheme_of_isHttpScheme hHttp).1
          rw [readScheme_none_of_special hFile hSpecial]
          exact .inr ⟨by simpa using hSlashes,
            readRelative_of_two_le_leadingSlashes hSpecial (by omega) h⟩

end NewsAnalytics.Url
