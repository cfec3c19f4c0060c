import Mathlib.Data.List.TakeWhile
import NewsAnalytics.Proofs.Chain
import NewsAnalytics.Url.Reader

/-!
# Where an authority ends

The authority of a URL of the web ends at the first slash, backslash,
question mark or number sign. No step of reading it looks further: the
user, the host and the port are the same whatever stands behind that
character, and so is the answer whether there is an authority at all.

Each reader is followed over a text that is cut there. It leaves a text
that ends at the same cut, and does the same for any other text behind it.

## Main results

* `readAuthority_of_cut` — an authority does not depend on what is behind it.
-/

namespace NewsAnalytics.Url

/-! ## Cuts -/

/-- The authority goes on through the whole text. -/
def IsInside (cs : List Char) : Prop := ∀ c ∈ cs, endsAuthority true c = false

/-- The text begins with the end of an authority. -/
def IsCut (cs : List Char) : Prop := ∃ c rest, cs = c :: rest ∧ endsAuthority true c = true

theorem IsCut.ne_nil {cs : List Char} (h : IsCut cs) : cs ≠ [] := by
  obtain ⟨c, rest, rfl, -⟩ := h
  exact List.cons_ne_nil c rest

/-- Whatever a cut is followed by, it stays a cut. -/
theorem isCut_append_cons {cut : List Char} (h : cut = [] ∨ IsCut cut) {m : Char}
    (hm : endsAuthority true m = true) (rest : List Char) : IsCut (cut ++ m :: rest) := by
  rcases h with rfl | ⟨c, more, rfl, hc⟩
  · exact ⟨m, rest, rfl, hm⟩
  · exact ⟨c, more ++ m :: rest, rfl, hc⟩

/-- A text is cut at its first end of an authority, or has none. -/
theorem exists_cut (cs : List Char) :
    ∃ inside behind, cs = inside ++ behind ∧ IsInside inside ∧ (behind = [] ∨ IsCut behind) := by
  refine ⟨cs.takeWhile (!endsAuthority true ·), cs.dropWhile (!endsAuthority true ·),
    List.takeWhile_append_dropWhile.symm, ?_, ?_⟩
  · intro c hc
    simpa using List.mem_takeWhile_imp hc
  · cases hBehind : cs.dropWhile (!endsAuthority true ·) with
    | nil => exact .inl rfl
    | cons c rest =>
        have hFirst := List.head_dropWhile_not (!endsAuthority true ·) (l := cs) (by simp [hBehind])
        simp only [hBehind, List.head_cons, Bool.not_eq_false'] at hFirst
        exact .inr ⟨c, rest, rfl, hFirst⟩

/-! ## Users -/

theorem takeWhile_of_cut {inside behind : List Char} (hInside : IsInside inside)
    (hBehind : IsCut behind) :
    (inside ++ behind).takeWhile (!endsAuthority true ·) = inside := by
  obtain ⟨c, rest, rfl, hEnds⟩ := hBehind
  rw [List.takeWhile_append_of_pos fun d hd => by simp [hInside d hd]]
  simp [hEnds]

/-- Before and behind the last mark stands the whole text. -/
theorem eq_of_cutAtLast {mark : Char} {cs before behind : List Char}
    (h : cutAtLast mark cs = some (before, behind)) : cs = before ++ mark :: behind := by
  induction cs generalizing before behind with
  | nil => cases h
  | cons c rest ih =>
      rw [cutAtLast] at h
      split at h
      · next before' behind' hRest =>
          obtain ⟨rfl, rfl⟩ := Prod.mk.inj (Option.some.inj h)
          rw [ih hRest, List.cons_append]
      · split at h
        · next hMark =>
            obtain ⟨rfl, rfl⟩ := Prod.mk.inj (Option.some.inj h)
            rw [hMark, List.nil_append]
        · cases h

/-- The user stands before the last `@` of the inside. There is something
behind it, the cut. -/
theorem takeUser_append {inside behind : List Char} (hInside : IsInside inside)
    (hBehind : IsCut behind) :
    takeUser true (inside ++ behind) =
      match cutAtLast '@' inside with
      | none => .ok (("", none), inside ++ behind)
      | some (user, left) =>
        if user.isEmpty && left.isEmpty then .error .emptyHost
        else .ok (readUser user, left ++ behind) := by
  unfold takeUser
  dsimp only
  rw [takeWhile_of_cut hInside hBehind]
  cases hCut : cutAtLast '@' inside with
  | none => rfl
  | some parts =>
      obtain ⟨user, left⟩ := parts
      have hDrop : (inside ++ behind).drop (user.length + 1) = left ++ behind := by
        rw [eq_of_cutAtLast hCut]
        simp
      have hNe : (left ++ behind).isEmpty = false := by
        simp [hBehind.ne_nil]
      simp only [hDrop, hNe, Bool.not_false, Bool.and_true]

/-- The user of an authority, and the inside that is left. -/
theorem takeUser_of_cut {inside behind rest : List Char} {user : String × Option String}
    (hInside : IsInside inside) (hBehind : IsCut behind)
    (h : takeUser true (inside ++ behind) = .ok (user, rest)) :
    ∃ left, IsInside left ∧ rest = left ++ behind ∧
      ∀ other, IsCut other → takeUser true (inside ++ other) = .ok (user, left ++ other) := by
  rw [takeUser_append hInside hBehind] at h
  cases hCut : cutAtLast '@' inside with
  | none =>
      simp only [hCut] at h
      obtain ⟨rfl, rfl⟩ := Prod.mk.inj (Except.ok.inj h)
      refine ⟨inside, hInside, rfl, ?_⟩
      intro other hOther
      rw [takeUser_append hInside hOther, hCut]
  | some parts =>
      obtain ⟨before, left⟩ := parts
      simp only [hCut] at h
      by_cases hEmpty : (before.isEmpty && left.isEmpty) = true
      · rw [if_pos hEmpty] at h
        cases h
      · rw [if_neg hEmpty] at h
        obtain ⟨rfl, rfl⟩ := Prod.mk.inj (Except.ok.inj h)
        refine ⟨left, ?_, rfl, ?_⟩
        · intro c hc
          exact hInside c (by rw [eq_of_cutAtLast hCut]; simp [hc])
        · intro other hOther
          rw [takeUser_append hInside hOther, hCut]
          exact if_neg hEmpty

/-! ## Hosts -/

/-- The text of a host, and the inside that is left: nothing, or a port. -/
theorem exists_takeHost {inside : List Char} (hInside : IsInside inside) (inBrackets : Bool) :
    ∃ text left, IsInside left ∧ (left = [] ∨ ∃ port, left = ':' :: port) ∧
      ∀ other, IsCut other →
        takeHost true inBrackets (inside ++ other) = (text, left ++ other) := by
  -- a bracket changes which colons end the host, so the brackets go along with the induction
  induction inside generalizing inBrackets with
  | nil =>
      refine ⟨[], [], hInside, .inl rfl, ?_⟩
      rintro other ⟨c, rest, rfl, hEnds⟩
      rw [List.nil_append, takeHost, if_pos (by simp [hEnds])]
  | cons c inside ih =>
      have hGoesOn : endsAuthority true c = false := hInside c (by simp)
      have hRest : IsInside inside := fun d hd => hInside d (by simp [hd])
      by_cases hColon : c = ':' ∧ inBrackets = false
      · obtain ⟨rfl, rfl⟩ := hColon
        refine ⟨[], ':' :: inside, hInside, .inr ⟨inside, rfl⟩, ?_⟩
        intro other _
        rw [List.cons_append, takeHost, if_pos (by simp)]
      · obtain ⟨text, left, hLeft, hPort, hHost⟩ :=
          ih hRest (if c = '[' then true else if c = ']' then false else inBrackets)
        refine ⟨c :: text, left, hLeft, hPort, ?_⟩
        intro other hOther
        rw [List.cons_append, takeHost, if_neg (by simpa [hGoesOn] using hColon)]
        simp only [hHost other hOther]

theorem readHost_of_cut {inside behind rest : List Char} {host : Host}
    (hInside : IsInside inside) (hBehind : IsCut behind)
    (h : readHost true (inside ++ behind) = .ok (host, rest)) :
    ∃ left, IsInside left ∧ (left = [] ∨ ∃ port, left = ':' :: port) ∧ rest = left ++ behind ∧
      ∀ other, IsCut other → readHost true (inside ++ other) = .ok (host, left ++ other) := by
  obtain ⟨text, left, hLeft, hPort, hTake⟩ := exists_takeHost hInside false
  have hRead : ∀ other, IsCut other → readHost true (inside ++ other) =
      if text.isEmpty then .error .emptyHost
      else (Host.readSpecial text).bind fun host => .ok (host, left ++ other) := by
    intro other hOther
    unfold readHost
    simp only [hTake other hOther]
    by_cases hEmpty : text.isEmpty = true
    · simp [hEmpty]
      rfl
    · simp [hEmpty]
      rfl
  rw [hRead behind hBehind] at h
  by_cases hEmpty : text.isEmpty = true
  · rw [if_pos hEmpty] at h
    cases h
  · rw [if_neg hEmpty] at h
    obtain ⟨found, hFound, hPair⟩ := bind_eq_ok_iff.1 h
    obtain ⟨rfl, rfl⟩ := Prod.mk.inj (Except.ok.inj hPair)
    refine ⟨left, hLeft, hPort, rfl, ?_⟩
    intro other hOther
    rw [hRead other hOther, if_neg hEmpty, hFound]
    rfl

/-! ## Ports -/

theorem takePort_of_cut {inside behind rest : List Char} {start port : Nat}
    (hInside : IsInside inside) (hBehind : IsCut behind)
    (h : takePort start (inside ++ behind) = .ok (port, rest)) :
    rest = behind ∧
      ∀ other, IsCut other → takePort start (inside ++ other) = .ok (port, other) := by
  have hEnd : ∀ (port : Nat) (cut : List Char), IsCut cut →
      takePort port cut = .ok (port, cut) := by
    rintro port cut ⟨c, rest, rfl, hEnds⟩
    have hDigit : c.isDigit = false := by
      simp only [endsAuthority, Bool.true_and, Bool.or_eq_true, decide_eq_true_eq] at hEnds
      rcases hEnds with ((rfl | rfl) | rfl) | rfl <;> decide
    simp [takePort, hDigit, hEnds]
  induction inside generalizing start with
  | nil =>
      rw [List.nil_append, hEnd start behind hBehind] at h
      obtain ⟨rfl, rfl⟩ := Prod.mk.inj (Except.ok.inj h)
      exact ⟨rfl, fun other hOther => hEnd _ other hOther⟩
  | cons c inside ih =>
      have hGoesOn : endsAuthority true c = false := hInside c (by simp)
      have hRest : IsInside inside := fun d hd => hInside d (by simp [hd])
      have hStep : ∀ cut, takePort start (c :: inside ++ cut) =
          if c.isDigit then
            if 65535 < start * 10 + (c.toNat - '0'.toNat) then .error .invalidPort
            else takePort (start * 10 + (c.toNat - '0'.toNat)) (inside ++ cut)
          else .error .invalidPort := by
        intro cut
        rw [List.cons_append, takePort, hGoesOn]
        rfl
      rw [hStep] at h
      by_cases hDigit : c.isDigit = true
      · rw [if_pos hDigit] at h
        by_cases hLarge : 65535 < start * 10 + (c.toNat - '0'.toNat)
        · rw [if_pos hLarge] at h
          cases h
        · rw [if_neg hLarge] at h
          obtain ⟨rfl, hSame⟩ := ih hRest h
          refine ⟨rfl, ?_⟩
          intro other hOther
          rw [hStep, if_pos hDigit, if_neg hLarge, hSame other hOther]
      · rw [if_neg hDigit] at h
        cases h

theorem readPort_of_cut {scheme : String} {inside behind rest : List Char} {port : Option Nat}
    (hInside : IsInside inside) (hPort : inside = [] ∨ ∃ port, inside = ':' :: port)
    (hBehind : IsCut behind) (h : readPort scheme (inside ++ behind) = .ok (port, rest)) :
    rest = behind ∧
      ∀ other, IsCut other → readPort scheme (inside ++ other) = .ok (port, other) := by
  rcases hPort with rfl | ⟨digits, rfl⟩
  · have hNone : ∀ cut, IsCut cut → readPort scheme ([] ++ cut) = .ok (none, cut) := by
      rintro cut ⟨c, rest, rfl, hEnds⟩
      rw [List.nil_append]
      unfold readPort
      split
      · next hColon =>
          obtain ⟨rfl, -⟩ := List.cons.inj hColon
          cases hEnds
      · rfl
    rw [hNone behind hBehind] at h
    obtain ⟨rfl, rfl⟩ := Prod.mk.inj (Except.ok.inj h)
    exact ⟨rfl, hNone⟩
  · have hDigits : IsInside digits := fun d hd => hInside d (by simp [hd])
    obtain ⟨⟨value, left⟩, hTake, hPair⟩ := bind_eq_ok_iff.1 h
    obtain ⟨rfl, hSame⟩ := takePort_of_cut hDigits hBehind hTake
    obtain ⟨rfl, rfl⟩ := Prod.mk.inj (pure_eq_ok_iff.1 hPair)
    clear h hPair
    -- whether there are digits does not depend on what is behind them
    have hLength : ∀ cut : List Char,
        decide (cut.length < (digits ++ cut).length) = decide (0 < digits.length) := by
      intro cut
      rw [List.length_append]
      exact decide_eq_decide.2 (by omega)
    refine ⟨rfl, ?_⟩
    intro other hOther
    refine bind_eq_ok_iff.2 ⟨_, hSame other hOther, ?_⟩
    show (pure (if (decide (other.length < (digits ++ other).length) && _) then _ else _, _) :
      Except Error _) =
        .ok (if (decide (left.length < (digits ++ left).length) && _) then _ else _, _)
    rw [hLength, hLength]
    rfl

/-! ## Authorities -/

/-- The text of a path, without the slash that divides it from the
authority. -/
def behindSlash (cs : List Char) : List Char := if startsWithSlash cs then cs.drop 1 else cs

/-- Behind an authority that has been read, the path begins. -/
theorem readAuthority_of_parts {scheme : String} (hSpecial : isSpecialScheme scheme = true)
    {cs behindUser behindHost behind : List Char} {user : String} {password : Option String}
    {host : Host} {port : Option Nat}
    (hUser : takeUser true cs = .ok ((user, password), behindUser))
    (hHost : readHost true behindUser = .ok (host, behindHost))
    (hPort : readPort scheme behindHost = .ok (port, behind)) (hBehind : IsCut behind) :
    readAuthority scheme cs =
      if host.isEmpty && (user ≠ "" || password.isSome) then .error .emptyHost
      else .ok (withPath scheme (some { user, password, host, port }) [] (behindSlash behind)) := by
  obtain ⟨c, rest, rfl, hEnds⟩ := hBehind
  simp only [endsAuthority, Bool.true_and, Bool.or_eq_true, decide_eq_true_eq] at hEnds
  unfold readAuthority
  rw [hSpecial]
  simp only [hUser, hHost, hPort, bind, Except.bind]
  split
  · rfl
  · rcases hEnds with ((rfl | rfl) | rfl) | rfl <;> rfl

/-- An authority does not depend on what is behind it. -/
theorem readAuthority_of_cut {scheme : String} (hSpecial : isSpecialScheme scheme = true)
    {inside behind : List Char} {u : Url} (hInside : IsInside inside) (hBehind : IsCut behind)
    (h : readAuthority scheme (inside ++ behind) = .ok u) :
    ∃ authority, u = withPath scheme (some authority) [] (behindSlash behind) ∧
      ∀ other, IsCut other → readAuthority scheme (inside ++ other) =
        .ok (withPath scheme (some authority) [] (behindSlash other)) := by
  have hParts := h
  unfold readAuthority at hParts
  rw [hSpecial] at hParts
  obtain ⟨⟨⟨user, password⟩, behindUser⟩, hUser, hParts⟩ := bind_eq_ok_iff.1 hParts
  obtain ⟨⟨host, behindHost⟩, hHost, hParts⟩ := bind_eq_ok_iff.1 hParts
  obtain ⟨⟨port, rest⟩, hPort, -⟩ := bind_eq_ok_iff.1 hParts
  clear hParts
  obtain ⟨left, hLeft, rfl, hSameUser⟩ := takeUser_of_cut hInside hBehind hUser
  obtain ⟨digits, hDigits, hColon, rfl, hSameHost⟩ := readHost_of_cut hLeft hBehind hHost
  obtain ⟨rfl, hSamePort⟩ := readPort_of_cut hDigits hColon hBehind hPort
  rw [readAuthority_of_parts hSpecial hUser hHost hPort hBehind] at h
  by_cases hLonely : (host.isEmpty && (decide (user ≠ "") || password.isSome)) = true
  · rw [if_pos hLonely] at h
    cases h
  · rw [if_neg hLonely] at h
    refine ⟨{ user, password, host, port }, (Except.ok.inj h).symm, ?_⟩
    intro other hOther
    rw [readAuthority_of_parts hSpecial (hSameUser other hOther) (hSameHost other hOther)
      (hSamePort other hOther) hOther, if_neg hLonely]

end NewsAnalytics.Url
