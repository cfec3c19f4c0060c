import Mathlib.Data.List.Basic
import NewsAnalytics.Text.Utf8

/-!
# Boundaries of characters

The bytes of a text show where its characters begin: the first byte of a
character is no continuation, and the others are. So the boundaries are the
sizes of the beginnings of the text. A character has four bytes at most, so
of any four positions in a row one is a boundary.

The search for a boundary steps back from a position as long as there is
none. `StepsBack` follows it step by step. It never passes a boundary, so
the beginning of the text that it finds is the longest that fits.

## Main results

* `isBoundary_encode_iff` — the boundaries are the sizes of beginnings.
* `exists_stepsBack` — the search ends after three steps at most.
* `IsLongestBeginning.unique`, `isLongestBeginning_append_cons` — the longest
  beginning that fits is the one whose next character does not.
* `isLongestBeginning_of_stepsBack` — what the search finds is this one.
-/

namespace NewsAnalytics.Text.Utf8

/-! ## Bytes of characters -/

/-- A character is a byte that is no continuation, and further ones that
are. -/
theorem exists_utf8EncodeChar (c : Char) :
    ∃ first inner, String.utf8EncodeChar c = first :: inner ∧ isContinuation first = false ∧
      ∀ b ∈ inner, isContinuation b = true := by
  have hAscii : ∀ n < 128, isContinuation (UInt8.ofNat n) = false := by decide
  have hFirst : ∀ n < 64, isContinuation (UInt8.ofNat (n + 0xC0)) = false := by decide
  have hLast : ∀ n < 64, isContinuation (UInt8.ofNat (n + 0x80)) = true := by decide
  have hInner : ∀ ns : List Nat, ∀ b ∈ ns.map fun n => UInt8.ofNat (n % 0x40 + 0x80),
      isContinuation b = true := by
    intro ns b hb
    obtain ⟨n, -, rfl⟩ := List.mem_map.1 hb
    exact hLast _ (Nat.mod_lt n (by decide))
  unfold String.utf8EncodeChar
  generalize c.val.toNat = n
  by_cases hOne : n ≤ 0x7F
  · rw [if_pos hOne]
    exact ⟨_, _, rfl, hAscii n (by omega), hInner []⟩
  rw [if_neg hOne]
  by_cases hTwo : n ≤ 0x7FF
  · rw [if_pos hTwo]
    exact ⟨_, _, rfl, hFirst (n / 64 % 0x20) (by omega), hInner [n]⟩
  rw [if_neg hTwo]
  by_cases hThree : n ≤ 0xFFFF
  · rw [if_pos hThree]
    exact ⟨_, _, rfl, hFirst (n / 4096 % 0x10 + 0x20) (by omega), hInner [n / 64, n]⟩
  · rw [if_neg hThree]
    exact ⟨_, _, rfl, hFirst (n / 262144 % 0x08 + 0x30) (by omega),
      hInner [n / 4096, n / 64, n]⟩

theorem encode_append (a b : List Char) : encode (a ++ b) = encode a ++ encode b :=
  List.flatMap_append

theorem length_encode_cons (c : Char) (rest : List Char) :
    (encode (c :: rest)).length = c.utf8Size + (encode rest).length := by
  rw [encode, List.flatMap_cons, List.length_append, String.length_utf8EncodeChar, encode]

theorem eq_nil_of_length_encode {cs : List Char} (h : (encode cs).length = 0) : cs = [] := by
  cases cs with
  | nil => rfl
  | cons c rest =>
      have hPos := c.utf8Size_pos
      rw [length_encode_cons] at h
      omega

theorem length_encode_replicate (n : Nat) (c : Char) :
    (encode (List.replicate n c)).length = n * c.utf8Size := by
  induction n with
  | zero => rw [Nat.zero_mul]; rfl
  | succ n ih => rw [List.replicate_succ, length_encode_cons, ih, Nat.succ_mul, Nat.add_comm]

/-- A string holds the bytes of its text. -/
theorem length_encode (s : String) : (encode s.toList).length = s.utf8ByteSize := by
  have hBytes : (String.ofList s.toList).toByteArray = (encode s.toList).toByteArray :=
    String.toByteArray_ofList
  rw [← String.size_toByteArray, ← String.ofList_toList (s := s), hBytes, List.size_toByteArray,
    String.ofList_toList]

/-! ## Boundaries -/

theorem isBoundary_encode_zero (cs : List Char) : isBoundary (encode cs) 0 = true := by
  cases cs with
  | nil => rfl
  | cons c rest =>
      obtain ⟨first, inner, hChar, hFirst, -⟩ := exists_utf8EncodeChar c
      simp [encode, hChar, isBoundary, hFirst]

/-- There is no boundary inside a character. -/
theorem isBoundary_encode_inside {c : Char} {i : Nat} (hPos : 0 < i) (hi : i < c.utf8Size)
    (rest : List Char) : isBoundary (encode (c :: rest)) i = false := by
  obtain ⟨first, inner, hChar, -, hInner⟩ := exists_utf8EncodeChar c
  have hLength : inner.length + 1 = c.utf8Size := by
    rw [← String.length_utf8EncodeChar, hChar, List.length_cons]
  obtain ⟨j, rfl⟩ := Nat.exists_eq_succ_of_ne_zero (Nat.pos_iff_ne_zero.1 hPos)
  have hj : j < inner.length := by omega
  have hByte : (encode (c :: rest))[j + 1]? = some inner[j] := by
    rw [encode, List.flatMap_cons, hChar, List.cons_append, List.getElem?_cons_succ,
      List.getElem?_append_left hj, List.getElem?_eq_getElem hj]
  unfold isBoundary
  rw [hByte]
  simp [hInner _ (List.getElem_mem hj)]

/-- Behind a character the boundaries are those of the rest. -/
theorem isBoundary_encode_behind (c : Char) (rest : List Char) (i : Nat) :
    isBoundary (encode (c :: rest)) (c.utf8Size + i) = isBoundary (encode rest) i := by
  unfold isBoundary
  rw [length_encode_cons, encode, List.flatMap_cons, ← String.length_utf8EncodeChar,
    List.getElem?_append_right (Nat.le_add_right _ _), Nat.add_sub_cancel_left, ← encode]
  cases (encode rest)[i]? with
  | none => simp
  | some b => rfl

/-- The boundaries are the sizes of the beginnings of the text. -/
theorem isBoundary_encode_iff {cs : List Char} {i : Nat} :
    isBoundary (encode cs) i = true ↔ ∃ kept, kept <+: cs ∧ (encode kept).length = i := by
  induction cs generalizing i with
  | nil =>
      simp only [List.prefix_nil, exists_eq_left]
      cases i <;> simp [encode, isBoundary]
  | cons c rest ih =>
      rcases Nat.eq_zero_or_pos i with rfl | hPos
      · exact iff_of_true (isBoundary_encode_zero _) ⟨[], List.nil_prefix, rfl⟩
      have hFirst : ∀ kept, kept <+: c :: rest → (encode kept).length = i →
          ∃ more, more <+: rest ∧ c.utf8Size + (encode more).length = i := by
        intro kept hPrefix hSize
        cases kept with
        | nil => simp [encode] at hSize; omega
        | cons d more =>
            obtain ⟨rfl, hMore⟩ := List.cons_prefix_cons.1 hPrefix
            exact ⟨more, hMore, (length_encode_cons d more).symm.trans hSize⟩
      rcases Nat.lt_or_ge i c.utf8Size with hInside | hBehind
      · rw [isBoundary_encode_inside hPos hInside]
        refine iff_of_false Bool.false_ne_true ?_
        rintro ⟨kept, hPrefix, hSize⟩
        obtain ⟨more, -, hSum⟩ := hFirst kept hPrefix hSize
        omega
      · obtain ⟨j, rfl⟩ := Nat.exists_eq_add_of_le hBehind
        rw [isBoundary_encode_behind, ih]
        constructor
        · rintro ⟨more, hMore, rfl⟩
          exact ⟨c :: more, List.cons_prefix_cons.2 ⟨rfl, hMore⟩, length_encode_cons c more⟩
        · rintro ⟨kept, hPrefix, hSize⟩
          obtain ⟨more, hMore, hSum⟩ := hFirst kept hPrefix hSize
          exact ⟨more, hMore, Nat.add_left_cancel hSum⟩

/-- Of any four positions in a row one is a boundary. -/
theorem exists_isBoundary_add {cs : List Char} {i : Nat} (h : i ≤ (encode cs).length) :
    ∃ start steps, isBoundary (encode cs) start = true ∧ start + steps = i ∧ steps ≤ 3 := by
  induction cs generalizing i with
  | nil =>
      obtain rfl := Nat.le_zero.1 h
      exact ⟨0, 0, rfl, rfl, Nat.zero_le 3⟩
  | cons c rest ih =>
      rcases Nat.lt_or_ge i c.utf8Size with hInside | hBehind
      · have hFour := c.utf8Size_le_four
        exact ⟨0, i, isBoundary_encode_zero _, Nat.zero_add i, by omega⟩
      · obtain ⟨j, rfl⟩ := Nat.exists_eq_add_of_le hBehind
        rw [length_encode_cons] at h
        obtain ⟨start, steps, hStart, rfl, hSteps⟩ := ih (Nat.le_of_add_le_add_left h)
        refine ⟨c.utf8Size + start, steps, ?_, Nat.add_assoc _ _ _, hSteps⟩
        rw [isBoundary_encode_behind, hStart]

/-! ## Stepping back -/

/-- The search for a boundary, step by step: from a position that is none it
goes one back. -/
inductive StepsBack (bytes : List UInt8) : Nat → Nat → Nat → Prop where
  | found {i : Nat} (hFound : isBoundary bytes i = true) : StepsBack bytes i 0 i
  | back {i steps stop : Nat} (hNone : isBoundary bytes (i + 1) = false)
      (hRest : StepsBack bytes i steps stop) : StepsBack bytes (i + 1) (steps + 1) stop

namespace StepsBack

variable {bytes : List UInt8} {i steps stop : Nat}

theorem add_eq (h : StepsBack bytes i steps stop) : stop + steps = i := by
  induction h with
  | found hFound => rfl
  | back hNone hRest ih => omega

theorem isBoundary_stop (h : StepsBack bytes i steps stop) : isBoundary bytes stop = true := by
  induction h with
  | found hFound => exact hFound
  | back hNone hRest ih => exact ih

/-- The search passes no boundary. -/
theorem le_of_isBoundary (h : StepsBack bytes i steps stop) {j : Nat}
    (hBoundary : isBoundary bytes j = true) (hj : j ≤ i) : j ≤ stop := by
  induction h with
  | found hFound => exact hj
  | back hNone hRest ih =>
      refine ih (Nat.lt_succ_iff.1 (Nat.lt_of_le_of_ne hj ?_))
      rintro rfl
      rw [hNone] at hBoundary
      cases hBoundary

/-- The search ends where `floorBoundary` says. -/
theorem floorBoundary_eq (h : StepsBack bytes i steps stop) : floorBoundary bytes i = stop := by
  induction h with
  | @found i hFound =>
      cases i with
      | zero => rfl
      | succ i => simp [floorBoundary, hFound]
  | back hNone hRest ih => simp [floorBoundary, hNone, ih]

end StepsBack

/-- A search ends at the latest where there is a boundary. -/
theorem stepsBack_of_isBoundary {bytes : List UInt8} {start : Nat}
    (h : isBoundary bytes start = true) (bound : Nat) :
    ∃ steps stop, StepsBack bytes (start + bound) steps stop ∧ steps ≤ bound := by
  induction bound with
  | zero => exact ⟨0, start, .found h, Nat.le_refl 0⟩
  | succ bound ih =>
      cases hHere : isBoundary bytes (start + bound + 1) with
      | true => exact ⟨0, _, .found hHere, Nat.zero_le _⟩
      | false =>
          obtain ⟨steps, stop, hRest, hSteps⟩ := ih
          exact ⟨steps + 1, stop, .back hHere hRest, Nat.succ_le_succ hSteps⟩

/-- In the bytes of a text the search ends after three steps at most. -/
theorem exists_stepsBack {cs : List Char} {i : Nat} (h : i ≤ (encode cs).length) :
    ∃ steps stop, StepsBack (encode cs) i steps stop ∧ steps ≤ 3 := by
  obtain ⟨start, bound, hStart, rfl, hBound⟩ := exists_isBoundary_add h
  obtain ⟨steps, stop, hSearch, hSteps⟩ := stepsBack_of_isBoundary hStart bound
  exact ⟨steps, stop, hSearch, Nat.le_trans hSteps hBound⟩

/-! ## Longest beginnings -/

/-- The longest beginning of whole characters that fits in `limit` bytes. -/
structure IsLongestBeginning (limit : Nat) (kept cs : List Char) : Prop where
  isBeginning : kept <+: cs
  fits : (encode kept).length ≤ limit
  longest : ∀ other, other <+: cs → (encode other).length ≤ limit → other <+: kept

/-- Of two beginnings, the one with fewer bytes is a beginning of the
other. -/
theorem prefix_of_length_encode_le {a b cs : List Char} (ha : a <+: cs) (hb : b <+: cs)
    (h : (encode a).length ≤ (encode b).length) : a <+: b := by
  rcases List.prefix_or_prefix_of_prefix ha hb with hab | ⟨more, rfl⟩
  · exact hab
  · rw [encode_append, List.length_append] at h
    have hNone : more = [] := eq_nil_of_length_encode (by omega)
    simp [hNone]

/-- There is one longest beginning. -/
theorem IsLongestBeginning.unique {limit : Nat} {a b cs : List Char}
    (ha : IsLongestBeginning limit a cs) (hb : IsLongestBeginning limit b cs) : a = b := by
  have hab : a <+: b := hb.longest a ha.isBeginning ha.fits
  have hba : b <+: a := ha.longest b hb.isBeginning hb.fits
  exact hab.eq_of_length_le hba.length_le

/-- A beginning that fits is the longest one if the next character does not
fit. -/
theorem isLongestBeginning_append_cons {limit : Nat} {kept rest : List Char} {c : Char}
    (hFits : (encode kept).length ≤ limit) (hNext : limit < (encode kept).length + c.utf8Size) :
    IsLongestBeginning limit kept (kept ++ c :: rest) := by
  refine ⟨List.prefix_append _ _, hFits, fun other hOther hSize => ?_⟩
  rcases List.prefix_or_prefix_of_prefix hOther (List.prefix_append kept _) with h | ⟨more, rfl⟩
  · exact h
  · cases more with
    | nil => simp
    | cons d more =>
        rw [List.prefix_append_right_inj, List.cons_prefix_cons] at hOther
        rw [encode_append, List.length_append, length_encode_cons, hOther.1] at hSize
        omega

/-- A cut at the size of a beginning gives this beginning. -/
theorem takeBytes_length_encode {kept cs : List Char} (h : kept <+: cs) :
    takeBytes (encode kept).length cs = kept := by
  induction kept generalizing cs with
  | nil =>
      cases cs with
      | nil => rfl
      | cons c rest => exact if_neg (Nat.not_le.2 c.utf8Size_pos)
  | cons c kept ih =>
      obtain ⟨rest, rfl⟩ := h
      rw [length_encode_cons, List.cons_append, takeBytes, if_pos (Nat.le_add_right _ _),
        Nat.add_sub_cancel_left, ih (List.prefix_append kept rest)]

/-- What the search finds is the longest beginning that fits, and its bytes
are all those before the boundary. -/
theorem isLongestBeginning_of_stepsBack {cs : List Char} {i steps stop : Nat}
    (h : StepsBack (encode cs) i steps stop) :
    IsLongestBeginning i (takeBytes stop cs) cs ∧
      encode (takeBytes stop cs) = (encode cs).take stop := by
  obtain ⟨kept, hPrefix, rfl⟩ := isBoundary_encode_iff.1 h.isBoundary_stop
  rw [takeBytes_length_encode hPrefix]
  have hFits : (encode kept).length ≤ i := by
    rw [← h.add_eq]
    exact Nat.le_add_right _ _
  refine ⟨⟨hPrefix, hFits, fun other hOther hSize => ?_⟩, ?_⟩
  · refine prefix_of_length_encode_le hOther hPrefix (h.le_of_isBoundary ?_ hSize)
    exact isBoundary_encode_iff.2 ⟨other, hOther, rfl⟩
  · obtain ⟨rest, rfl⟩ := hPrefix
    rw [encode_append, List.take_left]

end NewsAnalytics.Text.Utf8
