import NewsAnalytics.Json.Failure
import NewsAnalytics.Text.Hex

/-!
# Reading JSON strings

The reader starts behind the opening quote. An escape by code unit takes
exactly four bytes; a code unit from the upper half of a surrogate pair
must be followed at once by an escape of the lower half.

## Main results

* `readEscape_length` — an escape takes something, so reading ends.
-/

namespace NewsAnalytics.Json

/-- The failure of an escape that is not four digits: the four bytes are
taken all the same. -/
def badUnit (cs : List Char) : Failure :=
  if Text.Utf8.size cs < 4 then ⟨.endInString, 0⟩
  else ⟨.invalidEscape, Text.Utf8.size cs - 4⟩

/-- Reads the four digits of a code unit. -/
def readUnit : Reader Nat
  | a :: b :: c :: d :: rest =>
    match Text.Hex.value? a, Text.Hex.value? b, Text.Hex.value? c,
        Text.Hex.value? d with
    | some w, some x, some y, some z => .ok (((w * 16 + x) * 16 + y) * 16 + z, rest)
    | _, _, _, _ => .error (badUnit (a :: b :: c :: d :: rest))
  | cs => .error (badUnit cs)

/-- Reads the second half of a surrogate pair. -/
def readLowerHalf (upper : Nat) : Reader Char
  | '\\' :: 'u' :: rest =>
    match readUnit rest with
    | .error e => .error e
    | .ok (lower, rest) =>
      if 0xDC00 ≤ lower && lower ≤ 0xDFFF then
        .ok (Char.ofNat (0x10000 + (upper - 0xD800) * 0x400 + (lower - 0xDC00)), rest)
      else .error (.after .loneSurrogate rest)
  | ['\\'] => .error (.after .endInString [])
  | '\\' :: rest => .error (.at .endOfSurrogatePair rest)
  | [] => .error (.after .endInString [])
  | rest => .error (.at .endOfSurrogatePair rest)

/-- Reads the code units of an escape, behind its `u`. -/
def readCodePoint (cs : List Char) : Except Failure (Char × List Char) :=
  match readUnit cs with
  | .error e => .error e
  | .ok (unit, rest) =>
    if 0xDC00 ≤ unit && unit ≤ 0xDFFF then .error (.after .loneSurrogate rest)
    else if 0xD800 ≤ unit && unit ≤ 0xDBFF then readLowerHalf unit rest
    else .ok (Char.ofNat unit, rest)

/-- The character that a short escape stands for. -/
def shortEscape? (c : Char) : Option Char :=
  if c = '"' || c = '\\' || c = '/' then some c
  else if c = 'b' then some '\x08'
  else if c = 'f' then some '\x0c'
  else if c = 'n' then some '\n'
  else if c = 'r' then some '\r'
  else if c = 't' then some '\t'
  else none

/-- Reads an escape, behind its backslash. -/
def readEscape : Reader Char
  | [] => .error (.after .endInString [])
  | c :: rest =>
    if c = 'u' then readCodePoint rest
    else match shortEscape? c with
      | some d => .ok (d, rest)
      | none => .error (.at .invalidEscape (c :: rest))

/-! ## Reading ends -/

theorem readUnit_length {cs rest : List Char} {n : Nat} (h : readUnit cs = .ok (n, rest)) :
    rest.length < cs.length := by
  unfold readUnit at h
  split at h
  · split at h
    · simp only [Except.ok.injEq, Prod.mk.injEq] at h
      obtain ⟨-, rfl⟩ := h
      simp only [List.length_cons]
      omega
    · cases h
  · cases h

theorem readLowerHalf_length {upper : Nat} {cs rest : List Char} {c : Char}
    (h : readLowerHalf upper cs = .ok (c, rest)) : rest.length < cs.length := by
  unfold readLowerHalf at h
  split at h
  · split at h
    · cases h
    · next hr =>
        have := readUnit_length hr
        split at h
        · simp only [Except.ok.injEq, Prod.mk.injEq] at h
          obtain ⟨-, rfl⟩ := h
          simp only [List.length_cons]
          omega
        · cases h
  all_goals cases h

theorem readCodePoint_length {cs rest : List Char} {c : Char}
    (h : readCodePoint cs = .ok (c, rest)) : rest.length < cs.length := by
  unfold readCodePoint at h
  split at h
  · cases h
  · next hr =>
      have := readUnit_length hr
      split at h
      · cases h
      · split at h
        · have := readLowerHalf_length h
          omega
        · simp only [Except.ok.injEq, Prod.mk.injEq] at h
          obtain ⟨-, rfl⟩ := h
          omega

theorem readEscape_length {cs rest : List Char} {c : Char}
    (h : readEscape cs = .ok (c, rest)) : rest.length < cs.length := by
  cases cs with
  | nil => cases h
  | cons d tail =>
      simp only [readEscape] at h
      split at h
      · have := readCodePoint_length h
        simp only [List.length_cons]
        omega
      · split at h
        · simp only [Except.ok.injEq, Prod.mk.injEq] at h
          obtain ⟨-, rfl⟩ := h
          simp
        · cases h

/-! ## Strings -/

/-- Reads the characters of a string and its closing quote. -/
def readString : List Char → Except Failure (List Char × List Char)
  | [] => .error (.after .endInString [])
  | c :: cs =>
    if c = '"' then .ok ([], cs)
    else if c = '\\' then
      match _h : readEscape cs with
      | .error e => .error e
      | .ok (d, rest) =>
        match readString rest with
        | .error e => .error e
        | .ok (ds, rest) => .ok (d :: ds, rest)
    else if c < ' ' then .error (.at .controlCharacter (c :: cs))
    else
      match readString cs with
      | .error e => .error e
      | .ok (ds, rest) => .ok (c :: ds, rest)
termination_by cs => cs.length
decreasing_by
  · have := readEscape_length _h
    simp only [List.length_cons]
    omega
  · simp

end NewsAnalytics.Json
