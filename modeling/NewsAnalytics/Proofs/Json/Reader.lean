import NewsAnalytics.Json.Reader
import NewsAnalytics.Proofs.Chain
import NewsAnalytics.Proofs.Json.Fields
import NewsAnalytics.Proofs.Json.NumberReader
import NewsAnalytics.Proofs.Json.StringReader

/-!
# Values read back

A value that is written is read back, provided that the written form says
all there is to say about it. `IsExact` lists what this asks for: integers
fit a machine word, the names of an object are sorted, containers are not
nested too deep, and there is no float, whose written form may be read to a
neighbour.

The proof follows a value into its containers. A container reads back if
its members do, with anything behind them that does not go on a number; the
loops over members are bounded by the length of the text, in which every
member has a character.

## Main results

* `reads_render` — reading takes exactly the written form of a value.
* `read_write` — the text of a value is read back.
-/

namespace NewsAnalytics.Json

/-! ## Exact values -/

/-- The integers that fit a machine word, signed or unsigned. -/
def IsWord (i : Int) : Prop := -9223372036854775808 ≤ i ∧ i ≤ 18446744073709551615

/-- The written form says all there is to say about the value, and it needs
at most `depth` levels of containers. -/
inductive IsExact : Nat → Json → Prop
  | null (depth : Nat) : IsExact depth .null
  | bool (depth : Nat) (b : Bool) : IsExact depth (.bool b)
  | int (depth : Nat) {i : Int} (hWord : IsWord i) : IsExact depth (.num (.int i))
  | str (depth : Nat) (s : String) : IsExact depth (.str s)
  | arr {depth : Nat} {items : List Json} (hItems : ∀ v ∈ items, IsExact depth v) :
      IsExact (depth + 1) (.arr items)
  | obj {depth : Nat} {fields : Fields} (hSorted : fields.IsSorted)
      (hFields : ∀ f ∈ fields, IsExact depth f.2) : IsExact (depth + 1) (.obj fields)

/-- The reader takes exactly the written form of the value from a text that
does not go on with a number. -/
def Reads (item : Reader Json) (v : Json) : Prop :=
  ∀ rest, EndsNumber rest → item (render v ++ rest) = .ok (v, rest)

/-! ## First characters -/

/-- The character begins a value: it is neither white space nor a closing
bracket. -/
def BeginsValue (c : Char) : Prop := isSpace c = false ∧ c ≠ ']'

theorem skipSpace_cons {c : Char} (h : isSpace c = false) (cs : List Char) :
    skipSpace (c :: cs) = c :: cs := by
  simp [skipSpace, h]

theorem beginsValue_of_isDigit {c : Char} (h : c.isDigit = true) : BeginsValue c := by
  refine ⟨?_, ?_⟩
  · by_contra hSpace
    simp only [isSpace, Bool.not_eq_false, Bool.or_eq_true, decide_eq_true_eq] at hSpace
    rcases hSpace with ((rfl | rfl) | rfl) | rfl <;> exact absurd h (by decide)
  · rintro rfl
    exact absurd h (by decide)

theorem exists_cons_writeInteger (i : Int) :
    ∃ c cs, writeInteger i = c :: cs ∧ BeginsValue c := by
  cases i with
  | ofNat n =>
      obtain ⟨c, cs, hCons, hDigit, -⟩ := exists_cons_toDigits n
      exact ⟨c, cs, hCons, beginsValue_of_isDigit hDigit⟩
  | negSucc n => exact ⟨'-', _, rfl, by decide, by decide⟩

/-- A written value begins like one. -/
theorem exists_cons_render {depth : Nat} {v : Json} (h : IsExact depth v) :
    ∃ c cs, render v = c :: cs ∧ BeginsValue c := by
  cases h with
  | null => exact ⟨'n', _, rfl, by decide, by decide⟩
  | bool depth b =>
      cases b with
      | true => exact ⟨'t', _, rfl, by decide, by decide⟩
      | false => exact ⟨'f', _, rfl, by decide, by decide⟩
  | int depth hWord =>
      simp only [render, writeNumber]
      exact exists_cons_writeInteger _
  | str => exact ⟨'"', _, rfl, by decide, by decide⟩
  | arr => exact ⟨'[', _, rfl, by decide, by decide⟩
  | obj => exact ⟨'\x7b', _, rfl, by decide, by decide⟩

/-! ## Members -/

theorem nextItem_close (isFirst : Bool) (cs : List Char) :
    nextItem isFirst (']' :: cs) = .ok (false, cs) := by
  simp [nextItem, skipSpace, isSpace]

theorem nextItem_first {c : Char} (h : BeginsValue c) (cs : List Char) :
    nextItem true (c :: cs) = .ok (true, c :: cs) := by
  unfold nextItem
  rw [skipSpace_cons h.1]
  split
  · next hNil => cases hNil
  · next hClose => exact absurd (List.cons.inj hClose).1 h.2
  · next hCons =>
      obtain ⟨rfl, rfl⟩ := List.cons.inj hCons
      rfl

theorem nextItem_comma {c : Char} (h : BeginsValue c) (cs : List Char) :
    nextItem false (',' :: c :: cs) = .ok (true, c :: cs) := by
  have hComma : skipSpace (',' :: c :: cs) = ',' :: c :: cs := skipSpace_cons (by decide) _
  simp [nextItem, hComma, skipSpace_cons h.1, h.2]

theorem nextName_close (isFirst : Bool) (cs : List Char) :
    nextName isFirst ('\x7d' :: cs) = .ok (none, cs) := by
  simp [nextName, skipSpace, isSpace]

/-- A written text begins with its opening quote. -/
theorem writeString_append (name : String) (cs : List Char) :
    writeString name ++ cs = '"' :: (name.toList.flatMap writeChar ++ '"' :: cs) := by
  simp [writeString]

theorem nextName_first (name : String) (cs : List Char) :
    nextName true (writeString name ++ cs) = .ok (some name, cs) := by
  rw [writeString_append]
  simp [nextName, skipSpace, isSpace, readString_flatMap_writeChar]

theorem nextName_comma (name : String) (cs : List Char) :
    nextName false (',' :: (writeString name ++ cs)) = .ok (some name, cs) := by
  rw [writeString_append]
  simp [nextName, skipSpace, isSpace, readString_flatMap_writeChar]

theorem readColon_colon (cs : List Char) : readColon (':' :: cs) = .ok cs :=
  rfl

/-! ## Containers -/

theorem endsNumber_renderMoreItems (items : List Json) (rest : List Char) :
    EndsNumber (renderMoreItems items ++ rest) := by
  cases items with
  | nil => exact endsNumber_cons (by decide) _
  | cons v items => exact endsNumber_cons (by decide) _

theorem endsNumber_renderMoreFields (fields : Fields) (rest : List Char) :
    EndsNumber (renderMoreFields fields ++ rest) := by
  cases fields with
  | nil => exact endsNumber_cons (by decide) _
  | cons f fields => exact endsNumber_cons (by decide) _

/-- One more item is read, and the items behind it. -/
theorem readItems_succ {item : Reader Json} {bound : Nat} {isFirst : Bool}
    {cs here behind tail : List Char} {v : Json} {items : List Json}
    (hNext : nextItem isFirst cs = .ok (true, here)) (hItem : item here = .ok (v, behind))
    (hMore : readItems item bound false behind = .ok (items, tail)) :
    readItems item (bound + 1) isFirst cs = .ok (v :: items, tail) := by
  rw [readItems]
  exact bind_eq_ok_iff.2 ⟨_, hNext, bind_eq_ok_iff.2 ⟨_, hItem, bind_eq_ok_iff.2 ⟨_, hMore, rfl⟩⟩⟩

/-- Further items, each behind a comma. -/
theorem readItems_renderMoreItems {item : Reader Json} {depth : Nat} {items : List Json}
    (hExact : ∀ v ∈ items, IsExact depth v) (hReads : ∀ v ∈ items, Reads item v) {bound : Nat}
    (hBound : items.length < bound) (rest : List Char) :
    readItems item bound false (renderMoreItems items ++ rest) = .ok (items, rest) := by
  obtain ⟨bound, rfl⟩ := Nat.exists_eq_add_of_lt hBound
  induction items with
  | nil => simp only [readItems, renderMoreItems, List.cons_append, nextItem_close]; rfl
  | cons v items ih =>
      have hItem := hReads v (by simp) _ (endsNumber_renderMoreItems items rest)
      have hMore := ih (fun w hw => hExact w (by simp [hw])) (fun w hw => hReads w (by simp [hw]))
        (by omega)
      obtain ⟨c, cs, hCons, hBegins⟩ := exists_cons_render (hExact v (by simp))
      have hNext : nextItem false (renderMoreItems (v :: items) ++ rest) =
          .ok (true, render v ++ (renderMoreItems items ++ rest)) := by
        simp only [renderMoreItems, hCons, List.cons_append, List.append_assoc]
        exact nextItem_comma hBegins _
      rw [List.length_cons, Nat.add_right_comm _ 1]
      exact readItems_succ hNext hItem hMore

/-- The items of a list, up to its closing bracket. -/
theorem readItems_renderItems {item : Reader Json} {depth : Nat} {items : List Json}
    (hExact : ∀ v ∈ items, IsExact depth v) (hReads : ∀ v ∈ items, Reads item v) {bound : Nat}
    (hBound : items.length < bound) (rest : List Char) :
    readItems item bound true (renderItems items ++ rest) = .ok (items, rest) := by
  obtain ⟨bound, rfl⟩ := Nat.exists_eq_succ_of_ne_zero (Nat.ne_zero_of_lt hBound)
  cases items with
  | nil => simp only [readItems, renderItems, List.cons_append, nextItem_close]; rfl
  | cons v items =>
      have hItem := hReads v (by simp) _ (endsNumber_renderMoreItems items rest)
      have hMore := readItems_renderMoreItems (fun w hw => hExact w (by simp [hw]))
        (fun w hw => hReads w (by simp [hw])) (Nat.lt_of_succ_lt_succ hBound) rest
      obtain ⟨c, cs, hCons, hBegins⟩ := exists_cons_render (hExact v (by simp))
      have hNext : nextItem true (renderItems (v :: items) ++ rest) =
          .ok (true, render v ++ (renderMoreItems items ++ rest)) := by
        simp only [renderItems, hCons, List.cons_append, List.append_assoc]
        exact nextItem_first hBegins _
      exact readItems_succ hNext hItem hMore

/-- One more field is read, and the fields behind it. -/
theorem readFields_succ {item : Reader Json} {bound : Nat} {isFirst : Bool}
    {cs here behind tail : List Char} {name : String} {v : Json} {fields : Fields}
    (hNext : nextName isFirst cs = .ok (some name, ':' :: here))
    (hItem : item here = .ok (v, behind))
    (hMore : readFields item bound false behind = .ok (fields, tail)) :
    readFields item (bound + 1) isFirst cs = .ok ((name, v) :: fields, tail) := by
  rw [readFields]
  exact bind_eq_ok_iff.2 ⟨_, hNext, bind_eq_ok_iff.2 ⟨_, readColon_colon here,
    bind_eq_ok_iff.2 ⟨_, hItem, bind_eq_ok_iff.2 ⟨_, hMore, rfl⟩⟩⟩⟩

/-- Further fields, each behind a comma. -/
theorem readFields_renderMoreFields {item : Reader Json} {fields : Fields}
    (hReads : ∀ f ∈ fields, Reads item f.2) {bound : Nat} (hBound : fields.length < bound)
    (rest : List Char) :
    readFields item bound false (renderMoreFields fields ++ rest) = .ok (fields, rest) := by
  obtain ⟨bound, rfl⟩ := Nat.exists_eq_add_of_lt hBound
  induction fields with
  | nil => simp only [readFields, renderMoreFields, List.cons_append, nextName_close]; rfl
  | cons f fields ih =>
      obtain ⟨name, v⟩ := f
      have hItem := hReads (name, v) (by simp) _ (endsNumber_renderMoreFields fields rest)
      have hMore := ih (fun g hg => hReads g (by simp [hg])) (by omega)
      have hNext : nextName false (renderMoreFields ((name, v) :: fields) ++ rest) =
          .ok (some name, ':' :: (render v ++ (renderMoreFields fields ++ rest))) := by
        simp only [renderMoreFields, List.cons_append, List.append_assoc]
        exact nextName_comma name _
      rw [List.length_cons, Nat.add_right_comm _ 1]
      exact readFields_succ hNext hItem hMore

/-- The fields of an object, up to its closing brace. -/
theorem readFields_renderFields {item : Reader Json} {fields : Fields}
    (hReads : ∀ f ∈ fields, Reads item f.2) {bound : Nat} (hBound : fields.length < bound)
    (rest : List Char) :
    readFields item bound true (renderFields fields ++ rest) = .ok (fields, rest) := by
  obtain ⟨bound, rfl⟩ := Nat.exists_eq_succ_of_ne_zero (Nat.ne_zero_of_lt hBound)
  cases fields with
  | nil => simp only [readFields, renderFields, List.cons_append, nextName_close]; rfl
  | cons f fields =>
      obtain ⟨name, v⟩ := f
      have hItem := hReads (name, v) (by simp) _ (endsNumber_renderMoreFields fields rest)
      have hMore := readFields_renderMoreFields (fun g hg => hReads g (by simp [hg]))
        (Nat.lt_of_succ_lt_succ hBound) rest
      have hNext : nextName true (renderFields ((name, v) :: fields) ++ rest) =
          .ok (some name, ':' :: (render v ++ (renderMoreFields fields ++ rest))) := by
        simp only [renderFields, List.cons_append, List.append_assoc]
        exact nextName_first name _
      exact readFields_succ hNext hItem hMore

/-! ## Bounds -/

theorem length_lt_renderMoreItems (items : List Json) :
    items.length < (renderMoreItems items).length := by
  induction items with
  | nil => simp [renderMoreItems]
  | cons v items ih =>
      simp only [renderMoreItems, List.length_cons, List.length_append]
      omega

theorem length_le_renderItems (items : List Json) :
    items.length ≤ (renderItems items).length := by
  cases items with
  | nil => simp
  | cons v items =>
      have hMore := length_lt_renderMoreItems items
      simp only [renderItems, List.length_cons, List.length_append]
      omega

theorem length_lt_renderMoreFields (fields : Fields) :
    fields.length < (renderMoreFields fields).length := by
  induction fields with
  | nil => simp [renderMoreFields]
  | cons f fields ih =>
      simp only [renderMoreFields, List.length_cons, List.length_append]
      omega

theorem length_le_renderFields (fields : Fields) :
    fields.length ≤ (renderFields fields).length := by
  cases fields with
  | nil => simp
  | cons f fields =>
      have hMore := length_lt_renderMoreFields fields
      simp only [renderFields, List.length_cons, List.length_append]
      omega

/-! ## Values -/

/-- A digit begins a number. -/
theorem readValue_digit {c : Char} (hDigit : c.isDigit = true) {cs rest : List Char} {n : Number}
    (hRead : readNumber false (c :: cs) = .ok (n, rest)) (depth : Nat) :
    readValue (depth + 1) (c :: cs) = .ok (.num n, rest) := by
  have hNe : ∀ d : Char, d.isDigit = false → c ≠ d := by
    rintro d hNot rfl
    rw [hDigit] at hNot
    cases hNot
  rw [readValue, skipSpace_cons (beginsValue_of_isDigit hDigit).1]
  dsimp only
  rw [if_neg (hNe 'n' (by decide)), if_neg (hNe 't' (by decide)), if_neg (hNe 'f' (by decide)),
    if_neg (hNe '-' (by decide)), if_pos hDigit]
  exact bind_eq_ok_iff.2 ⟨_, hRead, rfl⟩

theorem reads_int {i : Int} (hWord : IsWord i) (depth : Nat) :
    Reads (readValue (depth + 1)) (.num (.int i)) := by
  intro rest hRest
  show readValue (depth + 1) (writeInteger i ++ rest) = _
  obtain ⟨hLow, hHigh⟩ := hWord
  have hMax : maxSignificand = 18446744073709551615 := by decide
  cases i with
  | ofNat n =>
      rw [Int.ofNat_eq_natCast] at hHigh
      have hRead := readNumber_toDigits_append (n := n) (by omega) false hRest
      obtain ⟨c, cs, hCons, hDigit, -⟩ := exists_cons_toDigits n
      rw [hCons] at hRead
      rw [writeInteger, hCons]
      exact readValue_digit hDigit hRead depth
  | negSucc n =>
      have hRead := readNumber_toDigits_append (n := n + 1) (by omega) true hRest
      have hFits : ¬ (n + 1 = 0 ∨ maxNegative < n + 1) := by
        simp only [maxNegative]
        omega
      have hFinish : finishInteger true (n + 1) = .int (Int.negSucc n) := by
        rw [finishInteger, if_neg (by decide), if_neg hFits]
        rfl
      rw [hFinish] at hRead
      exact bind_eq_ok_iff.2 ⟨_, hRead, rfl⟩

/-- Reading an exact value takes exactly its written form. -/
theorem reads_render {depth : Nat} {v : Json} (h : IsExact depth v) :
    Reads (readValue (depth + 1)) v := by
  -- the members of a container are read with one level less, as they are exact with one less
  induction h with
  | null depth =>
      intro rest _
      rfl
  | bool depth b =>
      intro rest _
      cases b <;> rfl
  | int depth hWord => exact reads_int hWord depth
  | str depth s =>
      intro rest _
      rw [render, writeString_append]
      exact bind_eq_ok_iff.2 ⟨_, readString_flatMap_writeChar s.toList rest, by simp; rfl⟩
  | @arr depth items hItems ih =>
      intro rest _
      have hBound : items.length < (renderItems items ++ rest).length + 1 := by
        have hLength := length_le_renderItems items
        rw [List.length_append]
        omega
      exact bind_eq_ok_iff.2 ⟨_, readItems_renderItems hItems ih hBound rest, rfl⟩
  | @obj depth fields hSorted hFields ih =>
      intro rest _
      have hBound : fields.length < (renderFields fields ++ rest).length + 1 := by
        have hLength := length_le_renderFields fields
        rw [List.length_append]
        omega
      refine bind_eq_ok_iff.2 ⟨_, readFields_renderFields ih hBound rest, ?_⟩
      have hSame : Fields.ofEntries fields = fields := Fields.ofEntries_of_isSorted hSorted
      show (pure (Json.obj (Fields.ofEntries fields), rest) : Except Failure _) = _
      rw [hSame]
      rfl

/-! ## Texts -/

/-- The text of an exact value is read back. -/
theorem read_write {v : Json} (h : IsExact 127 v) : read (write v) = .ok v := by
  have hRead := reads_render h [] endsNumber_nil
  rw [List.append_nil] at hRead
  change readValue maxDepth (render v) = .ok (v, []) at hRead
  rw [read, run, write, String.toList_ofList]
  dsimp only
  rw [hRead]
  rfl

end NewsAnalytics.Json
