import NewsAnalytics.Filter.Compile
import NewsAnalytics.Proofs.Text.Words

/-!
# Reading a line of terms

An automatically formatted line is a juxtaposition of scopes, bare words,
phrases in quotes and groups in parentheses, with ` AND ` between the
terms. Nothing marks a bare word, so a word may itself be `AND` or look
like a scope (`language:`), and a beginning of a line may then be read in
two ways. The module shows that this never lasts to the end.

Two readings can part only where one of them takes `language:` for a scope
and the other for a bare word. The second one then waits for ` AND ` while
the first one has taken that word for a value: the readings are *out of
phase*. From there on each word has to be `AND`, a separator for one
reading and a value for the other, and the line can never end for both
(`not_out_of_phase`).

## Main results

* `join_injective` — the members of a group can be told apart.
* `chars_append_cut` — a value ends in one place.
* `line_injective` — a line has one reading.
-/

namespace NewsAnalytics.Filter

open Text

/-! ## Members of a group -/

/-- What stands between the members of a group. -/
def orChars : List Char := [' ', 'O', 'R', ' ']

/-- What stands behind the first member of a group. -/
def behindMember : List (List Char) → List Char
  | [] => []
  | m :: rest => orChars ++ (m ++ behindMember rest)

/-- The members of a group in one text. -/
def join : List (List Char) → List Char
  | [] => []
  | m :: rest => m ++ behindMember rest

theorem join_eq_intercalate (members : List (List Char)) :
    join members = orChars.intercalate members := by
  cases members with
  | nil => rfl
  | cons m rest =>
      induction rest generalizing m with
      | nil => simp [join, behindMember]
      | cons n rest ih =>
          rw [List.intercalate_cons_cons, ← ih n]
          simp [join, behindMember]

/-- The word that separates members is none of the words of a member. -/
def IsMember (m : List Char) : Prop := ['O', 'R'] ∉ words m

instance (m : List Char) : Decidable (IsMember m) := inferInstanceAs (Decidable (¬ _))

private theorem behindMember_eq_nil_or (rest : List (List Char)) :
    behindMember rest = [] ∨ ∃ cs, behindMember rest = ' ' :: 'O' :: 'R' :: ' ' :: cs := by
  cases rest with
  | nil => exact .inl rfl
  | cons m rest => exact .inr ⟨_, rfl⟩

private theorem isWord_or : IsWord ['O', 'R'] := isWord_of_all (by decide) (by decide)

/-- A member does not reach into a separator. -/
private theorem member_overhang {m d : List Char} {r r' : List (List Char)}
    (hMember : IsMember (m ++ d)) (h : behindMember r = d ++ behindMember r') : d = [] := by
  rcases behindMember_eq_nil_or r with hr | ⟨cs, hr⟩
  · rw [hr] at h
    exact (List.append_eq_nil_iff.1 h.symm).1
  rw [hr] at h
  -- what lies over consists of the first characters of ` OR `, or goes on behind them
  have hr' := behindMember_eq_nil_or r'
  match d, h with
  | [], _ => rfl
  | [a], h => rcases hr' with hr' | ⟨cs', hr'⟩ <;> simp [hr'] at h
  | [a, b], h => rcases hr' with hr' | ⟨cs', hr'⟩ <;> simp [hr'] at h
  | a :: b :: c :: d, h =>
      simp only [List.cons_append, List.cons.injEq] at h
      obtain ⟨rfl, rfl, rfl, h⟩ := h
      have hBlank : StartsBlank d := by
        intro x hx
        cases d with
        | nil => cases hx
        | cons y d =>
            simp only [List.cons_append, List.cons.injEq] at h
            simp only [List.head?_cons, Option.mem_some_iff] at hx
            rw [← hx, ← h.1]
            decide
      exact absurd (mem_words_of_delimited (b := ' ') (by decide) isWord_or hBlank m) hMember

/-- A member ends in one place. -/
private theorem member_cut {m m' : List Char} {r r' : List (List Char)} (hm : IsMember m)
    (hm' : IsMember m') (h : m ++ behindMember r = m' ++ behindMember r') :
    m = m' ∧ behindMember r = behindMember r' := by
  rcases List.append_eq_append_iff.1 h with ⟨d, rfl, hd⟩ | ⟨d, rfl, hd⟩
  · obtain rfl := member_overhang hm' hd
    exact ⟨(List.append_nil m).symm, hd⟩
  · obtain rfl := member_overhang hm hd
    exact ⟨List.append_nil m', hd.symm⟩

private theorem behindMember_injective {r r' : List (List Char)} (hr : ∀ m ∈ r, IsMember m)
    (hr' : ∀ m ∈ r', IsMember m) (h : behindMember r = behindMember r') : r = r' := by
  induction r generalizing r' with
  | nil =>
      cases r' with
      | nil => rfl
      | cons m' r' => simp [behindMember, orChars] at h
  | cons m r ih =>
      cases r' with
      | nil => simp [behindMember, orChars] at h
      | cons m' r' =>
          obtain ⟨rfl, hRest⟩ := member_cut (hr m (by simp)) (hr' m' (by simp))
            (List.append_cancel_left h)
          rw [ih (fun x hx => hr x (by simp [hx])) (fun x hx => hr' x (by simp [hx])) hRest]

/-- The members of a group can be told apart. -/
theorem join_injective {ms ms' : List (List Char)} (hNe : ms ≠ []) (hNe' : ms' ≠ [])
    (hms : ∀ m ∈ ms, IsMember m) (hms' : ∀ m ∈ ms', IsMember m) (h : join ms = join ms') :
    ms = ms' := by
  obtain ⟨m, r, rfl⟩ := List.exists_cons_of_ne_nil hNe
  obtain ⟨m', r', rfl⟩ := List.exists_cons_of_ne_nil hNe'
  obtain ⟨rfl, hRest⟩ := member_cut (hms m (by simp)) (hms' m' (by simp)) h
  rw [behindMember_injective (fun x hx => hms x (by simp [hx]))
    (fun x hx => hms' x (by simp [hx])) hRest]

theorem paren_not_mem_join {ms : List (List Char)} (hms : ∀ m ∈ ms, ')' ∉ m) : ')' ∉ join ms := by
  have hBehind : ∀ rest : List (List Char), (∀ m ∈ rest, ')' ∉ m) → ')' ∉ behindMember rest := by
    intro rest
    induction rest with
    | nil => simp [behindMember]
    | cons m rest ih =>
        intro h
        have hRest := ih fun x hx => h x (by simp [hx])
        simp [behindMember, orChars, h m (by simp), hRest]
  cases ms with
  | nil => simp [join]
  | cons m rest =>
      have hRest := hBehind rest fun x hx => hms x (by simp [hx])
      simp [join, hms m (by simp), hRest]

/-! ## Forms -/

/-- How a value stands in a line: one word with the blanks around it, a
phrase in quotes, or a group in parentheses. -/
inductive Form where
  | bare (before word after : List Char)
  | phrase (text : List Char)
  | group (members : List (List Char))

/-- The characters of a value in a line. -/
def Form.chars : Form → List Char
  | .bare before word after => before ++ (word ++ after)
  | .phrase text => '"' :: (text ++ ['"'])
  | .group members => '(' :: (join members ++ [')'])

/-- The marks around a phrase and a group do not occur where they would be
misread, and no member holds the separator. -/
def Form.IsReadable : Form → Prop
  | .bare before word after =>
    AllBlank before ∧ (IsWord word ∧ '"' ∉ word ∧ '(' ∉ word) ∧ AllBlank after
  | .phrase text => '"' ∉ text
  | .group members => members ≠ [] ∧ ∀ m ∈ members, ')' ∉ m ∧ IsMember m

/-- One term of a line. -/
structure Entry where
  scope : Option Field
  form : Form

/-- The characters of a scope. -/
def scopeChars : Option Field → List Char
  | none => []
  | some f => f.name.toList ++ [':', ' ']

/-- The characters of a term in a line. -/
def Entry.chars (e : Entry) : List Char := scopeChars e.scope ++ e.form.chars

/-- What stands between the terms of a line. -/
def andChars : List Char := [' ', 'A', 'N', 'D', ' ']

/-- What stands behind the first term of a line. -/
def behind : List Entry → List Char
  | [] => []
  | e :: rest => andChars ++ (e.chars ++ behind rest)

/-- The characters of a line. -/
def line : List Entry → List Char
  | [] => []
  | e :: rest => e.chars ++ behind rest

theorem behind_nil : behind [] = [] := rfl

theorem line_eq_intercalate (entries : List Entry) :
    line entries = andChars.intercalate (entries.map Entry.chars) := by
  cases entries with
  | nil => rfl
  | cons e rest =>
      induction rest generalizing e with
      | nil => simp [line, behind]
      | cons n rest ih =>
          rw [List.map_cons, List.map_cons, List.intercalate_cons_cons, ← List.map_cons, ← ih n]
          simp [line, behind]

/-! ## Ends of values -/

private theorem isWord_and : IsWord ['A', 'N', 'D'] := isWord_of_all (by decide) (by decide)

private theorem startsBlank_space (cs : List Char) : StartsBlank (' ' :: cs) := by
  intro c hc
  rw [← Option.mem_some_iff.1 hc]
  decide

private theorem startsBlank_behind (es : List Entry) : StartsBlank (behind es) := by
  cases es with
  | nil => intro c hc; cases hc
  | cons e rest => exact startsBlank_space _

/-- What is behind a term, seen as blanks, the word `AND`, and a rest. -/
private theorem behind_cons_eq (a : List Char) (e : Entry) (rest : List Entry) :
    a ++ behind (e :: rest) =
      (a ++ [' ']) ++ (['A', 'N', 'D'] ++ (' ' :: (e.chars ++ behind rest))) := by
  simp [behind, andChars]

private theorem allBlank_nil : AllBlank [] := by
  intro c hc
  cases hc

private theorem allBlank_snoc {a : List Char} (ha : AllBlank a) : AllBlank (a ++ [' ']) := by
  intro c hc
  rcases List.mem_append.1 hc with hc | hc
  · exact ha c hc
  · rw [List.mem_singleton.1 hc]
    decide

private theorem allBlank_space : AllBlank [' '] := allBlank_snoc allBlank_nil

/-- The blanks behind a word end where the separator begins, or with the
line. -/
private theorem blanks_behind_cut {a a' : List Char} {es es' : List Entry} (ha : AllBlank a)
    (ha' : AllBlank a') (h : a ++ behind es = a' ++ behind es') :
    a = a' ∧ behind es = behind es' := by
  cases es with
  | nil =>
      cases es' with
      | nil => simpa [behind] using h
      | cons e' rest' =>
          rw [behind_cons_eq, behind_nil, List.append_nil] at h
          exact absurd h (ha.ne_append_word isWord_and)
  | cons e rest =>
      cases es' with
      | nil =>
          rw [behind_cons_eq, behind_nil, List.append_nil] at h
          exact absurd h.symm (ha'.ne_append_word isWord_and)
      | cons e' rest' =>
          rw [behind_cons_eq, behind_cons_eq] at h
          obtain ⟨hBlanks, -, hRest⟩ := append_word_cut (allBlank_snoc ha) (allBlank_snoc ha')
            isWord_and isWord_and (startsBlank_space _) (startsBlank_space _) h
          obtain rfl := List.append_cancel_right hBlanks
          rw [List.cons.injEq] at hRest
          exact ⟨rfl, by simp [behind, hRest.2]⟩

/-- A marked text ends at the first mark that closes it. -/
private theorem mark_cut {mark : Char} {x x' r r' : List Char} (hx : mark ∉ x) (hx' : mark ∉ x')
    (h : x ++ mark :: r = x' ++ mark :: r') : x = x' ∧ r = r' := by
  have hNe : ∀ y : List Char, mark ∉ y → ∀ c ∈ y, (c != mark) = true := by
    intro y hy c hc
    have : c ≠ mark := fun hEq => hy (hEq ▸ hc)
    simpa using this
  obtain ⟨hText, hRest⟩ := append_cut (· != mark) (hNe x hx) (hNe x' hx') (by simp) (by simp) h
  exact ⟨hText, by simpa using hRest⟩

private theorem bare_append_behind (before word after : List Char) (es : List Entry) :
    (Form.bare before word after).chars ++ behind es =
      before ++ (word ++ (after ++ behind es)) := by
  simp [Form.chars]

/-- A bare word does not begin with a mark. -/
private theorem bare_ne_mark {before word r : List Char} {mark : Char}
    (hMark : isBlankChar mark = false) (hBefore : AllBlank before) (hWord : IsWord word)
    (hNotMem : mark ∉ word) (tail : List Char) : before ++ (word ++ r) ≠ mark :: tail := by
  intro h
  obtain ⟨-, hRest⟩ := append_cut isBlankChar hBefore allBlank_nil (hWord.not_startsBlank r)
    (by simpa using hMark) (h.trans (List.nil_append _).symm)
  obtain ⟨c, w, rfl⟩ := List.exists_cons_of_ne_nil hWord.1
  rw [List.cons_append, List.cons.injEq] at hRest
  rw [hRest.1] at hNotMem
  simp at hNotMem

/-- A value ends in one place: what it is, and what stands behind it, are
determined by the text. -/
theorem chars_append_cut {v v' : Form} {es es' : List Entry} (hv : v.IsReadable)
    (hv' : v'.IsReadable) (h : v.chars ++ behind es = v'.chars ++ behind es') :
    v = v' ∧ behind es = behind es' := by
  have hQuote : isBlankChar '"' = false := by decide
  have hParen : isBlankChar '(' = false := by decide
  cases v with
  | bare before word after =>
      obtain ⟨hBefore, ⟨hWord, hNoQuote, hNoParen⟩, hAfter⟩ := hv
      cases v' with
      | bare before' word' after' =>
          obtain ⟨hBefore', ⟨hWord', -⟩, hAfter'⟩ := hv'
          rw [bare_append_behind, bare_append_behind] at h
          obtain ⟨rfl, rfl, hRest⟩ := append_word_cut hBefore hBefore' hWord hWord'
            (hAfter.startsBlank_append (startsBlank_behind es))
            (hAfter'.startsBlank_append (startsBlank_behind es')) h
          obtain ⟨rfl, hBehind⟩ := blanks_behind_cut hAfter hAfter' hRest
          exact ⟨rfl, hBehind⟩
      | phrase text =>
          rw [bare_append_behind] at h
          exact absurd h (bare_ne_mark hQuote hBefore hWord hNoQuote _)
      | group members =>
          rw [bare_append_behind] at h
          exact absurd h (bare_ne_mark hParen hBefore hWord hNoParen _)
  | phrase text =>
      cases v' with
      | bare before' word' after' =>
          obtain ⟨hBefore', ⟨hWord', hNoQuote', -⟩, -⟩ := hv'
          rw [bare_append_behind] at h
          exact absurd h.symm (bare_ne_mark hQuote hBefore' hWord' hNoQuote' _)
      | phrase text' =>
          simp only [Form.chars, List.cons_append, List.append_assoc, List.nil_append,
            List.cons.injEq, true_and] at h
          obtain ⟨rfl, hBehind⟩ := mark_cut hv hv' h
          exact ⟨rfl, hBehind⟩
      | group members' => simp [Form.chars] at h
  | group members =>
      cases v' with
      | bare before' word' after' =>
          obtain ⟨hBefore', ⟨hWord', -, hNoParen'⟩, -⟩ := hv'
          rw [bare_append_behind] at h
          exact absurd h.symm (bare_ne_mark hParen hBefore' hWord' hNoParen' _)
      | phrase text' => simp [Form.chars] at h
      | group members' =>
          simp only [Form.chars, List.cons_append, List.append_assoc, List.nil_append,
            List.cons.injEq, true_and] at h
          obtain ⟨hJoin, hBehind⟩ := mark_cut (paren_not_mem_join fun m hm => (hv.2 m hm).1)
            (paren_not_mem_join fun m hm => (hv'.2 m hm).1) h
          rw [join_injective hv.1 hv'.1 (fun m hm => (hv.2 m hm).2)
            (fun m hm => (hv'.2 m hm).2) hJoin]
          exact ⟨rfl, hBehind⟩

/-! ## Readings out of phase -/

/-- The word of a scope. -/
def scopeWord (f : Field) : List Char := f.name.toList ++ [':']

private theorem isWord_scopeWord (f : Field) : IsWord (scopeWord f) := by
  cases f <;> exact isWord_of_all (by decide) (by decide)

private theorem scopeWord_ne_and (f : Field) : scopeWord f ≠ ['A', 'N', 'D'] := by
  cases f <;> decide

private theorem scopeWord_injective {f f' : Field} (h : scopeWord f = scopeWord f') : f = f' := by
  have hName : f.name = f'.name := String.toList_inj.1 (List.append_cancel_right h)
  have hFound := Field.ofName?_name f
  rw [hName, Field.ofName?_name f'] at hFound
  exact (Option.some.inj hFound).symm

private theorem scoped_append_behind (f : Field) (v : Form) (es : List Entry) :
    (Entry.mk (some f) v).chars ++ behind es = scopeWord f ++ (' ' :: (v.chars ++ behind es)) := by
  simp [Entry.chars, scopeChars, scopeWord]

private theorem unscoped_append_behind (v : Form) (es : List Entry) :
    (Entry.mk none v).chars ++ behind es = v.chars ++ behind es := rfl

/-- A value shows something. -/
private theorem exists_shown {v : Form} (hv : v.IsReadable) :
    ∃ c ∈ v.chars, isBlankChar c = false := by
  cases v with
  | bare before word after =>
      obtain ⟨-, ⟨⟨hne, hShown⟩, -⟩, -⟩ := hv
      obtain ⟨c, w, rfl⟩ := List.exists_cons_of_ne_nil hne
      exact ⟨c, by simp [Form.chars], hShown c (by simp)⟩
  | phrase text => exact ⟨'"', by simp [Form.chars], by decide⟩
  | group members => exact ⟨'(', by simp [Form.chars], by decide⟩

/-- A separator is not taken for a mark. -/
private theorem and_ne_mark {a b r tail : List Char} {mark : Char}
    (hMark : isBlankChar mark = false) (hNe : mark ≠ 'A') (ha : AllBlank a) (hb : AllBlank b) :
    a ++ (['A', 'N', 'D'] ++ r) ≠ b ++ mark :: tail := by
  intro h
  obtain ⟨-, hRest⟩ := append_cut isBlankChar ha hb (isWord_and.not_startsBlank r)
    (by simpa using hMark) h
  rw [List.cons_append, List.cons.injEq] at hRest
  exact hNe hRest.1.symm

/-- One step out of phase. Where one reading waits for the end or for a
separator and the other one for a term, the text has a separator for the
first and a bare `AND` for the second; then the roles are exchanged. -/
private theorem phase_step {a b : List Char} {es es' : List Entry} {e' : Entry} (ha : AllBlank a)
    (hb : AllBlank b) (he' : e'.form.IsReadable)
    (h : a ++ behind es = b ++ (e'.chars ++ behind es')) :
    ∃ e rest c, es = e :: rest ∧ AllBlank c ∧
      c ++ behind es' = [' '] ++ (e.chars ++ behind rest) := by
  cases es with
  | nil =>
      obtain ⟨c, hMem, hShown⟩ := exists_shown he'
      have hBlank : isBlankChar c = true := by
        apply ha
        rw [behind_nil, List.append_nil] at h
        rw [h]
        simp [Entry.chars, hMem]
      rw [hShown] at hBlank
      cases hBlank
  | cons e rest =>
      rw [behind_cons_eq] at h
      have ha' := allBlank_snoc ha
      obtain ⟨scope, form⟩ := e'
      cases scope with
      | some f =>
          rw [scoped_append_behind] at h
          obtain ⟨-, hWord, -⟩ := append_word_cut ha' hb isWord_and (isWord_scopeWord f)
            (startsBlank_space _) (startsBlank_space _) h
          exact absurd hWord.symm (scopeWord_ne_and f)
      | none =>
          cases form with
          | bare before word after =>
              obtain ⟨hBefore, ⟨hWord, -⟩, hAfter⟩ := he'
              rw [unscoped_append_behind, bare_append_behind, ← List.append_assoc b] at h
              have hBoth : AllBlank (b ++ before) := by
                intro c hc
                exact (List.mem_append.1 hc).elim (hb c) (hBefore c)
              obtain ⟨-, -, hRest⟩ := append_word_cut ha' hBoth isWord_and hWord
                (startsBlank_space _) (hAfter.startsBlank_append (startsBlank_behind es')) h
              exact ⟨e, rest, after, rfl, hAfter, hRest.symm⟩
          | phrase text => exact absurd h (and_ne_mark (by decide) (by decide) ha' hb)
          | group members => exact absurd h (and_ne_mark (by decide) (by decide) ha' hb)

/-- Two readings that are out of phase never end at the same place. -/
theorem not_out_of_phase {a b : List Char} {es es' : List Entry} {e' : Entry} (ha : AllBlank a)
    (hb : AllBlank b) (hes : ∀ e ∈ es, e.form.IsReadable) (he' : e'.form.IsReadable)
    (hes' : ∀ e ∈ es', e.form.IsReadable) :
    a ++ behind es ≠ b ++ (e'.chars ++ behind es') := by
  -- two steps bring the roles back and shorten the first reading
  induction es generalizing a b e' es' with
  | nil =>
      intro h
      obtain ⟨e, rest, c, hEs, -⟩ := phase_step ha hb he' h
      cases hEs
  | cons e rest ih =>
      intro h
      obtain ⟨e₁, rest₁, c, hEs, hc, h₁⟩ := phase_step ha hb he' h
      obtain ⟨rfl, rfl⟩ := List.cons.inj hEs
      obtain ⟨e₂, rest₂, d, rfl, hd, h₂⟩ := phase_step hc allBlank_space (hes e (by simp)) h₁
      exact ih hd allBlank_space (fun x hx => hes x (by simp [hx])) (hes' e₂ (by simp))
        (fun x hx => hes' x (by simp [hx])) h₂

/-! ## Readings of a line -/

/-- A scope is not taken for a bare word: the readings would be out of
phase. -/
private theorem scope_ne_bare {f : Field} {v v' : Form} {es es' : List Entry} (hv : v.IsReadable)
    (hv' : v'.IsReadable) (hes : ∀ e ∈ es, e.form.IsReadable)
    (hes' : ∀ e ∈ es', e.form.IsReadable) :
    scopeWord f ++ (' ' :: (v.chars ++ behind es)) ≠ v'.chars ++ behind es' := by
  intro h
  have hWord := isWord_scopeWord f
  cases v' with
  | bare before word after =>
      obtain ⟨hBefore, ⟨hWord', -⟩, hAfter⟩ := hv'
      rw [bare_append_behind] at h
      obtain ⟨-, -, hRest⟩ := append_word_cut allBlank_nil hBefore hWord hWord'
        (startsBlank_space _) (hAfter.startsBlank_append (startsBlank_behind es')) h
      rw [← unscoped_append_behind] at hRest
      exact not_out_of_phase hAfter allBlank_space hes' hv hes hRest.symm
  | phrase text =>
      exact bare_ne_mark (by decide) allBlank_nil hWord (by cases f <;> decide) _ h
  | group members =>
      exact bare_ne_mark (by decide) allBlank_nil hWord (by cases f <;> decide) _ h

/-- The first term of a line ends in one place. -/
theorem entry_cut {e e' : Entry} {es es' : List Entry} (he : e.form.IsReadable)
    (he' : e'.form.IsReadable) (hes : ∀ x ∈ es, x.form.IsReadable)
    (hes' : ∀ x ∈ es', x.form.IsReadable)
    (h : e.chars ++ behind es = e'.chars ++ behind es') : e = e' ∧ behind es = behind es' := by
  obtain ⟨scope, v⟩ := e
  obtain ⟨scope', v'⟩ := e'
  cases scope with
  | none =>
      cases scope' with
      | none =>
          obtain ⟨rfl, hBehind⟩ := chars_append_cut he he' h
          exact ⟨rfl, hBehind⟩
      | some f' =>
          rw [scoped_append_behind, unscoped_append_behind] at h
          exact absurd h.symm (scope_ne_bare he' he hes' hes)
  | some f =>
      cases scope' with
      | none =>
          rw [scoped_append_behind, unscoped_append_behind] at h
          exact absurd h (scope_ne_bare he he' hes hes')
      | some f' =>
          rw [scoped_append_behind, scoped_append_behind] at h
          obtain ⟨-, hWord, hRest⟩ := append_word_cut allBlank_nil allBlank_nil
            (isWord_scopeWord f) (isWord_scopeWord f') (startsBlank_space _)
            (startsBlank_space _) h
          obtain rfl := scopeWord_injective hWord
          obtain ⟨rfl, hBehind⟩ := chars_append_cut he he' (List.cons.inj hRest).2
          exact ⟨rfl, hBehind⟩

/-- What is behind a term has one reading. -/
theorem behind_injective {es es' : List Entry} (hes : ∀ e ∈ es, e.form.IsReadable)
    (hes' : ∀ e ∈ es', e.form.IsReadable) (h : behind es = behind es') : es = es' := by
  induction es generalizing es' with
  | nil =>
      cases es' with
      | nil => rfl
      | cons e' rest' => simp [behind, andChars] at h
  | cons e rest ih =>
      cases es' with
      | nil => simp [behind, andChars] at h
      | cons e' rest' =>
          have hRest : ∀ x ∈ rest, x.form.IsReadable := fun x hx => hes x (by simp [hx])
          have hRest' : ∀ x ∈ rest', x.form.IsReadable := fun x hx => hes' x (by simp [hx])
          obtain ⟨rfl, hBehind⟩ := entry_cut (hes e (by simp)) (hes' e' (by simp)) hRest hRest'
            (List.append_cancel_left h)
          rw [ih hRest hRest' hBehind]

/-- A line has one reading. -/
theorem line_injective {es es' : List Entry} (hNe : es ≠ []) (hNe' : es' ≠ [])
    (hes : ∀ e ∈ es, e.form.IsReadable) (hes' : ∀ e ∈ es', e.form.IsReadable)
    (h : line es = line es') : es = es' := by
  obtain ⟨e, rest, rfl⟩ := List.exists_cons_of_ne_nil hNe
  obtain ⟨e', rest', rfl⟩ := List.exists_cons_of_ne_nil hNe'
  have hRest : ∀ x ∈ rest, x.form.IsReadable := fun x hx => hes x (by simp [hx])
  have hRest' : ∀ x ∈ rest', x.form.IsReadable := fun x hx => hes' x (by simp [hx])
  obtain ⟨rfl, hBehind⟩ := entry_cut (hes e (by simp)) (hes' e' (by simp)) hRest hRest' h
  rw [behind_injective hRest hRest' hBehind]

end NewsAnalytics.Filter
