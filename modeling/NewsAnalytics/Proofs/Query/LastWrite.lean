import NewsAnalytics.Query.Articles
import NewsAnalytics.Query.Listing
import NewsAnalytics.Query.Stats

/-!
# The last write wins

A query is made for something, with its options at their defaults. Then
settings are made, any number of them and in any order, and each writes a
value to one option. Several may write to the same option; the bounds of
time are even written in two ways, in milliseconds or by instant.

Each kind of query has its own settings, and one that touched an option
beside its own would not be noticed as long as settings are tried one at a
time. So what a setting writes is said first, as one option and the value
for it, and then the setting is held to it: its own option takes the value,
and every other option and the rest of the query stay. What any list of
settings does follows by induction, once for all kinds.

## Main results

* `Query.WritesOptions` — what one setting does; `Listing.writesOptions`,
  `ArticlesQuery.writesOptions` and `StatsQuery.writesOptions` show it.
* `Query.WritesOptions.lastWriteWins` — what a list of settings does.
* `Instant.toInt_milliseconds_eq_iff` — what an instant writes to a bound of
  time.
* `settings_last_write_wins` — all of it.
-/

namespace NewsAnalytics

namespace Query

/-! ## Settings and options -/

variable {Q S O F : Type} [DecidableEq O] {Held : O → Type}

/-- The value that a setting writes to an option, if that is the option it
writes to. -/
def written? (write : S → (o : O) × Held o) (o : O) (s : S) : Option (Held o) :=
  if h : (write s).1 = o then some (h ▸ (write s).2) else none

/-- The last value that a list of settings writes to an option, if any of
them writes to it. -/
def lastWritten? (write : S → (o : O) × Held o) (settings : List S) (o : O) : Option (Held o) :=
  (settings.filterMap (written? write o)).getLast?

/-- A query is a fixed part and what its options hold, and a setting does
nothing but what it writes. -/
structure WritesOptions (set : Q → S → Q) (fixed : Q → F) (held : Q → (o : O) → Held o)
    (write : S → (o : O) × Held o) : Prop where
  /-- An option takes what is written to it and holds what it held
  otherwise. -/
  held_set : ∀ q s o, held (set q s) o = (written? write o s).getD (held q o)
  /-- The fixed part stays. -/
  fixed_set : ∀ q s, fixed (set q s) = fixed q
  /-- There is nothing else in a query. -/
  eq_of_held_eq : ∀ q p, fixed q = fixed p → (∀ o, held q o = held p o) → q = p

/-- Of a list of settings only the last write to each option counts. -/
structure LastWriteWins (set : Q → S → Q) (toRequest : Q → Except Error Request) (fixed : Q → F)
    (held : Q → (o : O) → Held o) (write : S → (o : O) × Held o) : Prop where
  /-- An option holds the last value written to it, and what it held before
  if none is. -/
  held_foldl : ∀ q settings o,
    held (settings.foldl set q) o = (lastWritten? write settings o).getD (held q o)
  /-- The fixed part stays. -/
  fixed_foldl : ∀ q (settings : List S), fixed (settings.foldl set q) = fixed q
  /-- With the same last writes the request is the same, or the refusal. -/
  toRequest_foldl : ∀ q settings others,
    (∀ o, lastWritten? write settings o = lastWritten? write others o) →
      toRequest (settings.foldl set q) = toRequest (others.foldl set q)

namespace WritesOptions

variable {set : Q → S → Q} {fixed : Q → F} {held : Q → (o : O) → Held o}
  {write : S → (o : O) × Held o}

theorem held_foldl (h : WritesOptions set fixed held write) (q : Q) (settings : List S) (o : O) :
    held (settings.foldl set q) o = (lastWritten? write settings o).getD (held q o) := by
  induction settings generalizing q with
  | nil => rfl
  | cons s rest ih =>
      rw [List.foldl_cons, ih, h.held_set, lastWritten?, lastWritten?]
      cases hWritten : written? write o s with
      | none => rw [List.filterMap_cons_none hWritten, Option.getD_none]
      | some v =>
          rw [List.filterMap_cons_some hWritten, List.getLast?_cons, Option.getD_some,
            Option.getD_some]

theorem fixed_foldl (h : WritesOptions set fixed held write) (q : Q) (settings : List S) :
    fixed (settings.foldl set q) = fixed q := by
  induction settings generalizing q with
  | nil => rfl
  | cons s rest ih => rw [List.foldl_cons, ih, h.fixed_set]

/-- What a list of settings does, from what one does. -/
theorem lastWriteWins (h : WritesOptions set fixed held write)
    (toRequest : Q → Except Error Request) :
    LastWriteWins set toRequest fixed held write where
  held_foldl := h.held_foldl
  fixed_foldl := h.fixed_foldl
  toRequest_foldl q settings others hLast := by
    refine congrArg toRequest (h.eq_of_held_eq _ _ ?_ ?_)
    · rw [h.fixed_foldl, h.fixed_foldl]
    · intro o
      rw [h.held_foldl, h.held_foldl, hLast]

end WritesOptions

end Query

/-! ## Listings -/

namespace Listing

/-- The options of a listing. -/
inductive OptionName where
  | size
  | sortBy
  | videoOnly
  deriving DecidableEq

/-- The values that an option may hold. -/
abbrev OptionName.Held : OptionName → Type
  | .size => Int64
  | .sortBy => String
  | .videoOnly => Bool

/-- What an option holds. -/
def held (l : Listing) : (o : OptionName) → o.Held
  | .size => l.options.size
  | .sortBy => l.options.sortBy
  | .videoOnly => l.options.videoOnly

/-- The option that a setting writes to, and the value. -/
def Setting.write : Setting → (o : OptionName) × o.Held
  | .size n => ⟨.size, n⟩
  | .sortBy text => ⟨.sortBy, text⟩
  | .videoOnly flag => ⟨.videoOnly, flag⟩

theorem writesOptions : Query.WritesOptions set subject held Setting.write where
  held_set _ s o := by cases s <;> cases o <;> rfl
  fixed_set _ s := by cases s <;> rfl
  eq_of_held_eq q p hSubject hHeld := by
    obtain ⟨_, ⟨⟩⟩ := q
    obtain ⟨_, ⟨⟩⟩ := p
    simp only [mk.injEq, ListingOptions.mk.injEq]
    exact ⟨hSubject, hHeld .size, hHeld .sortBy, hHeld .videoOnly⟩

end Listing

/-! ## Queries for articles -/

namespace ArticlesQuery

/-- The options of a query for articles. -/
inductive OptionName where
  | autoFormat
  | start
  | stop
  | language
  | sortBy
  | videoOnly
  | defaultField
  | size
  | findRelated
  deriving DecidableEq

/-- The values that an option may hold. -/
abbrev OptionName.Held : OptionName → Type
  | .autoFormat | .videoOnly | .findRelated => Bool
  | .start | .stop | .size => Option Int64
  | .language | .defaultField => Option String
  | .sortBy => String

/-- What an option holds. -/
def held (q : ArticlesQuery) : (o : OptionName) → o.Held
  | .autoFormat => q.autoFormat
  | .start => q.start
  | .stop => q.stop
  | .language => q.language
  | .sortBy => q.sortBy
  | .videoOnly => q.videoOnly
  | .defaultField => q.defaultField
  | .size => q.size
  | .findRelated => q.findRelated

/-- The option that a setting writes to, and the value. -/
def Setting.write : Setting → (o : OptionName) × o.Held
  | .autoFormat flag => ⟨.autoFormat, flag⟩
  | .start n => ⟨.start, some n⟩
  | .startAt instant => ⟨.start, some instant.milliseconds⟩
  | .stop n => ⟨.stop, some n⟩
  | .stopAt instant => ⟨.stop, some instant.milliseconds⟩
  | .language text => ⟨.language, text⟩
  | .sortBy text => ⟨.sortBy, text⟩
  | .videoOnly flag => ⟨.videoOnly, flag⟩
  | .defaultField text => ⟨.defaultField, some text⟩
  | .size n => ⟨.size, some n⟩
  | .findRelated flag => ⟨.findRelated, flag⟩

theorem writesOptions : Query.WritesOptions set filter held Setting.write where
  held_set _ s o := by cases s <;> cases o <;> rfl
  fixed_set _ s := by cases s <;> rfl
  eq_of_held_eq q p hFilter hHeld := by
    obtain ⟨⟩ := q
    obtain ⟨⟩ := p
    simp only [mk.injEq]
    exact ⟨hFilter, hHeld .autoFormat, hHeld .start, hHeld .stop, hHeld .language, hHeld .sortBy,
      hHeld .videoOnly, hHeld .defaultField, hHeld .size, hHeld .findRelated⟩

end ArticlesQuery

/-! ## Queries for statistics -/

namespace StatsQuery

/-- The settings that a query for statistics is made with. -/
def required (q : StatsQuery) : Filter × String × String := (q.filter, q.sortBy, q.aggregateBy)

/-- The options of a query for statistics. -/
inductive OptionName where
  | autoFormat
  | start
  | stop
  | language
  | videoOnly
  | defaultField
  | size
  deriving DecidableEq

/-- The values that an option may hold. -/
abbrev OptionName.Held : OptionName → Type
  | .autoFormat | .videoOnly => Bool
  | .start | .stop | .size => Option Int64
  | .language | .defaultField => Option String

/-- What an option holds. -/
def held (q : StatsQuery) : (o : OptionName) → o.Held
  | .autoFormat => q.autoFormat
  | .start => q.start
  | .stop => q.stop
  | .language => q.language
  | .videoOnly => q.videoOnly
  | .defaultField => q.defaultField
  | .size => q.size

/-- The option that a setting writes to, and the value. -/
def Setting.write : Setting → (o : OptionName) × o.Held
  | .autoFormat flag => ⟨.autoFormat, flag⟩
  | .start n => ⟨.start, some n⟩
  | .startAt instant => ⟨.start, some instant.milliseconds⟩
  | .stop n => ⟨.stop, some n⟩
  | .stopAt instant => ⟨.stop, some instant.milliseconds⟩
  | .language text => ⟨.language, text⟩
  | .videoOnly flag => ⟨.videoOnly, flag⟩
  | .defaultField text => ⟨.defaultField, some text⟩
  | .size n => ⟨.size, some n⟩

theorem writesOptions : Query.WritesOptions set required held Setting.write where
  held_set _ s o := by cases s <;> cases o <;> rfl
  fixed_set _ s := by cases s <;> rfl
  eq_of_held_eq q p hRequired hHeld := by
    simp only [required, Prod.mk.injEq] at hRequired
    obtain ⟨hFilter, hSortBy, hAggregateBy⟩ := hRequired
    obtain ⟨⟩ := q
    obtain ⟨⟩ := p
    simp only [mk.injEq]
    exact ⟨hFilter, hSortBy, hAggregateBy, hHeld .autoFormat, hHeld .start, hHeld .stop,
      hHeld .language, hHeld .videoOnly, hHeld .defaultField, hHeld .size⟩

end StatsQuery

/-! ## Bounds of time -/

namespace Instant

/-- The milliseconds from the epoch to an instant, without a bound. -/
def count (t : Instant) : Int := t.seconds.toInt * 1000 + (t.nanoseconds.toNat / 1000000 : Nat)

/-- An instant is stored with all its milliseconds iff they fit into 64
bits, as they do for some 292 million years around the epoch. -/
theorem toInt_milliseconds_eq_iff (t : Instant) :
    t.milliseconds.toInt = t.count ↔
      Int64.minValue.toInt ≤ t.count ∧ t.count ≤ Int64.maxValue.toInt := by
  constructor
  · intro hExact
    rw [← hExact]
    exact ⟨t.milliseconds.minValue_le_toInt, t.milliseconds.toInt_le⟩
  · rintro ⟨hLow, hHigh⟩
    show (Int64.ofInt t.count).toInt = t.count
    rw [← Int64.ofIntLE_eq_ofInt hLow hHigh, Int64.toInt_ofIntLE]

end Instant

/-! ## All queries -/

/-- Settings of a query are independent of each other. An option holds the
last value written to it, by whichever setting, and what it held before if
none is; so two lists of settings with the same last writes lead to the same
request or the same refusal. An instant writes its milliseconds. -/
theorem settings_last_write_wins :
    Query.LastWriteWins Listing.set Listing.toRequest Listing.subject Listing.held
      Listing.Setting.write ∧
    Query.LastWriteWins ArticlesQuery.set ArticlesQuery.toRequest ArticlesQuery.filter
      ArticlesQuery.held ArticlesQuery.Setting.write ∧
    Query.LastWriteWins StatsQuery.set StatsQuery.toRequest StatsQuery.required StatsQuery.held
      StatsQuery.Setting.write ∧
    ∀ t : Instant, t.milliseconds.toInt = t.count ↔
      Int64.minValue.toInt ≤ t.count ∧ t.count ≤ Int64.maxValue.toInt :=
  ⟨Listing.writesOptions.lastWriteWins Listing.toRequest,
    ArticlesQuery.writesOptions.lastWriteWins ArticlesQuery.toRequest,
    StatsQuery.writesOptions.lastWriteWins StatsQuery.toRequest,
    Instant.toInt_milliseconds_eq_iff⟩

/-- A bound of time is written in two ways, and a size is written over. -/
theorem settings_last_write_wins_brexit :
    (∀ o, Query.lastWritten? ArticlesQuery.Setting.write
        [.size 5, .startAt ⟨-1, 999999⟩, .sortBy "fb_total", .size 7] o =
      Query.lastWritten? ArticlesQuery.Setting.write
        [.sortBy "fb_total", .start 3, .size 7, .start (-1000)] o) ∧
    (List.foldl ArticlesQuery.set (.ofFilter (.raw "brexit"))
        [.size 5, .startAt ⟨-1, 999999⟩, .sortBy "fb_total", .size 7]).toRequest =
      (List.foldl ArticlesQuery.set (.ofFilter (.raw "brexit"))
        [.sortBy "fb_total", .start 3, .size 7, .start (-1000)]).toRequest := by
  have hLast : ∀ o, Query.lastWritten? ArticlesQuery.Setting.write
      [.size 5, .startAt ⟨-1, 999999⟩, .sortBy "fb_total", .size 7] o =
        Query.lastWritten? ArticlesQuery.Setting.write
          [.sortBy "fb_total", .start 3, .size 7, .start (-1000)] o := by
    intro o
    cases o <;> rfl
  exact ⟨hLast, settings_last_write_wins.2.1.toRequest_foldl _ _ _ hLast⟩

end NewsAnalytics
