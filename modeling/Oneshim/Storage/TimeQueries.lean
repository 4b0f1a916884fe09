/-
  Queries by time (`types/time_window.rs`, `sqlite/events.rs`,
  `sqlite/edge_intelligence/suggestions.rs`).

  Both tables keep an instant as the text that `to_rfc3339` prints.  A query compares texts, and its
  bounds come from two printers:

  1. **Events** — the bounds of a window are printed by `to_rfc3339` too.  A year after 9999 is
     printed with a `+`, which comes before every digit: such a bound is taken for one before all
     rows.

  2. **Suggestions** — the start of the lookback is printed by SQLite's `datetime`, with a space
     where `to_rfc3339` has the `T`.  The space comes first, so the comparison sees DATES only; and a
     start that SQLite has no date for is `NULL`, which nothing is later than.

  3. **By instant** (`selects_by_instant_iff`) — when the answers are those for the instants.
-/
import Mathlib
import Oneshim.Storage.Events

namespace Oneshim.TimeQueries

open Lib.Rfc3339

/-! ## Windows -/

/-- `TimeWindow`: both bounds belong to it. -/
structure TimeWindow where
  start : Int
  finish : Int
  ordered : start ≤ finish

/-- `contains`. -/
def TimeWindow.contains (self : TimeWindow) (instant : Int) : Bool :=
  decide (self.start ≤ instant) && decide (instant ≤ self.finish)

/-- `to_sql_pair`. -/
def TimeWindow.toSqlPair (self : TimeWindow) : String × String :=
  (toRfc3339 self.start, toRfc3339 self.finish)

/-! ## Events -/

/-- `save_events_batch`; `save_event` is the batch of one. -/
def saveEventsBatch (table : EventTable) (events : List Event) : EventTable :=
  events.foldl EventTable.saveEvent table

/-- The table after these events were saved. -/
def savedEvents (events : List Event) : EventTable := saveEventsBatch .empty events

/-- `WHERE timestamp >= ?1 AND timestamp <= ?2`. -/
def whereTimestamp (rows : List EventRow) (start finish : String) : List EventRow :=
  rows.filter fun row => decide (start ≤ row.timestamp) && decide (row.timestamp ≤ finish)

/-- `count_events_in_range`. -/
def countEventsInRange (table : EventTable) (window : TimeWindow) : Nat :=
  (whereTimestamp table.rows window.toSqlPair.1 window.toSqlPair.2).length

/-- `get_events`: `ORDER BY timestamp DESC LIMIT ?3`, where rows of one time come in any order.  The
    JSON of a row was written from an event, so no row of the table is passed over as unreadable. -/
def GetsEvents (table : EventTable) (start finish : Int) (limit : Nat) (events : List Event) :
    Prop :=
  ∃ rows : List EventRow,
    rows.Perm (whereTimestamp table.rows (toRfc3339 start) (toRfc3339 finish)) ∧
    rows.Pairwise (fun a b => b.timestamp ≤ a.timestamp) ∧
    events = (rows.take limit).map (·.data)

/-- The instant of a row. -/
def instant (row : EventRow) : Int := row.data.extractTimestamp

/-- The rows with an instant in a window. -/
def within (rows : List EventRow) (start finish : Int) : List EventRow :=
  rows.filter fun row => decide (start ≤ instant row) && decide (instant row ≤ finish)

/-- The newest rows of a window, newest first. -/
def Newest (table : EventTable) (start finish : Int) (limit : Nat) (events : List Event) : Prop :=
  ∃ rows : List EventRow, rows.Perm (within table.rows start finish) ∧
    rows.Pairwise (fun a b => instant b ≤ instant a) ∧ events = (rows.take limit).map (·.data)

/-- No row is lost or found because a bound is after the year 9999. -/
def BoundsFit (rows : List EventRow) (start finish : Int) : Prop :=
  ∀ row ∈ rows, ¬ (FiveDigits finish ∧ start ≤ instant row) ∧
    ¬ (FiveDigits start ∧ ¬ FiveDigits finish ∧ instant row ≤ finish)

/-! ## Suggestions -/

/-- `SuggestionSource`. -/
inductive SuggestionSource where
  | ruleBased
  | llmLocal
  | llmServer

/-- `as_sql_str`, and `enum_to_sql_str`. -/
def SuggestionSource.asSqlStr : SuggestionSource → String
  | ruleBased => "RULE_BASED"
  | llmLocal => "LLM_LOCAL"
  | llmServer => "LLM_SERVER"

/-- `LLM_SERVER_STR`. -/
def llmServerStr : String := "LLM_SERVER"

/-- `Suggestion`, as far as the query sees it. -/
structure Suggestion where
  suggestionId : String
  source : SuggestionSource
  createdAt : Int

/-- A row of `suggestions`, as far as the query sees it. -/
structure SuggestionRow where
  suggestionId : String
  source : String
  createdAt : String

/-- The columns that every save function writes in the same way. -/
def Suggestion.row (self : Suggestion) : SuggestionRow :=
  ⟨self.suggestionId, self.source.asSqlStr, toRfc3339 self.createdAt⟩

/-- `save_suggestion`, `save_suggestion_with_state`, `save_rule_suggestion_sync`: `INSERT OR
    REPLACE` by the id. -/
def saveSuggestion (rows : List SuggestionRow) (suggestion : Suggestion) : List SuggestionRow :=
  (rows.filter fun row => row.suggestionId != suggestion.suggestionId) ++ [suggestion.row]

/-- The table after these suggestions were saved. -/
def savedSuggestions (suggestions : List Suggestion) : List SuggestionRow :=
  suggestions.foldl saveSuggestion []

/-- The instants that SQLite has a date for: noon of the 24th of November 4714 BC to the end of the
    year 9999, in milliseconds. -/
def HasDate (millis : Int) : Prop := -210866760000000 ≤ millis ∧ millis < 253402300800000

instance (millis : Int) : Decidable (HasDate millis) := inferInstanceAs (Decidable (_ ∧ _))

/-- The start of the lookback; SQLite's `now` is in milliseconds. -/
def cutoffMillis (now : Int) (lookbackSecs : Nat) : Int := now / 1000000 - 1000 * lookbackSecs

/-- `datetime('now', '-{lookback_secs} seconds')`; `none` is `NULL`. -/
def datetimeBefore (now : Int) (lookbackSecs : Nat) : Option String :=
  if HasDate (cutoffMillis now lookbackSecs) then
    some (datetimeText (cutoffMillis now lookbackSecs / 1000))
  else none

/-- `has_recent_server_suggestions`. -/
def hasRecentServerSuggestions (rows : List SuggestionRow) (now : Int) (lookbackSecs : Nat) :
    Bool :=
  match datetimeBefore now lookbackSecs with
  | none => false
  | some cutoff => decide (0 < (rows.filter fun row =>
      row.source == llmServerStr && decide (cutoff < row.createdAt)).length)

/-- A suggestion takes the place of the one with its id. -/
def keep (kept : List Suggestion) (suggestion : Suggestion) : List Suggestion :=
  (kept.filter fun old => old.suggestionId != suggestion.suggestionId) ++ [suggestion]

/-- The suggestions in the table: the last one of each id. -/
def latest (suggestions : List Suggestion) : List Suggestion := suggestions.foldl keep []

/-- Created within the lookback. -/
def CreatedWithin (now : Int) (lookbackSecs : Nat) (createdAt : Int) : Prop :=
  now - 1000000000 * lookbackSecs ≤ createdAt ∧ createdAt ≤ now

/-- A server suggestion of the table was created within the lookback. -/
def RecentServer (suggestions : List Suggestion) (now : Int) (lookbackSecs : Nat) : Prop :=
  ∃ s ∈ latest suggestions, s.source = .llmServer ∧ CreatedWithin now lookbackSecs s.createdAt

/-- The UTC date of an instant, as a day number. -/
def utcDate (instant : Int) : Int := instant / dayNanos

/-- A server suggestion of the table has the date of the lookback's start, or a later one. -/
def DatedServer (suggestions : List Suggestion) (now : Int) (lookbackSecs : Nat) : Prop :=
  ∃ s ∈ latest suggestions, s.source = .llmServer ∧
    utcDate (now - 1000000000 * lookbackSecs) ≤ utcDate s.createdAt

/-- No server suggestion passes for recent because of its date alone, and none is missed because the
    start of the lookback has no date. -/
def LookbackFits (suggestions : List Suggestion) (now : Int) (lookbackSecs : Nat) : Prop :=
  if HasDate (cutoffMillis now lookbackSecs) then
    DatedServer suggestions now lookbackSecs → RecentServer suggestions now lookbackSecs
  else ¬ RecentServer suggestions now lookbackSecs

/-! ## What is in the tables -/

/-- A row has the text of its event's instant. -/
theorem timestamp_of_mem_savedEvents {events : List Event} {row : EventRow}
    (h : row ∈ (savedEvents events).rows) :
    row.data ∈ events ∧ row.timestamp = toRfc3339 (instant row) := by
  suffices hrun : ∀ (events : List Event) (table : EventTable),
      ∀ row ∈ (saveEventsBatch table events).rows, row ∈ table.rows ∨
        (row.data ∈ events ∧ row.timestamp = toRfc3339 (instant row)) by
    rcases hrun events .empty row h with hold | hnew
    · cases hold
    · exact hnew
  intro events
  induction events with
  | nil =>
    intro table row hrow
    exact .inl hrow
  | cons event events ih =>
    intro table row hrow
    rcases ih _ row hrow with hsaved | ⟨hmem, htext⟩
    · unfold EventTable.saveEvent at hsaved
      split at hsaved
      · exact .inl hsaved
      · rcases List.mem_append.mp hsaved with hold | hnew
        · exact .inl hold
        · rw [List.mem_singleton.mp hnew]
          exact .inr ⟨List.mem_cons_self, rfl⟩
    · exact .inr ⟨List.mem_cons_of_mem _ hmem, htext⟩

/-- The table holds the rows of the latest suggestions. -/
theorem savedSuggestions_eq (suggestions : List Suggestion) :
    savedSuggestions suggestions = (latest suggestions).map Suggestion.row := by
  suffices hrun : ∀ suggestions kept : List Suggestion,
      suggestions.foldl saveSuggestion (kept.map Suggestion.row) =
        (suggestions.foldl keep kept).map Suggestion.row from hrun suggestions []
  intro suggestions
  induction suggestions with
  | nil =>
    intro kept
    rfl
  | cons suggestion suggestions ih =>
    intro kept
    have hstep : saveSuggestion (kept.map Suggestion.row) suggestion =
        (keep kept suggestion).map Suggestion.row := by
      rw [saveSuggestion, keep, List.filter_map, List.map_append]
      rfl
    rw [List.foldl_cons, List.foldl_cons, hstep, ih]

/-- Each of the latest suggestions is one of them all. -/
theorem mem_of_mem_latest {suggestions : List Suggestion} {s : Suggestion}
    (h : s ∈ latest suggestions) : s ∈ suggestions := by
  suffices hrun : ∀ suggestions kept : List Suggestion,
      ∀ s ∈ suggestions.foldl keep kept, s ∈ kept ∨ s ∈ suggestions by
    rcases hrun suggestions [] s h with hold | hnew
    · cases hold
    · exact hnew
  intro suggestions
  induction suggestions with
  | nil =>
    intro kept s hs
    exact .inl hs
  | cons suggestion suggestions ih =>
    intro kept s hs
    rcases ih _ s hs with hmem | hlater
    · rcases List.mem_append.mp hmem with hold | hnew
      · exact .inl (List.mem_filter.mp hold).1
      · exact .inr (List.mem_singleton.mp hnew ▸ List.mem_cons_self)
    · exact .inr (List.mem_cons_of_mem _ hlater)

/-! ## The events of a window -/

section Events

/-- Every row has the text of an instant in the years 0 to 9999. -/
def Printed (rows : List EventRow) : Prop :=
  ∀ row ∈ rows, row.timestamp = toRfc3339 (instant row) ∧ Printable (instant row)

variable {rows : List EventRow} {start finish : Int}

theorem printed_savedEvents {events : List Event}
    (h : ∀ event ∈ events, Printable event.extractTimestamp) :
    Printed (savedEvents events).rows := by
  intro row hrow
  obtain ⟨hmem, htext⟩ := timestamp_of_mem_savedEvents hrow
  exact ⟨htext, h _ hmem⟩

/-- What the comparison of texts lets through. -/
theorem mem_whereTimestamp (h : Printed rows) {row : EventRow} :
    row ∈ whereTimestamp rows (toRfc3339 start) (toRfc3339 finish) ↔
      row ∈ rows ∧ (start ≤ instant row ∨ FiveDigits start) ∧
        instant row ≤ finish ∧ ¬ FiveDigits finish := by
  rw [whereTimestamp, List.mem_filter, Bool.and_eq_true, decide_eq_true_eq, decide_eq_true_eq]
  refine and_congr_right fun hrow => ?_
  rw [(h row hrow).1, toRfc3339_le_iff_right (h row hrow).2, toRfc3339_le_iff_left (h row hrow).2]

theorem mem_within {row : EventRow} : row ∈ within rows start finish ↔
    row ∈ rows ∧ start ≤ instant row ∧ instant row ≤ finish := by
  rw [within, List.mem_filter, Bool.and_eq_true, decide_eq_true_eq, decide_eq_true_eq]

/-- Where the bounds fit, texts select the rows of the window. -/
theorem whereTimestamp_eq_within (h : Printed rows) (hfit : BoundsFit rows start finish) :
    whereTimestamp rows (toRfc3339 start) (toRfc3339 finish) = within rows start finish := by
  refine List.filter_congr fun row hrow => ?_
  have hprinted := h row hrow
  rw [Bool.eq_iff_iff, Bool.and_eq_true, Bool.and_eq_true, decide_eq_true_eq, decide_eq_true_eq,
    decide_eq_true_eq, decide_eq_true_eq, hprinted.1, toRfc3339_le_iff_right hprinted.2,
    toRfc3339_le_iff_left hprinted.2]
  obtain ⟨hfinish, hstart⟩ := hfit row hrow
  constructor
  · rintro ⟨hafter, hbefore, hfour⟩
    refine ⟨?_, hbefore⟩
    rcases hafter with hafter | hfive
    · exact hafter
    · exact absurd ⟨hfive, hfour, hbefore⟩ hstart
  · rintro ⟨hafter, hbefore⟩
    exact ⟨.inl hafter, hbefore, fun hfive => hfinish ⟨hfive, hafter⟩⟩

/-- Where they do not, one of the two selections is empty and the other is not. -/
theorem empty_of_not_boundsFit (h : Printed rows) (hfit : ¬ BoundsFit rows start finish) :
    (whereTimestamp rows (toRfc3339 start) (toRfc3339 finish) = [] ∧ FiveDigits finish ∧
      within rows start finish ≠ []) ∨
    (whereTimestamp rows (toRfc3339 start) (toRfc3339 finish) ≠ [] ∧ finish < start ∧
      within rows start finish = []) := by
  unfold BoundsFit at hfit
  push Not at hfit
  obtain ⟨row, hrow, hmiss⟩ := hfit
  have hprinted := (h row hrow).2
  by_cases hlost : FiveDigits finish ∧ start ≤ instant row
  · -- the end is taken for a time before all rows
    refine .inl ⟨?_, hlost.1, ?_⟩
    · rw [List.eq_nil_iff_forall_not_mem]
      intro other hother
      exact ((mem_whereTimestamp h).mp hother).2.2.2 hlost.1
    · refine List.ne_nil_of_mem (mem_within.mpr ⟨hrow, hlost.2, ?_⟩)
      have hfive := hlost.1
      unfold Printable InRange FiveDigits dayNanos at *
      omega
  · -- the start is taken for one
    obtain ⟨hfive, hfour, hbefore⟩ := hmiss fun hfive => Int.not_le.mp fun hle => hlost ⟨hfive, hle⟩
    refine .inr ⟨List.ne_nil_of_mem ((mem_whereTimestamp h).mpr
      ⟨hrow, .inr hfive, hbefore, hfour⟩), ?_, ?_⟩
    · unfold FiveDigits dayNanos at hfive hfour
      omega
    · rw [List.eq_nil_iff_forall_not_mem]
      intro other hother
      obtain ⟨-, hstart, hfinish⟩ := mem_within.mp hother
      unfold FiveDigits dayNanos at hfive hfour
      omega

/-- Sorting puts the greatest first. -/
theorem pairwise_sortedBy {β : Type} [LinearOrder β] (key : EventRow → β) (rows : List EventRow) :
    (rows.mergeSort fun a b => decide (key b ≤ key a)).Pairwise fun a b => key b ≤ key a := by
  refine (List.pairwise_mergeSort ?_ ?_ _).imp fun h => of_decide_eq_true h
  · intro a b c hab hbc
    exact decide_eq_true ((of_decide_eq_true hbc).trans (of_decide_eq_true hab))
  · intro a b
    rw [Bool.or_eq_true, decide_eq_true_eq, decide_eq_true_eq]
    exact le_total _ _

/-- Some answer is given. -/
theorem getsEvents_exists (table : EventTable) (start finish : Int) (limit : Nat) :
    ∃ rows : List EventRow,
      rows.Perm (whereTimestamp table.rows (toRfc3339 start) (toRfc3339 finish)) ∧
      GetsEvents table start finish limit ((rows.take limit).map (·.data)) := by
  have hperm := List.mergeSort_perm
    (whereTimestamp table.rows (toRfc3339 start) (toRfc3339 finish))
    fun a b => decide (b.timestamp ≤ a.timestamp)
  exact ⟨_, hperm, _, hperm, pairwise_sortedBy (·.timestamp) _, rfl⟩

/-- **`get_events`** returns the newest rows of the window unless a bound has five digits in the
    year and stands for the wrong side. -/
theorem get_newest_iff {table : EventTable} (h : Printed table.rows) {limit : Nat} :
    (∀ answer, GetsEvents table start finish limit answer →
      Newest table start finish limit answer) ↔
      limit = 0 ∨ BoundsFit table.rows start finish := by
  constructor
  · intro hnewest
    by_contra hnot
    push Not at hnot
    obtain ⟨hlimit, hfit⟩ := hnot
    obtain ⟨rows, hperm, hgets⟩ := getsEvents_exists table start finish limit
    obtain ⟨newest, hnewestPerm, -, hanswer⟩ := hnewest _ hgets
    have hlength : (rows.take limit).length = (newest.take limit).length := by
      simpa only [List.length_map] using congrArg List.length hanswer
    rw [List.length_take, List.length_take, hperm.length_eq, hnewestPerm.length_eq] at hlength
    rcases empty_of_not_boundsFit h hfit with ⟨hnone, -, hsome⟩ | ⟨hsome, -, hnone⟩
    · have hpos := List.length_pos_iff.mpr hsome
      rw [hnone, List.length_nil] at hlength
      omega
    · have hpos := List.length_pos_iff.mpr hsome
      rw [hnone, List.length_nil] at hlength
      omega
  · rintro hfit answer ⟨rows, hperm, hsorted, rfl⟩
    rcases hfit with rfl | hfit
    · refine ⟨(within table.rows start finish).mergeSort
        (fun a b => decide (instant b ≤ instant a)), List.mergeSort_perm _ _,
        pairwise_sortedBy instant _, by simp⟩
    · rw [whereTimestamp_eq_within h hfit] at hperm
      refine ⟨rows, hperm, hsorted.imp_of_mem fun {a b} ha hb hle => ?_, rfl⟩
      have hprintedA := h a (mem_within.mp (hperm.mem_iff.mp ha)).1
      have hprintedB := h b (mem_within.mp (hperm.mem_iff.mp hb)).1
      rw [hprintedA.1, hprintedB.1] at hle
      exact (toRfc3339_le_iff hprintedB.2 hprintedA.2).mp hle

/-- **`count_events_in_range`** counts the rows of the window unless its end has five digits in the
    year and some row is not before its start. -/
theorem count_exact_iff {table : EventTable} (h : Printed table.rows) (window : TimeWindow) :
    countEventsInRange table window =
        (table.rows.filter fun row => window.contains (instant row)).length ↔
      BoundsFit table.rows window.start window.finish := by
  change (whereTimestamp table.rows (toRfc3339 window.start) (toRfc3339 window.finish)).length =
    (within table.rows window.start window.finish).length ↔ _
  constructor
  · intro hlength
    by_contra hfit
    rcases empty_of_not_boundsFit h hfit with ⟨hnone, -, hsome⟩ | ⟨-, hinverted, -⟩
    · rw [hnone, List.length_nil] at hlength
      exact hsome (List.length_eq_zero_iff.mp hlength.symm)
    · have hordered := window.ordered
      omega
  · intro hfit
    rw [whereTimestamp_eq_within h hfit]

end Events

/-! ## The suggestions of a lookback -/

section Suggestions

variable {suggestions : List Suggestion} {now : Int} {lookbackSecs : Nat}

/-- **The query sees dates only.** -/
theorem hasRecentServerSuggestions_iff (h : ∀ s ∈ suggestions, Printable s.createdAt) :
    hasRecentServerSuggestions (savedSuggestions suggestions) now lookbackSecs = true ↔
      HasDate (cutoffMillis now lookbackSecs) ∧ DatedServer suggestions now lookbackSecs := by
  unfold hasRecentServerSuggestions datetimeBefore
  by_cases hdate : HasDate (cutoffMillis now lookbackSecs)
  · rw [if_pos hdate]
    simp only [decide_eq_true_eq, List.length_pos_iff_exists_mem, List.mem_filter,
      Bool.and_eq_true, beq_iff_eq, hdate, true_and, savedSuggestions_eq, List.mem_map]
    have hday : cutoffMillis now lookbackSecs / 1000 / 86400 =
        utcDate (now - 1000000000 * lookbackSecs) := by
      unfold cutoffMillis utcDate dayNanos
      omega
    have hfour : cutoffMillis now lookbackSecs / 1000 / 86400 < 2932897 := by
      unfold HasDate at hdate
      omega
    constructor
    · rintro ⟨row, ⟨s, hs, rfl⟩, hsource, hlater⟩
      have hserver : s.source = .llmServer := by
        cases hkind : s.source <;>
          simp_all [Suggestion.row, SuggestionSource.asSqlStr, llmServerStr]
      refine ⟨s, hs, hserver, ?_⟩
      rw [← hday]
      exact (datetimeText_lt_iff hfour (h s (mem_of_mem_latest hs))).mp hlater
    · rintro ⟨s, hs, hserver, hlater⟩
      refine ⟨s.row, ⟨s, hs, rfl⟩, ?_, ?_⟩
      · rw [Suggestion.row, hserver]
        rfl
      · rw [← hday] at hlater
        exact (datetimeText_lt_iff hfour (h s (mem_of_mem_latest hs))).mpr hlater
  · rw [if_neg hdate]
    simp [hdate]

/-- What was created within the lookback has its date or a later one. -/
theorem dated_of_recent (h : RecentServer suggestions now lookbackSecs) :
    DatedServer suggestions now lookbackSecs := by
  obtain ⟨s, hs, hserver, hstart, -⟩ := h
  refine ⟨s, hs, hserver, ?_⟩
  exact Int.ediv_le_ediv (by decide) hstart

/-- **`has_recent_server_suggestions`** is right unless a date passes for recent, or the start of
    the lookback has no date. -/
theorem recent_exact_iff (h : ∀ s ∈ suggestions, Printable s.createdAt) :
    (hasRecentServerSuggestions (savedSuggestions suggestions) now lookbackSecs = true ↔
      RecentServer suggestions now lookbackSecs) ↔ LookbackFits suggestions now lookbackSecs := by
  rw [hasRecentServerSuggestions_iff h]
  unfold LookbackFits
  split
  · next hdate =>
    constructor
    · intro hexact hdated
      exact hexact.mp ⟨hdate, hdated⟩
    · intro hfits
      exact ⟨fun hfound => hfits hfound.2, fun hrecent => ⟨hdate, dated_of_recent hrecent⟩⟩
  · next hdate =>
    constructor
    · intro hexact hrecent
      exact hdate (hexact.mpr hrecent).1
    · intro hnone
      exact iff_of_false (fun hfound => hdate hfound.1) hnone

end Suggestions

/-! ## Both tables -/

/-- The three queries answer for instants. -/
structure SelectsByInstant (events : List Event) (suggestions : List Suggestion)
    (start finish : Int) (limit : Nat) (window : TimeWindow) (now : Int) (lookbackSecs : Nat) :
    Prop where
  get_newest : ∀ answer, GetsEvents (savedEvents events) start finish limit answer →
    Newest (savedEvents events) start finish limit answer
  count_exact : countEventsInRange (savedEvents events) window =
    ((savedEvents events).rows.filter fun row => window.contains (instant row)).length
  recent_exact :
    hasRecentServerSuggestions (savedSuggestions suggestions) now lookbackSecs = true ↔
      RecentServer suggestions now lookbackSecs

/-- **When the answers are those for the instants.** -/
theorem selects_by_instant_iff {events : List Event} {suggestions : List Suggestion}
    (hevents : ∀ event ∈ events, Printable event.extractTimestamp)
    (hsuggestions : ∀ s ∈ suggestions, Printable s.createdAt) (start finish : Int) (limit : Nat)
    (window : TimeWindow) (now : Int) (lookbackSecs : Nat) :
    SelectsByInstant events suggestions start finish limit window now lookbackSecs ↔
      (limit = 0 ∨ BoundsFit (savedEvents events).rows start finish) ∧
        BoundsFit (savedEvents events).rows window.start window.finish ∧
        LookbackFits suggestions now lookbackSecs := by
  have hprinted := printed_savedEvents hevents
  constructor
  · rintro ⟨hnewest, hcount, hrecent⟩
    exact ⟨(get_newest_iff hprinted).mp hnewest, (count_exact_iff hprinted window).mp hcount,
      (recent_exact_iff hsuggestions).mp hrecent⟩
  · rintro ⟨hget, hwindow, hlookback⟩
    exact ⟨(get_newest_iff hprinted).mpr hget, (count_exact_iff hprinted window).mpr hwindow,
      (recent_exact_iff hsuggestions).mpr hlookback⟩

/-- Three events of the first of March 2024: the first is before ten o'clock, the others have half a
    second and a whole one. -/
def sampleEvents : List Event :=
  [.clipboard ⟨1709287199999000000, .text, 3, none⟩,
    .clipboard ⟨1709287200500000000, .image, 0, none⟩,
    .clipboard ⟨1709287201000000000, .text, 5, none⟩]

/-- One of them is a server suggestion that was made again, of the same morning. -/
def sampleSuggestions : List Suggestion :=
  [⟨"s1", .llmServer, 1709251200000000000⟩, ⟨"s2", .ruleBased, 1709287210000000000⟩,
    ⟨"s1", .llmServer, 1709287200500000000⟩]

/-- Events in and out of the window, and suggestions in and out of the lookback. -/
theorem selects_by_instant_iff_sample :
    SelectsByInstant sampleEvents sampleSuggestions 1709287200000000000 1709287201000000000 1
      ⟨1709287200500000000, 1709287205000000000, by decide⟩ 1709287230000000000 60 := by
  have hfour : ¬ FiveDigits 1709287200000000000 ∧ ¬ FiveDigits 1709287201000000000 ∧
      ¬ FiveDigits 1709287200500000000 ∧ ¬ FiveDigits 1709287205000000000 := by
    unfold FiveDigits
    decide +kernel
  refine (selects_by_instant_iff (by decide +kernel) (by decide +kernel) _ _ _ _ _ _).mpr
    ⟨.inr fun row _ => ?_, fun row _ => ?_, ?_⟩
  · exact ⟨fun h => hfour.2.1 h.1, fun h => hfour.1 h.1⟩
  · exact ⟨fun h => hfour.2.2.2 h.1, fun h => hfour.2.2.1 h.1⟩
  · rw [LookbackFits, if_pos (by decide +kernel)]
    intro _
    exact ⟨_, List.mem_of_getElem? (i := 1) rfl, rfl, by unfold CreatedWithin; decide +kernel⟩

/-- A server suggestion of ten o'clock is taken for recent at five past ten, one minute back. -/
theorem stale_suggestion_counts :
    ¬ SelectsByInstant [] [⟨"s1", .llmServer, 1709287200500000000⟩] 0 0 10 ⟨0, 0, le_rfl⟩
      1709287500000000000 60 := by
  intro h
  have hcounts : hasRecentServerSuggestions
      (savedSuggestions [⟨"s1", .llmServer, 1709287200500000000⟩]) 1709287500000000000 60 =
        true := by
    decide +kernel
  obtain ⟨s, hs, -, hstart, -⟩ := h.recent_exact.mp hcounts
  rw [show s = ⟨"s1", .llmServer, 1709287200500000000⟩ from List.mem_singleton.mp hs] at hstart
  exact absurd hstart (by decide)

end Oneshim.TimeQueries
