/-
  The events table (`oneshim-storage/src/sqlite/events.rs`).

  An event is stored once under an identifier made from it; a second one with the same identifier is
  IGNORED.  A row is marked as sent by its identifier, or together with all rows that are older than
  a time.  Retention deletes marked rows only.

  Times are nanoseconds since the epoch and are stored and compared as text.  A row is given its
  number by `AUTOINCREMENT`: numbers are not used again.

  A query for a span of time (`Gets`) returns the NEWEST rows first.  A row that was restored from a
  backup has no event that could be read back; it counts all the same.
-/
import Oneshim.Core.Event
import Oneshim.Lib.Hex
import Oneshim.Lib.Rfc3339

namespace Oneshim

open Lib.Hex (lowerDigit)
open Lib.Rfc3339 (toRfc3339 toRfc3339_le_iff dayNanos Printable)

/-! ## Identifiers -/

/-- The `Debug` text of a `UserEventType`. -/
def UserEventType.debug : UserEventType → String
  | .windowChange => "WindowChange"
  | .appSwitch => "AppSwitch"
  | .significantAction => "SignificantAction"
  | .formSubmission => "FormSubmission"

/-- The `Debug` text of a `SystemEventType`. -/
def SystemEventType.debug : SystemEventType → String
  | .metricsUpdate => "MetricsUpdate"
  | .alert => "Alert"
  | .networkChange => "NetworkChange"

/-- The `Debug` text of a `WindowLayoutEventType`. -/
def WindowLayoutEventType.debug : WindowLayoutEventType → String
  | .focus => "Focus"
  | .resize => "Resize"
  | .move => "Move"
  | .maximize => "Maximize"
  | .minimize => "Minimize"
  | .restore => "Restore"

/-- The `Debug` text of a `FileEventType`. -/
def FileEventType.debug : FileEventType → String
  | .created => "Created"
  | .modified => "Modified"
  | .deleted => "Deleted"
  | .renamed => "Renamed"

/-- `Uuid::to_string`: 32 hexadecimal digits in five groups. -/
def uuidText (uuid : BitVec 128) : String :=
  let group (start count : Nat) : List Char := (List.range count).map fun i =>
    lowerDigit (uuid.toNat / 16 ^ (31 - (start + i)) % 16)
  String.ofList (group 0 8 ++ '-' :: (group 8 4 ++ '-' :: (group 12 4 ++ '-' ::
    (group 16 4 ++ '-' :: group 20 12))))

/-- `timestamp_millis`, in decimal. -/
def millisText (timestamp : Int) : String := toString (timestamp / 1000000)

/-- `extract_event_id`. -/
def Event.extractEventId : Event → String
  | .user event => uuidText event.eventId
  | .system event => uuidText event.eventId
  | .context event =>
    "ctx_" ++ millisText event.timestamp ++ "_" ++ event.appName ++ "_" ++
      String.ofList (event.windowTitle.toList.take 20)
  | .input event => "input_" ++ millisText event.timestamp ++ "_" ++ event.appName
  | .process event => "proc_" ++ millisText event.timestamp
  | .window event => "win_" ++ millisText event.timestamp ++ "_" ++ event.eventType.debug
  | .clipboard event => "clip_" ++ millisText event.timestamp
  | .fileAccess event => "fa_" ++ millisText event.timestamp ++ "_" ++ event.relativePath

/-- `extract_event_type`. -/
def Event.extractEventType : Event → String
  | .user event => event.eventType.debug
  | .system event => event.eventType.debug
  | .context _ => "context_change"
  | .input _ => "input_activity"
  | .process _ => "process_snapshot"
  | .window event => "window_" ++ event.eventType.debug
  | .clipboard _ => "clipboard_change"
  | .fileAccess event => "file_" ++ event.eventType.debug

/-- `extract_timestamp`. -/
def Event.extractTimestamp : Event → Int
  | .user event => event.timestamp
  | .system event => event.timestamp
  | .context event => event.timestamp
  | .input event => event.timestamp
  | .process event => event.timestamp
  | .window event => event.timestamp
  | .clipboard event => event.timestamp
  | .fileAccess event => event.timestamp

/-! ## The table -/

/-- A row of `events`; `data` is the event as JSON. -/
structure EventRow where
  id : Nat
  eventId : String
  eventType : String
  timestamp : String
  data : Event
  isSent : Bool

/-- The condition of `mark_unsent_as_sent_before`. -/
def EventRow.unsentBefore (row : EventRow) (cutoff : Int) : Bool :=
  !row.isSent && decide (row.timestamp < toRfc3339 cutoff)

/-- The condition of `enforce_retention`. -/
def EventRow.expired (row : EventRow) (cutoff : Int) : Bool :=
  decide (row.timestamp < toRfc3339 cutoff) && row.isSent

/-- The table and the number of its next row. -/
structure EventTable where
  rows : List EventRow
  nextId : Nat

namespace EventTable

def empty : EventTable := ⟨[], 1⟩

/-- An event is stored under this identifier. -/
def holds (self : EventTable) (eventId : String) : Bool :=
  self.rows.any fun row => row.eventId == eventId

/-- `save_event`: `INSERT OR IGNORE`. -/
def saveEvent (self : EventTable) (event : Event) : EventTable :=
  if self.holds event.extractEventId then self
  else
    { rows := self.rows ++ [⟨self.nextId, event.extractEventId, event.extractEventType,
        toRfc3339 event.extractTimestamp, event, false⟩]
      nextId := self.nextId + 1 }

/-- `mark_unsent_as_sent_before`. -/
def markUnsentAsSentBefore (self : EventTable) (cutoff : Int) : EventTable :=
  { self with rows := self.rows.map fun row =>
      if row.unsentBefore cutoff then { row with isSent := true } else row }

/-- `enforce_retention`. -/
def enforceRetention (self : EventTable) (retentionDays : Nat) (now : Int) : EventTable :=
  { self with rows := self.rows.filter fun row => !row.expired (now - retentionDays * dayNanos) }

/-- The rows it deletes. -/
def deletedBy (self : EventTable) (retentionDays : Nat) (now : Int) : List EventRow :=
  self.rows.filter fun row => row.expired (now - retentionDays * dayNanos)

/-! ## What becomes of a row -/

variable {self : EventTable} {row : EventRow}

/-- Saving an event adds at most one row, not marked, with the next number. -/
theorem mem_saveEvent {event : Event} (h : row ∈ (self.saveEvent event).rows) :
    row ∈ self.rows ∨ (self.holds event.extractEventId = false ∧ row.id = self.nextId ∧
      row.isSent = false) := by
  unfold saveEvent at h
  split at h
  · exact .inl h
  · next hfresh =>
    rcases List.mem_append.mp h with hold | hnew
    · exact .inl hold
    · rw [List.mem_singleton.mp hnew]
      exact .inr ⟨Bool.eq_false_iff.mpr hfresh, rfl, rfl⟩

/-- A row after a mark is a row from before, marked where it was unsent and older. -/
theorem mem_markUnsentAsSentBefore {cutoff : Int}
    (h : row ∈ (self.markUnsentAsSentBefore cutoff).rows) :
    ∃ old ∈ self.rows, old.id = row.id ∧
      (row.isSent = true → old.isSent = true ∨ old.unsentBefore cutoff = true) := by
  obtain ⟨old, hold, rfl⟩ := List.mem_map.mp h
  refine ⟨old, hold, ?_⟩
  split
  · next hmarked => exact ⟨rfl, fun _ => .inr hmarked⟩
  · exact ⟨rfl, .inl⟩

theorem mem_enforceRetention {retentionDays : Nat} {now : Int}
    (h : row ∈ (self.enforceRetention retentionDays now).rows) : row ∈ self.rows :=
  (List.mem_filter.mp h).1

/-- Only marked rows are deleted. -/
theorem mem_deletedBy {retentionDays : Nat} {now : Int}
    (h : row ∈ self.deletedBy retentionDays now) : row ∈ self.rows ∧ row.isSent = true := by
  obtain ⟨hrow, hexpired⟩ := List.mem_filter.mp h
  exact ⟨hrow, (Bool.and_eq_true_iff.mp hexpired).2⟩

end EventTable

/-! ## Reading a span of time -/

/-- What a query sees of a row: the time in the column, and the event where the data is one. -/
structure StoredEvent where
  timestamp : String
  data : Option Event

/-- An event that is saved, at a time with a four-digit year. -/
def StoredEvent.ofEvent (event : Event) : StoredEvent :=
  ⟨toRfc3339 event.extractTimestamp, some event⟩

/-- The content of the table; the time in the column of an event is the event's. -/
structure EventContent where
  rows : List StoredEvent
  sound : ∀ row ∈ rows, ∀ event ∈ row.data,
    row = .ofEvent event ∧ Printable event.extractTimestamp

namespace EventContent

/-- The content of a table of saved events. -/
def ofEvents (events : List Event) (h : ∀ event ∈ events, Printable event.extractTimestamp) :
    EventContent where
  rows := events.map .ofEvent
  sound := by
    intro row hrow event hevent
    obtain ⟨saved, hsaved, rfl⟩ := List.mem_map.mp hrow
    cases hevent
    exact ⟨rfl, h _ hsaved⟩

/-- The rows in a span of time. -/
def between (self : EventContent) (start finish : Int) : List StoredEvent :=
  self.rows.filter fun row =>
    decide (toRfc3339 start ≤ row.timestamp) && decide (row.timestamp ≤ toRfc3339 finish)

/-- `get_events`: the newest rows of a span of time, newest first; rows of one time come in any
    order, and rows without an event are passed over. -/
def Gets (self : EventContent) (start finish : Int) (limit : Nat) (events : List Event) : Prop :=
  ∃ rows : List StoredEvent, rows.Perm (self.between start finish) ∧
    rows.Pairwise (fun a b => b.timestamp ≤ a.timestamp) ∧
    events = (rows.take limit).filterMap (·.data)

/-- **Newest first.** -/
theorem Gets.sorted {self : EventContent} {start finish : Int} {limit : Nat} {events : List Event}
    (h : self.Gets start finish limit events) :
    events.Pairwise fun a b => b.extractTimestamp ≤ a.extractTimestamp := by
  obtain ⟨rows, hperm, hsorted, rfl⟩ := h
  have hsound (row) (hrow : row ∈ rows) : ∀ event ∈ row.data,
      row = .ofEvent event ∧ Printable event.extractTimestamp :=
    self.sound row (List.mem_filter.mp (hperm.mem_iff.mp hrow)).1
  rw [List.pairwise_filterMap]
  refine (hsorted.sublist (List.take_sublist _ _)).imp_of_mem fun ha hb hle a hdata b hdata' => ?_
  obtain ⟨hrow, hprintable⟩ := hsound _ (List.mem_of_mem_take ha) a hdata
  obtain ⟨hrow', hprintable'⟩ := hsound _ (List.mem_of_mem_take hb) b hdata'
  rw [hrow, hrow'] at hle
  exact (toRfc3339_le_iff hprintable' hprintable).mp hle

/-- Saved events of a span of time, newest first, are an answer. -/
theorem gets_ofEvents {saved : List Event} (events : List Event) {start finish : Int}
    (hsaved : ∀ event ∈ saved, Printable event.extractTimestamp) (hstart : Printable start)
    (hfinish : Printable finish)
    (hperm : events.Perm (saved.filter fun event =>
      decide (start ≤ event.extractTimestamp) && decide (event.extractTimestamp ≤ finish)))
    (hsorted : events.Pairwise fun a b => b.extractTimestamp ≤ a.extractTimestamp) (limit : Nat) :
    (ofEvents saved hsaved).Gets start finish limit (events.take limit) := by
  have hprintable (event) (h : event ∈ events) : Printable event.extractTimestamp :=
    hsaved event (List.mem_filter.mp (hperm.mem_iff.mp h)).1
  refine ⟨events.map .ofEvent, ?_, ?_, ?_⟩
  · rw [between, ofEvents, List.filter_map]
    refine (hperm.trans (List.Perm.of_eq (List.filter_congr fun event hevent => ?_))).map _
    simp only [Function.comp_apply, StoredEvent.ofEvent,
      toRfc3339_le_iff hstart (hsaved event hevent), toRfc3339_le_iff (hsaved event hevent) hfinish]
  · rw [List.pairwise_map]
    exact hsorted.imp_of_mem fun ha hb hle =>
      (toRfc3339_le_iff (hprintable _ hb) (hprintable _ ha)).mpr hle
  · rw [← List.map_take, List.filterMap_map]
    exact (List.filterMap_some).symm

end EventContent

end Oneshim
