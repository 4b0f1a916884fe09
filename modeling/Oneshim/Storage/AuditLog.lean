/-
  The audit log in the database (`oneshim-storage/src/sqlite/mod.rs`,
  `src-tauri/src/audit_query.rs`).

  A row has the timestamp as text and the status by its name; a lookup compares the texts.

  1. **Rows** — an entry is read back from its row as it was saved (`AuditRow.toEntry_ofEntry`);
     that the text of an instant is read back is the one thing asked of the text's reader.

  2. **Lookup** (`AuditTable.answers`) — in the years 0 to 9999 the lookup finds the newest entries
     of a command of all that were saved, which is what the audit logger expects of its storage.
-/
import Oneshim.Automation.AuditLogger
import Oneshim.Lib.Rfc3339

namespace Oneshim.Automation

open Lib Lib.Rfc3339

/-! ## Rows -/

/-- `AuditStatus` as `{:?}` prints it. -/
def AuditStatus.debug : AuditStatus → String
  | .started => "Started"
  | .completed => "Completed"
  | .failed => "Failed"
  | .denied => "Denied"
  | .timeout => "Timeout"

/-- The status of a row; a name that is not known is taken for `Completed`. -/
def AuditStatus.ofText (text : String) : AuditStatus :=
  if text = "Completed" then .completed
  else if text = "Failed" then .failed
  else if text = "Denied" then .denied
  else if text = "Timeout" then .timeout
  else if text = "Started" then .started
  else .completed

theorem AuditStatus.ofText_debug (status : AuditStatus) : .ofText status.debug = status := by
  cases status <;> decide

/-- A row of `audit_log`. -/
structure AuditRow where
  entryId : String
  timestamp : String
  sessionId : String
  commandId : String
  actionType : String
  status : String
  details : Option String
  executionTimeMs : Option Int64

namespace AuditRow

/-- The columns of an entry. -/
def ofEntry (entry : AuditEntry) : AuditRow :=
  ⟨entry.entryId, toRfc3339 entry.timestamp, entry.sessionId, entry.commandId, entry.actionType,
    entry.status.debug, entry.details, entry.executionTimeMs.map (·.toInt64)⟩

/-- The entry of a row, if its timestamp can be read. -/
def toEntry (parse : String → Option Int) (row : AuditRow) : Option AuditEntry :=
  (parse row.timestamp).map fun timestamp =>
    ⟨row.entryId, timestamp, row.sessionId, row.commandId, row.actionType, .ofText row.status,
      row.details, row.executionTimeMs.map (·.toUInt64)⟩

/-- **An entry is read back as it was saved.** -/
theorem toEntry_ofEntry {parse : String → Option Int}
    (hparse : ∀ instant, Printable instant → parse (toRfc3339 instant) = some instant)
    {entry : AuditEntry} (h : Printable entry.timestamp) :
    (ofEntry entry).toEntry parse = some entry := by
  have htime : (entry.executionTimeMs.map (·.toInt64)).map (·.toUInt64) =
      entry.executionTimeMs := by
    rw [Option.map_map]
    exact (Option.map_congr fun time _ => UInt64.toUInt64_toInt64 time).trans Option.map_id'
  simp only [toEntry, ofEntry, hparse entry.timestamp h, Option.map_some,
    AuditStatus.ofText_debug, htime]

end AuditRow

/-! ## The table -/

/-- The rows of `audit_log`, in the order they were inserted. -/
abbrev AuditTable := List AuditRow

namespace AuditTable

/-- `save_audit_entry`: `INSERT OR IGNORE`, an entry id being there once. -/
def saveAuditEntry (self : AuditTable) (entry : AuditEntry) : AuditTable :=
  if self.any (·.entryId == entry.entryId) then self else self ++ [.ofEntry entry]

/-- `LIMIT ?`, the limit cast to an `i64`: a negative one is none. -/
def atMost (limit : Nat) (rows : List AuditRow) : List AuditRow :=
  if limit < 2 ^ 63 then rows.take limit else rows

/-- `entries_by_command_id`: the newest rows of a command; rows of one timestamp come in any order,
    and those that cannot be read are passed over. -/
def Gets (parse : String → Option Int) (self : AuditTable) (commandId : String) (limit : Nat)
    (entries : List AuditEntry) : Prop :=
  ∃ rows : List AuditRow, rows.Perm (self.filter (·.commandId == commandId)) ∧
    rows.Pairwise (fun a b => b.timestamp ≤ a.timestamp) ∧
    entries = (atMost limit rows).filterMap (·.toEntry parse)

/-! ## Lookup -/

/-- Entries with ids of their own are all there once they are saved. -/
theorem foldl_saveAuditEntry (saved : List AuditEntry) (before : List AuditEntry)
    (hids : ((before ++ saved).map (·.entryId)).Nodup) :
    saved.foldl saveAuditEntry (before.map .ofEntry) = (before ++ saved).map .ofEntry := by
  induction saved generalizing before with
  | nil => rw [List.foldl_nil, List.append_nil]
  | cons entry saved ih =>
    have hnew : (before.map AuditRow.ofEntry).any (·.entryId == entry.entryId) = false := by
      rw [List.any_eq_false]
      intro row hrow heq
      obtain ⟨other, hother, rfl⟩ := List.mem_map.mp hrow
      rw [List.map_append] at hids
      exact (List.nodup_append.mp hids).2.2 other.entryId (List.mem_map_of_mem hother)
        entry.entryId List.mem_cons_self (beq_iff_eq.mp heq)
    have hstep : saveAuditEntry (before.map .ofEntry) entry =
        (before ++ [entry]).map .ofEntry := by
      rw [saveAuditEntry, hnew, if_neg Bool.false_ne_true, List.map_append, List.map_singleton]
    rw [List.foldl_cons, hstep, ih (before ++ [entry]) (by rwa [List.append_assoc]),
      List.append_assoc, List.singleton_append]

/-- The rows of entries are read back in order. -/
theorem filterMap_toEntry {parse : String → Option Int}
    (hparse : ∀ instant, Printable instant → parse (toRfc3339 instant) = some instant)
    {entries : List AuditEntry} (h : ∀ entry ∈ entries, Printable entry.timestamp) :
    (entries.map AuditRow.ofEntry).filterMap (·.toEntry parse) = entries := by
  rw [List.filterMap_map]
  refine (List.filterMap_congr fun entry hentry => ?_).trans List.filterMap_some
  exact AuditRow.toEntry_ofEntry hparse (h entry hentry)

/-- **What is saved is found.**  A lookup in a table of entries with ids of their own is the one the
    audit logger asks its storage for. -/
theorem answers {parse : String → Option Int}
    (hparse : ∀ instant, Printable instant → parse (toRfc3339 instant) = some instant)
    {saved : List AuditEntry} (hids : (saved.map (·.entryId)).Nodup)
    (hsaved : ∀ entry ∈ saved, Printable entry.timestamp) (hsize : saved.length < 2 ^ 63)
    {query : String → Nat → List AuditEntry}
    (hquery : ∀ commandId limit,
      Gets parse (saved.foldl saveAuditEntry []) commandId limit (query commandId limit)) :
    AuditQuery.Answers query saved := by
  intro commandId limit
  obtain ⟨rows, hperm, hsorted, hfound⟩ := hquery commandId limit
  have htable := foldl_saveAuditEntry saved [] hids
  rw [List.map_nil, List.nil_append] at htable
  have hrows : (saved.foldl saveAuditEntry []).filter (·.commandId == commandId) =
      (saved.filter (·.commandId == commandId)).map .ofEntry := by
    rw [htable, List.filter_map]
    rfl
  rw [hrows] at hperm
  -- the rows are the rows of some arrangement of the entries
  obtain ⟨view, rfl, hview⟩ := (congrFun₂ (List.eq_map_comp_perm AuditRow.ofEntry) rows
    (saved.filter (·.commandId == commandId))).mpr hperm
  have hprintable (entry) (h : entry ∈ view) : Printable entry.timestamp :=
    hsaved entry (List.mem_filter.mp (hview.mem_iff.mp h)).1
  have hread : (atMost limit (view.map AuditRow.ofEntry)).filterMap (·.toEntry parse) =
      view.take limit := by
    have hall (entries : List AuditEntry) (h : ∀ entry ∈ entries, entry ∈ view) :=
      filterMap_toEntry hparse fun entry hentry => hprintable entry (h entry hentry)
    unfold atMost
    by_cases hlimit : limit < 2 ^ 63
    · rw [if_pos hlimit, ← List.map_take]
      exact hall _ fun entry h => List.mem_of_mem_take h
    · have hlength : view.length ≤ saved.length :=
        hview.length_eq.trans_le (List.length_filter_le _ _)
      rw [if_neg hlimit, hall view fun entry h => h, List.take_of_length_le (by omega)]
  refine ⟨view, hview, ?_, hfound.trans hread⟩
  rw [List.pairwise_map] at hsorted
  exact hsorted.imp_of_mem fun ha hb hle =>
    (toRfc3339_le_iff (hprintable _ hb) (hprintable _ ha)).mp hle

/-- **The logger over this table** finds the newest of all entries that were saved. -/
theorem entriesByCommandId_saved {parse : String → Option Int}
    (hparse : ∀ instant, Printable instant → parse (toRfc3339 instant) = some instant)
    {self : AuditLogger} {saved : List AuditEntry} (hbuffer : self.buffer <:+ saved)
    (hids : (saved.map (·.entryId)).Nodup)
    (htimes : saved.Pairwise fun a b => a.timestamp ≤ b.timestamp)
    (hsaved : ∀ entry ∈ saved, Printable entry.timestamp) (hsize : saved.length < 2 ^ 63)
    {query : String → Nat → List AuditEntry}
    (hquery : ∀ commandId limit,
      Gets parse (saved.foldl saveAuditEntry []) commandId limit (query commandId limit))
    (commandId : String) (limit : Nat) :
    Top AuditEntry.timestamp limit (saved.filter (·.commandId == commandId))
      (self.entriesByCommandId (some query) commandId limit) :=
  AuditLogger.entriesByCommandId_of_suffix hbuffer hids htimes
    (answers hparse hids hsaved hsize hquery) commandId limit

/-- The instant of a text, looked for by halves. -/
def readBetween (text : String) : (n : Nat) → (start : Int) → Int
  | 0, start => start
  | n + 1, start =>
    let middle := start + 2 ^ n
    if Printable middle ∧ toRfc3339 middle ≤ text then readBetween text n middle
    else readBetween text n start

/-- The instant of a text of the years 0 to 9999. -/
def readRfc3339 (text : String) : Option Int :=
  let instant := readBetween text 69 (-719528 * dayNanos)
  if toRfc3339 instant = text then some instant else none

/-- Halving finds the instant of a text. -/
theorem readBetween_toRfc3339 {instant : Int} (hinstant : Printable instant) {n : Nat} {start : Int}
    (hstart : Printable start) (hle : start ≤ instant) (hlt : instant < start + 2 ^ n) :
    readBetween (toRfc3339 instant) n start = instant := by
  induction n generalizing start with
  | zero => rw [readBetween]; omega
  | succ n ih =>
    rw [Int.pow_succ] at hlt
    unfold readBetween
    dsimp only
    split
    · next h => exact ih h.1 ((toRfc3339_le_iff h.1 hinstant).mp h.2) (by omega)
    · next h =>
      refine ih hstart hle (Int.not_le.mp fun hmiddle => h ?_)
      have hprintable : Printable (start + 2 ^ n) := by
        have hpos : (0 : Int) < 2 ^ n := Int.pow_pos (by decide)
        unfold Printable InRange dayNanos at *
        omega
      exact ⟨hprintable, (toRfc3339_le_iff hprintable hinstant).mpr hmiddle⟩

theorem readRfc3339_toRfc3339 (instant : Int) (h : Printable instant) :
    readRfc3339 (toRfc3339 instant) = some instant := by
  have hread : readBetween (toRfc3339 instant) 69 (-719528 * dayNanos) = instant := by
    unfold Printable InRange dayNanos at h
    unfold dayNanos
    refine readBetween_toRfc3339 (by unfold Printable InRange dayNanos; exact h) (by decide) ?_ ?_
    all_goals omega
  rw [readRfc3339, hread]
  exact if_pos rfl

/-- Four entries, of which two are in the buffer as well; one is of another command, at the time of
    the next one. -/
def sampleEntries : List AuditEntry :=
  [⟨"a", 0, "s", "x", "click", .denied, none, none⟩, ⟨"b", 5, "s", "y", "open", .started, none, none⟩,
    ⟨"c", 5, "s", "x", "type", .failed, some "no window", none⟩,
    ⟨"d", 9, "s", "x", "click", .completed, none, some 40⟩]

def sampleLogger : AuditLogger := { AuditLogger.new 2 1 with buffer := sampleEntries.drop 2 }

/-- The lookup in the table of these entries, the latest row first. -/
def sampleQuery (commandId : String) (limit : Nat) : List AuditEntry :=
  (atMost limit (((sampleEntries.foldl saveAuditEntry []).filter
    (·.commandId == commandId)).reverse)).filterMap (·.toEntry readRfc3339)

/-- Two entries from the buffer, and one more from the table. -/
theorem entriesByCommandId_saved_one :
    (sampleLogger.buffered "x" 3).map (·.entryId) = ["d", "c"] ∧
      (sampleQuery "x" 3).map (·.entryId) = ["d", "c", "a"] ∧
      Top AuditEntry.timestamp 3 (sampleEntries.filter (·.commandId == "x"))
        (sampleLogger.entriesByCommandId (some sampleQuery) "x" 3) := by
  refine ⟨by decide, ?_, entriesByCommandId_saved readRfc3339_toRfc3339
    (List.drop_suffix 2 sampleEntries) (by decide) (by decide) (by decide) (by decide)
    (fun commandId limit => ⟨_, List.reverse_perm _, ?_, rfl⟩) "x" 3⟩
  · have hrows : sampleQuery "x" 3 = (((sampleEntries.filter (·.commandId == "x")).reverse).map
        AuditRow.ofEntry).filterMap (·.toEntry readRfc3339) := by rfl
    rw [hrows, filterMap_toEntry readRfc3339_toRfc3339 (by decide)]
    decide
  · have hsorted : (sampleEntries.foldl saveAuditEntry []).Pairwise
        fun a b => a.timestamp ≤ b.timestamp := by decide +kernel
    exact List.pairwise_reverse.mpr (hsorted.filter _)

end AuditTable

end Oneshim.Automation
