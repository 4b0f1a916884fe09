/-
  The sync loop and the loops that feed it (`src-tauri/src/scheduler/loops/network.rs`, `events.rs`,
  `monitor.rs`).

  A loop that records an event stores it, lets the egress policy prepare it and hands what goes out
  to the uploader; clipboard and file events are only stored.  The sync loop flushes the uploader,
  marks rows as sent when something was uploaded, and deletes old rows that are marked.

  1. **Code** — what each loop does between two points at which others can run, any number of them
     interleaved (`system`).  A process may end at any time: the table stays, the queue is gone.

  2. **Accounts** — an event is `settled` when a batch with it was accepted or the policy refused it.
     Until then it is `waiting`, for the uploader or for nobody any more, or in the hands of a call
     (`Call.held`).  Every row is accounted for, in every state of every run (`step_accounted`).

  3. **The result** — the mark does not look at the accounts: it takes every older row.  Where no
     event of such a row is waiting or in somebody's hands, marks are honest and retention deletes
     only settled rows (`marks_honest`).
-/
import Oneshim.Lib.Calls
import Oneshim.Network.BatchUploader
import Oneshim.Privacy.Upload
import Oneshim.Storage.Events

namespace Oneshim.Scheduler

open Lib (Calls CallSystem CallMove states Along)

/-! ## The state -/

/-- What the loops are started with. -/
structure Setup where
  policy : PlatformEgressPolicy
  toLowercase : String → String
  sanitizeTitleWithLevel : String → PiiFilterLevel → String
  uploader : UploaderConfig
  retentionDays : Nat

/-- An event on its way out, and the number of its row; it has none when it was not stored. -/
structure Outgoing where
  row : Option Nat
  event : Event

/-- The rows of some events. -/
def rowsOf (events : List Outgoing) : List Nat := events.filterMap Outgoing.row

/-- The table and the uploader, and the rows of the events that the policy has refused, that were not
    offered to it, that were on their way when a process ended, and that were deleted. -/
structure Shared where
  table : EventTable
  uploader : BatchUploader Outgoing
  refused : List Nat
  unoffered : List Nat
  lost : List Nat
  deleted : List Nat

/-- The device before anything is recorded. -/
def Shared.new (setup : Setup) : Shared := ⟨.empty, .new setup.uploader, [], [], [], []⟩

/-! ## Recording an event -/

/-- The loops that poll the clipboard and the directories do not upload. -/
def offered : Event → Bool
  | .clipboard _ => false
  | .fileAccess _ => false
  | _ => true

/-- Where a loop is that records an event. -/
inductive Recording where
  | save (event : Event)
  | prepare (row : Option Nat) (event : Event)
  | add (adding : Adding Outgoing)

/-- The number `save_event` gives to the row, where it makes one. -/
def savedRow (table : EventTable) (event : Event) : Option Nat :=
  if table.holds event.extractEventId then none else some table.nextId

/-- One turn; an event goes on its way also when it could not be stored. -/
def Recording.turn (setup : Setup) (s : Shared) (answer : Answer) :
    Recording → Shared × Recording
  | .save event =>
    let row := if answer.ok then savedRow s.table event else none
    let table := if answer.ok then s.table.saveEvent event else s.table
    if offered event then ({ s with table }, .prepare row event)
    else ({ s with table, unoffered := s.unoffered ++ row.toList }, .add .done)
  | .prepare row event =>
    match setup.policy.prepareEventForUpload setup.toLowercase setup.sanitizeTitleWithLevel event with
    | none => ({ s with refused := s.refused ++ row.toList }, .add .done)
    | some uploadEvent => (s, .add (.enqueue ⟨row, uploadEvent⟩))
  | .add adding =>
    let (uploader, adding) := adding.turn s.uploader
    ({ s with uploader }, .add adding)

/-- The rows of the events in the hands of the call. -/
def Recording.held : Recording → List Nat
  | .save _ => []
  | .prepare row _ => row.toList
  | .add adding => rowsOf adding.held

/-! ## The sync loop -/

/-- Where an iteration of the sync loop is. -/
inductive Syncing where
  | tick
  | flushing (flush : Flush Outgoing)
  | readClock
  | mark (cutoff : Int)
  | takeDropped
  | readClockAgain
  | enforce (now : Int)
  | done

namespace Syncing

/-- Behind the flush: rows are marked when something was uploaded. -/
def flushed : FlushResult → Syncing
  | .ok count => if 0 < count then .readClock else .takeDropped
  | .circuitOpen => .takeDropped
  | .failed => .takeDropped

/-- One turn. -/
def turn (setup : Setup) (s : Shared) (answer : Answer) : Syncing → Shared × Syncing
  | .tick => (s, if setup.policy.enabled then .flushing .start else .takeDropped)
  | .flushing (.returned result) => (s, flushed result)
  | .flushing flush =>
    let (uploader, flush) := flush.turn s.uploader answer
    ({ s with uploader }, .flushing flush)
  | .readClock => (s, .mark answer.now)
  | .mark cutoff =>
    if answer.ok then ({ s with table := s.table.markUnsentAsSentBefore cutoff }, .takeDropped)
    else (s, .takeDropped)
  | .takeDropped => ({ s with uploader := s.uploader.takeDroppedSinceLast.2 }, .readClockAgain)
  | .readClockAgain => (s, .enforce answer.now)
  | .enforce now =>
    if answer.ok then
      ({ s with
          table := s.table.enforceRetention setup.retentionDays now
          deleted := s.deleted ++ (s.table.deletedBy setup.retentionDays now).map EventRow.id }, .done)
    else (s, .done)
  | .done => (s, .done)

/-- The rows of the events in the hands of the call. -/
def held : Syncing → List Nat
  | .flushing flush => rowsOf flush.held
  | _ => []

end Syncing

/-- Where the sync loop is when the process shuts down: it flushes until nothing is left. -/
inductive ShuttingDown where
  | changed
  | flushing (flush : Flush Outgoing)
  | ended

namespace ShuttingDown

/-- Behind a flush. -/
def flushed : FlushResult → ShuttingDown
  | .ok count => if count = 0 then .ended else .flushing .start
  | .circuitOpen => .ended
  | .failed => .ended

/-- One turn. -/
def turn (setup : Setup) (s : Shared) (answer : Answer) : ShuttingDown → Shared × ShuttingDown
  | .changed => (s, if setup.policy.enabled then .flushing .start else .ended)
  | .flushing (.returned result) => (s, flushed result)
  | .flushing flush =>
    let (uploader, flush) := flush.turn s.uploader answer
    ({ s with uploader }, .flushing flush)
  | .ended => (s, .ended)

/-- The rows of the events in the hands of the call. -/
def held : ShuttingDown → List Nat
  | .flushing flush => rowsOf flush.held
  | _ => []

end ShuttingDown

/-! ## The system -/

/-- What can start. -/
inductive Request where
  | record (event : Event)
  | sync
  | shutDown

/-- Where a loop is. -/
inductive Call where
  | recording (stage : Recording)
  | syncing (stage : Syncing)
  | shuttingDown (stage : ShuttingDown)

namespace Call

def turn (setup : Setup) (s : Shared) (answer : Answer) : Call → Shared × Call
  | .recording stage => ((stage.turn setup s answer).1, .recording (stage.turn setup s answer).2)
  | .syncing stage => ((stage.turn setup s answer).1, .syncing (stage.turn setup s answer).2)
  | .shuttingDown stage =>
    ((stage.turn setup s answer).1, .shuttingDown (stage.turn setup s answer).2)

/-- The rows of the events in the hands of the call. -/
def held : Call → List Nat
  | .recording stage => stage.held
  | .syncing stage => stage.held
  | .shuttingDown stage => stage.held

end Call

/-- The loops of the scheduler. -/
def system (setup : Setup) : CallSystem Shared Request Answer Call where
  enter
    | .record event => .recording (.save event)
    | .sync => .syncing .tick
    | .shutDown => .shuttingDown .changed
  turn s _ answer call := call.turn setup s answer

/-- What can happen: a loop moves, or the process ends and is started again. -/
inductive Move where
  | call (move : CallMove Request Answer)
  | restart

/-- The rows of the events in somebody's hands. -/
def heldRows (s : Calls Shared Call) : List Nat := s.calls.flatMap Call.held

/-- One move. -/
def step (setup : Setup) (s : Calls Shared Call) : Move → Calls Shared Call
  | .call move => (system setup).step s move
  | .restart =>
    { shared :=
        { s.shared with
          uploader :=
            { BatchUploader.new setup.uploader with
              dropped := s.shared.uploader.dropped
              uploaded := s.shared.uploader.uploaded }
          lost := s.shared.lost ++ rowsOf s.shared.uploader.queue ++ heldRows s }
      calls := [] }

/-- The state before anything has happened. -/
def start (setup : Setup) : Calls Shared Call := ⟨.new setup, []⟩

/-! ## Accounts -/

/-- The rows whose event was in an accepted batch or was refused by the policy. -/
def Shared.settled (s : Shared) : List Nat :=
  rowsOf (s.uploader.uploaded.flatMap EventBatch.events) ++ s.refused

/-- The rows whose event is in the queue, was dropped for capacity, was not offered to the uploader
    or was lost with a process. -/
def Shared.waiting (s : Shared) : List Nat :=
  rowsOf s.uploader.queue ++ rowsOf s.uploader.dropped ++ s.unoffered ++ s.lost

/-- Sent marks are honest: a row is marked only when its event is settled, and only such rows have
    been deleted. -/
structure Honest (s : Shared) : Prop where
  marked : ∀ row ∈ s.table.rows, row.isSent = true → row.id ∈ s.settled
  deleted : ∀ id ∈ s.deleted, id ∈ s.settled

/-- The cut-off of the mark that a move makes, where it makes one. -/
def markCutoff (s : Calls Shared Call) : Move → Option Int
  | .call (.turn index answer) =>
    match s.calls[index]? with
    | some (.syncing (.mark cutoff)) => if answer.ok then some cutoff else none
    | _ => none
  | _ => none

/-- A mark takes no row whose event is waiting or in somebody's hands. -/
def TakesNoneWaiting (s : Calls Shared Call) (m : Move) : Prop :=
  ∀ cutoff ∈ (markCutoff s m).toList, ∀ row ∈ s.shared.table.rows,
    row.unsentBefore cutoff = true → row.id ∉ s.shared.waiting ∧ row.id ∉ heldRows s

instance (s : Calls Shared Call) (m : Move) : Decidable (TakesNoneWaiting s m) :=
  inferInstanceAs (Decidable (∀ cutoff ∈ (markCutoff s m).toList, ∀ row ∈ s.shared.table.rows,
    row.unsentBefore cutoff = true → row.id ∉ s.shared.waiting ∧ row.id ∉ heldRows s))

/-! ## What a turn does to the accounts -/

/-- The event of the row is settled, waiting or in these hands. -/
def Shared.Accounted (s : Shared) (held : List Nat) (id : Nat) : Prop :=
  id ∈ s.settled ∨ id ∈ s.waiting ∨ id ∈ held

theorem mem_rowsOf {events : List Outgoing} {id : Nat} :
    id ∈ rowsOf events ↔ ∃ outgoing ∈ events, outgoing.row = some id :=
  List.mem_filterMap

theorem Shared.accounted_iff {s : Shared} {events : List Outgoing} {id : Nat} :
    s.Accounted (rowsOf events) id ↔
      (∃ outgoing ∈ s.uploader.places + events, outgoing.row = some id) ∨
        id ∈ s.refused ∨ id ∈ s.unoffered ∨ id ∈ s.lost := by
  simp only [Accounted, settled, waiting, List.mem_append, mem_rowsOf, Multiset.mem_add,
    BatchUploader.mem_places, Multiset.mem_coe, List.mem_flatMap, or_and_right, exists_or]
  grind

/-- What the uploader and a call do between them leaves every event accounted for. -/
theorem Shared.accounted_of_places {s : Shared} {uploader : BatchUploader Outgoing}
    {events held : List Outgoing} {id : Nat}
    (h : uploader.places + held = s.uploader.places + events)
    (hid : s.Accounted (rowsOf events) id) :
    { s with uploader }.Accounted (rowsOf held) id := by
  rw [accounted_iff] at hid ⊢
  simp only
  rwa [h]

/-- What a turn does, as far as the accounts are concerned. -/
structure Keeps (s : Shared) (held : List Nat) (s' : Shared) (held' : List Nat) : Prop where
  settled : ∀ id ∈ s.settled, id ∈ s'.settled
  accounted : ∀ id, s.Accounted held id → s'.Accounted held' id

theorem Keeps.of_uploader {s : Shared} {uploader : BatchUploader Outgoing}
    {events held : List Outgoing} (hplaces : uploader.places + held = s.uploader.places + events)
    (huploaded : s.uploader.uploaded ⊆ uploader.uploaded) :
    Keeps s (rowsOf events) { s with uploader } (rowsOf held) where
  settled id hid := by
    rcases List.mem_append.mp hid with hid | hid
    · obtain ⟨outgoing, houtgoing, hrow⟩ := mem_rowsOf.mp hid
      obtain ⟨batch, hbatch, hevent⟩ := List.mem_flatMap.mp houtgoing
      exact List.mem_append_left _ (mem_rowsOf.mpr
        ⟨outgoing, List.mem_flatMap.mpr ⟨batch, huploaded hbatch, hevent⟩, hrow⟩)
    · exact List.mem_append_right _ hid
  accounted _ hid := Shared.accounted_of_places hplaces hid

theorem Keeps.refl (s : Shared) (held : List Nat) : Keeps s held s held := ⟨fun _ h => h, fun _ h => h⟩

/-- A turn of the recorder keeps the accounts. -/
theorem Recording.turn_keeps (setup : Setup) (s : Shared) (answer : Answer) (stage : Recording) :
    Keeps s stage.held (stage.turn setup s answer).1 (stage.turn setup s answer).2.held := by
  cases stage with
  | save event =>
    simp only [turn]
    split
    · refine ⟨fun _ h => h, fun id hid => ?_⟩
      rcases hid with hid | hid | hid
      · exact .inl hid
      · exact .inr (.inl hid)
      · exact absurd hid List.not_mem_nil
    · refine ⟨fun _ h => h, fun id hid => ?_⟩
      rcases hid with hid | hid | hid
      · exact .inl hid
      · refine .inr (.inl ?_)
        simp only [Shared.waiting, List.mem_append] at hid ⊢
        tauto
      · exact absurd hid List.not_mem_nil
  | prepare row event =>
    simp only [turn]
    split
    · refine ⟨fun id hid => ?_, fun id hid => ?_⟩
      · simp only [Shared.settled, List.mem_append] at hid ⊢
        tauto
      · simp only [Shared.Accounted, Shared.settled, Shared.waiting, List.mem_append, held] at hid ⊢
        tauto
    · next uploadEvent huploadEvent =>
      have hheld : rowsOf [⟨row, uploadEvent⟩] = row.toList := by cases row <;> rfl
      exact ⟨fun _ h => h, fun id hid => by
        rw [held, Adding.held, hheld]
        exact hid⟩
  | add adding =>
    exact .of_uploader (adding.turn_places s.uploader)
      (fun batch hbatch => (adding.turn_uploaded s.uploader).symm ▸ hbatch)

/-- So does a turn of a flush. -/
theorem keeps_flush (s : Shared) (answer : Answer) (flush : Flush Outgoing) :
    Keeps s (rowsOf flush.held) { s with uploader := (flush.turn s.uploader answer).1 }
      (rowsOf (flush.turn s.uploader answer).2.held) :=
  .of_uploader (flush.turn_places s.uploader answer) (flush.turn_uploaded s.uploader answer)

/-- A flush that is over holds nothing. -/
theorem Syncing.held_flushed (result : FlushResult) : (Syncing.flushed result).held = [] := by
  unfold flushed
  split
  · split <;> rfl
  · rfl
  · rfl

theorem ShuttingDown.held_flushed (result : FlushResult) :
    (ShuttingDown.flushed result).held = [] := by
  unfold flushed
  split
  · split <;> rfl
  · rfl
  · rfl

/-- A turn of the sync loop keeps the accounts. -/
theorem Syncing.turn_keeps (setup : Setup) (s : Shared) (answer : Answer) (stage : Syncing) :
    Keeps s stage.held (stage.turn setup s answer).1 (stage.turn setup s answer).2.held := by
  cases stage with
  | tick =>
    simp only [turn]
    split <;> exact .refl s []
  | flushing flush =>
    have hflush := keeps_flush s answer flush
    cases flush with
    | returned result =>
      simp only [turn, held_flushed]
      exact .refl s []
    | _ => exact hflush
  | readClock => exact .refl s []
  | mark cutoff =>
    simp only [turn]
    split
    · exact ⟨fun _ h => h, fun _ h => h⟩
    · exact .refl s []
  | takeDropped => exact ⟨fun _ h => h, fun _ h => h⟩
  | readClockAgain => exact .refl s []
  | enforce now =>
    simp only [turn]
    split
    · exact ⟨fun _ h => h, fun _ h => h⟩
    · exact .refl s []
  | done => exact .refl s []

/-- A turn of the shutdown loses no event that it holds. -/
theorem ShuttingDown.turn_keeps (setup : Setup) (s : Shared) (answer : Answer)
    (stage : ShuttingDown) :
    Keeps s stage.held (stage.turn setup s answer).1 (stage.turn setup s answer).2.held := by
  cases stage with
  | changed =>
    simp only [turn]
    split <;> exact .refl s []
  | flushing flush =>
    have hflush := keeps_flush s answer flush
    cases flush with
    | returned result =>
      simp only [turn, held_flushed]
      exact .refl s []
    | _ => exact hflush
  | ended => exact .refl s []

/-- **A turn keeps the accounts.** -/
theorem Call.turn_keeps (setup : Setup) (s : Shared) (answer : Answer) (call : Call) :
    Keeps s call.held (call.turn setup s answer).1 (call.turn setup s answer).2.held := by
  cases call with
  | recording stage => exact stage.turn_keeps setup s answer
  | syncing stage => exact stage.turn_keeps setup s answer
  | shuttingDown stage => exact stage.turn_keeps setup s answer

/-! ## What a turn does to the table -/

/-- A new row is in the hands of its call, or it is known not to be offered. -/
theorem Recording.mem_rows (setup : Setup) (s : Shared) (answer : Answer) (stage : Recording)
    {row : EventRow} (h : row ∈ (stage.turn setup s answer).1.table.rows) :
    row ∈ s.table.rows ∨ (row.isSent = false ∧
      (stage.turn setup s answer).1.Accounted (stage.turn setup s answer).2.held row.id) := by
  cases stage with
  | save event =>
    cases hok : answer.ok with
    | false =>
      simp only [turn, hok] at h
      split at h
      · exact .inl h
      · exact .inl h
    | true =>
      have hrow : row ∈ (s.table.saveEvent event).rows := by
        simp only [turn, hok] at h
        split at h
        · exact h
        · exact h
      rcases EventTable.mem_saveEvent hrow with hold | ⟨hfresh, hid, hsent⟩
      · exact .inl hold
      · refine .inr ⟨hsent, ?_⟩
        have hsaved : savedRow s.table event = some row.id := by rw [savedRow, hfresh, hid]; rfl
        simp only [turn, hok, hsaved]
        split
        · exact .inr (.inr (List.mem_singleton_self _))
        · refine .inr (.inl ?_)
          simp [Shared.waiting]
  | prepare row' event =>
    simp only [turn] at h
    split at h
    · exact .inl h
    · exact .inl h
  | add adding => exact .inl h

/-- A row of the sync loop's table was there before; it is marked only by a mark. -/
theorem Syncing.mem_rows (setup : Setup) (s : Shared) (answer : Answer) (stage : Syncing)
    {row : EventRow} (h : row ∈ (stage.turn setup s answer).1.table.rows) :
    ∃ old ∈ s.table.rows, old.id = row.id ∧ (row.isSent = true → old.isSent = true ∨
      ∃ cutoff, stage = .mark cutoff ∧ answer.ok = true ∧ old.unsentBefore cutoff = true) := by
  cases stage with
  | mark cutoff =>
    simp only [turn] at h
    split at h
    · next hok =>
      obtain ⟨old, hold, hid, hmarked⟩ := EventTable.mem_markUnsentAsSentBefore h
      refine ⟨old, hold, hid, fun hsent => ?_⟩
      rcases hmarked hsent with hsent | hunsent
      · exact .inl hsent
      · exact .inr ⟨cutoff, rfl, hok, hunsent⟩
    · exact ⟨row, h, rfl, .inl⟩
  | enforce now =>
    simp only [turn] at h
    split at h
    · exact ⟨row, EventTable.mem_enforceRetention h, rfl, .inl⟩
    · exact ⟨row, h, rfl, .inl⟩
  | flushing flush =>
    have hrow : row ∈ s.table.rows := by
      cases flush <;> exact h
    exact ⟨row, hrow, rfl, .inl⟩
  | _ => exact ⟨row, h, rfl, .inl⟩

theorem ShuttingDown.turn_table (setup : Setup) (s : Shared) (answer : Answer)
    (stage : ShuttingDown) : (stage.turn setup s answer).1.table = s.table := by
  cases stage with
  | flushing flush => cases flush <;> rfl
  | _ => rfl

/-- **What a turn does to the table**: a row was there before, and is marked only by a mark; or it is
    new and accounted for. -/
theorem Call.mem_rows (setup : Setup) (s : Shared) (answer : Answer) (call : Call)
    {row : EventRow} (h : row ∈ (call.turn setup s answer).1.table.rows) :
    (∃ old ∈ s.table.rows, old.id = row.id ∧ (row.isSent = true → old.isSent = true ∨
      ∃ cutoff, call = .syncing (.mark cutoff) ∧ answer.ok = true ∧
        old.unsentBefore cutoff = true)) ∨
      (row.isSent = false ∧
        (call.turn setup s answer).1.Accounted (call.turn setup s answer).2.held row.id) := by
  cases call with
  | recording stage =>
    rcases stage.mem_rows setup s answer h with hold | hnew
    · exact .inl ⟨row, hold, rfl, .inl⟩
    · exact .inr hnew
  | syncing stage =>
    obtain ⟨old, hold, hid, hmarked⟩ := stage.mem_rows setup s answer h
    refine .inl ⟨old, hold, hid, fun hsent => ?_⟩
    rcases hmarked hsent with hsent | ⟨cutoff, rfl, hok, hunsent⟩
    · exact .inl hsent
    · exact .inr ⟨cutoff, rfl, hok, hunsent⟩
  | shuttingDown stage =>
    have hrow : row ∈ s.table.rows := stage.turn_table setup s answer ▸ h
    exact .inl ⟨row, hrow, rfl, .inl⟩

/-- Only marked rows are deleted. -/
theorem Call.mem_deleted (setup : Setup) (s : Shared) (answer : Answer) (call : Call) {id : Nat}
    (h : id ∈ (call.turn setup s answer).1.deleted) :
    id ∈ s.deleted ∨ ∃ row ∈ s.table.rows, row.id = id ∧ row.isSent = true := by
  cases call with
  | recording stage =>
    cases stage with
    | save event =>
      simp only [turn, Recording.turn] at h
      split at h <;> exact .inl h
    | prepare row event =>
      simp only [turn, Recording.turn] at h
      split at h <;> exact .inl h
    | add adding => exact .inl h
  | syncing stage =>
    cases stage with
    | enforce now =>
      simp only [turn, Syncing.turn] at h
      split at h
      · rcases List.mem_append.mp h with hold | hnew
        · exact .inl hold
        · obtain ⟨row, hrow, rfl⟩ := List.mem_map.mp hnew
          obtain ⟨hrow, hsent⟩ := EventTable.mem_deletedBy hrow
          exact .inr ⟨row, hrow, rfl, hsent⟩
      · exact .inl h
    | mark cutoff =>
      simp only [turn, Syncing.turn] at h
      split at h <;> exact .inl h
    | flushing flush => cases flush <;> exact .inl h
    | _ => exact .inl h
  | shuttingDown stage =>
    cases stage with
    | flushing flush => cases flush <;> exact .inl h
    | _ => exact .inl h

/-! ## Runs -/

variable {s : Calls Shared Call}

theorem mem_heldRows {id : Nat} :
    id ∈ heldRows s ↔ ∃ (j : Nat) (call : Call), s.calls[j]? = some call ∧ id ∈ call.held := by
  unfold heldRows
  rw [List.mem_flatMap]
  constructor
  · rintro ⟨call, hcall, hid⟩
    obtain ⟨j, hj⟩ := List.mem_iff_getElem?.mp hcall
    exact ⟨j, call, hj, hid⟩
  · rintro ⟨j, call, hcall, hid⟩
    exact ⟨call, List.mem_of_getElem? hcall, hid⟩

/-- What is in the hands of a call that has taken its turn is in somebody's hands. -/
theorem accounted_set {s : Shared} {calls : List Call} {index : Nat} {old call : Call}
    (hold : calls[index]? = some old) {id : Nat} (h : s.Accounted call.held id) :
    s.Accounted (heldRows ⟨s, calls.set index call⟩) id := by
  have hlength : index < calls.length := (List.getElem?_eq_some_iff.mp hold).1
  rcases h with hid | hid | hid
  · exact .inl hid
  · exact .inr (.inl hid)
  · exact .inr (.inr (mem_heldRows.mpr
      ⟨index, call, by simp only [List.getElem?_set_self hlength], hid⟩))

/-- A turn of one call leaves every row accounted for. -/
theorem accounted_turn {setup : Setup} {index : Nat} {answer : Answer} {call : Call}
    (hcall : s.calls[index]? = some call) {id : Nat} (h : s.shared.Accounted (heldRows s) id) :
    (call.turn setup s.shared answer).1.Accounted
      (heldRows ⟨(call.turn setup s.shared answer).1,
        s.calls.set index (call.turn setup s.shared answer).2⟩) id := by
  have hkeeps := call.turn_keeps setup s.shared answer
  rcases h with hid | hid | hid
  · exact accounted_set hcall (hkeeps.accounted id (.inl hid))
  · exact accounted_set hcall (hkeeps.accounted id (.inr (.inl hid)))
  · obtain ⟨j, other, hother, hid⟩ := mem_heldRows.mp hid
    by_cases hj : index = j
    · subst hj
      cases hcall.symm.trans hother
      exact accounted_set hcall (hkeeps.accounted id (.inr (.inr hid)))
    · exact .inr (.inr (mem_heldRows.mpr ⟨j, other, by simpa [List.getElem?_set_ne hj], hid⟩))

/-- The state in every run whose marks take no waiting row. -/
structure Sound (s : Calls Shared Call) : Prop where
  honest : Honest s.shared
  accounted : ∀ row ∈ s.shared.table.rows, s.shared.Accounted (heldRows s) row.id

/-- A mark that takes no waiting row takes settled ones. -/
theorem settled_of_mark {index : Nat} {answer : Answer} {cutoff : Int}
    (hcall : s.calls[index]? = some (.syncing (.mark cutoff))) (hok : answer.ok = true)
    (hallowed : TakesNoneWaiting s (.call (.turn index answer))) {row : EventRow}
    (hrow : row ∈ s.shared.table.rows) (hunsent : row.unsentBefore cutoff = true)
    (haccounted : s.shared.Accounted (heldRows s) row.id) : row.id ∈ s.shared.settled := by
  have hcutoff : cutoff ∈ (markCutoff s (.call (.turn index answer))).toList := by
    simp [markCutoff, hcall, hok]
  have hfree := hallowed cutoff hcutoff row hrow hunsent
  rcases haccounted with hsettled | hwaiting | hheld
  · exact hsettled
  · exact absurd hwaiting hfree.1
  · exact absurd hheld hfree.2

/-- A turn of a call keeps the marks sound. -/
theorem sound_turn {setup : Setup} {index : Nat} {answer : Answer} {call : Call}
    (hcall : s.calls[index]? = some call) (h : Sound s)
    (hallowed : TakesNoneWaiting s (.call (.turn index answer))) :
    Sound ⟨(call.turn setup s.shared answer).1,
      s.calls.set index (call.turn setup s.shared answer).2⟩ := by
  have hkeeps := call.turn_keeps setup s.shared answer
  refine ⟨⟨fun row hrow hsent => ?_, fun id hid => ?_⟩, fun row hrow => ?_⟩
  · rcases call.mem_rows setup s.shared answer hrow with
      ⟨old, hold, hid, hmarked⟩ | ⟨hunsent, -⟩
    · refine hkeeps.settled row.id (hid ▸ ?_)
      rcases hmarked hsent with hsent | ⟨cutoff, rfl, hok, hunsent⟩
      · exact h.honest.marked old hold hsent
      · exact settled_of_mark hcall hok hallowed hold hunsent (h.accounted old hold)
    · rw [hunsent] at hsent
      cases hsent
  · rcases call.mem_deleted setup s.shared answer hid with hid | ⟨row, hrow, rfl, hsent⟩
    · exact hkeeps.settled id (h.honest.deleted id hid)
    · exact hkeeps.settled row.id (h.honest.marked row hrow hsent)
  · rcases call.mem_rows setup s.shared answer hrow with ⟨old, hold, hid, -⟩ | ⟨-, hnew⟩
    · exact accounted_turn hcall (hid ▸ h.accounted old hold)
    · exact accounted_set hcall hnew

/-- What is queued or in somebody's hands when the process ends is lost. -/
theorem sound_restart {setup : Setup} (h : Sound s) :
    Sound (step setup s .restart) := by
  refine ⟨⟨h.honest.marked, h.honest.deleted⟩, fun row hrow => ?_⟩
  rcases h.accounted row hrow with hid | hid | hid
  · exact .inl hid
  · refine .inr (.inl ?_)
    simp only [Shared.waiting, step, List.mem_append] at hid ⊢
    tauto
  · refine .inr (.inl ?_)
    simp only [Shared.waiting, step, List.mem_append]
    exact .inr (.inr hid)

/-- **The step lemma**: the marks stay sound. -/
theorem step_sound (setup : Setup) (s : Calls Shared Call) (m : Move) (h : Sound s)
    (hallowed : TakesNoneWaiting s m) : Sound (step setup s m) := by
  cases m with
  | restart => exact sound_restart h
  | call m =>
    rcases (system setup).step_cases s m with
      ⟨request, rfl, hs⟩ | ⟨index, answer, rfl, ⟨-, hs⟩ | ⟨call, hcall, hs⟩⟩
    · have hheld : heldRows ⟨s.shared, s.calls ++ [(system setup).enter request]⟩ = heldRows s := by
        cases request <;> simp [heldRows, system, Call.held, Recording.held, Syncing.held,
          ShuttingDown.held]
      rw [step, hs]
      exact ⟨h.honest, fun row hrow => hheld ▸ h.accounted row hrow⟩
    · rw [step, hs]
      exact h
    · rw [step, hs]
      exact sound_turn hcall h hallowed

/-- **Sent marks are honest, and retention deletes only settled rows, where** no mark takes a row
    whose event is still waiting or in somebody's hands: any interleaving of any loops, any policy,
    any answers, any clocks, any restarts. -/
theorem marks_honest (setup : Setup) (moves : List Move)
    (h : Along (step setup) TakesNoneWaiting (start setup) moves) :
    ∀ s ∈ states (step setup) (start setup) moves, Honest s.shared := by
  have hstart : Sound (start setup) :=
    ⟨⟨fun row hrow => absurd hrow List.not_mem_nil, fun id hid => absurd hid List.not_mem_nil⟩,
      fun row hrow => absurd hrow List.not_mem_nil⟩
  intro s hs
  exact (Lib.states_invariant (step_sound setup) hstart h s hs).honest

/-! ## Two runs -/

/-- Everything is uploaded as it is. -/
def sampleSetup : Setup where
  policy := ⟨true, .allowFiltered, .default⟩
  toLowercase s := s
  sanitizeTitleWithLevel title _ := title
  uploader := ⟨"session", 10, 3, true, maxUploadQueueSize⟩
  retentionDays := 30

/-- A second, in nanoseconds. -/
def second : Int := 1000000000

/-- The processes at a second. -/
def sampleEvent (time : Int) : Event := .process ⟨time * second, [], 0⟩

/-- A call takes some turns in which all goes well. -/
def turns (index count : Nat) (now : Int) : List Move :=
  List.replicate count (.call (.turn index { now := now * second }))

/-- Something starts and takes some turns. -/
def run (request : Request) (index count : Nat) (now : Int) : List Move :=
  .call (.request request) :: turns index count now

/-- One event is uploaded; a month later its row is deleted. -/
def uploadedRun : List Move :=
  run (.record (sampleEvent 1)) 0 6 1 ++ run .sync 1 14 2 ++ run .sync 2 8 3000000

/-- A second event is recorded while the first one is being uploaded. -/
def overtakenRun : List Move :=
  run (.record (sampleEvent 1)) 0 6 1 ++ run .sync 1 7 2 ++ run (.record (sampleEvent 3)) 2 6 3 ++
    turns 1 5 4

/-- Marking and deleting an uploaded event is honest. -/
theorem marks_honest_uploaded :
    Honest (uploadedRun.foldl (step sampleSetup) (start sampleSetup)).shared :=
  marks_honest sampleSetup uploadedRun (by decide +kernel) _ (Lib.foldl_mem_states _ _)

/-- The second event is still in the queue when its row is marked. -/
theorem queued_event_is_marked :
    ¬ ∀ (setup : Setup) (moves : List Move),
      ∀ s ∈ states (step setup) (start setup) moves, Honest s.shared := by
  intro h
  have hlast := (h sampleSetup overtakenRun _ (Lib.foldl_mem_states _ _)).marked
  have hqueued : ∃ row ∈ (overtakenRun.foldl (step sampleSetup) (start sampleSetup)).shared.table.rows,
      row.isSent = true ∧
        row.id ∉ (overtakenRun.foldl (step sampleSetup) (start sampleSetup)).shared.settled := by
    decide +kernel
  obtain ⟨row, hrow, hsent, hunsettled⟩ := hqueued
  exact hunsettled (hlast row hrow hsent)

end Oneshim.Scheduler
