/-
  The batch uploader (`oneshim-network/src/batch_uploader.rs`).

  Events wait in a lock-free queue with an atomic counter beside it.  Adding events drops the OLDEST
  where there is no room for them; a flush takes a part of the queue, uploads it with retries, and
  puts it back when the last attempt has failed.

  1. **Code** — one turn for each operation on the queue or on a counter: calls run interleaved
     between any two of them.  The predicate of the tracking schedule, the server's answers and the
     clocks are the environment's.

  2. **Conservation** (`Adding.turn_places`, `Flush.turn_places`) — no turn makes, loses or doubles an
     event: it is in the queue, in the hands of a call, dropped for capacity or uploaded.
-/
import Mathlib.Algebra.Order.Group.Multiset
import Mathlib.Tactic.Abel
import Oneshim.Network.CircuitBreaker

namespace Oneshim

/-! ## The uploader -/

/-- What is given to the uploader when it is made. -/
structure UploaderConfig where
  sessionId : String
  maxBatchSize : Nat
  maxRetries : Nat
  dynamicBatch : Bool
  maxQueueSize : Nat

/-- `EventBatch`. -/
structure EventBatch (ε : Type) where
  sessionId : String
  events : List ε
  createdAt : Int

/-- `BatchUploader`; the events that were dropped and the batches that the server has accepted are
    remembered with it. -/
structure BatchUploader (ε : Type) where
  config : UploaderConfig
  queue : List ε
  queueSize : Nat
  failedBatches : Nat
  totalDropped : Nat
  cycleDropped : Nat
  lastUploadOk : Option Bool
  circuitBreaker : CircuitBreaker
  dropped : List ε
  uploaded : List (EventBatch ε)

/-- `MAX_UPLOAD_QUEUE_SIZE`. -/
def maxUploadQueueSize : Nat := 10000

/-- `fetch_add` on a `usize`, which wraps around. -/
def fetchAdd (n count : Nat) : Nat :=
  if n + count < 2 ^ 64 then n + count else n + count - 2 ^ 64

/-- `fetch_sub` on a `usize`, which wraps around. -/
def fetchSub (n count : Nat) : Nat := if count ≤ n then n - count else n + 2 ^ 64 - count

variable {ε : Type}

/-- `BatchUploader::new`. -/
def BatchUploader.new (config : UploaderConfig) : BatchUploader ε where
  config := config
  queue := []
  queueSize := 0
  failedBatches := 0
  totalDropped := 0
  cycleDropped := 0
  lastUploadOk := none
  circuitBreaker := .new .default
  dropped := []
  uploaded := []

/-- `take_dropped_since_last`. -/
def BatchUploader.takeDroppedSinceLast (self : BatchUploader ε) : Nat × BatchUploader ε :=
  (self.cycleDropped, { self with cycleDropped := 0 })

/-- `compute_batch_size`. -/
def BatchUploader.computeBatchSize (self : BatchUploader ε) (queueLen : Nat) : Nat :=
  if !self.config.dynamicBatch then self.config.maxBatchSize
  else if queueLen < 10 then queueLen
  else if queueLen > 50 then min (self.config.maxBatchSize * 2) queueLen
  else self.config.maxBatchSize

/-! ## Adding events -/

/-- Where a call that adds events is: `enqueue`, `enqueue_many` and `requeue_failed_events` read the
    counter, drop the oldest events (`drop_oldest`), push the new ones and count them. -/
inductive Adding (ε : Type) where
  | enqueue (event : ε)
  | enqueueMany (events : List ε)
  | evict (left dropped : Nat) (events : List ε)
  | discount (dropped : Nat) (events : List ε)
  | tally (dropped : Nat) (events : List ε)
  | push (events : List ε) (added : Nat)
  | count (added : Nat)
  | done

namespace Adding

/-- Behind the loop of `drop_oldest`. -/
def evicted (dropped : Nat) (events : List ε) : Adding ε :=
  if 0 < dropped then .discount dropped events else .push events events.length

/-- One turn. -/
def turn (self : BatchUploader ε) : Adding ε → BatchUploader ε × Adding ε
  | .enqueue event =>
    if self.config.maxQueueSize ≤ self.queueSize then (self, .evict 1 0 [event])
    else (self, .push [event] 1)
  | .enqueueMany events =>
    if events.isEmpty then (self, .done)
    else
      let totalAfter := fetchAdd self.queueSize events.length
      if self.config.maxQueueSize < totalAfter then
        (self, .evict (totalAfter - self.config.maxQueueSize) 0 events)
      else (self, .push events events.length)
  | .evict 0 dropped events => (self, evicted dropped events)
  | .evict (left + 1) dropped events =>
    match self.queue with
    | [] => (self, evicted dropped events)
    | oldest :: queue =>
      ({ self with queue := queue, dropped := self.dropped ++ [oldest] },
        .evict left (dropped + 1) events)
  | .discount dropped events =>
    ({ self with queueSize := fetchSub self.queueSize dropped }, .tally dropped events)
  | .tally dropped events =>
    ({ self with
        totalDropped := fetchAdd self.totalDropped dropped
        cycleDropped := fetchAdd self.cycleDropped dropped }, .push events events.length)
  | .push [] added => (self, .count added)
  | .push (event :: events) added =>
    ({ self with queue := self.queue ++ [event] }, .push events added)
  | .count added => ({ self with queueSize := fetchAdd self.queueSize added }, .done)
  | .done => (self, .done)

/-- The events in the hands of the call. -/
def held : Adding ε → List ε
  | .enqueue event => [event]
  | .enqueueMany events => events
  | .evict _ _ events => events
  | .discount _ events => events
  | .tally _ events => events
  | .push events _ => events
  | .count _ => []
  | .done => []

end Adding

/-! ## Flushing -/

/-- What the environment says at a turn. -/
structure Answer where
  /-- `upload_suppressed`. -/
  suppressed : Bool := false
  /-- `Instant::now`. -/
  instant : Nat := 0
  /-- `Utc::now`. -/
  now : Int := 0
  /-- The request succeeds. -/
  ok : Bool := true

/-- What `flush` returns. -/
inductive FlushResult where
  | ok (count : Nat)
  | circuitOpen
  | failed

/-- Where a call of `flush` is. -/
inductive Flush (ε : Type) where
  | start
  | load
  | check (size : Nat)
  | drain (left : Nat) (events : List ε)
  | discount (events : List ε)
  | upload (attempt : Nat) (batch : EventBatch ε)
  | succeeded (count : Nat)
  | exhausted (events : List ε)
  | requeue (adding : Adding ε)
  | returned (result : FlushResult)

namespace Flush

/-- Behind the loop that drains. -/
def drained (events : List ε) : Flush ε :=
  if events.isEmpty then .returned (.ok 0) else .discount events

/-- One turn. -/
def turn (self : BatchUploader ε) (answer : Answer) : Flush ε → BatchUploader ε × Flush ε
  | .start => (self, if answer.suppressed then .returned (.ok 0) else .load)
  | .load => (self, if self.queueSize = 0 then .returned (.ok 0) else .check self.queueSize)
  | .check size =>
    let (state, circuitBreaker) := self.circuitBreaker.check answer.instant
    let self := { self with circuitBreaker }
    match state with
    | .openUntil _ => (self, .returned .circuitOpen)
    | .halfOpen => (self, .drain (min size (self.computeBatchSize size)) [])
    | .closed => (self, .drain (min size (self.computeBatchSize size)) [])
  | .drain 0 events => (self, drained events)
  | .drain (left + 1) events =>
    match self.queue with
    | [] => (self, drained events)
    | oldest :: queue => ({ self with queue := queue }, .drain left (events ++ [oldest]))
  | .discount events =>
    ({ self with queueSize := fetchSub self.queueSize events.length },
      .upload 0 ⟨self.config.sessionId, events, answer.now⟩)
  | .upload attempt batch =>
    if answer.ok then
      ({ self with uploaded := self.uploaded ++ [batch] }, .succeeded batch.events.length)
    else if attempt < self.config.maxRetries then (self, .upload (attempt + 1) batch)
    else (self, .exhausted batch.events)
  | .succeeded count =>
    ({ self with
        lastUploadOk := self.lastUploadOk.map fun _ => true
        circuitBreaker := self.circuitBreaker.recordSuccess }, .returned (.ok count))
  | .exhausted events =>
    ({ self with
        lastUploadOk := self.lastUploadOk.map fun _ => false
        circuitBreaker := self.circuitBreaker.recordFailure answer.instant
        failedBatches := fetchAdd self.failedBatches 1 }, .requeue (.enqueueMany events))
  | .requeue .done => (self, .returned .failed)
  | .requeue adding =>
    let (self, adding) := adding.turn self
    (self, .requeue adding)
  | .returned result => (self, .returned result)

/-- The events in the hands of the call. -/
def held : Flush ε → List ε
  | .drain _ events => events
  | .discount events => events
  | .upload _ batch => batch.events
  | .exhausted events => events
  | .requeue adding => adding.held
  | _ => []

end Flush

/-! ## Conservation -/

/-- The events that the uploader has or has done something with, each as often as it was added. -/
def BatchUploader.places (self : BatchUploader ε) : Multiset ε :=
  self.queue + self.dropped + (self.uploaded.flatMap EventBatch.events : List ε)

theorem BatchUploader.mem_places {self : BatchUploader ε} {event : ε} :
    event ∈ self.places ↔ event ∈ self.queue ∨ event ∈ self.dropped ∨
      ∃ batch ∈ self.uploaded, event ∈ batch.events := by
  simp [places]

/-- The first event of the queue goes to the end of another list. -/
theorem cons_add_eq (event : ε) (queue list : List ε) (rest : Multiset ε) :
    (queue : Multiset ε) + (list ++ [event] : List ε) + rest =
      (event :: queue : List ε) + list + rest := by
  rw [← Multiset.coe_add, Multiset.coe_singleton, ← Multiset.cons_coe, ← Multiset.singleton_add]
  abel

namespace Adding

theorem held_evicted (dropped : Nat) (events : List ε) : (evicted dropped events).held = events := by
  unfold evicted
  split
  · rfl
  · rfl

/-- **Adding keeps every event.** -/
theorem turn_places (self : BatchUploader ε) (adding : Adding ε) :
    (adding.turn self).1.places + (adding.turn self).2.held = self.places + adding.held := by
  cases adding with
  | enqueue event =>
    simp only [turn]
    split
    · rfl
    · rfl
  | enqueueMany events =>
    simp only [turn]
    split
    · next hempty => rw [List.isEmpty_iff.mp hempty]; rfl
    · split
      · rfl
      · rfl
  | evict left dropped events =>
    cases left with
    | zero =>
      rw [turn, held_evicted]
      rfl
    | succ left =>
      cases hqueue : self.queue with
      | nil =>
        simp only [turn, hqueue]
        rw [held_evicted]
        rfl
      | cons oldest queue =>
        simp only [turn, hqueue, held, BatchUploader.places]
        rw [cons_add_eq]
  | discount dropped events => simp only [turn, held, BatchUploader.places]
  | tally dropped events => simp only [turn, held, BatchUploader.places]
  | push events added =>
    cases events with
    | nil => rfl
    | cons event events =>
      simp only [turn, held, BatchUploader.places, ← Multiset.coe_add, ← Multiset.cons_coe,
        ← Multiset.singleton_add, Multiset.coe_nil]
      abel
  | count added => simp only [turn, held, BatchUploader.places]
  | done => rfl

theorem turn_uploaded (self : BatchUploader ε) (adding : Adding ε) :
    (adding.turn self).1.uploaded = self.uploaded := by
  unfold turn
  split
  · split <;> rfl
  · split
    · rfl
    · dsimp only
      split <;> rfl
  · rfl
  · split <;> rfl
  all_goals rfl

end Adding

namespace Flush

theorem held_drained (events : List ε) : (drained events).held = events := by
  unfold drained
  split
  · next hempty => rw [List.isEmpty_iff.mp hempty]; rfl
  · rfl

/-- **A flush keeps every event.** -/
theorem turn_places (self : BatchUploader ε) (answer : Answer) (flush : Flush ε) :
    (flush.turn self answer).1.places + (flush.turn self answer).2.held =
      self.places + flush.held := by
  cases flush with
  | start =>
    simp only [turn]
    split
    · rfl
    · rfl
  | load =>
    simp only [turn]
    split
    · rfl
    · rfl
  | check size =>
    simp only [turn]
    split
    · simp only [held, BatchUploader.places]
    · simp only [held, BatchUploader.places, Multiset.coe_nil]
    · simp only [held, BatchUploader.places, Multiset.coe_nil]
  | drain left events =>
    cases left with
    | zero => rw [turn, held_drained, held]
    | succ left =>
      cases hqueue : self.queue with
      | nil =>
        simp only [turn, hqueue]
        rw [held_drained, held]
      | cons oldest queue =>
        simp only [turn, hqueue, held, BatchUploader.places, ← Multiset.coe_add,
          ← Multiset.cons_coe, ← Multiset.singleton_add, Multiset.coe_nil]
        abel
  | discount events => simp only [turn, held, BatchUploader.places]
  | upload attempt batch =>
    simp only [turn]
    split
    · simp only [held, BatchUploader.places, List.flatMap_append, List.flatMap_cons,
        List.flatMap_nil, List.append_nil, ← Multiset.coe_add, Multiset.coe_nil, add_zero]
      abel
    · split
      · rfl
      · rfl
  | succeeded count => simp only [turn, held, BatchUploader.places]
  | exhausted events => simp only [turn, held, Adding.held, BatchUploader.places]
  | requeue adding =>
    have hadding := adding.turn_places self
    cases adding with
    | done => rfl
    | _ => exact hadding
  | returned result => rfl

/-- What has been uploaded stays so. -/
theorem turn_uploaded (self : BatchUploader ε) (answer : Answer) (flush : Flush ε) :
    self.uploaded ⊆ (flush.turn self answer).1.uploaded := by
  cases flush with
  | check size =>
    simp only [turn]
    split <;> exact List.Subset.refl _
  | drain left events =>
    cases left with
    | zero => exact List.Subset.refl _
    | succ left =>
      simp only [turn]
      split <;> exact List.Subset.refl _
  | upload attempt batch =>
    simp only [turn]
    split
    · exact List.subset_append_left _ _
    · split <;> exact List.Subset.refl _
  | requeue adding =>
    have hadding : (adding.turn self).1.uploaded = self.uploaded := adding.turn_uploaded self
    cases adding with
    | done => exact List.Subset.refl _
    | _ => exact fun batch hbatch => hadding ▸ hbatch
  | _ => exact List.Subset.refl _

end Flush

end Oneshim
