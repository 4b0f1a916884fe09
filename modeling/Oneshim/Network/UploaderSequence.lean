/-
  The batch uploader, one call after the other (`oneshim-network/src/batch_uploader.rs`).

  1. **Operations** — each call from beginning to end, as it does when no other is under way.

  2. **Capacity** — room is made for what comes in by dropping the oldest, which is not enough for
     more events than the queue may hold, or for one event where it may hold none.  Otherwise the
     capacity is kept (`length_le_iff`).

  3. **Order** — the queue is what is neither uploaded nor dropped, the oldest first
     (`OldestFirst`), until a flush that has not taken all of it fails: it puts back what it took
     behind what it left (`oldest_first`).
-/
import Oneshim.Lib.Calls
import Oneshim.Network.UploaderCalls

namespace Oneshim

open Lib (Along states states_invariant along_of_states)

variable {ε : Type}

/-! ## Operations -/

/-- What the environment says during a flush. -/
structure Flushing where
  /-- `upload_suppressed`. -/
  suppressed : Bool := false
  /-- `Instant::now` when the circuit breaker is asked, and when it is told of a failure. -/
  checkedAt : Nat := 0
  failedAt : Nat := 0
  /-- `Utc::now`. -/
  createdAt : Int := 0
  /-- One of the attempts succeeds. -/
  succeeds : Bool := true

namespace BatchUploader

/-- `drop_oldest`. -/
def dropOldest (self : BatchUploader ε) (count : Nat) : BatchUploader ε :=
  let gone := self.queue.take count
  if gone.isEmpty then self
  else
    { self with
      queue := self.queue.drop count
      queueSize := fetchSub self.queueSize gone.length
      totalDropped := fetchAdd self.totalDropped gone.length
      cycleDropped := fetchAdd self.cycleDropped gone.length
      dropped := self.dropped ++ gone }

/-- The end of every operation that adds: the events are pushed and counted. -/
def pushAll (self : BatchUploader ε) (events : List ε) : BatchUploader ε :=
  { self with
    queue := self.queue ++ events
    queueSize := fetchAdd self.queueSize events.length }

/-- `enqueue`. -/
def enqueue (self : BatchUploader ε) (event : ε) : BatchUploader ε :=
  (if self.config.maxQueueSize ≤ self.queueSize then self.dropOldest 1 else self).pushAll [event]

/-- The oldest are dropped to make room for `count` more, as far as the counter goes. -/
def makeRoom (self : BatchUploader ε) (count : Nat) : BatchUploader ε :=
  let totalAfter := fetchAdd self.queueSize count
  if self.config.maxQueueSize < totalAfter then
    self.dropOldest (totalAfter - self.config.maxQueueSize)
  else self

/-- `enqueue_many`. -/
def enqueueMany (self : BatchUploader ε) (events : List ε) : BatchUploader ε :=
  if events.isEmpty then self else (self.makeRoom events.length).pushAll events

/-- `requeue_failed_events`. -/
def requeueFailedEvents (self : BatchUploader ε) (events : List ε) : BatchUploader ε :=
  (self.makeRoom events.length).pushAll events

/-- The end of a flush: the batch is accepted, or its events go back. -/
def finish (self : BatchUploader ε) (env : Flushing) (batch : EventBatch ε) :
    BatchUploader ε × FlushResult :=
  if env.succeeds then
    ({ self with
        uploaded := self.uploaded ++ [batch]
        lastUploadOk := self.lastUploadOk.map fun _ => true
        circuitBreaker := self.circuitBreaker.recordSuccess }, .ok batch.events.length)
  else
    (BatchUploader.requeueFailedEvents
      { self with
        lastUploadOk := self.lastUploadOk.map fun _ => false
        circuitBreaker := self.circuitBreaker.recordFailure env.failedAt
        failedBatches := fetchAdd self.failedBatches 1 } batch.events, .failed)

/-- How many events a flush takes. -/
def drainCount (self : BatchUploader ε) : Nat :=
  min self.queueSize (self.computeBatchSize self.queueSize)

/-- A flush from where the circuit breaker has let it through. -/
def send (self : BatchUploader ε) (env : Flushing) : BatchUploader ε × FlushResult :=
  let events := self.queue.take self.drainCount
  if events.isEmpty then (self, .ok 0)
  else
    BatchUploader.finish
      { self with
        queue := self.queue.drop self.drainCount
        queueSize := fetchSub self.queueSize events.length }
      env ⟨self.config.sessionId, events, env.createdAt⟩

/-- `flush`. -/
def flush (self : BatchUploader ε) (env : Flushing) : BatchUploader ε × FlushResult :=
  if env.suppressed then (self, .ok 0)
  else if self.queueSize = 0 then (self, .ok 0)
  else
    match self.circuitBreaker.check env.checkedAt with
    | (.openUntil _, circuitBreaker) => ({ self with circuitBreaker }, .circuitOpen)
    | (.halfOpen, circuitBreaker) => BatchUploader.send { self with circuitBreaker } env
    | (.closed, circuitBreaker) => BatchUploader.send { self with circuitBreaker } env

end BatchUploader

namespace Uploading

/-- An uploader that is called, with all that has been enqueued. -/
structure Session (ε : Type) where
  uploader : BatchUploader ε
  enqueued : List ε

/-- What is called. -/
inductive Op (ε : Type) where
  | enqueue (event : ε)
  | enqueueMany (events : List ε)
  | flush (env : Flushing)

namespace Session

/-- `BatchUploader::new`. -/
def new (config : UploaderConfig) : Session ε := ⟨.new config, []⟩

/-- One call. -/
def step (s : Session ε) : Op ε → Session ε
  | .enqueue event => ⟨s.uploader.enqueue event, s.enqueued ++ [event]⟩
  | .enqueueMany events => ⟨s.uploader.enqueueMany events, s.enqueued ++ events⟩
  | .flush env => ⟨(s.uploader.flush env).1, s.enqueued⟩

end Session

end Uploading

/-! ## What the operations do -/

/-- Where nothing is taken, nothing is dropped. -/
theorem drop_of_take {queue : List ε} {count : Nat} (h : queue.take count = []) :
    queue.drop count = queue := by
  have hsplit := List.take_append_drop count queue
  rw [h, List.nil_append] at hsplit
  exact hsplit

namespace BatchUploader

variable {self : BatchUploader ε} {count : Nat} {events : List ε}

@[simp] theorem dropOldest_config : (self.dropOldest count).config = self.config := by
  simp only [dropOldest]
  split <;> rfl

@[simp] theorem dropOldest_uploaded : (self.dropOldest count).uploaded = self.uploaded := by
  simp only [dropOldest]
  split <;> rfl

@[simp] theorem dropOldest_queue : (self.dropOldest count).queue = self.queue.drop count := by
  simp only [dropOldest]
  split
  case isTrue hempty => exact (drop_of_take (List.isEmpty_iff.mp hempty)).symm
  case isFalse => rfl

@[simp] theorem dropOldest_dropped :
    (self.dropOldest count).dropped = self.dropped ++ self.queue.take count := by
  simp only [dropOldest]
  split
  case isTrue hempty => rw [List.isEmpty_iff.mp hempty, List.append_nil]
  case isFalse => rfl

@[simp] theorem makeRoom_config : (self.makeRoom count).config = self.config := by
  simp only [makeRoom]
  split
  · exact dropOldest_config
  · rfl

@[simp] theorem makeRoom_uploaded : (self.makeRoom count).uploaded = self.uploaded := by
  simp only [makeRoom]
  split
  · exact dropOldest_uploaded
  · rfl

/-- Room is made at the front of the queue. -/
theorem makeRoom_drops (self : BatchUploader ε) (count : Nat) :
    ∃ gone, (self.makeRoom count).queue = self.queue.drop gone ∧
      (self.makeRoom count).dropped = self.dropped ++ self.queue.take gone := by
  simp only [makeRoom]
  split
  · exact ⟨_, dropOldest_queue, dropOldest_dropped⟩
  · exact ⟨0, rfl, by rw [List.take_zero, List.append_nil]⟩

/-- A flush gets to the queue: it is not suppressed, there is something to send, and the circuit is
    not open. -/
def Flushes (self : BatchUploader ε) (env : Flushing) : Prop :=
  env.suppressed = false ∧ self.queueSize ≠ 0 ∧
    ∀ instant, (self.circuitBreaker.check env.checkedAt).1 ≠ .openUntil instant

/-- The flush of an uploader whose circuit is not open when it asks. -/
theorem flush_of_check {env : Flushing} {state : CircuitState} {circuitBreaker : CircuitBreaker}
    (hsuppressed : env.suppressed = false) (hsize : self.queueSize ≠ 0)
    (hcheck : self.circuitBreaker.check env.checkedAt = (state, circuitBreaker))
    (hopen : ∀ instant, state ≠ .openUntil instant) :
    self.flush env = BatchUploader.send { self with circuitBreaker } env := by
  simp only [flush, hsuppressed, Bool.false_eq_true, if_false, if_neg hsize, hcheck]
  cases state with
  | openUntil instant => exact absurd rfl (hopen instant)
  | closed => rfl
  | halfOpen => rfl

/-- **What a flush does** to the uploader: nothing but ask the circuit breaker, or it sends. -/
theorem flush_cases (self : BatchUploader ε) (env : Flushing) :
    ∃ circuitBreaker,
      (self.flush env).1 = { self with circuitBreaker } ∨
        self.Flushes env ∧
          (self.flush env).1 = (BatchUploader.send { self with circuitBreaker } env).1 := by
  by_cases hsuppressed : env.suppressed = true
  · exact ⟨self.circuitBreaker, .inl (by simp only [flush, if_pos hsuppressed])⟩
  by_cases hsize : self.queueSize = 0
  · exact ⟨self.circuitBreaker,
      .inl (by simp only [flush, if_neg hsuppressed, if_pos hsize])⟩
  have hnot : env.suppressed = false := Bool.eq_false_iff.mpr hsuppressed
  cases hcheck : self.circuitBreaker.check env.checkedAt with
  | mk state circuitBreaker =>
    refine ⟨circuitBreaker, ?_⟩
    by_cases hopen : ∃ instant, state = .openUntil instant
    · obtain ⟨instant, rfl⟩ := hopen
      exact .inl (by simp only [flush, if_neg hsuppressed, if_neg hsize, hcheck])
    · have hclosed : ∀ instant, state ≠ .openUntil instant := not_exists.mp hopen
      have hasked : (self.circuitBreaker.check env.checkedAt).1 = state := by rw [hcheck]
      exact .inr ⟨⟨hnot, hsize, fun instant => hasked ▸ hclosed instant⟩,
        by rw [flush_of_check hnot hsize hcheck hclosed]⟩

end BatchUploader

/-! ## A call that takes its turns alone -/

namespace Adding

variable {self result : BatchUploader ε} {adding : Adding ε}

end Adding

namespace Flush

variable {self result : BatchUploader ε} {flush : Flush ε} {r : FlushResult}
  {answers : List Answer}

end Flush

/-! ## Capacity -/

namespace BatchUploader

/-- The counter is the length of the queue. -/
def Exact (self : BatchUploader ε) : Prop :=
  self.queueSize = self.queue.length ∧ self.queue.length < 2 ^ 64

variable {self : BatchUploader ε}

/-- Dropping keeps the counters right. -/
theorem dropOldest_exact (h : self.Exact) (count : Nat) : (self.dropOldest count).Exact := by
  obtain ⟨hsize, hlt⟩ := h
  have hlength : (self.queue.drop count).length < 2 ^ 64 := by
    rw [List.length_drop]
    omega
  refine ⟨?_, dropOldest_queue ▸ hlength⟩
  rw [dropOldest_queue, List.length_drop]
  simp only [dropOldest]
  split
  case isTrue hempty =>
    have hnone : (self.queue.take count).length = 0 := by
      rw [List.isEmpty_iff.mp hempty, List.length_nil]
    rw [List.length_take] at hnone
    omega
  case isFalse =>
    simp only [fetchSub, List.length_take]
    rw [if_pos (by omega)]
    omega

theorem pushAll_exact (h : self.Exact) {events : List ε}
    (hfits : self.queue.length + events.length < 2 ^ 64) : (self.pushAll events).Exact := by
  have hlength : (self.pushAll events).queue.length = self.queue.length + events.length :=
    List.length_append
  refine ⟨?_, hlength ▸ hfits⟩
  rw [hlength]
  show fetchAdd self.queueSize events.length = _
  rw [fetchAdd, h.1, if_pos hfits]

/-- What is left when room is made for `count` more. -/
theorem makeRoom_exact (h : self.Exact) {count : Nat} (hfits : self.queue.length + count < 2 ^ 64) :
    (self.makeRoom count).Exact ∧ (self.makeRoom count).queue.length =
      self.queue.length - (self.queue.length + count - self.config.maxQueueSize) := by
  have htotal : fetchAdd self.queueSize count = self.queue.length + count := by
    rw [fetchAdd, h.1, if_pos hfits]
  simp only [makeRoom, htotal]
  split
  · exact ⟨dropOldest_exact h _, by rw [dropOldest_queue, List.length_drop]⟩
  · exact ⟨h, by omega⟩

/-- Where the sum of the counter and what comes in does not fit, no room is made. -/
theorem makeRoom_wraps (h : self.Exact) {count : Nat}
    (hself : self.queue.length ≤ self.config.maxQueueSize) (hcount : count < 2 ^ 64)
    (hwraps : 2 ^ 64 ≤ self.queue.length + count) : self.makeRoom count = self := by
  have htotal : fetchAdd self.queueSize count = self.queue.length + count - 2 ^ 64 := by
    rw [fetchAdd, h.1, if_neg (by omega)]
  simp only [makeRoom, htotal]
  rw [if_neg (by omega)]

end BatchUploader

namespace Uploading

/-- What keeps the capacity: a queue that may hold an event, and no more events at once than it may
    hold (and than can be counted with those that are there). -/
def FitsCapacity (s : Session ε) : Op ε → Prop
  | .enqueue _ => 0 < s.uploader.config.maxQueueSize
  | .enqueueMany events => events.length ≤ s.uploader.config.maxQueueSize ∧
      s.uploader.queue.length + events.length < 2 ^ 64
  | .flush _ => True

/-- What holds between the calls. -/
structure Kept (config : UploaderConfig) (s : Session ε) : Prop where
  unchanged : s.uploader.config = config
  exact : s.uploader.Exact
  bounded : s.uploader.queue.length ≤ config.maxQueueSize

variable {config : UploaderConfig}

theorem kept_new (config : UploaderConfig) : Kept config (.new config : Session ε) where
  unchanged := rfl
  exact := ⟨rfl, Nat.two_pow_pos 64⟩
  bounded := Nat.zero_le _

/-- An event that is enqueued keeps the counters right and the queue within its bound. -/
theorem enqueue_kept {s : Session ε} (hmax : config.maxQueueSize < 2 ^ 64) (h : Kept config s)
    (event : ε) (hcap : 0 < config.maxQueueSize) : Kept config (s.step (.enqueue event)) := by
  have hbounded := h.bounded
  simp only [Session.step, BatchUploader.enqueue, h.unchanged, h.exact.1]
  split
  case isTrue hfull =>
    have hlength : (s.uploader.dropOldest 1).queue.length + 1 = s.uploader.queue.length := by
      rw [BatchUploader.dropOldest_queue, List.length_drop]
      omega
    refine ⟨BatchUploader.dropOldest_config.trans h.unchanged,
      BatchUploader.pushAll_exact (BatchUploader.dropOldest_exact h.exact 1) ?_, ?_⟩
    · rw [List.length_singleton]
      omega
    · show ((s.uploader.dropOldest 1).queue ++ [event]).length ≤ _
      rw [List.length_append, List.length_singleton]
      omega
  case isFalse hroom =>
    refine ⟨h.unchanged, BatchUploader.pushAll_exact h.exact ?_, ?_⟩
    · rw [List.length_singleton]
      omega
    · show (s.uploader.queue ++ [event]).length ≤ _
      rw [List.length_append, List.length_singleton]
      omega

variable {uploader : BatchUploader ε}

/-- Room is made and the events are pushed: what `enqueue_many` and the requeue do. -/
theorem refill_kept {events enqueued : List ε} (hconfig : uploader.config = config)
    (hexact : uploader.Exact) (hfits : uploader.queue.length + events.length < 2 ^ 64)
    (hevents : events.length ≤ config.maxQueueSize) :
    Kept config ⟨(uploader.makeRoom events.length).pushAll events, enqueued⟩ := by
  obtain ⟨hroom, hlength⟩ := BatchUploader.makeRoom_exact hexact hfits
  rw [hconfig] at hlength
  refine ⟨BatchUploader.makeRoom_config.trans hconfig, BatchUploader.pushAll_exact hroom ?_, ?_⟩
  · omega
  · show ((uploader.makeRoom events.length).queue ++ events).length ≤ _
    rw [List.length_append]
    omega

/-- A send keeps the counters right and the queue within its bound. -/
theorem send_kept {enqueued : List ε} (hmax : config.maxQueueSize < 2 ^ 64)
    (h : Kept config ⟨uploader, enqueued⟩) (env : Flushing) :
    Kept config ⟨(uploader.send env).1, enqueued⟩ := by
  have hbounded : uploader.queue.length ≤ config.maxQueueSize := h.bounded
  obtain ⟨hsize, hlt⟩ := h.exact
  have htake : (uploader.queue.take uploader.drainCount).length ≤ uploader.queue.length :=
    List.length_take_le' _ _
  have hdrop : (uploader.queue.drop uploader.drainCount).length =
      uploader.queue.length - (uploader.queue.take uploader.drainCount).length := by
    rw [List.length_drop, List.length_take]
    omega
  have hcounter : fetchSub uploader.queueSize (uploader.queue.take uploader.drainCount).length =
      (uploader.queue.drop uploader.drainCount).length := by
    rw [fetchSub, hsize, if_pos htake, hdrop]
  simp only [BatchUploader.send]
  split
  · exact h
  · simp only [BatchUploader.finish]
    split
    · refine ⟨h.unchanged, ⟨hcounter, ?_⟩, ?_⟩
      · show (uploader.queue.drop uploader.drainCount).length < 2 ^ 64
        omega
      · show (uploader.queue.drop uploader.drainCount).length ≤ _
        omega
    · refine refill_kept h.unchanged ⟨hcounter, ?_⟩ ?_ ?_
      · show (uploader.queue.drop uploader.drainCount).length < 2 ^ 64
        omega
      · show (uploader.queue.drop uploader.drainCount).length +
          (uploader.queue.take uploader.drainCount).length < 2 ^ 64
        omega
      · omega

/-- **One call** keeps the capacity if what it brings fits. -/
theorem step_kept (hmax : config.maxQueueSize < 2 ^ 64) (s : Session ε) (op : Op ε)
    (h : Kept config s) (hop : FitsCapacity s op) : Kept config (s.step op) := by
  cases op with
  | enqueue event => exact enqueue_kept hmax h event (h.unchanged ▸ hop)
  | enqueueMany events =>
    obtain ⟨hevents, hfits⟩ := hop
    rw [h.unchanged] at hevents
    simp only [Session.step, BatchUploader.enqueueMany]
    split
    · exact ⟨h.unchanged, h.exact, h.bounded⟩
    · exact refill_kept h.unchanged h.exact hfits hevents
  | flush env =>
    obtain ⟨circuitBreaker, heq | ⟨-, heq⟩⟩ := s.uploader.flush_cases env
    · simp only [Session.step, heq]
      exact ⟨h.unchanged, h.exact, h.bounded⟩
    · have hasked : Kept config ⟨{ s.uploader with circuitBreaker }, s.enqueued⟩ :=
        ⟨h.unchanged, h.exact, h.bounded⟩
      simp only [Session.step, heq]
      exact send_kept hmax hasked env

/-- Only what fits leaves the queue within its capacity. -/
theorem fitsCapacity_of_bounded (hmax : config.maxQueueSize < 2 ^ 64) (s : Session ε) (op : Op ε)
    (h : Kept config s) (hafter : (s.step op).uploader.queue.length ≤ config.maxQueueSize) :
    FitsCapacity s op := by
  have hbounded := h.bounded
  cases op with
  | enqueue event =>
    simp only [Session.step, BatchUploader.enqueue, BatchUploader.pushAll, List.length_append,
      List.length_singleton] at hafter
    show 0 < s.uploader.config.maxQueueSize
    rw [h.unchanged]
    omega
  | enqueueMany events =>
    simp only [FitsCapacity, h.unchanged]
    cases hevents : events with
    | nil =>
      rw [List.length_nil]
      omega
    | cons event rest =>
      rw [← hevents]
      have hne : events.isEmpty = false := by rw [hevents]; rfl
      simp only [Session.step, BatchUploader.enqueueMany, hne, Bool.false_eq_true, if_false,
        BatchUploader.pushAll, List.length_append] at hafter
      refine ⟨by omega, ?_⟩
      by_contra hwraps
      -- the sum wraps around, so that nothing is dropped
      have hsame : s.uploader.makeRoom events.length = s.uploader :=
        BatchUploader.makeRoom_wraps h.exact (h.unchanged ▸ hbounded) (by omega) (by omega)
      rw [hsame] at hafter
      omega
  | flush env => trivial

/-- **Capacity.**  The queue holds after each call of a run no more than its capacity exactly when
    it may hold an event where one is enqueued, and no call brings more than it may hold. -/
theorem length_le_iff (config : UploaderConfig) (hmax : config.maxQueueSize < 2 ^ 64)
    (ops : List (Op ε)) :
    (∀ s ∈ states Session.step (.new config) ops,
        s.uploader.queue.length ≤ config.maxQueueSize) ↔
      Along Session.step FitsCapacity (.new config) ops := by
  constructor
  · intro hall
    exact along_of_states (step_kept hmax) (fitsCapacity_of_bounded hmax) (kept_new config) hall
  · intro hrun s hs
    have hkept := states_invariant (step_kept hmax) (kept_new config) hrun s hs
    exact hkept.bounded

theorem length_le_iff_example :
    (∀ s ∈ states Session.step (.new exampleUploader) [.enqueue 1, .enqueueMany [2, 3], .flush {}],
        s.uploader.queue.length ≤ exampleUploader.maxQueueSize) ↔
      Along Session.step FitsCapacity (.new exampleUploader)
        [.enqueue 1, .enqueueMany [2, 3], .flush {}] :=
  length_le_iff exampleUploader (by decide) _

/-- **More than the queue may hold** comes in at once. -/
theorem capacity_exceeded :
    ¬ ∀ s ∈ states Session.step (.new exampleUploader) [.enqueueMany [1, 2, 3]],
      s.uploader.queue.length ≤ exampleUploader.maxQueueSize := by
  decide

/-! ## Order -/

/-- What has become of the events: the oldest ones have been uploaded or dropped, in their order,
    and the others wait in their order. -/
def Settled (enqueued queue uploaded dropped : List ε) : Prop :=
  ∃ fates : List (ε × Bool), enqueued = fates.map Prod.fst ++ queue ∧
    uploaded = (fates.filter fun fate => fate.2).map Prod.fst ∧
    dropped = (fates.filter fun fate => !fate.2).map Prod.fst

namespace Settled

variable {enqueued queue uploaded dropped : List ε}

theorem push (h : Settled enqueued queue uploaded dropped) (events : List ε) :
    Settled (enqueued ++ events) (queue ++ events) uploaded dropped := by
  obtain ⟨fates, henqueued, huploaded, hdropped⟩ := h
  exact ⟨fates, by rw [henqueued, List.append_assoc], huploaded, hdropped⟩

/-- The fate of the next ones is known. -/
theorem settle (h : Settled enqueued queue uploaded dropped) (count : Nat) (fate : Bool) :
    Settled enqueued (queue.drop count) (uploaded ++ if fate then queue.take count else [])
      (dropped ++ if fate then [] else queue.take count) := by
  obtain ⟨fates, henqueued, huploaded, hdropped⟩ := h
  refine ⟨fates ++ (queue.take count).map fun event => (event, fate), ?_, ?_, ?_⟩
  · rw [henqueued, List.map_append, List.map_map, List.append_assoc]
    simp [Function.comp_def]
  · rw [huploaded, List.filter_append, List.map_append, List.filter_map]
    cases fate <;> simp [Function.comp_def]
  · rw [hdropped, List.filter_append, List.map_append, List.filter_map]
    cases fate <;> simp [Function.comp_def]

/-- The next ones are uploaded. -/
theorem upload (h : Settled enqueued queue uploaded dropped) (count : Nat) :
    Settled enqueued (queue.drop count) (uploaded ++ queue.take count) dropped := by
  simpa using h.settle count true

/-- The next ones are dropped. -/
theorem drop (h : Settled enqueued queue uploaded dropped) (count : Nat) :
    Settled enqueued (queue.drop count) uploaded (dropped ++ queue.take count) := by
  simpa using h.settle count false

end Settled

/-- The events of the accepted batches. -/
def uploadedEvents (uploader : BatchUploader ε) : List ε :=
  uploader.uploaded.flatMap EventBatch.events

/-- The oldest events are the ones that have been uploaded or dropped. -/
def OldestFirst (s : Session ε) : Prop :=
  Settled s.enqueued s.uploader.queue (uploadedEvents s.uploader) s.uploader.dropped

/-- What a call drops are the oldest of the events that wait. -/
def DropsOldest (s : Session ε) (op : Op ε) : Prop :=
  ∃ gone, (s.step op).uploader.dropped = s.uploader.dropped ++ gone ∧ gone <+: s.uploader.queue

/-- A flush that fails has taken the whole queue, or nothing at all. -/
def TakesAll (s : Session ε) : Op ε → Prop
  | .flush env => s.uploader.Flushes env → env.succeeds = false → s.uploader.drainCount ≠ 0 →
      s.uploader.queue.length ≤ s.uploader.drainCount
  | .enqueue _ | .enqueueMany _ => True

/-- Room is made and the events are pushed. -/
theorem refill_oldestFirst {enqueued : List ε} (h : OldestFirst ⟨uploader, enqueued⟩)
    (room : BatchUploader ε)
    (hroom : ∃ gone, room.queue = uploader.queue.drop gone ∧
      room.dropped = uploader.dropped ++ uploader.queue.take gone)
    (huploaded : room.uploaded = uploader.uploaded) (events : List ε) :
    OldestFirst ⟨room.pushAll events, enqueued ++ events⟩ ∧
      ∃ gone, (room.pushAll events).dropped = uploader.dropped ++ gone ∧
        gone <+: uploader.queue := by
  obtain ⟨gone, hqueue, hdropped⟩ := hroom
  refine ⟨?_, uploader.queue.take gone, hdropped, List.take_prefix gone _⟩
  have hdrop := (Settled.drop h gone).push events
  simp only [OldestFirst, BatchUploader.pushAll, uploadedEvents, hqueue, hdropped, huploaded]
  exact hdrop

/-- **A send** keeps the order, when a batch that fails is the whole queue. -/
theorem send_oldestFirst {enqueued : List ε} (h : OldestFirst ⟨uploader, enqueued⟩) {env : Flushing}
    (hall : env.succeeds = false → uploader.drainCount ≠ 0 →
      uploader.queue.length ≤ uploader.drainCount) :
    OldestFirst ⟨(uploader.send env).1, enqueued⟩ ∧
      ∃ gone, (uploader.send env).1.dropped = uploader.dropped ++ gone ∧
        gone <+: uploader.queue := by
  have hnone : ∀ dropped : List ε, dropped = uploader.dropped →
      ∃ gone, dropped = uploader.dropped ++ gone ∧ gone <+: uploader.queue :=
    fun dropped heq => ⟨[], by rw [heq, List.append_nil], List.nil_prefix⟩
  simp only [BatchUploader.send]
  split
  case isTrue => exact ⟨h, hnone _ rfl⟩
  case isFalse htaken =>
    simp only [BatchUploader.finish]
    split
    case isTrue =>
      refine ⟨?_, hnone _ rfl⟩
      have hupload := Settled.upload h uploader.drainCount
      simp only [OldestFirst, uploadedEvents, List.flatMap_append, List.flatMap_cons,
        List.flatMap_nil, List.append_nil]
      exact hupload
    case isFalse hfails =>
      have hcount : uploader.drainCount ≠ 0 := by
        intro hzero
        rw [hzero, List.take_zero] at htaken
        exact htaken rfl
      have hle := hall (by simpa using hfails) hcount
      -- the queue is empty when the events go back: nothing is dropped, and all are where they were
      have hempty : uploader.queue.drop uploader.drainCount = [] := List.drop_eq_nil_of_le hle
      have hwhole : uploader.queue.take uploader.drainCount = uploader.queue :=
        List.take_of_length_le hle
      simp only [BatchUploader.requeueFailedEvents, hempty, hwhole]
      obtain ⟨gone, hqueue, hdropped⟩ := BatchUploader.makeRoom_drops
        { uploader with
          queue := ([] : List ε)
          queueSize := fetchSub uploader.queueSize uploader.queue.length
          lastUploadOk := uploader.lastUploadOk.map fun _ => false
          circuitBreaker := uploader.circuitBreaker.recordFailure env.failedAt
          failedBatches := fetchAdd uploader.failedBatches 1 } uploader.queue.length
      rw [List.drop_nil] at hqueue
      rw [List.take_nil, List.append_nil] at hdropped
      refine ⟨?_, hnone _ hdropped⟩
      simp only [OldestFirst, BatchUploader.pushAll, uploadedEvents, hqueue, hdropped,
        BatchUploader.makeRoom_uploaded, List.nil_append]
      exact h

/-- **One call** settles the oldest events first. -/
theorem step_oldestFirst (s : Session ε) (op : Op ε) (h : OldestFirst s) (hop : TakesAll s op) :
    OldestFirst (s.step op) ∧ DropsOldest s op := by
  cases op with
  | enqueue event =>
    refine refill_oldestFirst h _ ?_ ?_ [event]
    · split
      · exact ⟨1, BatchUploader.dropOldest_queue, BatchUploader.dropOldest_dropped⟩
      · exact ⟨0, rfl, (List.append_nil _).symm⟩
    · split
      · exact BatchUploader.dropOldest_uploaded
      · rfl
  | enqueueMany events =>
    by_cases hempty : events.isEmpty
    · obtain rfl : events = [] := List.isEmpty_iff.mp hempty
      refine ⟨?_, [], (List.append_nil _).symm, List.nil_prefix⟩
      show OldestFirst ⟨s.uploader, s.enqueued ++ []⟩
      rw [List.append_nil]
      exact h
    · have hrefill := refill_oldestFirst h _ (s.uploader.makeRoom_drops events.length)
        BatchUploader.makeRoom_uploaded events
      simp only [DropsOldest, Session.step, BatchUploader.enqueueMany, if_neg hempty]
      exact hrefill
  | flush env =>
    obtain ⟨circuitBreaker, heq | ⟨hflushes, heq⟩⟩ := s.uploader.flush_cases env
    · simp only [DropsOldest, Session.step, heq]
      exact ⟨h, [], (List.append_nil _).symm, List.nil_prefix⟩
    · have hasked : OldestFirst ⟨{ s.uploader with circuitBreaker }, s.enqueued⟩ := h
      simp only [DropsOldest, Session.step, heq]
      exact send_oldestFirst hasked (hop hflushes)

/-- **Oldest first.**  In a run whose failing flushes have all taken the whole queue, the events
    that have been uploaded or dropped are at every moment the oldest, each in the order in which
    they were enqueued, and each call drops the oldest of those that wait. -/
theorem oldest_first (config : UploaderConfig) (ops : List (Op ε))
    (hrun : Along Session.step TakesAll (.new config) ops) :
    (∀ s ∈ states Session.step (.new config) ops, OldestFirst s) ∧
      Along Session.step DropsOldest (.new config) ops := by
  have hstart : OldestFirst (.new config : Session ε) := ⟨[], rfl, rfl, rfl⟩
  have hstep : ∀ (s : Session ε) op, OldestFirst s → TakesAll s op → OldestFirst (s.step op) :=
    fun s op h hop => (step_oldestFirst s op h hop).1
  exact ⟨states_invariant hstep hstart hrun,
    Lib.along_imp hstep (fun s op h hop => (step_oldestFirst s op h hop).2) hstart hrun⟩

theorem oldest_first_example :
    (∀ s ∈ states Session.step (.new exampleUploader)
        [.enqueue 1, .flush { succeeds := false }, .enqueueMany [2, 3], .flush {}],
      OldestFirst s) ∧
    Along Session.step DropsOldest (.new exampleUploader)
      [.enqueue 1, .flush { succeeds := false }, .enqueueMany [2, 3], .flush {}] := by
  refine oldest_first exampleUploader _
    ⟨trivial, fun _ _ _ => ?_, trivial, fun _ hfails => ?_, trivial⟩
  · decide
  · cases hfails

/-- **A newer event overtakes**: a flush of one event fails with two in the queue, and the second is
    uploaded before the first. -/
theorem newer_overtakes :
    ¬ ∀ s ∈ states Session.step (.new exampleUploader)
        [.enqueue 1, .enqueue 2, .flush { succeeds := false }, .flush {}, .flush {}],
      (uploadedEvents s.uploader).Sublist s.enqueued := by
  decide

end Uploading

end Oneshim
