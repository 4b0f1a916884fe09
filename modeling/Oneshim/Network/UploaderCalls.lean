/-
  The batch uploader under interleaved calls (`oneshim-network/src/batch_uploader.rs`).

  Any number of `enqueue`, `enqueue_many`, `drop_oldest` and `flush` calls are under way at once.
  Each does one operation on the queue or on a counter at a turn, and the turns come in any order.

  1. **Events** — the queue, the dropped ones, the accepted batches and the hands of the calls have
     together every event as often as it was enqueued (`places_run`).

  2. **Counters** — a call that has taken from the queue or put into it, and has not yet said so to
     the counter, is that much ahead of it (`ahead`); the same for what it has dropped
     (`untallied`).  The counters are off by what the calls are ahead, modulo the size of a `usize`
     (`counted_step`).

  3. **The result** (`conserved`) — with no call under way the counters say what there is.
-/
import Mathlib.Data.ZMod.Basic
import Mathlib.Tactic.Ring
import Oneshim.Lib.CallTotals
import Oneshim.Network.BatchUploader

namespace Oneshim

open Lib (Calls CallMove CallSystem states_always foldl_mem_states)

variable {ε : Type}

namespace Uploading

/-- `Vec`: its length is a `usize`. -/
structure Vec (ε : Type) where
  list : List ε
  fits : list.length < 2 ^ 64

/-- What is called. -/
inductive Request (ε : Type) where
  | enqueue (event : ε)
  | enqueueMany (events : Vec ε)
  | dropOldest (count : Fin (2 ^ 64))
  | flush

/-- A call under way: it adds events (or drops some and adds none), or it flushes. -/
inductive UploaderCall (ε : Type) where
  | adding (adding : Adding ε)
  | flushing (flush : Flush ε)

/-- The calls of an uploader. -/
def uploaderCalls (ε : Type) :
    CallSystem (BatchUploader ε) (Request ε) Answer (UploaderCall ε) where
  enter
    | .enqueue event => .adding (.enqueue event)
    | .enqueueMany events => .adding (.enqueueMany events.list)
    | .dropOldest count => .adding (.evict count 0 [])
    | .flush => .flushing .start
  turn := fun uploader _ answer call =>
    match call with
    | .adding adding => ((adding.turn uploader).1, .adding (adding.turn uploader).2)
    | .flushing flush =>
      ((flush.turn uploader answer).1, .flushing (flush.turn uploader answer).2)

/-- The events in the hands of a call. -/
def UploaderCall.held : UploaderCall ε → Multiset ε
  | .adding call => call.held
  | .flushing call => call.held

/-- The events that a move enqueues. -/
def enqueued : CallMove (Request ε) Answer → List ε
  | .request (.enqueue event) => [event]
  | .request (.enqueueMany events) => events.list
  | .request (.dropOldest _) | .request .flush | .turn _ _ => []

/-! ## Events -/

/-- No turn makes, loses or doubles an event. -/
theorem turn_places (uploader : BatchUploader ε) (index : Nat) (answer : Answer)
    (call : UploaderCall ε) :
    ((uploaderCalls ε).turn uploader index answer call).1.places +
        ((uploaderCalls ε).turn uploader index answer call).2.held =
      uploader.places + call.held := by
  cases call with
  | adding adding => exact adding.turn_places uploader
  | flushing flush => exact flush.turn_places uploader answer

theorem brought_held (m : CallMove (Request ε) Answer) :
    (uploaderCalls ε).brought UploaderCall.held m = enqueued m := by
  cases m with
  | request request => cases request <;> rfl
  | turn index answer => rfl

/-- The uploader and the calls have what was enqueued. -/
theorem places_run (config : UploaderConfig) (moves : List (CallMove (Request ε) Answer)) :
    let s := moves.foldl (uploaderCalls ε).step ⟨.new config, []⟩
    s.shared.places + (s.calls.map UploaderCall.held).sum =
      (moves.flatMap enqueued : List ε) := by
  intro s
  have hrun := (uploaderCalls ε).total_run turn_places ⟨.new config, []⟩ moves
  have hstart : CallSystem.total BatchUploader.places UploaderCall.held
      (⟨.new config, []⟩ : Calls (BatchUploader ε) (UploaderCall ε)) = 0 := rfl
  have hsum : (moves.map ((uploaderCalls ε).brought UploaderCall.held)).sum =
      ((moves.flatMap enqueued : List ε) : Multiset ε) := by
    clear hrun hstart s
    induction moves with
    | nil => rfl
    | cons m moves ih =>
      rw [List.map_cons, List.sum_cons, ih, brought_held, List.flatMap_cons, Multiset.coe_add]
  rw [hstart, hsum, zero_add] at hrun
  exact hrun

end Uploading

/-! ## Counters -/

/-- Numbers modulo the size of a `usize`. -/
abbrev Usize : Type := ZMod (2 ^ 64)

theorem fetchAdd_cast (n count : Nat) : (fetchAdd n count : Usize) = n + count := by
  unfold fetchAdd
  split
  · push_cast
    rfl
  · rw [Nat.cast_sub (by omega), ZMod.natCast_self, sub_zero]
    push_cast
    rfl

theorem fetchSub_cast (n : Nat) {count : Nat} (h : count < 2 ^ 64) :
    (fetchSub n count : Usize) = n - count := by
  unfold fetchSub
  split
  case isTrue hle => rw [Nat.cast_sub hle]
  case isFalse =>
    have hle : count ≤ n + 2 ^ 64 := by omega
    rw [Nat.cast_sub hle, Nat.cast_add, ZMod.natCast_self, add_zero]

theorem fetchAdd_lt {n count : Nat} (hn : n < 2 ^ 64) (hcount : count < 2 ^ 64) :
    fetchAdd n count < 2 ^ 64 := by
  unfold fetchAdd
  split
  · assumption
  · omega

theorem fetchSub_lt {n : Nat} (count : Nat) (hn : n < 2 ^ 64) : fetchSub n count < 2 ^ 64 := by
  unfold fetchSub
  split
  · omega
  · omega

/-- How much longer the call has made the queue than it has told the counter. -/
def Adding.ahead : Adding ε → Usize
  | .enqueue _ | .enqueueMany _ | .tally _ _ | .done => 0
  | .evict _ dropped _ | .discount dropped _ => -dropped
  | .push events added => added - events.length
  | .count added => added

/-- What the call has dropped and not yet counted. -/
def Adding.untallied : Adding ε → Usize
  | .evict _ dropped _ | .discount dropped _ | .tally dropped _ => dropped
  | .enqueue _ | .enqueueMany _ | .push _ _ | .count _ | .done => 0

/-- The numbers in a call are those of a `usize`. -/
def Adding.Sized : Adding ε → Prop
  | .enqueue _ | .done => True
  | .enqueueMany events => events.length < 2 ^ 64
  | .evict left dropped events => left + dropped < 2 ^ 64 ∧ events.length < 2 ^ 64
  | .discount dropped events | .tally dropped events =>
    dropped < 2 ^ 64 ∧ events.length < 2 ^ 64
  | .push events added => events.length ≤ added ∧ added < 2 ^ 64
  | .count added => added < 2 ^ 64

def Flush.ahead : Flush ε → Usize
  | .drain _ events | .discount events => -events.length
  | .requeue adding => adding.ahead
  | .start | .load | .check _ | .upload _ _ | .succeeded _ | .exhausted _ | .returned _ => 0

def Flush.untallied : Flush ε → Usize
  | .requeue adding => adding.untallied
  | .start | .load | .check _ | .drain _ _ | .discount _ | .upload _ _ | .succeeded _
  | .exhausted _ | .returned _ => 0

def Flush.Sized : Flush ε → Prop
  | .start | .load | .succeeded _ | .returned _ => True
  | .check size => size < 2 ^ 64
  | .drain left events => left + events.length < 2 ^ 64
  | .discount events | .exhausted events => events.length < 2 ^ 64
  | .upload _ batch => batch.events.length < 2 ^ 64
  | .requeue adding => adding.Sized

/-- The counters of the uploader are those of a `usize`. -/
structure BatchUploader.Sized (uploader : BatchUploader ε) : Prop where
  queueSize : uploader.queueSize < 2 ^ 64
  totalDropped : uploader.totalDropped < 2 ^ 64

/-- How much the counter is ahead of the queue, in itself. -/
def BatchUploader.surplus (uploader : BatchUploader ε) : Usize :=
  uploader.queueSize - uploader.queue.length

/-- How many drops are counted, less those there were. -/
def BatchUploader.overcount (uploader : BatchUploader ε) : Usize :=
  uploader.totalDropped - uploader.dropped.length

variable {self : BatchUploader ε}

namespace Adding

theorem evicted_counts (dropped : Nat) (events : List ε) :
    (evicted dropped events).ahead = -dropped ∧ (evicted dropped events).untallied = dropped := by
  unfold evicted
  by_cases h : 0 < dropped
  · rw [if_pos h]
    exact ⟨rfl, rfl⟩
  · have hzero : dropped = 0 := by omega
    rw [if_neg h, hzero]
    simp [ahead, untallied]

/-- **The counters and a call that adds**: what the call is ahead stays what the counters are
    behind. -/
theorem turn_counts {adding : Adding ε} (hadding : adding.Sized) :
    (adding.turn self).1.surplus + (adding.turn self).2.ahead = self.surplus + adding.ahead ∧
      (adding.turn self).1.overcount + (adding.turn self).2.untallied =
        self.overcount + adding.untallied := by
  cases adding with
  | enqueue event =>
    simp only [turn]
    split
    · simp [ahead, untallied]
    · simp [ahead, untallied]
  | enqueueMany events =>
    simp only [turn]
    split
    · exact ⟨rfl, rfl⟩
    · split
      · simp [ahead, untallied]
      · simp [ahead, untallied]
  | evict left dropped events =>
    obtain ⟨hahead, huntallied⟩ := evicted_counts dropped events
    cases left with
    | zero =>
      rw [turn, hahead, huntallied]
      exact ⟨rfl, rfl⟩
    | succ left =>
      cases hqueue : self.queue with
      | nil =>
        simp only [turn, hqueue, hahead, huntallied]
        exact ⟨rfl, rfl⟩
      | cons oldest queue =>
        simp only [turn, hqueue, ahead, untallied, BatchUploader.surplus, BatchUploader.overcount,
          List.length_cons, List.length_append, List.length_nil]
        push_cast
        constructor
        · ring
        · ring
  | discount dropped events =>
    simp only [turn, ahead, untallied, BatchUploader.surplus, BatchUploader.overcount,
      fetchSub_cast _ hadding.1]
    constructor
    · ring
    · trivial
  | tally dropped events =>
    simp only [turn, ahead, untallied, BatchUploader.surplus, BatchUploader.overcount,
      fetchAdd_cast]
    constructor
    · ring
    · ring
  | push events added =>
    cases events with
    | nil =>
      simp only [turn, ahead, untallied, List.length_nil, Nat.cast_zero, sub_zero]
      exact ⟨trivial, trivial⟩
    | cons event events =>
      simp only [turn, ahead, untallied, BatchUploader.surplus, BatchUploader.overcount,
        List.length_cons, List.length_append, List.length_nil]
      push_cast
      constructor
      · ring
      · trivial
  | count added =>
    simp only [turn, ahead, untallied, BatchUploader.surplus, BatchUploader.overcount,
      fetchAdd_cast]
    constructor
    · ring
    · trivial
  | done => exact ⟨rfl, rfl⟩

theorem evicted_sized {dropped : Nat} {events : List ε} (hdropped : dropped < 2 ^ 64)
    (hevents : events.length < 2 ^ 64) : (evicted dropped events).Sized := by
  unfold evicted
  split
  · exact ⟨hdropped, hevents⟩
  · exact ⟨Nat.le_refl _, hevents⟩

/-- The numbers stay those of a `usize`. -/
theorem turn_sized {adding : Adding ε} (hself : self.Sized) (hadding : adding.Sized) :
    (adding.turn self).1.Sized ∧ (adding.turn self).2.Sized := by
  cases adding with
  | enqueue event =>
    have hone : [event].length < 2 ^ 64 := by
      rw [List.length_singleton]
      decide
    simp only [turn]
    split
    · exact ⟨hself, by decide, hone⟩
    · exact ⟨hself, Nat.le_refl _, by decide⟩
  | enqueueMany events =>
    have htotal := fetchAdd_lt hself.queueSize hadding
    simp only [turn]
    split
    · exact ⟨hself, trivial⟩
    · split
      · refine ⟨hself, ?_, hadding⟩
        omega
      · exact ⟨hself, Nat.le_refl _, hadding⟩
  | evict left dropped events =>
    obtain ⟨hdropped, hevents⟩ := hadding
    cases left with
    | zero => exact ⟨hself, evicted_sized (by omega) hevents⟩
    | succ left =>
      cases hqueue : self.queue with
      | nil =>
        simp only [turn, hqueue]
        exact ⟨hself, evicted_sized (by omega) hevents⟩
      | cons oldest queue =>
        simp only [turn, hqueue]
        refine ⟨⟨hself.queueSize, hself.totalDropped⟩, ?_, hevents⟩
        omega
  | discount dropped events =>
    exact ⟨⟨fetchSub_lt dropped hself.queueSize, hself.totalDropped⟩, hadding⟩
  | tally dropped events =>
    exact ⟨⟨hself.queueSize, fetchAdd_lt hself.totalDropped hadding.1⟩, Nat.le_refl _, hadding.2⟩
  | push events added =>
    obtain ⟨hevents, hadded⟩ := hadding
    cases events with
    | nil => exact ⟨hself, hadded⟩
    | cons event events =>
      rw [List.length_cons] at hevents
      exact ⟨⟨hself.queueSize, hself.totalDropped⟩, by omega, hadded⟩
  | count added => exact ⟨⟨fetchAdd_lt hself.queueSize hadding, hself.totalDropped⟩, trivial⟩
  | done => exact ⟨hself, trivial⟩

end Adding

namespace Flush

theorem drained_counts (events : List ε) :
    (drained events).ahead = -events.length ∧ (drained events).untallied = 0 := by
  cases events with
  | nil =>
    simp only [drained, List.isEmpty_nil, if_true, ahead, untallied, List.length_nil,
      Nat.cast_zero, neg_zero]
    exact ⟨trivial, trivial⟩
  | cons event events => exact ⟨rfl, rfl⟩

/-- **The counters and a flush.** -/
theorem turn_counts {answer : Answer} {flush : Flush ε} (hflush : flush.Sized) :
    (flush.turn self answer).1.surplus + (flush.turn self answer).2.ahead =
        self.surplus + flush.ahead ∧
      (flush.turn self answer).1.overcount + (flush.turn self answer).2.untallied =
        self.overcount + flush.untallied := by
  cases flush with
  | start =>
    simp only [turn]
    split
    · exact ⟨rfl, rfl⟩
    · exact ⟨rfl, rfl⟩
  | load =>
    simp only [turn]
    split
    · exact ⟨rfl, rfl⟩
    · exact ⟨rfl, rfl⟩
  | check size =>
    simp only [turn]
    split
    · exact ⟨rfl, rfl⟩
    · simp [ahead, untallied, BatchUploader.surplus, BatchUploader.overcount]
    · simp [ahead, untallied, BatchUploader.surplus, BatchUploader.overcount]
  | drain left events =>
    obtain ⟨hahead, huntallied⟩ := drained_counts events
    cases left with
    | zero =>
      rw [turn, hahead, huntallied]
      exact ⟨rfl, rfl⟩
    | succ left =>
      cases hqueue : self.queue with
      | nil =>
        simp only [turn, hqueue, hahead, huntallied]
        exact ⟨rfl, rfl⟩
      | cons oldest queue =>
        simp only [turn, hqueue, ahead, untallied, BatchUploader.surplus, BatchUploader.overcount,
          List.length_cons, List.length_append, List.length_nil]
        push_cast
        constructor
        · ring
        · trivial
  | discount events =>
    simp only [turn, ahead, untallied, BatchUploader.surplus, BatchUploader.overcount,
      fetchSub_cast _ hflush]
    constructor
    · ring
    · trivial
  | upload attempt batch =>
    simp only [turn]
    split
    · exact ⟨rfl, rfl⟩
    · split
      · exact ⟨rfl, rfl⟩
      · exact ⟨rfl, rfl⟩
  | succeeded count => exact ⟨rfl, rfl⟩
  | exhausted events => exact ⟨rfl, rfl⟩
  | requeue adding =>
    have hadding := @Adding.turn_counts ε self adding hflush
    cases adding with
    | done => exact ⟨rfl, rfl⟩
    | _ => exact hadding
  | returned result => exact ⟨rfl, rfl⟩

theorem drained_sized {events : List ε} (h : events.length < 2 ^ 64) : (drained events).Sized := by
  unfold drained
  split
  · trivial
  · exact h

/-- A flush keeps the numbers those of a `usize`. -/
theorem turn_sized {answer : Answer} {flush : Flush ε} (hself : self.Sized) (hflush : flush.Sized) :
    (flush.turn self answer).1.Sized ∧ (flush.turn self answer).2.Sized := by
  cases flush with
  | start =>
    simp only [turn]
    split
    · exact ⟨hself, trivial⟩
    · exact ⟨hself, trivial⟩
  | load =>
    simp only [turn]
    split
    · exact ⟨hself, trivial⟩
    · exact ⟨hself, hself.queueSize⟩
  | check size =>
    have hsize : size < 2 ^ 64 := hflush
    have hdrain (limit : Nat) : min size limit + ([] : List ε).length < 2 ^ 64 := by
      rw [List.length_nil]
      omega
    simp only [turn]
    split
    · exact ⟨⟨hself.queueSize, hself.totalDropped⟩, trivial⟩
    · exact ⟨⟨hself.queueSize, hself.totalDropped⟩, hdrain _⟩
    · exact ⟨⟨hself.queueSize, hself.totalDropped⟩, hdrain _⟩
  | drain left events =>
    have hsum : left + events.length < 2 ^ 64 := hflush
    cases left with
    | zero => exact ⟨hself, drained_sized (by omega)⟩
    | succ left =>
      cases hqueue : self.queue with
      | nil =>
        simp only [turn, hqueue]
        exact ⟨hself, drained_sized (by omega)⟩
      | cons oldest queue =>
        simp only [turn, hqueue]
        refine ⟨⟨hself.queueSize, hself.totalDropped⟩, ?_⟩
        show left + (events ++ [oldest]).length < 2 ^ 64
        rw [List.length_append, List.length_singleton]
        omega
  | discount events =>
    exact ⟨⟨fetchSub_lt events.length hself.queueSize, hself.totalDropped⟩, hflush⟩
  | upload attempt batch =>
    simp only [turn]
    split
    · exact ⟨⟨hself.queueSize, hself.totalDropped⟩, trivial⟩
    · split
      · exact ⟨hself, hflush⟩
      · exact ⟨hself, hflush⟩
  | succeeded count => exact ⟨⟨hself.queueSize, hself.totalDropped⟩, trivial⟩
  | exhausted events => exact ⟨⟨hself.queueSize, hself.totalDropped⟩, hflush⟩
  | requeue adding =>
    have hadding := @Adding.turn_sized ε self adding hself hflush
    cases adding with
    | done => exact ⟨hself, trivial⟩
    | _ => exact hadding
  | returned result => exact ⟨hself, trivial⟩

end Flush

namespace Uploading

/-- How much longer a call has made the queue than it has told the counter. -/
def UploaderCall.ahead : UploaderCall ε → Usize
  | .adding call => call.ahead
  | .flushing call => call.ahead

def UploaderCall.untallied : UploaderCall ε → Usize
  | .adding call => call.untallied
  | .flushing call => call.untallied

def UploaderCall.Sized : UploaderCall ε → Prop
  | .adding call => call.Sized
  | .flushing call => call.Sized

/-- What holds between the turns: the counters are off by what the calls are ahead. -/
structure Counted (s : Calls (BatchUploader ε) (UploaderCall ε)) : Prop where
  sized : s.shared.Sized
  calls : ∀ (j : Nat) call, s.calls[j]? = some call → call.Sized
  queued : CallSystem.total BatchUploader.surplus UploaderCall.ahead s = 0
  dropped : CallSystem.total BatchUploader.overcount UploaderCall.untallied s = 0

theorem counted_start (config : UploaderConfig) :
    Counted (⟨.new config, []⟩ : Calls (BatchUploader ε) (UploaderCall ε)) where
  sized := ⟨Nat.two_pow_pos 64, Nat.two_pow_pos 64⟩
  calls := by
    intro j call h
    cases h
  queued := by simp [CallSystem.total, BatchUploader.surplus, BatchUploader.new]
  dropped := by simp [CallSystem.total, BatchUploader.overcount, BatchUploader.new]

theorem enter_sized (request : Request ε) : ((uploaderCalls ε).enter request).Sized := by
  cases request with
  | enqueue event => trivial
  | enqueueMany events => exact events.fits
  | dropOldest count => exact ⟨count.isLt, Nat.two_pow_pos 64⟩
  | flush => trivial

theorem enter_counts (request : Request ε) :
    ((uploaderCalls ε).enter request).ahead = 0 ∧
      ((uploaderCalls ε).enter request).untallied = 0 := by
  cases request with
  | dropOldest count =>
    simp [uploaderCalls, UploaderCall.ahead, UploaderCall.untallied, Adding.ahead, Adding.untallied]
  | _ => exact ⟨rfl, rfl⟩

/-- **One move** keeps the counters off by what the calls are ahead. -/
theorem counted_step (s : Calls (BatchUploader ε) (UploaderCall ε))
    (m : CallMove (Request ε) Answer) (h : Counted s) : Counted ((uploaderCalls ε).step s m) := by
  have hcounts : ∀ index answer call, m = .turn index answer → s.calls[index]? = some call →
      ((uploaderCalls ε).turn s.shared index answer call).1.surplus +
          ((uploaderCalls ε).turn s.shared index answer call).2.ahead =
        s.shared.surplus + call.ahead ∧
      ((uploaderCalls ε).turn s.shared index answer call).1.overcount +
          ((uploaderCalls ε).turn s.shared index answer call).2.untallied =
        s.shared.overcount + call.untallied := by
    intro index answer call _ hcall
    have hcallSized := h.calls index call hcall
    cases call with
    | adding adding => exact Adding.turn_counts hcallSized
    | flushing flush => exact Flush.turn_counts hcallSized
  have hbrought : (uploaderCalls ε).brought UploaderCall.ahead m = 0 ∧
      (uploaderCalls ε).brought UploaderCall.untallied m = 0 := by
    cases m with
    | request request => exact enter_counts request
    | turn index answer => exact ⟨rfl, rfl⟩
  have hsized := (uploaderCalls ε).step_invariant (m := m)
    (P := fun uploader _ => uploader.Sized) (Q := fun _ _ call => call.Sized)
    (fun request hself => ⟨hself, enter_sized request⟩)
    (fun index answer call _ hcall => by
      have hcallSized := h.calls index call hcall
      cases call with
      | adding adding =>
        obtain ⟨hself, hthis⟩ := Adding.turn_sized h.sized hcallSized
        exact ⟨hself, hthis, fun _ _ _ _ hother => hother⟩
      | flushing flush =>
        obtain ⟨hself, hthis⟩ := Flush.turn_sized h.sized hcallSized
        exact ⟨hself, hthis, fun _ _ _ _ hother => hother⟩)
    h.sized h.calls
  refine ⟨hsized.1, hsized.2, ?_, ?_⟩
  · rw [(uploaderCalls ε).total_step fun index answer call hm hcall =>
      (hcounts index answer call hm hcall).1, h.queued, hbrought.1, add_zero]
  · rw [(uploaderCalls ε).total_step fun index answer call hm hcall =>
      (hcounts index answer call hm hcall).2, h.dropped, hbrought.2, add_zero]

/-! ## The result -/

/-- Has the call returned? -/
def UploaderCall.Returned : UploaderCall ε → Prop
  | .adding call => call = .done
  | .flushing call => ∃ result, call = .returned result

/-- A call that has returned is ahead of nothing. -/
theorem UploaderCall.Returned.counts {call : UploaderCall ε} (h : call.Returned) :
    call.ahead = 0 ∧ call.untallied = 0 := by
  cases call with
  | adding adding =>
    obtain rfl : adding = .done := h
    exact ⟨rfl, rfl⟩
  | flushing flush =>
    obtain ⟨result, rfl⟩ := h
    exact ⟨rfl, rfl⟩

/-- Numbers below the size of a `usize` that agree modulo it. -/
theorem eq_mod_of_cast_eq {n m : Nat} (hn : n < 2 ^ 64) (h : (n : Usize) = m) :
    n = m % 2 ^ 64 := by
  rw [ZMod.natCast_eq_natCast_iff'] at h
  rw [← h, Nat.mod_eq_of_lt hn]

/-- **Conservation.**  At every moment of every interleaving, each event is as often in the queue,
    dropped, in an accepted batch or in the hands of a call as it was enqueued.  The counter of
    dropped events says how many there are but for those that a call under way is about to count;
    and when no call is under way, the counter of the queue is its length (both as a `usize`). -/
theorem conserved (config : UploaderConfig) (moves : List (CallMove (Request ε) Answer)) :
    let s := moves.foldl (uploaderCalls ε).step ⟨.new config, []⟩
    s.shared.places + (s.calls.map UploaderCall.held).sum = (moves.flatMap enqueued : List ε) ∧
      (s.shared.totalDropped : Usize) + (s.calls.map UploaderCall.untallied).sum =
        s.shared.dropped.length ∧
      ((∀ call ∈ s.calls, call.Returned) →
        s.shared.queueSize = s.shared.queue.length % 2 ^ 64 ∧
          s.shared.totalDropped = s.shared.dropped.length % 2 ^ 64) := by
  intro s
  have hcounted : Counted s := states_always counted_step (counted_start config) s
    (foldl_mem_states _ _)
  refine ⟨places_run config moves, ?_, fun hreturned => ?_⟩
  · have hdropped := hcounted.dropped
    simp only [CallSystem.total, BatchUploader.overcount] at hdropped
    rw [sub_add_eq_add_sub, sub_eq_zero] at hdropped
    exact hdropped
  · have hqueued := hcounted.queued
    rw [CallSystem.total_of_none fun call hcall => (hreturned call hcall).counts.1,
      BatchUploader.surplus, sub_eq_zero] at hqueued
    have hdropped := hcounted.dropped
    rw [CallSystem.total_of_none fun call hcall => (hreturned call hcall).counts.2,
      BatchUploader.overcount, sub_eq_zero] at hdropped
    exact ⟨eq_mod_of_cast_eq hcounted.sized.queueSize hqueued,
      eq_mod_of_cast_eq hcounted.sized.totalDropped hdropped⟩

/-! ## A counter that lags -/

def exampleUploader : UploaderConfig where
  sessionId := "session"
  maxBatchSize := 1
  maxRetries := 0
  dynamicBatch := false
  maxQueueSize := 2

/-- **The counter lags** behind a call of `enqueue` that has pushed its event. -/
theorem counter_lags :
    ¬ ∀ (config : UploaderConfig) (moves : List (CallMove (Request Nat) Answer)),
      let s := moves.foldl (uploaderCalls Nat).step ⟨.new config, []⟩
      (∀ flush, UploaderCall.flushing flush ∉ s.calls) →
        s.shared.queueSize = s.shared.queue.length := by
  intro h
  have hlags := h exampleUploader [.request (.enqueue 7), .turn 0 {}, .turn 0 {}]
    fun flush hflush => by cases List.mem_singleton.mp hflush
  revert hlags
  decide

end Uploading

end Oneshim
