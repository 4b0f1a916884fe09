/-
  The capture ring buffer (`oneshim-vision/src/ring_buffer.rs`).

  A deque of thumbnail frames behind a lock, and a countdown of post-event captures in an atomic.
  `push` and the drain of `check_and_flush` run under the lock; the countdown is stored after the
  lock is released, and `should_force_post_capture` LOADS it and then SUBTRACTS from it.

  1. **Code** — the operations of `CaptureRingBuffer`, and `RingCall`: where a call stands between
     two of its atomic operations.

  2. **The promise** (`KeepsPromise`) — the buffer holds the last frames pushed since the last
     flush, and since a countdown was stored no more captures were forced than it allows.

  3. **The result** (`promise_kept_iff`) — a run keeps the promise in every state exactly when no
     frame is pushed into a buffer of capacity zero, and no subtraction meets a countdown that
     another caller has brought to zero after the load.

  Importance is an `f32` in the source; the code only asks whether it is below the threshold, so the
  type is left open.  So is the type of frames, which the buffer moves and never reads.
-/
import Oneshim.Lib.Calls

namespace Oneshim.Vision

open Lib

/-! ## The code -/

/-- `RingBufferFlush`. -/
structure RingBufferFlush (Frame : Type) where
  preEventFrames : List Frame
  triggerFrame : Frame

/-- `CaptureRingBuffer`; the front of the deque is the head of the list. -/
structure CaptureRingBuffer (F32 Frame : Type) where
  buffer : List Frame
  capacity : Nat
  postEventRemaining : UInt32
  postEventCount : UInt32
  flushThreshold : F32
  evictedCount : UInt64

/-- Where a call stands. -/
inductive RingCall (F32 Frame : Type) where
  | push (frame : Frame)
  | checkAndFlush (importance : F32) (triggerFrame : Frame)
  /-- `check_and_flush` before its store. -/
  | arming (flush : RingBufferFlush Frame)
  | shouldForcePostCapture
  /-- `should_force_post_capture` before its `fetch_sub`. -/
  | decrementing
  | pushed
  | flushed (flush : Option (RingBufferFlush Frame))
  | forced (answer : Bool)

variable {F32 Frame : Type}

namespace CaptureRingBuffer

/-- `CaptureRingBuffer::new`. -/
def new (capacity : Nat) (postEventCount : UInt32) (flushThreshold : F32) :
    CaptureRingBuffer F32 Frame :=
  { buffer := [], capacity, postEventRemaining := 0, postEventCount, flushThreshold
    evictedCount := 0 }

/-- `push`. -/
def push (frame : Frame) (self : CaptureRingBuffer F32 Frame) : CaptureRingBuffer F32 Frame :=
  let self :=
    if self.buffer.length ≥ self.capacity then
      { self with buffer := self.buffer.tail, evictedCount := self.evictedCount + 1 }
    else self
  { self with buffer := self.buffer ++ [frame] }

/-- A call up to its next atomic operation. -/
def turn [LT F32] [DecidableLT F32] (self : CaptureRingBuffer F32 Frame) :
    RingCall F32 Frame → CaptureRingBuffer F32 Frame × RingCall F32 Frame
  | .push frame => (self.push frame, .pushed)
  | .checkAndFlush importance triggerFrame =>
    if importance < self.flushThreshold then (self, .flushed none)
    else ({ self with buffer := [] }, .arming ⟨self.buffer, triggerFrame⟩)
  | .arming flush =>
    ({ self with postEventRemaining := self.postEventCount }, .flushed (some flush))
  | .shouldForcePostCapture =>
    if self.postEventRemaining > 0 then (self, .decrementing) else (self, .forced false)
  | .decrementing =>
    -- `fetch_sub` wraps
    ({ self with postEventRemaining := self.postEventRemaining - 1 }, .forced true)
  | .pushed => (self, .pushed)
  | .flushed flush => (self, .flushed flush)
  | .forced answer => (self, .forced answer)

end CaptureRingBuffer

/-! ## Runs and what is recorded of them -/

/-- The calls of `CaptureRingBuffer`. -/
inductive RingRequest (F32 Frame : Type) where
  | push (frame : Frame)
  | checkAndFlush (importance : F32) (triggerFrame : Frame)
  | shouldForcePostCapture

/-- Where a new call stands. -/
def RingRequest.call : RingRequest F32 Frame → RingCall F32 Frame
  | .push frame => .push frame
  | .checkAndFlush importance triggerFrame => .checkAndFlush importance triggerFrame
  | .shouldForcePostCapture => .shouldForcePostCapture

/-- What a turn leaves in the record of the run. -/
inductive RingEvent (Frame : Type) where
  | pushed (frame : Frame)
  | drained
  | armed
  | forced

/-- The event of a turn. -/
def RingCall.event [LT F32] [DecidableLT F32] (self : CaptureRingBuffer F32 Frame) :
    RingCall F32 Frame → Option (RingEvent Frame)
  | .push frame => some (.pushed frame)
  | .checkAndFlush importance _ => if importance < self.flushThreshold then none else some .drained
  | .arming _ => some .armed
  | .decrementing => some .forced
  | _ => none

/-- The buffer, and the events so far, the newest first. -/
structure RecordedRing (F32 Frame : Type) where
  ring : CaptureRingBuffer F32 Frame
  log : List (RingEvent Frame)

/-- The calls over the recorded buffer. -/
def ringCalls [LT F32] [DecidableLT F32] : CallSystem (RecordedRing F32 Frame) (RingRequest F32 Frame) Unit
    (RingCall F32 Frame) where
  enter := RingRequest.call
  turn s _ _ call := (⟨(s.ring.turn call).1, (call.event s.ring).toList ++ s.log⟩, (s.ring.turn call).2)

/-- The states of the buffer and its callers. -/
abbrev RingSystem (F32 Frame : Type) := Calls (RecordedRing F32 Frame) (RingCall F32 Frame)

/-- What can happen next. -/
abbrev RingMove (F32 Frame : Type) := CallMove (RingRequest F32 Frame) Unit

/-- A new buffer, before any call. -/
def RingSystem.start (capacity : Nat) (postEventCount : UInt32) (flushThreshold : F32) :
    RingSystem F32 Frame :=
  ⟨⟨.new capacity postEventCount flushThreshold, []⟩, []⟩

/-- The frames pushed since the last flush, in push order. -/
def pushedSinceFlush : List (RingEvent Frame) → List Frame
  | [] => []
  | .drained :: _ => []
  | .pushed frame :: log => pushedSinceFlush log ++ [frame]
  | .armed :: log => pushedSinceFlush log
  | .forced :: log => pushedSinceFlush log

/-- The calls that returned true since a flush last armed the countdown. -/
def forcedSinceArmed : List (RingEvent Frame) → Nat
  | [] => 0
  | .armed :: _ => 0
  | .forced :: log => forcedSinceArmed log + 1
  | .pushed _ :: log => forcedSinceArmed log
  | .drained :: log => forcedSinceArmed log

/-- The last `n` of a list. -/
def lastOf {α : Type} (n : Nat) (xs : List α) : List α := xs.drop (xs.length - n)

/-- **The promise** of the buffer. -/
structure KeepsPromise (s : RingSystem F32 Frame) : Prop where
  frames : s.shared.ring.buffer =
    lastOf (min s.shared.ring.capacity (pushedSinceFlush s.shared.log).length)
      (pushedSinceFlush s.shared.log)
  length_le : s.shared.ring.buffer.length ≤ s.shared.ring.capacity
  forced_le : forcedSinceArmed s.shared.log ≤ s.shared.ring.postEventCount.toNat

/-- A turn after which the promise can still be kept: no frame goes into a buffer of capacity zero,
    and a subtraction meets a countdown above zero. -/
def RingCall.orderly (s : RecordedRing F32 Frame) : RingCall F32 Frame → Prop
  | .push _ => s.ring.capacity ≠ 0
  | .decrementing => s.ring.postEventRemaining ≠ 0
  | _ => True

/-- A move of such a turn. -/
def orderlyMove : RingSystem F32 Frame → RingMove F32 Frame → Prop :=
  CallSystem.OnTurn fun s _ _ call => call.orderly s

/-! ## Frames -/

section

variable {α : Type} {capacity : Nat} {xs : List α} {x : α}

theorem length_lastOf (n : Nat) (xs : List α) : (lastOf n xs).length = min n xs.length := by
  unfold lastOf
  rw [List.length_drop]
  omega

theorem lastOf_min (n : Nat) (xs : List α) : lastOf (min n xs.length) xs = lastOf n xs := by
  unfold lastOf
  congr 1
  omega

/-- Below the capacity nothing is dropped. -/
theorem lastOf_concat_of_lt (h : xs.length < capacity) :
    lastOf capacity (xs ++ [x]) = lastOf capacity xs ++ [x] := by
  have hold : xs.length - capacity = 0 := by omega
  have hnew : (xs ++ [x]).length - capacity = 0 := by
    rw [List.length_append, List.length_singleton]
    omega
  unfold lastOf
  rw [hold, hnew, List.drop_zero, List.drop_zero]

/-- At the capacity the oldest one is dropped. -/
theorem lastOf_concat_of_ge (hpos : capacity ≠ 0) (h : capacity ≤ xs.length) :
    lastOf capacity (xs ++ [x]) = (lastOf capacity xs).tail ++ [x] := by
  have hlen : (xs ++ [x]).length - capacity = xs.length - capacity + 1 := by
    rw [List.length_append, List.length_singleton]
    omega
  unfold lastOf
  rw [hlen, List.drop_append_of_le_length (by omega), List.tail_drop]

end

/-! ## The invariant -/

/-- The invariant of the recorded buffer: the frames, and the countdown with what it was used for;
    before the first flush there is neither. -/
structure RingInvariant (s : RecordedRing F32 Frame) : Prop where
  frames : s.ring.buffer = lastOf s.ring.capacity (pushedSinceFlush s.log)
  countdown : (RingEvent.armed ∈ s.log ∧
      s.ring.postEventRemaining.toNat + forcedSinceArmed s.log = s.ring.postEventCount.toNat) ∨
    (RingEvent.armed ∉ s.log ∧ s.ring.postEventRemaining = 0 ∧ forcedSinceArmed s.log = 0)

/-- A call that has loaded a countdown above zero comes after a flush. -/
def RingCall.afterFlush (s : RecordedRing F32 Frame) (call : RingCall F32 Frame) : Prop :=
  call = .decrementing → RingEvent.armed ∈ s.log

variable {s : RecordedRing F32 Frame} {call : RingCall F32 Frame}

theorem RingInvariant.length_le (h : RingInvariant s) :
    s.ring.buffer.length ≤ s.ring.capacity := by
  rw [h.frames, length_lastOf]
  exact Nat.min_le_left _ _

theorem RingInvariant.forced_le (h : RingInvariant s) :
    forcedSinceArmed s.log ≤ s.ring.postEventCount.toNat := by
  rcases h.countdown with ⟨-, hcount⟩ | ⟨-, -, hforced⟩
  · omega
  · omega

/-- `push` keeps the last frames. -/
theorem buffer_push {ring : CaptureRingBuffer F32 Frame} {pushed : List Frame} (frame : Frame)
    (hpos : ring.capacity ≠ 0) (h : ring.buffer = lastOf ring.capacity pushed) :
    (ring.push frame).buffer = lastOf ring.capacity (pushed ++ [frame]) := by
  have hlen : ring.buffer.length = min ring.capacity pushed.length := by
    rw [h, length_lastOf]
  unfold CaptureRingBuffer.push
  by_cases hfull : ring.buffer.length ≥ ring.capacity
  · rw [if_pos hfull, lastOf_concat_of_ge hpos (by omega), ← h]
  · rw [if_neg hfull, lastOf_concat_of_lt (by omega), ← h]

@[simp] theorem capacity_push (ring : CaptureRingBuffer F32 Frame) (frame : Frame) :
    (ring.push frame).capacity = ring.capacity := by
  unfold CaptureRingBuffer.push
  split <;> rfl

@[simp] theorem postEventRemaining_push (ring : CaptureRingBuffer F32 Frame) (frame : Frame) :
    (ring.push frame).postEventRemaining = ring.postEventRemaining := by
  unfold CaptureRingBuffer.push
  split <;> rfl

@[simp] theorem postEventCount_push (ring : CaptureRingBuffer F32 Frame) (frame : Frame) :
    (ring.push frame).postEventCount = ring.postEventCount := by
  unfold CaptureRingBuffer.push
  split <;> rfl

variable [LT F32] [DecidableLT F32]

/-- The buffer after a turn, with its record. -/
def RecordedRing.after (s : RecordedRing F32 Frame) (call : RingCall F32 Frame) :
    RecordedRing F32 Frame :=
  ⟨(s.ring.turn call).1, (call.event s.ring).toList ++ s.log⟩

/-- **One turn.**  An orderly turn keeps the invariant. -/
theorem RingInvariant.turn (h : RingInvariant s) (hafter : call.afterFlush s)
    (horderly : call.orderly s) : RingInvariant (s.after call) := by
  cases call with
  | push frame =>
    refine ⟨?_, ?_⟩
    · show (s.ring.push frame).buffer = lastOf (s.ring.push frame).capacity _
      rw [capacity_push]
      exact buffer_push frame horderly h.frames
    · simpa [RecordedRing.after, CaptureRingBuffer.turn, RingCall.event, forcedSinceArmed]
        using h.countdown
  | checkAndFlush importance triggerFrame =>
    simp only [RecordedRing.after, CaptureRingBuffer.turn, RingCall.event]
    by_cases hlt : importance < s.ring.flushThreshold
    · simp only [if_pos hlt]
      exact h
    · simp only [if_neg hlt]
      refine ⟨?_, by simpa [forcedSinceArmed] using h.countdown⟩
      exact (List.drop_nil).symm
  | arming flush => exact ⟨h.frames, .inl ⟨List.mem_cons_self, rfl⟩⟩
  | shouldForcePostCapture =>
    simp only [RecordedRing.after, CaptureRingBuffer.turn]
    split
    · exact h
    · exact h
  | decrementing =>
    refine ⟨h.frames, .inl ⟨List.mem_cons_of_mem _ (hafter rfl), ?_⟩⟩
    rcases h.countdown with ⟨-, hcount⟩ | ⟨hunarmed, -⟩
    · have hne : s.ring.postEventRemaining ≠ 0 := horderly
      have hpos : s.ring.postEventRemaining.toNat ≠ 0 := fun hzero =>
        hne (UInt32.toNat_inj.mp hzero)
      show (s.ring.postEventRemaining - 1).toNat + (forcedSinceArmed s.log + 1) = _
      have hsub : (s.ring.postEventRemaining - 1).toNat = s.ring.postEventRemaining.toNat - 1 :=
        UInt32.toNat_sub_of_le _ _ (UInt32.le_iff_toNat_le.mpr (Nat.one_le_iff_ne_zero.mpr hpos))
      rw [hsub]
      show _ = s.ring.postEventCount.toNat
      omega
    · exact absurd (hafter rfl) hunarmed
  | _ => exact h

/-- The record only grows. -/
theorem armed_mem_after (h : RingEvent.armed ∈ s.log) (call : RingCall F32 Frame) :
    RingEvent.armed ∈ (s.after call).log :=
  List.mem_append_right _ h

/-- A call that goes on to its subtraction has seen the countdown of a flush. -/
theorem afterFlush_turn (h : RingInvariant s) : (s.ring.turn call).2.afterFlush (s.after call) := by
  intro hcall
  cases call with
  | shouldForcePostCapture =>
    simp only [CaptureRingBuffer.turn] at hcall
    split at hcall
    · next hpos =>
      rcases h.countdown with ⟨harmed, -⟩ | ⟨-, hzero, -⟩
      · exact armed_mem_after harmed _
      · rw [hzero] at hpos
        exact absurd hpos (by decide)
    · cases hcall
  | checkAndFlush importance triggerFrame =>
    simp only [CaptureRingBuffer.turn] at hcall
    split at hcall <;> cases hcall
  | _ => cases hcall

/-- The invariant of the buffer with its calls. -/
def RingSystem.Invariant (s : RingSystem F32 Frame) : Prop :=
  RingInvariant s.shared ∧
    ∀ (j : Nat) call, s.calls[j]? = some call → call.afterFlush s.shared

omit [LT F32] [DecidableLT F32] in
theorem RingSystem.invariant_start (capacity : Nat) (postEventCount : UInt32)
    (flushThreshold : F32) :
    (RingSystem.start capacity postEventCount flushThreshold : RingSystem F32 Frame).Invariant := by
  refine ⟨⟨?_, .inr ⟨List.not_mem_nil, rfl, rfl⟩⟩, fun j call hcall => ?_⟩
  · show [] = lastOf capacity []
    unfold lastOf
    rw [List.drop_nil]
  · cases hcall

/-- **One move.** -/
theorem RingSystem.Invariant.step {s : RingSystem F32 Frame} {m : RingMove F32 Frame}
    (h : s.Invariant) (horderly : orderlyMove s m) : RingSystem.Invariant (ringCalls.step s m) := by
  refine ringCalls.step_invariant (P := fun s _ => RingInvariant s)
    (Q := fun s _ call => call.afterFlush s)
    (fun request hring => ⟨hring, fun hcall => ?_⟩) (fun index answer call hm hcall => ?_) h.1 h.2
  · cases request <;> cases hcall
  · subst hm
    exact ⟨h.1.turn (h.2 index call hcall) (horderly call hcall), afterFlush_turn h.1,
      fun j other _ _ hother hdecrementing => armed_mem_after (hother hdecrementing) call⟩

omit [LT F32] [DecidableLT F32] in
/-- The invariant gives the promise. -/
theorem RingSystem.Invariant.keepsPromise {s : RingSystem F32 Frame} (h : s.Invariant) :
    KeepsPromise s where
  frames := by
    rw [lastOf_min]
    exact h.1.frames
  length_le := h.1.length_le
  forced_le := h.1.forced_le

/-- **What a move that is not orderly does**: the promise is broken right after it. -/
theorem orderlyMove_of_keepsPromise {s : RingSystem F32 Frame} {m : RingMove F32 Frame}
    (h : s.Invariant) (hkept : KeepsPromise (ringCalls.step s m)) : orderlyMove s m := by
  cases m with
  | request request => trivial
  | turn index answer =>
    intro call hcall
    have hstep : ringCalls.step s (.turn index answer)
        = ⟨s.shared.after call, s.calls.set index (s.shared.ring.turn call).2⟩ := by
      simp only [CallSystem.step, hcall]
      rfl
    rw [hstep] at hkept
    cases call with
    | push frame =>
      -- the frame is in the buffer, so the capacity is not zero
      intro hzero
      have hlen := hkept.length_le
      have hcap : (s.shared.ring.push frame).capacity = 0 := by rw [capacity_push, hzero]
      have hbuf : (s.shared.ring.push frame).buffer.length ≤ 0 := hcap ▸ hlen
      simp [CaptureRingBuffer.push] at hbuf
    | decrementing =>
      -- all captures that the countdown allows were forced before
      intro hzero
      have hforced : forcedSinceArmed s.shared.log + 1 ≤ s.shared.ring.postEventCount.toNat :=
        hkept.forced_le
      rcases h.1.countdown with ⟨-, hcount⟩ | ⟨hunarmed, -⟩
      · rw [hzero] at hcount
        have : (0 : UInt32).toNat = 0 := rfl
        omega
      · exact hunarmed (h.2 index _ hcall rfl)
    | _ => trivial

/-! ## The result -/

/-- **When the buffer keeps its promise.**  For every capacity, countdown and threshold and every
    interleaving of calls: in all states of the run exactly when all its turns are orderly. -/
theorem promise_kept_iff (capacity : Nat) (postEventCount : UInt32) (flushThreshold : F32)
    (moves : List (RingMove F32 Frame)) :
    (∀ s ∈ states ringCalls.step (RingSystem.start capacity postEventCount flushThreshold) moves,
        KeepsPromise s) ↔
      Along ringCalls.step orderlyMove (RingSystem.start capacity postEventCount flushThreshold) moves := by
  have hstart : (RingSystem.start capacity postEventCount flushThreshold :
      RingSystem F32 Frame).Invariant := RingSystem.invariant_start _ _ _
  have hstep : ∀ (s : RingSystem F32 Frame) (m : RingMove F32 Frame), s.Invariant →
      orderlyMove s m → RingSystem.Invariant (ringCalls.step s m) := fun _ _ h => h.step
  constructor
  · exact along_of_states hstep (fun s m => orderlyMove_of_keepsPromise) hstart
  · intro hrun s hs
    exact (states_invariant hstep hstart hrun s hs).keepsPromise

/-- Two callers at the last count: both load one, both subtract, both are told to capture. -/
def overlappingCallers : List (RingMove Nat Nat) :=
  [.request (.checkAndFlush 1 0), .turn 0 (), .turn 0 (), .request .shouldForcePostCapture,
    .request .shouldForcePostCapture, .turn 1 (), .turn 2 (), .turn 1 (), .turn 2 ()]

/-- The promise is broken by two overlapping callers at the last count, and by one frame pushed into
    a buffer of capacity zero. -/
theorem promise_broken :
    ¬ (∀ s ∈ states ringCalls.step (RingSystem.start 6 1 1) overlappingCallers, KeepsPromise s) ∧
      ¬ (∀ s ∈ states ringCalls.step (RingSystem.start 0 1 1 : RingSystem Nat Nat)
          [.request (.push 7), .turn 0 ()], KeepsPromise s) := by
  constructor
  · intro h
    have hlast := (h _ (foldl_mem_states _ _)).forced_le
    exact absurd hlast (by decide +kernel)
  · intro h
    have hlast := (h _ (foldl_mem_states _ _)).length_le
    exact absurd hlast (by decide +kernel)

end Oneshim.Vision
