/-
  The hybrid logical clock as a clock (`oneshim-core/src/sync/hlc.rs`): `tick` and `merge`.

  Both set the clock to a later timestamp: they take the highest of the wall clock, the local and
  (in `merge`) the remote time, and where the wall clock is not ahead they COUNT, one above the
  counters they meet at that time.  A remote more than an hour ahead of the wall clock is rejected,
  and the clock ticks instead.

  1. **The counter is a `u32`.**  A release build wraps at `2^32`, and then the timestamp falls back
     to the start of its millisecond.  `clock_increases_iff` says that this is the only way in which
     the clock fails to increase, and to overtake the remotes it accepts.

  2. **The wall time is bounded** by the readings (`wall_bounded`): a remote is compared with the
     READING and not with the clock, so accepted remotes cannot push the clock further and further.

  The readings of the wall clock are the caller's, any value at all and in any order.  `merge` reads
  the clock once, and a second time when it falls back to `tick`.
-/
import Mathlib.Data.List.Induction
import Oneshim.Core.Hlc

namespace Oneshim
namespace Hlc

/-- `MAX_CLOCK_DRIFT_MS`: one hour. -/
def maxClockDriftMs : Nat := 3600000

/-- `counter + 1` on `u32`. -/
def succU32 (counter : Nat) : Nat := (counter + 1) % 2 ^ 32

/-- `tick`: advance the clock for a local event. -/
def tick (self : Hlc) (now : Nat) : Hlc :=
  if self.wallMs < now then { self with wallMs := now, counter := 0 }
  else { self with counter := succU32 self.counter }

/-- The remote is more than an hour ahead of the reading; the sum is a `u64`. -/
def rejects (now : Nat) (remote : Hlc) : Bool :=
  decide ((now + maxClockDriftMs) % 2 ^ 64 < remote.wallMs)

/-- `merge`: advance the clock on receiving `remote`. -/
def merge (self remote : Hlc) (now nowAgain : Nat) : Hlc :=
  if rejects now remote then self.tick nowAgain
  else
    let maxWall := max (max now self.wallMs) remote.wallMs
    let counter :=
      if maxWall = self.wallMs ∧ maxWall = remote.wallMs then
        succU32 (max self.counter remote.counter)
      else if maxWall = self.wallMs then succU32 self.counter
      else if maxWall = remote.wallMs then succU32 remote.counter
      else 0
    { self with wallMs := maxWall, counter }

/-! ## Runs -/

/-- A call, with what it reads from the wall clock. -/
inductive Call where
  | tick (now : Nat)
  | merge (remote : Hlc) (now nowAgain : Nat)

namespace Call

/-- What the call makes of the clock. -/
def apply (clock : Hlc) : Call → Hlc
  | tick now => clock.tick now
  | merge remote now nowAgain => clock.merge remote now nowAgain

/-- The readings the call takes. -/
def readings : Call → List Nat
  | tick now => [now]
  | merge remote now nowAgain => if rejects now remote then [now, nowAgain] else [now]

/-- The remote the call accepts. -/
def accepted : Call → Option Hlc
  | tick _ => none
  | merge remote now _ => if rejects now remote then none else some remote

/-- The counter a tick counts on from, if it does. -/
def tickCounts (clock : Hlc) (now : Nat) : Option Nat :=
  if clock.wallMs < now then none else some clock.counter

/-- The counter the call counts on from: the highest it meets at the time it sets the clock to. -/
def counts (clock : Hlc) : Call → Option Nat
  | tick now => tickCounts clock now
  | merge remote now nowAgain =>
    if rejects now remote then tickCounts clock nowAgain
    else if clock.wallMs < now ∧ remote.wallMs < now then none
    else if clock.wallMs < remote.wallMs then some remote.counter
    else if remote.wallMs < clock.wallMs then some clock.counter
    else some (max clock.counter remote.counter)

/-- The call counts on from the largest `u32`. -/
def Overflows (clock : Hlc) (call : Call) : Prop :=
  ∃ c, call.counts clock = some c ∧ 2 ^ 32 ≤ c + 1

end Call

/-- The clock after a list of calls. -/
def advance (clock : Hlc) (calls : List Call) : Hlc := calls.foldl Call.apply clock

/-- The timestamps a list of calls returns. -/
def returned (clock : Hlc) : List Call → List Hlc
  | [] => []
  | call :: calls => call.apply clock :: returned (call.apply clock) calls

/-! ## One call -/

theorem succU32_of_lt {c : Nat} (h : c + 1 < 2 ^ 32) : succU32 c = c + 1 := Nat.mod_eq_of_lt h

theorem succU32_lt_of_le {c : Nat} (h : 2 ^ 32 ≤ c + 1) : succU32 c < c := by
  have hlt : succU32 c < 2 ^ 32 := Nat.mod_lt _ (by omega)
  rcases Nat.eq_or_lt_of_le h with heq | hgt
  · rw [succU32, ← heq, Nat.mod_self]
    omega
  · omega

theorem lt_of_wall {a b : Hlc} (h : a.wallMs < b.wallMs) : a < b := lt_iff.mpr (.inl h)

theorem lt_of_counter {a b : Hlc} (hw : a.wallMs = b.wallMs) (hc : a.counter < b.counter) : a < b :=
  lt_iff.mpr (.inr ⟨hw, .inl hc⟩)

/-- Counting on at the same time leaves a timestamp behind exactly when the counter does not
    wrap. -/
theorem lt_counted_iff {a : Hlc} {wallMs : Nat} {deviceId : String} (hw : a.wallMs = wallMs) :
    a < ⟨wallMs, succU32 a.counter, deviceId⟩ ↔ a.counter + 1 < 2 ^ 32 := by
  constructor
  · intro hlt
    by_contra hge
    exact lt_asymm hlt (lt_of_counter hw.symm (succU32_lt_of_le (not_lt.mp hge)))
  · intro hfits
    refine lt_of_counter hw ?_
    show a.counter < succU32 a.counter
    rw [succU32_of_lt hfits]
    omega

/-- A tick leaves the clock behind exactly when its counter does not wrap. -/
theorem lt_tick_iff {clock : Hlc} {now : Nat} :
    clock < clock.tick now ↔ ∀ c, Call.tickCounts clock now = some c → c + 1 < 2 ^ 32 := by
  unfold tick Call.tickCounts
  split
  · exact iff_of_true (lt_of_wall (by assumption)) (fun c hc => (nomatch hc))
  · constructor
    · intro h c hc
      cases hc
      exact (lt_counted_iff rfl).mp h
    · intro h
      exact (lt_counted_iff rfl).mpr (h _ rfl)

/-- The counter a call sets: reset, or counted on. -/
def counterAfter : Option Nat → Nat
  | none => 0
  | some c => succU32 c

/-- An accepted merge sets the clock to the highest time, and counts where that is not the wall
    clock's alone. -/
theorem merge_accepted {clock remote : Hlc} {now nowAgain : Nat} (h : rejects now remote = false) :
    clock.merge remote now nowAgain =
      { clock with
        wallMs := max (max now clock.wallMs) remote.wallMs
        counter := counterAfter ((Call.merge remote now nowAgain).counts clock) } := by
  simp only [merge, Call.counts, h, Bool.false_eq_true, if_false, Hlc.mk.injEq, true_and,
    and_true]
  -- the source compares each time with the maximum
  by_cases hnow : clock.wallMs < now ∧ remote.wallMs < now
  · rw [if_pos hnow, if_neg (by omega), if_neg (by omega), if_neg (by omega), counterAfter]
  · rw [if_neg hnow]
    by_cases hremote : clock.wallMs < remote.wallMs
    · rw [if_pos hremote, if_neg (by omega), if_neg (by omega), if_pos (by omega), counterAfter]
    · rw [if_neg hremote]
      by_cases hlocal : remote.wallMs < clock.wallMs
      · rw [if_pos hlocal, if_neg (by omega), if_pos (by omega), counterAfter]
      · rw [if_neg hlocal, if_pos (by omega), counterAfter]

/-- An accepted merge leaves the clock and the remote behind exactly when its counter does not
    wrap. -/
theorem lt_merge_iff {clock remote : Hlc} {now nowAgain : Nat} (h : rejects now remote = false) :
    (clock < clock.merge remote now nowAgain ∧ remote < clock.merge remote now nowAgain) ↔
      ∀ c, (Call.merge remote now nowAgain).counts clock = some c → c + 1 < 2 ^ 32 := by
  rw [merge_accepted h]
  simp only [Call.counts, h, Bool.false_eq_true, if_false]
  by_cases hnow : clock.wallMs < now ∧ remote.wallMs < now
  · -- the wall clock is ahead of both
    rw [if_pos hnow]
    refine iff_of_true ⟨lt_of_wall ?_, lt_of_wall ?_⟩ (fun c hc => (nomatch hc))
    · show clock.wallMs < max (max now clock.wallMs) remote.wallMs
      omega
    · show remote.wallMs < max (max now clock.wallMs) remote.wallMs
      omega
  rw [if_neg hnow]
  by_cases hremote : clock.wallMs < remote.wallMs
  · -- the remote is ahead: it is the one that has to be overtaken
    rw [if_pos hremote, counterAfter]
    have hwall : max (max now clock.wallMs) remote.wallMs = remote.wallMs := by omega
    rw [hwall]
    constructor
    · rintro ⟨-, hlt⟩ c hc
      cases hc
      exact (lt_counted_iff rfl).mp hlt
    · intro hc
      exact ⟨lt_of_wall hremote, (lt_counted_iff rfl).mpr (hc _ rfl)⟩
  rw [if_neg hremote]
  have hwall : max (max now clock.wallMs) remote.wallMs = clock.wallMs := by omega
  rw [hwall]
  by_cases hlocal : remote.wallMs < clock.wallMs
  · rw [if_pos hlocal, counterAfter]
    constructor
    · rintro ⟨hlt, -⟩ c hc
      cases hc
      exact (lt_counted_iff rfl).mp hlt
    · intro hc
      exact ⟨(lt_counted_iff rfl).mpr (hc _ rfl), lt_of_wall hlocal⟩
  · -- both at one time: the counter goes past the higher one
    rw [if_neg hlocal, counterAfter]
    have hsame : remote.wallMs = clock.wallMs := by omega
    constructor
    · rintro ⟨hlt, hlt'⟩ c hc
      cases hc
      rcases Nat.le_total clock.counter remote.counter with hle | hle
      · rw [Nat.max_eq_right hle] at hlt' ⊢
        exact (lt_counted_iff hsame).mp hlt'
      · rw [Nat.max_eq_left hle] at hlt ⊢
        exact (lt_counted_iff rfl).mp hlt
    · intro hc
      have hsucc := succU32_of_lt (hc _ rfl)
      refine ⟨lt_of_counter rfl ?_, lt_of_counter hsame ?_⟩
      · show clock.counter < succU32 (max clock.counter remote.counter)
        omega
      · show remote.counter < succU32 (max clock.counter remote.counter)
        omega

/-- **The step lemma**: a call leaves behind the clock and the remote it accepts, exactly when it
    does not overflow. -/
theorem lt_apply_iff (clock : Hlc) (call : Call) :
    (clock < call.apply clock ∧ ∀ remote, call.accepted = some remote → remote < call.apply clock) ↔
      ¬ call.Overflows clock := by
  have hnot : ¬ call.Overflows clock ↔ ∀ c, call.counts clock = some c → c + 1 < 2 ^ 32 := by
    unfold Call.Overflows
    simp only [not_exists, not_and, not_le]
  rw [hnot]
  cases call with
  | tick now =>
    rw [show (Call.tick now).counts clock = Call.tickCounts clock now from rfl, ← lt_tick_iff]
    exact ⟨fun h => h.1, fun h => ⟨h, fun _ hr => (nomatch hr)⟩⟩
  | merge remote now nowAgain =>
    cases hrej : rejects now remote with
    | true =>
      have happly : (Call.merge remote now nowAgain).apply clock = clock.tick nowAgain := by
        rw [Call.apply, merge, if_pos hrej]
      have hcounts : (Call.merge remote now nowAgain).counts clock
          = Call.tickCounts clock nowAgain := by
        rw [Call.counts, if_pos hrej]
      have haccepted : (Call.merge remote now nowAgain).accepted = none := by
        rw [Call.accepted, if_pos hrej]
      rw [happly, hcounts, haccepted, ← lt_tick_iff]
      exact ⟨fun h => h.1, fun h => ⟨h, fun _ hr => (nomatch hr)⟩⟩
    | false =>
      have haccepted : (Call.merge remote now nowAgain).accepted = some remote := by
        rw [Call.accepted, if_neg (by rw [hrej]; decide)]
      rw [haccepted, ← lt_merge_iff hrej, Call.apply]
      exact ⟨fun h => ⟨h.1, h.2 remote rfl⟩, fun h => ⟨h.1, fun _ hr => Option.some.inj hr ▸ h.2⟩⟩

/-! ## Monotonicity over a run -/

theorem advance_concat (clock : Hlc) (calls : List Call) (call : Call) :
    clock.advance (calls ++ [call]) = call.apply (clock.advance calls) := by
  rw [advance, List.foldl_append]
  rfl

theorem returned_concat (clock : Hlc) (calls : List Call) (call : Call) :
    clock.returned (calls ++ [call]) = clock.returned calls ++ [call.apply (clock.advance calls)] := by
  induction calls generalizing clock with
  | nil => rfl
  | cons c calls ih =>
    show c.apply clock :: (c.apply clock).returned (calls ++ [call]) = _
    rw [ih]
    rfl

/-- The clock is the last timestamp returned, or the one it started from. -/
theorem advance_mem (clock : Hlc) (calls : List Call) :
    clock.advance calls ∈ clock :: clock.returned calls := by
  induction calls using List.reverseRecOn with
  | nil => exact List.mem_cons_self
  | append_singleton calls call _ =>
    rw [advance_concat, returned_concat]
    exact List.mem_cons_of_mem _ (List.mem_append_right _ (List.mem_singleton_self _))

/-- No call of the run overflows. -/
def NeverOverflows (clock : Hlc) (calls : List Call) : Prop :=
  ∀ before call after, calls = before ++ call :: after → ¬ call.Overflows (clock.advance before)

/-- Every call returns a timestamp after the start and after every one returned before, and after
    the remote it accepts. -/
def Increases (clock : Hlc) (calls : List Call) : Prop :=
  ∀ before call after, calls = before ++ call :: after →
    (∀ h ∈ clock :: clock.returned before, h < call.apply (clock.advance before)) ∧
      ∀ remote, call.accepted = some remote → remote < call.apply (clock.advance before)

/-- The clock is the highest timestamp so far. -/
theorem le_advance {clock : Hlc} {calls : List Call} (hno : clock.NeverOverflows calls) :
    ∀ h ∈ clock :: clock.returned calls, h ≤ clock.advance calls := by
  induction calls using List.reverseRecOn with
  | nil =>
    intro h hh
    rw [List.mem_singleton.mp hh]
    exact le_rfl
  | append_singleton calls call ih =>
    have hlt := ((lt_apply_iff (clock.advance calls) call).mpr (hno calls call [] rfl)).1
    have hbefore : clock.NeverOverflows calls := by
      intro b c a heq
      refine hno b c (a ++ [call]) ?_
      rw [heq, List.append_assoc, List.cons_append]
    intro h hh
    rw [returned_concat, ← List.cons_append] at hh
    rw [advance_concat]
    rcases List.mem_append.mp hh with hold | hnew
    · exact (ih hbefore h hold).trans hlt.le
    · rw [List.mem_singleton.mp hnew]

/-- **The clock increases exactly as long as no counter overflows**, for every start, every order
    of calls, every reading and every remote. -/
theorem clock_increases_iff (clock : Hlc) (calls : List Call) :
    clock.Increases calls ↔ clock.NeverOverflows calls := by
  constructor
  · intro h before call after heq
    obtain ⟨hbefore, haccepted⟩ := h before call after heq
    refine (lt_apply_iff (clock.advance before) call).mp ⟨?_, haccepted⟩
    exact hbefore _ (advance_mem clock before)
  · intro h before call after heq
    obtain ⟨hlt, haccepted⟩ :=
      (lt_apply_iff (clock.advance before) call).mpr (h before call after heq)
    refine ⟨fun x hx => ?_, haccepted⟩
    have hbefore : clock.NeverOverflows before := by
      intro b c a hb
      refine h b c (a ++ call :: after) ?_
      rw [heq, hb, List.append_assoc, List.cons_append]
    exact (le_advance hbefore x hx).trans_lt hlt

/-- A call whose arguments and readings fit their Rust types. -/
def Call.Fits : Call → Prop
  | .tick now => now < 2 ^ 64
  | .merge remote now nowAgain => remote.Fits ∧ now < 2 ^ 64 ∧ nowAgain < 2 ^ 64

/-- **The counter wraps.**  A second tick in a millisecond returns a timestamp below the first, and
    a merge accepts a remote that it does not overtake. -/
theorem clock_wraps :
    (¬ ∀ (clock : Hlc) (before : List Call) (call : Call), clock.Fits →
      (∀ c ∈ before ++ [call], c.Fits) →
      ∀ h ∈ clock.returned before, h < call.apply (clock.advance before)) ∧
    (¬ ∀ (clock : Hlc) (before : List Call) (call : Call), clock.Fits →
      (∀ c ∈ before ++ [call], c.Fits) →
      ∀ remote, call.accepted = some remote → remote < call.apply (clock.advance before)) := by
  constructor
  · intro h
    have hlt := h ⟨1000, 4294967294, "a"⟩ [.tick 1000] (.tick 1000) ⟨by decide, by decide⟩
      (by simp [Call.Fits]) ⟨1000, 4294967295, "a"⟩ (List.mem_singleton_self _)
    rw [lt_iff] at hlt
    exact absurd hlt (by decide)
  · intro h
    have hremote : (⟨2000, 4294967295, "b"⟩ : Hlc).Fits := ⟨by decide, by decide⟩
    have hlt := h ⟨1000, 0, "a"⟩ [] (.merge ⟨2000, 4294967295, "b"⟩ 1500 1500)
      ⟨by decide, by decide⟩ (by simp [Call.Fits, hremote]) ⟨2000, 4294967295, "b"⟩ rfl
    rw [lt_iff] at hlt
    exact absurd hlt (by decide)

/-! ## The drift of the wall time -/

/-- One call moves the wall time forward, and not further than an hour past a reading of its own. -/
theorem wall_apply (clock : Hlc) (call : Call) :
    clock.wallMs ≤ (call.apply clock).wallMs ∧
      ((call.apply clock).wallMs = clock.wallMs ∨
        ∃ r ∈ call.readings, (call.apply clock).wallMs ≤ r + maxClockDriftMs) := by
  have htick : ∀ now, clock.wallMs ≤ (clock.tick now).wallMs ∧
      ((clock.tick now).wallMs = clock.wallMs ∨ (clock.tick now).wallMs = now) := by
    intro now
    unfold tick
    split
    · next hlt => exact ⟨Nat.le_of_lt hlt, .inr rfl⟩
    · exact ⟨Nat.le_refl _, .inl rfl⟩
  cases call with
  | tick now =>
    obtain ⟨hle, hwall⟩ := htick now
    refine ⟨hle, hwall.imp_right (fun heq => ⟨now, List.mem_singleton_self now, ?_⟩)⟩
    show (clock.tick now).wallMs ≤ now + maxClockDriftMs
    omega
  | merge remote now nowAgain =>
    cases hrej : rejects now remote with
    | true =>
      obtain ⟨hle, hwall⟩ := htick nowAgain
      rw [Call.apply, merge, if_pos hrej, Call.readings, if_pos hrej]
      refine ⟨hle, hwall.imp_right (fun heq => ⟨nowAgain, ?_, ?_⟩)⟩
      · exact List.mem_cons_of_mem _ (List.mem_singleton_self nowAgain)
      · omega
    | false =>
      -- the sum of the check may wrap, which only makes it smaller
      have haccepted : remote.wallMs ≤ now + maxClockDriftMs :=
        (not_lt.mp (of_decide_eq_false hrej)).trans (Nat.mod_le _ _)
      rw [Call.apply, merge_accepted hrej, Call.readings, if_neg (by rw [hrej]; decide)]
      show clock.wallMs ≤ max (max now clock.wallMs) remote.wallMs ∧
        (max (max now clock.wallMs) remote.wallMs = clock.wallMs ∨
          ∃ r ∈ [now], max (max now clock.wallMs) remote.wallMs ≤ r + maxClockDriftMs)
      refine ⟨by omega, ?_⟩
      by_cases hstay : max (max now clock.wallMs) remote.wallMs = clock.wallMs
      · exact .inl hstay
      · exact .inr ⟨now, List.mem_singleton_self now, by omega⟩

/-- The wall time never decreases. -/
theorem wall_advance_le (clock : Hlc) (calls : List Call) :
    clock.wallMs ≤ (clock.advance calls).wallMs := by
  induction calls generalizing clock with
  | nil => exact Nat.le_refl _
  | cons call calls ih => exact (wall_apply clock call).1.trans (ih (call.apply clock))

/-- **The drift bound**: whatever the readings and the remotes, at every point of a run the wall
    time is at most the initial one or an hour past a reading taken so far, and it never
    decreases. -/
theorem wall_bounded (clock : Hlc) (before after : List Call) :
    ((clock.advance before).wallMs ≤ clock.wallMs ∨
      ∃ r ∈ before.flatMap Call.readings,
        (clock.advance before).wallMs ≤ r + maxClockDriftMs) ∧
    (clock.advance before).wallMs ≤ (clock.advance (before ++ after)).wallMs := by
  constructor
  · induction before using List.reverseRecOn with
    | nil => exact .inl (Nat.le_refl _)
    | append_singleton before call ih =>
      rw [advance_concat, List.flatMap_append, List.flatMap_singleton]
      rcases (wall_apply (clock.advance before) call).2 with hstay | ⟨r, hr, hle⟩
      · rw [hstay]
        refine ih.imp_right (fun ⟨r, hr, hle⟩ => ⟨r, List.mem_append_left _ hr, hle⟩)
      · exact .inr ⟨r, List.mem_append_right _ hr, hle⟩
  · rw [advance, advance, List.foldl_append]
    exact wall_advance_le _ after

/-- A reading at 1000, then a remote at the far end of the hour: the next one is refused. -/
example : (Hlc.advance ⟨0, 0, "a"⟩ [.merge ⟨3601000, 7, "b"⟩ 1000 1000,
    .merge ⟨7201000, 0, "b"⟩ 1000 1000]) = ⟨3601000, 9, "a"⟩ := by decide

end Hlc
end Oneshim
