/-
  The books of the focus analyzer, over any sequence of app switches.

  1. **Runs** — switches one after the other, with the history of what each of them did.

  2. **Laws** (`Laws`) — for every date deep work and communication together are no more than the
     active time, and the active time no more than what has elapsed of the date; an interruption is
     resumed at most once, at the first switch back after it; a suggestion to restore the context is
     about the interruption that the same switch has resumed.

  3. **One switch** — what it does to the metrics (`sound_increment`, `elapsed_add_duration`) and what
     it does to the interruptions (`Effect`).

  4. **Runs keep the laws** (`books_lawful`) — where no interval between two switches goes over a
     midnight, and no older interruption is waiting when a switch back resumes one: the suggestion is
     never about the one that has just been resumed.
-/
import Mathlib.Order.Lattice
import Mathlib.Tactic.Linarith
import Oneshim.Focus.FocusAnalyzer
import Oneshim.Lib.Calls

namespace Oneshim.Focus

open Lib (states Along)

/-! ## Runs -/

/-- The analyzer after some switches, the time of the last one and what each of them did. -/
structure Books where
  analyzer : FocusAnalyzer
  time : Int
  history : List Outcome := []

variable (setup : Setup)

/-- One more switch. -/
def Books.step (b : Books) (sw : Switch) : Books :=
  let (analyzer, outcome) := b.analyzer.onAppSwitchWithContext setup sw
  { analyzer := analyzer, time := sw.now, history := b.history ++ [outcome] }

/-- The switch of a place in the history did something. -/
def At (P : Outcome → Prop) (history : List Outcome) (i : Nat) : Prop :=
  ∃ o, history[i]? = some o ∧ P o

variable {history : List Outcome}

theorem At.lt {P : Outcome → Prop} {i : Nat} (h : At P history i) :
    i < history.length := by
  obtain ⟨o, ho, -⟩ := h
  exact (List.getElem?_eq_some_iff.mp ho).1

/-- A property of one outcome of a history, when one more is noted. -/
theorem at_snoc {P : Outcome → Prop} {o : Outcome} {i : Nat} :
    At P (history ++ [o]) i ↔ At P history i ∨ (i = history.length ∧ P o) := by
  unfold At
  rcases lt_trichotomy i history.length with hlt | heq | hgt
  · rw [List.getElem?_append_left hlt]
    exact ⟨.inl, fun h => h.resolve_right fun ⟨heq, _⟩ => absurd heq hlt.ne⟩
  · subst heq
    simp
  · constructor
    · intro h
      have := At.lt h
      simp only [List.length_append, List.length_singleton] at this
      omega
    · rintro (h | ⟨heq, -⟩)
      · have := At.lt h
        omega
      · omega

/-- An interruption of the id is recorded. -/
def Outcome.Records (id : Nat) (o : Outcome) : Prop := o.recorded = some id

/-- The interruption of the id is resumed. -/
def Outcome.Resumes (id : Nat) (o : Outcome) : Prop := o.resumed = some id

/-- A communication app is left for a deep-work app. -/
def Outcome.Returns (o : Outcome) : Prop := o.returned = true

/-! ## Laws -/

/-- The metrics of every date, at a time. -/
def MetricsSound (storage : FocusStorage) (time : Int) : Prop :=
  ∀ m ∈ storage.focusMetrics.rows, m.deepWorkSecs + m.communicationSecs ≤ m.totalActiveSecs ∧
    m.totalActiveSecs * second ≤ elapsedOf m.date time

/-- An interruption is resumed at most once, at the first return after it. -/
structure ResumedOnReturn (history : List Outcome) : Prop where
  once : ∀ i j id, At (Outcome.Resumes id) history i → At (Outcome.Resumes id) history j → i = j
  next : ∀ i j id, At (Outcome.Records id) history i → At (Outcome.Resumes id) history j →
    i < j ∧ At Outcome.Returns history j ∧ ∀ k, i < k → k < j → ¬ At Outcome.Returns history k
  recorded : ∀ j id, At (Outcome.Resumes id) history j → ∃ i, At (Outcome.Records id) history i

/-- The laws of the books. -/
structure Laws (b : Books) : Prop where
  metrics : MetricsSound b.analyzer.storage b.time
  resumed : ResumedOnReturn b.history
  suggested : ∀ o ∈ b.history, ∀ s, o.suggested = some s → o.resumed = some s.interruption.id

/-! ## The metrics -/

theorem elapsedOf_nonneg (date t : Int) : 0 ≤ elapsedOf date t := le_max_left _ _

theorem elapsedOf_mono (date : Int) {t t' : Int} (h : t ≤ t') :
    elapsedOf date t ≤ elapsedOf date t' := by
  unfold elapsedOf
  omega

/-- Within a date, what elapses is the time that passes. -/
theorem elapsed_add_duration {start now : Int} (h : start ≤ now) (hdate : dateOf start = dateOf now) :
    elapsedOf (dateOf now) start + durationSecs now start * second ≤ elapsedOf (dateOf now) now := by
  have hsecs : (durationSecs now start : Int) * second ≤ now - start := by
    unfold durationSecs second
    rw [Int.tdiv_eq_ediv_of_nonneg (by omega)]
    omega
  have hstart := Int.emod_add_mul_ediv start day
  have hnow := Int.emod_add_mul_ediv now day
  unfold dateOf at hdate
  have hlow : dateOf now * day ≤ start := by
    unfold dateOf
    rw [← hdate]
    unfold day
    omega
  have hhigh : now ≤ dateOf now * day + day := by
    unfold dateOf day
    omega
  unfold elapsedOf
  rw [max_eq_right, max_eq_right, min_eq_right, min_eq_right] <;> omega

/-- Booking keeps the metrics sound where what it books elapses of the date. -/
theorem sound_increment {storage : FocusStorage} {t t' date : Int}
    {total deep comm switches interruptions : Nat} (h : MetricsSound storage t) (ht : t ≤ t')
    (hparts : deep + comm ≤ total)
    (helapsed : elapsedOf date t + total * second ≤ elapsedOf date t') :
    MetricsSound (storage.incrementFocusMetrics date total deep comm switches interruptions) t' := by
  intro m hm
  rcases Lib.Table.mem_upsert.mp hm with rfl | ⟨hmem, -⟩
  · unfold FocusStorage.getOrCreateFocusMetrics
    cases hfind : storage.focusMetrics.find? date with
    | none =>
      have := elapsedOf_nonneg date t
      simp only [Option.getD_none, Nat.zero_add]
      exact ⟨hparts, by omega⟩
    | some row =>
      obtain ⟨hmem, rfl⟩ := Lib.Table.find?_eq_some_iff.mp hfind
      obtain ⟨hrow, helapsedRow⟩ := h row hmem
      simp only [Option.getD_some]
      refine ⟨by omega, ?_⟩
      rw [Int.natCast_add, Int.add_mul]
      omega
  · exact ⟨(h m hmem).1, (h m hmem).2.trans (elapsedOf_mono _ ht)⟩

/-- The metrics are all that the law is about. -/
theorem MetricsSound.congr {storage storage' : FocusStorage} {t : Int} (h : MetricsSound storage t)
    (heq : storage'.focusMetrics = storage.focusMetrics) : MetricsSound storage' t := by
  unfold MetricsSound
  rw [heq]
  exact h

/-! ## The parts of a switch -/

/-- What booking leaves alone. -/
theorem bookPrevious_frame (self : FocusAnalyzer) (prevCat : AppCategory) (start now : Int) :
    (self.bookPrevious prevCat start now).tracker.pendingInterruptionId =
        self.tracker.pendingInterruptionId ∧
      (self.bookPrevious prevCat start now).storage.interruptions = self.storage.interruptions ∧
      (self.bookPrevious prevCat start now).lastRestoreContext = self.lastRestoreContext := by
  unfold FocusAnalyzer.bookPrevious
  dsimp only
  split
  · refine ⟨rfl, ?_, rfl⟩
    dsimp only
    split <;> rfl
  · exact ⟨rfl, rfl, rfl⟩

/-- Booking an interval within a date keeps the metrics sound. -/
theorem bookPrevious_sound {self : FocusAnalyzer} {prevCat : AppCategory} {start now : Int}
    (h : MetricsSound self.storage start) (hle : start ≤ now) (hdate : dateOf start = dateOf now) :
    MetricsSound (self.bookPrevious prevCat start now).storage now := by
  have hbooked : ∀ deep comm, deep + comm ≤ durationSecs now start →
      MetricsSound (self.storage.incrementFocusMetrics (dateOf now) (durationSecs now start) deep
        comm 1 0) now := fun deep comm hparts =>
    sound_increment h hle hparts (elapsed_add_duration hle hdate)
  unfold FocusAnalyzer.bookPrevious
  dsimp only
  split
  · refine (hbooked _ 0 (Nat.le_refl _)).congr ?_
    dsimp only
    split <;> rfl
  · refine hbooked 0 _ ?_
    split <;> omega

/-- The work session is not what the laws are about. -/
theorem front_frame (self : FocusAnalyzer) (newCategory : AppCategory) (sw : Switch) :
    (self.front newCategory sw).tracker.pendingInterruptionId =
        self.tracker.pendingInterruptionId ∧
      (self.front newCategory sw).storage.interruptions = self.storage.interruptions ∧
      (self.front newCategory sw).storage.focusMetrics = self.storage.focusMetrics ∧
      (self.front newCategory sw).lastRestoreContext = self.lastRestoreContext := by
  unfold FocusAnalyzer.front FocusAnalyzer.switchSession
  dsimp only
  split
  · split <;> exact ⟨rfl, rfl, rfl, rfl⟩
  · split <;> exact ⟨rfl, rfl, rfl, rfl⟩

/-- Looking for a suggestion only sets the cooldown. -/
theorem maybeSuggest_frame (self : FocusAnalyzer) (sw : Switch) :
    (self.maybeSuggestRestoreContext setup sw).1.tracker = self.tracker ∧
      (self.maybeSuggestRestoreContext setup sw).1.storage = self.storage := by
  unfold FocusAnalyzer.maybeSuggestRestoreContext
  dsimp only
  split
  · exact ⟨rfl, rfl⟩
  · split
    · exact ⟨rfl, rfl⟩
    · split <;> exact ⟨rfl, rfl⟩

/-- The newest interruption that is not resumed, leaving one out. -/
def FocusStorage.otherPending (self : FocusStorage) (id : Nat) : Option Interruption :=
  self.interruptions.rows.reverse.find? fun i => i.resumedAt.isNone && i.id != id

/-- Once an interruption is marked as resumed, the pending one is another. -/
theorem getPending_recordInterruptionResume (storage : FocusStorage) (id : Nat) (app : String)
    (now : Int) :
    (storage.recordInterruptionResume id app now).getPendingInterruption =
      storage.otherPending id := by
  unfold FocusStorage.getPendingInterruption FocusStorage.recordInterruptionResume
    FocusStorage.otherPending Lib.SerialTable.mapRows
  dsimp only
  rw [← List.map_reverse, List.find?_map]
  have hpred : ((fun i : Interruption => i.resumedAt.isNone) ∘ fun i : Interruption =>
      if i.id = id then { i with resumedAt := some now, resumedToApp := some app } else i) =
      fun i => i.resumedAt.isNone && i.id != id := by
    funext i
    by_cases h : i.id = id <;> simp [h]
  rw [hpred]
  cases hfind : storage.interruptions.rows.reverse.find? fun i =>
      i.resumedAt.isNone && i.id != id with
  | none => rfl
  | some i =>
    have hother := List.find?_some hfind
    simp only [Bool.and_eq_true, bne_iff_ne] at hother
    simp [hother.2]

/-- A suggestion is about the pending interruption of the last half hour. -/
theorem maybeSuggest_some {self : FocusAnalyzer} {sw : Switch} {s : RestoreSuggestion}
    (h : (self.maybeSuggestRestoreContext setup sw).2 = some s) :
    self.checkCooldown setup sw.cooldownCheckedAt = true ∧
      self.storage.getPendingInterruption = some s.interruption ∧
      durationMins sw.now s.interruption.interruptedAt ≤ 30 := by
  unfold FocusAnalyzer.maybeSuggestRestoreContext at h
  dsimp only at h
  split at h
  · cases h
  · rename_i hcooldown
    split at h
    · cases h
    · rename_i hpending
      split at h
      · cases h
      · rename_i hmins
        cases h
        exact ⟨by simpa using hcooldown, hpending, not_lt.mp hmins⟩

/-! ## What a switch does to the interruptions -/

/-- The switch leaves a communication app for a deep-work app. -/
def FocusAnalyzer.IsReturn (self : FocusAnalyzer) (sw : Switch) : Prop :=
  ∃ app category start, self.tracker.current = some (app, category, start) ∧
    category.isCommunication = true ∧
    (AppCategory.fromAppName setup.toLowercase sw.app).isDeepWork = true

/-- A switch does nothing to the interruptions, records one, or returns, where it resumes the pending
    one and may suggest the context of another. -/
inductive Effect (self : FocusAnalyzer) (sw : Switch) (after : FocusAnalyzer) : Outcome → Prop where
  | nothing (hpending : after.tracker.pendingInterruptionId = self.tracker.pendingInterruptionId)
      (hseq : after.storage.interruptions.seq = self.storage.interruptions.seq) :
      Effect self sw after {}
  | recorded
      (hpending : after.tracker.pendingInterruptionId = some (self.storage.interruptions.seq + 1))
      (hseq : after.storage.interruptions.seq = self.storage.interruptions.seq + 1) :
      Effect self sw after { recorded := some (self.storage.interruptions.seq + 1) }
  | returned (hnone : self.tracker.pendingInterruptionId = none)
      (hpending : after.tracker.pendingInterruptionId = none)
      (hseq : after.storage.interruptions.seq = self.storage.interruptions.seq) :
      Effect self sw after { returned := true }
  | resumed {id : Nat} {suggested : Option RestoreSuggestion} (hreturn : self.IsReturn setup sw)
      (hsome : self.tracker.pendingInterruptionId = some id)
      (hpending : after.tracker.pendingInterruptionId = none)
      (hseq : after.storage.interruptions.seq = self.storage.interruptions.seq)
      (hsuggested : ∀ s, suggested = some s →
        self.checkCooldown setup sw.cooldownCheckedAt = true ∧
        self.storage.otherPending id = some s.interruption ∧
        durationMins sw.now s.interruption.interruptedAt ≤ 30) :
      Effect self sw after { returned := true, resumed := some id, suggested := suggested }

/-- What leaving an app does to the interruptions, before the suggestion. -/
theorem leave_effect (self : FocusAnalyzer) {prevApp : String} {prevCat : AppCategory} {start : Int}
    {sw : Switch} (hcurrent : self.tracker.current = some (prevApp, prevCat, start)) :
    Effect setup self sw
        (self.leave setup prevApp prevCat start (.fromAppName setup.toLowercase sw.app) sw).1
        (self.leave setup prevApp prevCat start (.fromAppName setup.toLowercase sw.app) sw).2 ∧
      (self.leave setup prevApp prevCat start (.fromAppName setup.toLowercase sw.app)
        sw).1.lastRestoreContext = self.lastRestoreContext ∧
      ∀ id, (self.leave setup prevApp prevCat start (.fromAppName setup.toLowercase sw.app)
          sw).2.resumed = some id →
        (self.leave setup prevApp prevCat start (.fromAppName setup.toLowercase sw.app)
          sw).1.storage.getPendingInterruption = self.storage.otherPending id := by
  obtain ⟨hpending, hinterruptions, hcooldown⟩ := bookPrevious_frame self prevCat start sw.now
  have hseq := congrArg Lib.SerialTable.seq hinterruptions
  unfold FocusAnalyzer.leave
  dsimp only
  split
  · -- an interruption is recorded
    refine ⟨?_, hcooldown, fun id h => by cases h⟩
    simp only [FocusAnalyzer.interrupt, FocusStorage.recordInterruption, hseq]
    refine .recorded rfl ?_
    dsimp only [FocusStorage.incrementFocusMetrics]
    split <;> exact congrArg (· + 1) hseq
  · split
    · rename_i hreturn
      rw [Bool.and_eq_true] at hreturn
      unfold FocusAnalyzer.resume
      cases hid : self.tracker.pendingInterruptionId with
      | none =>
        rw [hpending, hid]
        exact ⟨.returned hid (hpending.trans hid) hseq, hcooldown, fun id h => by cases h⟩
      | some id =>
        rw [hpending, hid]
        refine ⟨.resumed ⟨prevApp, prevCat, start, hcurrent, hreturn⟩ hid rfl hseq
          (fun s h => by cases h), hcooldown, fun id' h => ?_⟩
        cases h
        dsimp only
        rw [getPending_recordInterruptionResume]
        unfold FocusStorage.otherPending
        rw [hinterruptions]
    · exact ⟨.nothing hpending hseq, hcooldown, fun id h => by cases h⟩

/-- What a switch does to the interruptions it has done when the new app is in front, but for the
    suggestion. -/
theorem arrive_effect {self left : FocusAnalyzer} {sw : Switch} {outcome : Outcome}
    (newCategory : AppCategory) (h : Effect setup self sw left outcome)
    (hcooldown : left.lastRestoreContext = self.lastRestoreContext)
    (hlookup : ∀ id, outcome.resumed = some id →
      left.storage.getPendingInterruption = self.storage.otherPending id) :
    Effect setup self sw (left.arrive setup outcome newCategory sw).1
      (left.arrive setup outcome newCategory sw).2 := by
  obtain ⟨hpending, hinterruptions, -, hcooldown'⟩ := front_frame left newCategory sw
  have hseq := congrArg Lib.SerialTable.seq hinterruptions
  unfold FocusAnalyzer.arrive
  dsimp only
  cases h with
  | nothing hpending' hseq' => exact .nothing (hpending.trans hpending') (hseq.trans hseq')
  | recorded hpending' hseq' => exact .recorded (hpending.trans hpending') (hseq.trans hseq')
  | returned hnone hpending' hseq' =>
    exact .returned hnone (hpending.trans hpending') (hseq.trans hseq')
  | @resumed id _ hreturn hsome hpending' hseq' _ =>
    obtain ⟨htracker, hstorage⟩ := maybeSuggest_frame setup (left.front newCategory sw) sw
    refine .resumed hreturn hsome ?_ ?_ fun s hs => ?_
    · exact (congrArg SessionTracker.pendingInterruptionId htracker).trans (hpending.trans hpending')
    · exact (congrArg (fun s => s.interruptions.seq) hstorage).trans (hseq.trans hseq')
    · obtain ⟨hcheck, hfound, hmins⟩ := maybeSuggest_some setup hs
      refine ⟨?_, ?_, hmins⟩
      · unfold FocusAnalyzer.checkCooldown at hcheck ⊢
        rwa [hcooldown', hcooldown] at hcheck
      · rw [← hlookup id rfl, ← hfound]
        unfold FocusStorage.getPendingInterruption
        rw [hinterruptions]

/-- **What a switch does to the interruptions.** -/
theorem onAppSwitch_effect (self : FocusAnalyzer) (sw : Switch) :
    Effect setup self sw (self.onAppSwitchWithContext setup sw).1
      (self.onAppSwitchWithContext setup sw).2 := by
  unfold FocusAnalyzer.onAppSwitchWithContext
  dsimp only
  split
  · exact .nothing rfl rfl
  · split
    · rename_i hcurrent
      obtain ⟨heffect, hcooldown, hlookup⟩ := leave_effect setup self hcurrent
      exact arrive_effect setup _ heffect hcooldown hlookup
    · exact arrive_effect setup _ (.nothing rfl rfl) rfl fun id h => by cases h

/-! ## The metrics after a switch -/

/-- The metrics stay sound through a switch that ends no interval over a midnight. -/
theorem onAppSwitch_sound {self : FocusAnalyzer} {sw : Switch} {t : Int}
    (h : MetricsSound self.storage t) (ht : t ≤ sw.now)
    (hbooked : ∀ app category start, self.tracker.current = some (app, category, start) →
      MetricsSound self.storage start ∧ start ≤ sw.now)
    (hdate : ∀ app category start, self.tracker.current = some (app, category, start) →
      app ≠ sw.app → dateOf start = dateOf sw.now) :
    MetricsSound (self.onAppSwitchWithContext setup sw).1.storage sw.now := by
  have harrive : ∀ {left : FocusAnalyzer} {outcome newCategory}, MetricsSound left.storage sw.now →
      MetricsSound (left.arrive setup outcome newCategory sw).1.storage sw.now := by
    intro left outcome newCategory hleft
    obtain ⟨-, -, hmetrics, -⟩ := front_frame left newCategory sw
    unfold FocusAnalyzer.arrive
    dsimp only
    split
    · obtain ⟨-, hstorage⟩ := maybeSuggest_frame setup (left.front newCategory sw) sw
      exact hleft.congr ((congrArg FocusStorage.focusMetrics hstorage).trans hmetrics)
    · exact hleft.congr hmetrics
  have hlater : MetricsSound self.storage sw.now := fun m hm =>
    ⟨(h m hm).1, (h m hm).2.trans (elapsedOf_mono _ ht)⟩
  unfold FocusAnalyzer.onAppSwitchWithContext
  dsimp only
  split
  · exact hlater
  · rename_i hsame
    split
    · rename_i prevApp prevCat start hcurrent
      obtain ⟨hstart, hle⟩ := hbooked _ _ _ hcurrent
      have hne : prevApp ≠ sw.app := fun heq => hsame (by rw [hcurrent, ← heq]; rfl)
      have hprevious := @bookPrevious_sound _ prevCat _ _ hstart hle (hdate _ _ _ hcurrent hne)
      refine harrive ?_
      unfold FocusAnalyzer.leave
      dsimp only
      split
      · unfold FocusAnalyzer.interrupt FocusStorage.recordInterruption
        dsimp only
        refine sound_increment ?_ (le_refl sw.now) (Nat.le_refl _) (by simp)
        exact hprevious.congr (by split <;> rfl)
      · split
        · unfold FocusAnalyzer.resume
          split <;> exact hprevious
        · exact hprevious
    · exact harrive hlater

/-- After a switch nothing has changed, or the new app has been in front since then. -/
theorem onAppSwitch_current (self : FocusAnalyzer) (sw : Switch) :
    (self.onAppSwitchWithContext setup sw).1 = self ∨
      ∃ category, (self.onAppSwitchWithContext setup sw).1.tracker.current =
        some (sw.app, category, sw.now) := by
  have harrive : ∀ (left : FocusAnalyzer) outcome newCategory,
      (left.arrive setup outcome newCategory sw).1.tracker.current =
        some (sw.app, newCategory, sw.now) := by
    intro left outcome newCategory
    unfold FocusAnalyzer.arrive
    dsimp only
    split
    · obtain ⟨htracker, -⟩ := maybeSuggest_frame setup (left.front newCategory sw) sw
      exact congrArg SessionTracker.current htracker
    · rfl
  unfold FocusAnalyzer.onAppSwitchWithContext
  dsimp only
  split
  · exact .inl rfl
  · split
    · exact .inr ⟨_, harrive _ _ _⟩
    · exact .inr ⟨_, harrive _ _ _⟩

/-! ## Runs keep the laws -/

/-- A switch that the books can take: time does not go back, the interval that it ends is within a
    date, and at a return that resumes an interruption no other one of the
    last half hour is waiting, unless the cooldown is running. -/
structure Books.Allows (b : Books) (sw : Switch) : Prop where
  time : b.time ≤ sw.now
  date : ∀ app category start, b.analyzer.tracker.current = some (app, category, start) →
    app ≠ sw.app → dateOf start = dateOf sw.now
  waiting : b.analyzer.IsReturn setup sw → ∀ id, b.analyzer.tracker.pendingInterruptionId = some id →
    b.analyzer.checkCooldown setup sw.cooldownCheckedAt = true →
    ∀ i, b.analyzer.storage.otherPending id = some i → 30 < durationMins sw.now i.interruptedAt

/-- The history, the interruption that is pending and the last id. -/
structure Timeline (history : List Outcome) (pending : Option Nat) (seq : Nat) : Prop where
  resumed : ResumedOnReturn history
  numbered : ∀ i id, At (Outcome.Records id) history i → id ≤ seq
  distinct : ∀ i j id, At (Outcome.Records id) history i → At (Outcome.Records id) history j → i = j
  waits : ∀ id, pending = some id →
    ∃ i, At (Outcome.Records id) history i ∧ ∀ k, i < k → ¬ At Outcome.Returns history k

section

variable {history : List Outcome} {o : Outcome} {id i : Nat}

theorem records_snoc : At (Outcome.Records id) (history ++ [o]) i ↔
    At (Outcome.Records id) history i ∨ (i = history.length ∧ o.recorded = some id) := at_snoc

theorem resumes_snoc : At (Outcome.Resumes id) (history ++ [o]) i ↔
    At (Outcome.Resumes id) history i ∨ (i = history.length ∧ o.resumed = some id) := at_snoc

theorem returns_snoc : At Outcome.Returns (history ++ [o]) i ↔
    At Outcome.Returns history i ∨ (i = history.length ∧ o.returned = true) := at_snoc

end

/-- A switch that does nothing. -/
theorem Timeline.nothing {pending : Option Nat} {seq : Nat} (h : Timeline history pending seq) :
    Timeline (history ++ [⟨none, false, none, none⟩]) pending seq := by
  obtain ⟨⟨honce, hnext, hrecorded⟩, hnumbered, hdistinct, hwaits⟩ := h
  refine ⟨⟨?_, ?_, ?_⟩, ?_, ?_, ?_⟩ <;>
    simp only [records_snoc, resumes_snoc, returns_snoc, reduceCtorEq, Bool.false_eq_true, and_false,
      or_false] <;>
    assumption

/-- A switch that records an interruption. -/
theorem Timeline.record {pending : Option Nat} {seq : Nat} (h : Timeline history pending seq) :
    Timeline (history ++ [{ recorded := some (seq + 1) }]) (some (seq + 1)) (seq + 1) := by
  obtain ⟨⟨honce, hnext, hrecorded⟩, hnumbered, hdistinct, hwaits⟩ := h
  -- the new id is larger than any in the history
  have hfresh : ∀ i, ¬ At (Outcome.Records (seq + 1)) history i := fun i hi => by
    have := hnumbered i _ hi
    omega
  refine ⟨⟨?_, ?_, ?_⟩, ?_, ?_, ?_⟩ <;>
    simp only [records_snoc, resumes_snoc, returns_snoc, reduceCtorEq, Bool.false_eq_true, and_false,
      or_false, Option.some.injEq]
  · exact honce
  · rintro i j id (hi | ⟨-, rfl⟩) hj
    · exact hnext i j id hi hj
    · obtain ⟨i', hi'⟩ := hrecorded j _ hj
      exact absurd hi' (hfresh i')
  · intro j id hj
    obtain ⟨i, hi⟩ := hrecorded j id hj
    exact ⟨i, .inl hi⟩
  · rintro i id (hi | ⟨-, rfl⟩)
    · exact Nat.le_succ_of_le (hnumbered i id hi)
    · exact Nat.le_refl _
  · rintro i j id (hi | ⟨rfl, rfl⟩) (hj | ⟨hj, hid⟩)
    · exact hdistinct i j id hi hj
    · exact absurd (hid ▸ hi) (hfresh i)
    · exact absurd hj (hfresh j)
    · exact hj.symm
  · rintro id ⟨⟩
    exact ⟨history.length, .inr ⟨rfl, rfl⟩, fun k hk hreturn => absurd hreturn.lt (by omega)⟩

/-- A return, which resumes what is pending. -/
theorem Timeline.return {pending : Option Nat} {seq : Nat} (h : Timeline history pending seq)
    (suggested : Option RestoreSuggestion) :
    Timeline (history ++ [{ returned := true, resumed := pending, suggested := suggested }]) none
      seq := by
  obtain ⟨⟨honce, hnext, hrecorded⟩, hnumbered, hdistinct, hwaits⟩ := h
  -- what is pending has not been resumed: there was no return since it was recorded
  have hpending : ∀ id j, pending = some id → ¬ At (Outcome.Resumes id) history j := by
    intro id j hid hj
    obtain ⟨i, hi, hlater⟩ := hwaits id hid
    obtain ⟨hlt, hreturn, -⟩ := hnext i j id hi hj
    exact hlater j hlt hreturn
  refine ⟨⟨?_, ?_, ?_⟩, ?_, ?_, ?_⟩ <;>
    simp only [records_snoc, resumes_snoc, returns_snoc, reduceCtorEq, and_false, or_false, and_true]
  · rintro i j id (hi | ⟨rfl, hid⟩) (hj | ⟨hj, hid'⟩)
    · exact honce i j id hi hj
    · exact absurd hi (hpending id i hid')
    · exact absurd hj (hpending id j hid)
    · exact hj.symm
  · rintro i j id hi (hj | ⟨rfl, hid⟩)
    · obtain ⟨hlt, hreturn, hbetween⟩ := hnext i j id hi hj
      refine ⟨hlt, .inl hreturn, fun k hik hkj hk => ?_⟩
      rcases hk with hk | rfl
      · exact hbetween k hik hkj hk
      · exact absurd hj.lt (by omega)
    · obtain ⟨i', hi', hlater⟩ := hwaits id hid
      obtain rfl := hdistinct i i' id hi hi'
      refine ⟨hi.lt, .inr rfl, fun k hik hkj hk => ?_⟩
      rcases hk with hk | rfl
      · exact hlater k hik hk
      · exact absurd hkj (Nat.lt_irrefl _)
  · rintro j id (hj | ⟨-, hid⟩)
    · exact hrecorded j id hj
    · obtain ⟨i, hi, -⟩ := hwaits id hid
      exact ⟨i, hi⟩
  · exact hnumbered
  · exact hdistinct
  · intro id h
    cases h

/-- The invariant of the books. -/
structure Books.Inv (b : Books) : Prop where
  metrics : MetricsSound b.analyzer.storage b.time
  booked : ∀ app category start, b.analyzer.tracker.current = some (app, category, start) →
    MetricsSound b.analyzer.storage start ∧ start ≤ b.time
  timeline : Timeline b.history b.analyzer.tracker.pendingInterruptionId
    b.analyzer.storage.interruptions.seq
  unsuggested : ∀ o ∈ b.history, o.suggested = none

/-- A switch that is allowed keeps the invariant. -/
theorem Books.inv_step (b : Books) (sw : Switch) (h : b.Inv) (hallowed : b.Allows setup sw) :
    (b.step setup sw).Inv := by
  obtain ⟨hmetrics, hbooked, htimeline, hunsuggested⟩ := h
  have hsound := onAppSwitch_sound setup hmetrics hallowed.time
    (fun app category start hcurrent =>
      ⟨(hbooked _ _ _ hcurrent).1, (hbooked _ _ _ hcurrent).2.trans hallowed.time⟩) hallowed.date
  have hcurrent := onAppSwitch_current setup b.analyzer sw
  have heffect := onAppSwitch_effect setup b.analyzer sw
  unfold Books.step
  generalize b.analyzer.onAppSwitchWithContext setup sw = after at hsound hcurrent heffect ⊢
  obtain ⟨after, outcome⟩ := after
  refine ⟨hsound, ?_, ?_, ?_⟩
  · intro app category start hafter
    rcases hcurrent with hsame | ⟨category', hnew⟩
    · dsimp only at hsame
      subst hsame
      obtain ⟨hstart, hle⟩ := hbooked _ _ _ hafter
      exact ⟨hstart, hle.trans hallowed.time⟩
    · dsimp only at hnew hafter
      rw [hnew] at hafter
      cases hafter
      exact ⟨hsound, le_refl _⟩
  · dsimp only
    cases heffect with
    | nothing hpending hseq =>
      rw [hpending, hseq]
      exact htimeline.nothing
    | recorded hpending hseq =>
      rw [hpending, hseq]
      exact htimeline.record
    | returned hnone hpending hseq =>
      rw [hpending, hseq]
      rw [hnone] at htimeline
      exact htimeline.return none
    | resumed _ hsome hpending hseq _ =>
      rw [hpending, hseq]
      rw [hsome] at htimeline
      exact htimeline.return _
  · intro o ho
    rcases List.mem_append.mp ho with hold | hnew
    · exact hunsuggested o hold
    · rw [List.mem_singleton.mp hnew]
      cases heffect with
      | nothing | recorded | returned => rfl
      | @resumed id suggested hreturn hsome _ _ hsuggest =>
        -- the only other interruption is too old
        cases hs : suggested with
        | none => rfl
        | some s =>
          obtain ⟨hcheck, hother, hmins⟩ := hsuggest s hs
          exact absurd hmins (not_le.mpr (hallowed.waiting hreturn _ hsome hcheck _ hother))

/-- **The books are lawful.**  Over any sequence of switches that the condition allows, from a new
    analyzer on any storage with sound metrics, the laws hold after every switch. -/
theorem books_lawful (storage : FocusStorage) (time : Int) (switches : List Switch)
    (hmetrics : MetricsSound storage time)
    (hrun : Along (Books.step setup) (Books.Allows setup) ⟨{ storage := storage }, time, []⟩
      switches) :
    ∀ b ∈ states (Books.step setup) ⟨{ storage := storage }, time, []⟩ switches, Laws b := by
  have hempty : ∀ {P : Outcome → Prop} {i}, ¬ At P [] i := fun h => absurd h.lt (Nat.not_lt_zero _)
  have hinv : Books.Inv ⟨{ storage := storage }, time, []⟩ := by
    refine ⟨hmetrics, fun _ _ _ h => (by cases h), ⟨⟨fun i j id hi => absurd hi hempty,
      fun i j id hi => absurd hi hempty, fun j id hj => absurd hj hempty⟩,
      fun i id hi => absurd hi hempty, fun i j id hi => absurd hi hempty,
      fun id h => (by cases h)⟩, fun o ho => (by cases ho)⟩
  intro b hb
  obtain ⟨hsound, -, htimeline, hunsuggested⟩ :=
    Lib.states_invariant (Books.inv_step setup) hinv hrun b hb
  exact ⟨hsound, htimeline.resumed, fun o ho s hs => (by
    rw [hunsuggested o ho] at hs
    cases hs)⟩

/-! ## Days and contexts -/

/-- Lower-case names, a cooldown of half an hour. -/
def sampleSetup : Setup := ⟨id, 1800⟩

/-- A storage without rows. -/
def sampleStorage : FocusStorage := ⟨.empty, .empty, .empty⟩

/-- A switch whose readings of the clock are one, at some minute. -/
def sampleSwitch (app : String) (minute : Int) : Switch :=
  let t := minute * 60 * second
  ⟨app, t, t, t, t, t, t⟩

/-- A new analyzer at midnight. -/
abbrev sampleBooks : Books := ⟨{ storage := sampleStorage }, 0, []⟩

/-- A day at an editor with an interruption. -/
theorem books_lawful_interrupted :
    Laws ([sampleSwitch "code" 1, sampleSwitch "slack" 5, sampleSwitch "code" 7].foldl
      (Books.step sampleSetup) sampleBooks) := by
  refine books_lawful sampleSetup sampleStorage 0 _ (fun m hm => (by cases hm)) ?_ _
    (Lib.foldl_mem_states _ _)
  refine ⟨⟨by decide, fun _ _ _ h => (by cases h), fun ⟨_, _, _, h, _⟩ => (by cases h)⟩,
      ⟨by decide, fun app category start h _ => ?_, fun ⟨app, category, start, h, hcomm, _⟩ => ?_⟩,
      ⟨by decide, fun app category start h _ => ?_, fun _ id hid _ i hi => ?_⟩, trivial⟩
  · have hcurrent : (Books.step sampleSetup sampleBooks
        (sampleSwitch "code" 1)).analyzer.tracker.current =
          some ("code", .development, 60 * second) := by decide +kernel
    cases hcurrent.symm.trans h
    decide
  · have hcurrent : (Books.step sampleSetup sampleBooks
        (sampleSwitch "code" 1)).analyzer.tracker.current =
          some ("code", .development, 60 * second) := by decide +kernel
    cases hcurrent.symm.trans h
    cases hcomm
  · have hcurrent : (Books.step sampleSetup (Books.step sampleSetup sampleBooks
        (sampleSwitch "code" 1)) (sampleSwitch "slack" 5)).analyzer.tracker.current
        = some ("slack", .communication, 5 * 60 * second) := by decide +kernel
    cases hcurrent.symm.trans h
    decide
  · have hpending : (Books.step sampleSetup (Books.step sampleSetup sampleBooks
        (sampleSwitch "code" 1)) (sampleSwitch "slack" 5)).analyzer.tracker.pendingInterruptionId
        = some 1 := by decide +kernel
    have hother : ((Books.step sampleSetup (Books.step sampleSetup sampleBooks
        (sampleSwitch "code" 1)) (sampleSwitch "slack" 5)).analyzer.storage.otherPending 1).isNone
        = true := by decide +kernel
    cases hpending.symm.trans hid
    cases (Option.isNone_iff_eq_none.mp hother).symm.trans hi

/-- **The books do not add up.**  An editor that is in front from ten minutes before midnight until
    five minutes after has fifteen minutes booked on a date of which five have elapsed; and on the
    way back from a second message the suggested context is that of the first, which nobody has
    resumed. -/
theorem books_do_not_add_up :
    (∃ m ∈ ([sampleSwitch "code" 1430, sampleSwitch "slack" 1445].foldl (Books.step sampleSetup)
        sampleBooks).analyzer.storage.focusMetrics.rows,
      m.date = 1 ∧ m.totalActiveSecs = 900 ∧ elapsedOf 1 (1445 * 60 * second) = 300 * second) ∧
    ∃ o ∈ ([sampleSwitch "code" 1, sampleSwitch "slack" 2, sampleSwitch "chrome" 3,
        sampleSwitch "code" 4, sampleSwitch "slack" 5, sampleSwitch "code" 6].foldl
        (Books.step sampleSetup) sampleBooks).history,
      o.resumed = some 2 ∧ o.suggested.map (fun s => s.interruption.id) = some 1 := by
  decide +kernel

end Oneshim.Focus
