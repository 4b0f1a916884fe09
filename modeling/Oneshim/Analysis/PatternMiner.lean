/-
  Sequences and deep work (`oneshim-analysis/src/pattern_miner/`).

  Both detectors walk over the apps of the context events in the order in which they are given, and
  take it for the order of time.

  1. **Sequences** (`detectSequentialPatterns`) — two to four apps in a row, repeats merged, that
     occur three times or more.

  2. **Deep work** (`deepWorkBlocks`) — half an hour or more in one coding app with no gap over two
     minutes; a block that the end of the list leaves open is not reported.

  The confidences, which are floating-point numbers, are left out.
-/
import Mathlib.Algebra.Order.Group.Int
import Mathlib.Data.List.Dedup
import Mathlib.Data.List.Infix
import Oneshim.Focus.FocusAnalyzer
import Oneshim.Lib.Arrange

namespace Oneshim.Analysis

open Focus (AppCategory second)
open Lib (Arrangement)

/-- A context event as the detectors see it. -/
structure Switch where
  time : Int
  app : String
deriving DecidableEq

/-- `PatternType`. -/
inductive PatternType where
  | appSequence
  | workMode
  | contextSwitch
  | deepWorkBlock
  | communicationBurst
  | coOccurrence
  | behavioralShift

/-- `ActivityPattern`. -/
structure ActivityPattern where
  patternType : PatternType
  description : String
  frequency : Nat
  start : Option Int
  finish : Option Int
  involvedApps : List String

/-! ## Sequences -/

/-- `MIN_SUPPORT`. -/
def minSupport : Nat := 3

/-- Entries of the app that came just before are dropped. -/
def deduped : Option String → List Switch → List Switch
  | _, [] => []
  | prev, entry :: rest =>
    if prev = some entry.app then deduped (some entry.app) rest
    else entry :: deduped (some entry.app) rest

/-- `windows`: all stretches of a length. -/
def windows {α : Type} (size : Nat) (l : List α) : List (List α) :=
  (l.tails.map (·.take size)).filter fun window => window.length = size

/-- The apps of a stretch. -/
def apps (window : List Switch) : List String := window.map (·.app)

/-- How often a sequence of apps occurs. -/
def support (size : Nat) (switches : List Switch) (seq : List String) : Nat :=
  ((windows size (deduped none switches)).map apps).count seq

/-- How a sequence is reported. -/
def sequenceText (size : Nat) (switches : List Switch) (seq : List String) : String :=
  "Sequence " ++ String.intercalate " -> " seq ++ " occurs " ++
    toString (support size switches seq) ++ " times"

/-- The sequences of a length. -/
def sequences (size : Nat) (switches : List Switch) : List (List String) :=
  ((windows size (deduped none switches)).map apps).dedup

/-- The sequences that are reported. -/
def isSupported (size : Nat) (switches : List Switch) (seq : List String) : Bool :=
  decide (minSupport ≤ support size switches seq)

/-- `detect_sequential_patterns`, in the orders of its maps. -/
def detectSequentialPatterns (order : Nat → Arrangement (List String)) (switches : List Switch) :
    List ActivityPattern :=
  if (deduped none switches).length < 2 then []
  else
    [2, 3, 4].flatMap fun size =>
      (((order size).arrange (sequences size switches)).filter (isSupported size switches)).map
        fun seq =>
          { patternType := .appSequence
            description := sequenceText size switches seq
            frequency := support size switches seq
            start := switches.head?.map (·.time)
            finish := switches.getLast?.map (·.time)
            involvedApps := seq }

/-- The stretches a sequence has been found in. -/
def occurrences (switches : List Switch) (seq : List String) : List (List Switch) :=
  (windows seq.length (deduped none switches)).filter fun window => apps window = seq

/-! ## Deep work -/

/-- `num_seconds` of a difference. -/
def gapSecs (later earlier : Switch) : Int := (later.time - earlier.time).tdiv second

section

variable (toLowercase : String → String)

/-- `is_coding_app` of an app in lower case. -/
def isCodingApp (app : String) : Bool :=
  AppCategory.fromAppName toLowercase (toLowercase app) == .development

/-- The loop, with the block that began at `start` and the entry before; the blocks that it reports. -/
def deepWorkLoop (start : Switch) (block : List Switch) (prev : Switch) :
    List Switch → List (List Switch)
  | [] => []
  | entry :: rest =>
    if entry.app ≠ start.app ∨ 120 < gapSecs entry prev then
      (if 1800 ≤ gapSecs prev start ∧ isCodingApp toLowercase start.app then [block] else []) ++
        deepWorkLoop entry [entry] entry rest
    else deepWorkLoop start (block ++ [entry]) entry rest

/-- The blocks of `detect_deep_work_blocks`. -/
def deepWorkBlocks : List Switch → List (List Switch)
  | [] => []
  | first :: rest => deepWorkLoop toLowercase first [first] first rest

/-- A block as it is reported. -/
def deepWorkPattern (block : List Switch) : Option ActivityPattern := do
  let start ← block.head?
  let last ← block.getLast?
  return {
    patternType := .deepWorkBlock
    description := "Deep work in " ++ start.app ++ " for " ++
      toString ((gapSecs last start).tdiv 60) ++ " min"
    frequency := block.length
    start := some start.time
    finish := some last.time
    involvedApps := [start.app] }

/-- `detect_deep_work_blocks`. -/
def detectDeepWorkBlocks (switches : List Switch) : List ActivityPattern :=
  (deepWorkBlocks toLowercase switches).filterMap deepWorkPattern

end

/-! ## Order -/

/-- Times do not go back. -/
def Chronological (switches : List Switch) : Prop := switches.Pairwise fun a b => a.time ≤ b.time

/-- Times do not go forward. -/
def NewestFirst (switches : List Switch) : Prop := switches.Pairwise fun a b => b.time ≤ a.time

instance (switches : List Switch) : Decidable (Chronological switches) :=
  inferInstanceAs (Decidable (List.Pairwise _ _))

theorem deduped_sublist (prev : Option String) (switches : List Switch) :
    (deduped prev switches).Sublist switches := by
  induction switches generalizing prev with
  | nil => exact .slnil
  | cons entry rest ih =>
    unfold deduped
    split
    · exact (ih _).cons entry
    · exact (ih _).cons_cons entry

theorem sublist_of_mem_windows {α : Type} {size : Nat} {l window : List α}
    (h : window ∈ windows size l) : window.Sublist l ∧ window.length = size := by
  obtain ⟨hmem, hlength⟩ := List.mem_filter.mp h
  obtain ⟨tail, htail, rfl⟩ := List.mem_map.mp hmem
  exact ⟨(List.take_sublist _ _).trans ((List.mem_tails _ _).mp htail).sublist, by simpa using hlength⟩

/-- A window of the newest first is the newest first. -/
theorem NewestFirst.window {switches window : List Switch} {size : Nat} (h : NewestFirst switches)
    (hwindow : window ∈ windows size (deduped none switches)) : NewestFirst window :=
  List.Pairwise.sublist ((sublist_of_mem_windows hwindow).1.trans (deduped_sublist _ _)) h

/-- **Both orders at once**: all times are the same. -/
theorem NewestFirst.chronological_iff {switches : List Switch} (h : NewestFirst switches) :
    Chronological switches ↔ ∀ a ∈ switches, ∀ b ∈ switches, a.time = b.time := by
  constructor
  · intro hforward
    induction switches with
    | nil => exact fun a ha => absurd ha List.not_mem_nil
    | cons first rest ih =>
      obtain ⟨hback, hrest⟩ := List.pairwise_cons.mp h
      obtain ⟨hfirst, hrest'⟩ := List.pairwise_cons.mp hforward
      have hsame (b) (hb : b ∈ rest) : first.time = b.time := le_antisymm (hfirst b hb) (hback b hb)
      intro a ha b hb
      rcases List.mem_cons.mp ha with ha | ha
      · rcases List.mem_cons.mp hb with hb | hb
        · rw [ha, hb]
        · exact ha ▸ hsame b hb
      · rcases List.mem_cons.mp hb with hb | hb
        · exact hb ▸ (hsame a ha).symm
        · exact ih hrest hrest' a ha b hb
  · exact fun hsame => List.pairwise_iff_forall_sublist.mpr fun {a b} hab =>
      (hsame a (hab.subset List.mem_cons_self) b
        (hab.subset (List.mem_cons_of_mem _ List.mem_cons_self))).le

/-- **No block is found** when the newest entries come first: no time passes in it. -/
theorem deepWorkLoop_newestFirst (toLowercase : String → String) {start prev : Switch}
    {block rest : List Switch} (hprev : prev.time ≤ start.time)
    (h : NewestFirst (prev :: rest)) : deepWorkLoop toLowercase start block prev rest = [] := by
  induction rest generalizing start block prev with
  | nil => rfl
  | cons entry rest ih =>
    obtain ⟨hback, hrest⟩ := List.pairwise_cons.mp h
    have hentry := hback entry List.mem_cons_self
    have hshort : ¬ (1800 ≤ gapSecs prev start ∧ isCodingApp toLowercase start.app) := by
      intro hlong
      have hnonpos : gapSecs prev start ≤ 0 := by
        rw [gapSecs, ← neg_sub, Int.neg_tdiv]
        exact Int.neg_nonpos_of_nonneg (Int.tdiv_nonneg (Int.sub_nonneg_of_le hprev) (by decide))
      omega
    unfold deepWorkLoop
    rw [if_neg hshort, ih le_rfl hrest, ih (hentry.trans hprev) hrest, List.append_nil, ite_self]

theorem deepWorkBlocks_newestFirst (toLowercase : String → String) {switches : List Switch}
    (h : NewestFirst switches) : deepWorkBlocks toLowercase switches = [] := by
  cases switches with
  | nil => rfl
  | cons first rest => exact deepWorkLoop_newestFirst toLowercase le_rfl h

variable {order : Nat → Arrangement (List String)}

/-- What a reported sequence is. -/
theorem mem_detectSequentialPatterns {switches : List Switch} {pattern : ActivityPattern}
    (h : pattern ∈ detectSequentialPatterns order switches) :
    ∃ size ∈ [2, 3, 4], ∃ window ∈ windows size (deduped none switches),
      apps window = pattern.involvedApps ∧
        minSupport ≤ support size switches pattern.involvedApps := by
  unfold detectSequentialPatterns at h
  split at h
  · exact absurd h List.not_mem_nil
  · obtain ⟨size, hsize, h⟩ := List.mem_flatMap.mp h
    obtain ⟨seq, hseq, rfl⟩ := List.mem_map.mp h
    obtain ⟨hmem, hsupport⟩ := List.mem_filter.mp hseq
    have hseq := ((order size).perm _).mem_iff.mp hmem
    obtain ⟨window, hwindow, happs⟩ := List.mem_map.mp (List.mem_dedup.mp hseq)
    exact ⟨size, hsize, window, hwindow, happs, of_decide_eq_true hsupport⟩

/-- A sequence that occurs often enough is reported. -/
theorem exists_mem_detectSequentialPatterns {switches window : List Switch} {size : Nat}
    (hsize : size ∈ [2, 3, 4]) (hwindow : window ∈ windows size (deduped none switches))
    (hsupport : minSupport ≤ support size switches (apps window)) :
    ∃ pattern ∈ detectSequentialPatterns order switches, pattern.involvedApps = apps window := by
  obtain ⟨hsub, hlength⟩ := sublist_of_mem_windows hwindow
  have htwo : ¬ (deduped none switches).length < 2 := by
    have hle := hsub.length_le
    have hpos : 2 ≤ size := by
      revert hsize
      simp only [List.mem_cons, List.not_mem_nil, or_false]
      omega
    omega
  unfold detectSequentialPatterns
  rw [if_neg htwo]
  have hmem : apps window ∈ (order size).arrange (sequences size switches) :=
    ((order size).perm _).mem_iff.mpr (List.mem_dedup.mpr (List.mem_map_of_mem hwindow))
  exact ⟨_, List.mem_flatMap.mpr ⟨size, hsize, List.mem_map.mpr ⟨apps window,
    List.mem_filter.mpr ⟨hmem, decide_eq_true hsupport⟩, rfl⟩⟩, rfl⟩

end Oneshim.Analysis
