/-
  Whether the patterns have changed (`analyze_if_changed`, `compute_patterns_hash`).

  An analysis remembers a hash of the patterns it has seen, and the check in between analyzes again
  when the hash is another one.  The hash is over the texts and frequencies of the patterns, one
  after the other.

  1. **Code** — the hash and the check.

  2. **What is hashed** (`hashed_detect`) — three parts depend on the orders of maps, three do not.

  3. **The result** (`change_detection_stable_iff`) — when the same events always hash the same,
     whatever the hasher and the orders.
-/
import Oneshim.Analysis.Detectors
import Oneshim.Lib.Hasher

namespace Oneshim.Analysis

open Lib (Arrangement Hasher Write defaultHasher flatMap_eq_iff)

/-! ## Code -/

/-- What is written to the hasher. -/
def patternWrites (patterns : List ActivityPattern) : List Write :=
  patterns.flatMap fun pattern => [.str pattern.description, .u32 pattern.frequency]

/-- `compute_patterns_hash`. -/
def computePatternsHash {σ : Type} (hasher : Hasher σ) (patterns : List ActivityPattern) : UInt64 :=
  hasher.hash (patternWrites patterns)

/-- The check of `analyze_if_changed`: whether there is another analysis. -/
def patternsChanged {σ : Type} (hasher : Hasher σ) (lastPatternsHash : UInt64)
    (patterns : List ActivityPattern) : Bool :=
  decide (computePatternsHash hasher patterns ≠ lastPatternsHash ∧
    computePatternsHash hasher patterns ≠ 0)

/-! ## What is hashed -/

/-- What of a pattern is hashed. -/
def ActivityPattern.hashed (pattern : ActivityPattern) : String × Nat :=
  (pattern.description, pattern.frequency)

theorem patternWrites_inj {patterns patterns' : List ActivityPattern} :
    patternWrites patterns = patternWrites patterns' ↔
      patterns.map ActivityPattern.hashed = patterns'.map ActivityPattern.hashed := by
  induction patterns generalizing patterns' with
  | nil => cases patterns' <;> simp [patternWrites]
  | cons pattern patterns ih =>
    cases patterns' with
    | nil => simp [patternWrites]
    | cons pattern' patterns' =>
      have hrest := @ih patterns'
      simp only [patternWrites] at hrest
      simp [patternWrites, ActivityPattern.hashed, hrest, and_assoc]

/-! ### Switches between two apps -/

/-- What is hashed of a switch. -/
def transitionHashed (switches : List Switch) (key : String × String) : String × Nat :=
  (transitionText switches key, transitionCount switches key)

/-- Fewer than four events have no switch that is frequent enough. -/
theorem not_isFrequent_of_short {switches : List Switch} (h : switches.length < 4)
    (key : String × String) : isFrequent switches key = false := by
  refine decide_eq_false fun hfrequent => ?_
  have hcount : transitionCount switches key ≤ switches.length - 1 := by
    refine (List.count_le_length).trans ((List.length_filter_le _ _).trans ?_)
    rw [List.length_map, List.length_zip, List.length_tail]
    omega
  omega

theorem hashed_contextSwitching (order : Arrangement (String × String)) (switches : List Switch) :
    (detectContextSwitching order switches).map ActivityPattern.hashed =
      ((order.arrange (transitions switches).dedup).filter (isFrequent switches)).map
        (transitionHashed switches) := by
  unfold detectContextSwitching
  split
  · next hshort =>
    rw [List.filter_eq_nil_iff.mpr fun key _ => Bool.eq_false_iff.mp
      (not_isFrequent_of_short hshort key)]
    rfl
  · rw [List.map_map]
    rfl

/-! ### Sequences -/

/-- What is hashed of a sequence. -/
def sequenceHashed (size : Nat) (switches : List Switch) (seq : List String) : String × Nat :=
  (sequenceText size switches seq, support size switches seq)

/-- What is hashed of the sequences of a length. -/
def sequencesHashed (order : Arrangement (List String)) (switches : List Switch) (size : Nat) :
    List (String × Nat) :=
  ((order.arrange (sequences size switches)).filter (isSupported size switches)).map
    (sequenceHashed size switches)

/-- A single app has no windows. -/
theorem sequences_of_short {switches : List Switch} (h : (deduped none switches).length < 2)
    {size : Nat} (hsize : 2 ≤ size) : sequences size switches = [] := by
  have hnone : windows size (deduped none switches) = [] := by
    refine List.eq_nil_iff_forall_not_mem.mpr fun window hwindow => ?_
    obtain ⟨hsub, hlength⟩ := sublist_of_mem_windows hwindow
    have := hsub.length_le
    omega
  rw [sequences, hnone]
  rfl

/-- What is hashed of the sequences, size by size. -/
theorem hashed_sequences (order : Nat → Arrangement (List String)) (switches : List Switch) :
    (detectSequentialPatterns order switches).map ActivityPattern.hashed =
      [2, 3, 4].flatMap fun size => sequencesHashed (order size) switches size := by
  unfold detectSequentialPatterns
  split
  · next hshort =>
    symm
    refine List.flatMap_eq_nil_iff.mpr fun size hsize => ?_
    have htwo : 2 ≤ size := by
      revert hsize
      simp only [List.mem_cons, List.not_mem_nil, or_false]
      omega
    have hnone := ((order size).perm (sequences size switches)).length_eq
    rw [sequences_of_short hshort htwo, List.length_nil] at hnone
    rw [sequencesHashed, sequences_of_short hshort htwo, List.length_eq_zero_iff.mp hnone]
    rfl
  · rw [List.map_flatMap]
    simp only [List.map_map]
    rfl

theorem length_sequencesHashed (a b : Arrangement (List String)) (switches : List Switch)
    (size : Nat) : (sequencesHashed a switches size).length =
      (sequencesHashed b switches size).length := by
  have hsame := (a.perm (sequences size switches)).trans (b.perm (sequences size switches)).symm
  exact ((hsame.filter _).map _).length_eq

/-! ### Bursts -/

section

variable (toLowercase : String → String)

/-- What is hashed of a burst, in the order of its set. -/
def burstHashed (order : Arrangement String) (burst : List Switch) : List (String × Nat) :=
  ((burstPattern toLowercase order burst).map ActivityPattern.hashed).toList

theorem burstHashed_eq (order : Arrangement String) {burst : List Switch} {first last : Switch}
    (hfirst : burst.head? = some first) (hlast : burst.getLast? = some last) :
    burstHashed toLowercase order burst =
      [(burstText first last (order.arrange (involvedApps toLowercase burst)), burst.length)] := by
  simp only [burstHashed, burstPattern, hfirst, hlast]
  rfl

/-- Two orders of the apps of a burst hash the same just if the apps read the same. -/
theorem burstHashed_eq_iff (a b : Arrangement String) (burst : List Switch) :
    burstHashed toLowercase a burst = burstHashed toLowercase b burst ↔
      String.intercalate ", " (a.arrange (involvedApps toLowercase burst)) =
        String.intercalate ", " (b.arrange (involvedApps toLowercase burst)) := by
  cases burst with
  | nil =>
    have hnone (order : Arrangement String) : order.arrange [] = [] := (order.perm []).eq_nil
    have hhashed (order : Arrangement String) : burstHashed toLowercase order [] = [] := rfl
    have hinvolved : involvedApps toLowercase [] = [] := rfl
    simp only [hhashed, hinvolved, hnone]
  | cons first rest =>
    have hlast := List.getLast?_eq_some_getLast (List.cons_ne_nil first rest)
    have hsame (order : Arrangement String) := burstHashed_eq toLowercase order
      (List.head?_cons : (first :: rest).head? = some first) hlast
    rw [hsame a, hsame b, List.singleton_inj, Prod.mk.injEq]
    constructor
    · rintro ⟨htext, -⟩
      exact (String.append_right_inj _).mp htext
    · intro htext
      exact ⟨(String.append_right_inj _).mpr htext, rfl⟩

theorem length_burstHashed (a b : Arrangement String) (burst : List Switch) :
    (burstHashed toLowercase a burst).length = (burstHashed toLowercase b burst).length := by
  cases burst with
  | nil => rfl
  | cons first rest =>
    have hlast := List.getLast?_eq_some_getLast (List.cons_ne_nil first rest)
    rw [burstHashed_eq toLowercase a rfl hlast, burstHashed_eq toLowercase b rfl hlast]
    rfl

theorem hashed_burstPatterns_cons (order : Nat → Arrangement String) (burst : List Switch)
    (rest : List (List Switch)) :
    (burstPatterns toLowercase order (burst :: rest)).map ActivityPattern.hashed =
      burstHashed toLowercase (order 0) burst ++
        (burstPatterns toLowercase (fun i => order (i + 1)) rest).map ActivityPattern.hashed := by
  rw [burstPatterns, List.map_append, burstHashed, Option.toList_map]

/-- **The bursts** hash the same in all orders if each of them does. -/
theorem hashed_burstPatterns_iff (bursts : List (List Switch)) :
    (∀ a b : Nat → Arrangement String,
      (burstPatterns toLowercase a bursts).map ActivityPattern.hashed =
        (burstPatterns toLowercase b bursts).map ActivityPattern.hashed) ↔
      ∀ burst ∈ bursts, ∀ a b : Arrangement String,
        burstHashed toLowercase a burst = burstHashed toLowercase b burst := by
  induction bursts with
  | nil => exact iff_of_true (fun _ _ => rfl) fun _ h => absurd h List.not_mem_nil
  | cons burst rest ih =>
    rw [List.forall_mem_cons, ← ih]
    simp only [hashed_burstPatterns_cons]
    constructor
    · intro h
      refine ⟨fun a b => ?_, fun a b => ?_⟩
      · exact (List.append_inj (h (fun _ => a) (fun _ => b)) (length_burstHashed _ a b burst)).1
      · -- the sets of the later bursts, one place on
        have hlater := h (fun i => a (i - 1)) (fun i => b (i - 1))
        exact (List.append_inj hlater (length_burstHashed _ (a 0) (b 0) burst)).2
    · rintro ⟨hburst, hrest⟩ a b
      rw [hburst (a 0) (b 0), hrest (fun i => a (i + 1)) fun i => b (i + 1)]

end

/-! ## The result -/

section

variable (toLowercase : String → String) (fractions : Fractions) (events : List Event)

/-- **What is hashed** of all patterns. -/
theorem hashed_detect (orders : MapOrders) :
    (PatternMiner.detect toLowercase fractions orders events).map ActivityPattern.hashed =
      let switches := extractAppSequence events
      ((detectContextSwitching orders.transitions switches).map ActivityPattern.hashed ++
        (detectWorkModes toLowercase fractions switches ++
          detectDeepWorkBlocks toLowercase switches).map ActivityPattern.hashed) ++
      ((detectSequentialPatterns orders.sequences switches).map ActivityPattern.hashed ++
        (detectCoOccurrencePatterns fractions switches).map ActivityPattern.hashed) ++
      (detectCommunicationBursts toLowercase orders.involved switches).map
        ActivityPattern.hashed := by
  simp only [PatternMiner.detect, List.map_append, List.append_assoc]

/-- **A stable check**: the same events hash the same in all orders of the maps, and after they have
    been analyzed in one order the check does not analyze them again in another, whatever the
    hasher. -/
structure StableCheck : Prop where
  hash : ∀ (σ : Type) (hasher : Hasher σ) (orders orders' : MapOrders),
    computePatternsHash hasher (PatternMiner.detect toLowercase fractions orders events) =
      computePatternsHash hasher (PatternMiner.detect toLowercase fractions orders' events)
  unchanged : ∀ (σ : Type) (hasher : Hasher σ) (orders orders' : MapOrders),
    patternsChanged hasher
      (computePatternsHash hasher (PatternMiner.detect toLowercase fractions orders events))
      (PatternMiner.detect toLowercase fractions orders' events) = false

/-- **Orders do not matter**: the switches that occur three times or more have the same text and
    frequency, so do the sequences of each length, and the apps of a reported burst read the same in
    every order. -/
structure OrderFree : Prop where
  transitions : ∀ key ∈ transitions (extractAppSequence events),
    ∀ key' ∈ transitions (extractAppSequence events),
      isFrequent (extractAppSequence events) key = true →
      isFrequent (extractAppSequence events) key' = true →
        transitionHashed (extractAppSequence events) key =
          transitionHashed (extractAppSequence events) key'
  sequences : ∀ size ∈ [2, 3, 4], ∀ seq ∈ sequences size (extractAppSequence events),
    ∀ seq' ∈ sequences size (extractAppSequence events),
      isSupported size (extractAppSequence events) seq = true →
      isSupported size (extractAppSequence events) seq' = true →
        sequenceHashed size (extractAppSequence events) seq =
          sequenceHashed size (extractAppSequence events) seq'
  bursts : ∀ burst ∈ communicationBursts toLowercase (extractAppSequence events),
    ∀ l₁ l₂, l₁.Perm (involvedApps toLowercase burst) → l₂.Perm (involvedApps toLowercase burst) →
      String.intercalate ", " l₁ = String.intercalate ", " l₂

/-- **When the check is stable.**  The same events hash the same, with all hashers and in all orders
    of the maps, and are not analyzed a second time, if and only if orders do not matter. -/
theorem change_detection_stable_iff :
    StableCheck toLowercase fractions events ↔ OrderFree toLowercase events := by
  have hstable : StableCheck toLowercase fractions events ↔ ∀ orders orders' : MapOrders,
      (PatternMiner.detect toLowercase fractions orders events).map ActivityPattern.hashed =
        (PatternMiner.detect toLowercase fractions orders' events).map ActivityPattern.hashed := by
    constructor
    · intro h orders orders'
      refine patternWrites_inj.mp ((Hasher.hash_eq_iff _ _).mp fun σ hasher => ?_)
      exact h.hash σ hasher orders orders'
    · intro h
      have hhash (σ : Type) (hasher : Hasher σ) (orders orders' : MapOrders) :=
        (Hasher.hash_eq_iff _ _).mpr (patternWrites_inj.mpr (h orders orders')) σ hasher
      refine ⟨hhash, fun σ hasher orders orders' => decide_eq_false fun hchanged => ?_⟩
      exact hchanged.1 (hhash σ hasher orders' orders)
  have htransitions := Arrangement.filter_map_same_iff (isFrequent (extractAppSequence events))
    (transitionHashed (extractAppSequence events))
    (Analysis.transitions (extractAppSequence events)).dedup
  have hsequences (size : Nat) :=
    Arrangement.filter_map_same_iff (isSupported size (extractAppSequence events))
      (sequenceHashed size (extractAppSequence events))
      (Analysis.sequences size (extractAppSequence events))
  have hbursts := hashed_burstPatterns_iff toLowercase
    (communicationBursts toLowercase (extractAppSequence events))
  simp only [← hashed_contextSwitching, List.mem_dedup] at htransitions
  rw [hstable]
  simp only [hashed_detect]
  constructor
  · intro h
    refine ⟨htransitions.mp fun a b => ?_, fun size hsize => (hsequences size).mp fun a b => ?_,
      fun burst hburst => (Arrangement.same_iff _ _).mp fun a b => ?_⟩
    · -- only the map of the switches is in another order
      have hsame := h ⟨a, fun _ => .asIs, fun _ => .asIs⟩ ⟨b, fun _ => .asIs, fun _ => .asIs⟩
      exact List.append_cancel_right (List.append_cancel_right (List.append_cancel_right hsame))
    · have hsame := h ⟨.asIs, fun _ => a, fun _ => .asIs⟩ ⟨.asIs, fun _ => b, fun _ => .asIs⟩
      have hsame := List.append_cancel_right
        (List.append_cancel_left (List.append_cancel_right hsame))
      rw [hashed_sequences, hashed_sequences] at hsame
      exact (flatMap_eq_iff (length_sequencesHashed a b _) _).mp hsame size hsize
    · have hsame := hbursts.mp (fun a b => List.append_cancel_left
        (h ⟨.asIs, fun _ => .asIs, a⟩ ⟨.asIs, fun _ => .asIs, b⟩)) burst hburst a b
      exact (burstHashed_eq_iff toLowercase a b burst).mp hsame
  · intro h orders orders'
    have hburstSame (burst : List Switch)
        (hburst : burst ∈ communicationBursts toLowercase (extractAppSequence events))
        (a b : Arrangement String) :
        burstHashed toLowercase a burst = burstHashed toLowercase b burst :=
      (burstHashed_eq_iff toLowercase a b burst).mpr
        ((Arrangement.same_iff _ _).mpr (h.bursts burst hburst) a b)
    have hsequencesSame : (detectSequentialPatterns orders.sequences (extractAppSequence events)).map
        ActivityPattern.hashed = (detectSequentialPatterns orders'.sequences
          (extractAppSequence events)).map ActivityPattern.hashed := by
      rw [hashed_sequences, hashed_sequences]
      refine (flatMap_eq_iff (fun size => ?_) _).mpr fun size hsize => ?_
      · exact length_sequencesHashed _ _ _ size
      · exact (hsequences size).mpr (h.sequences size hsize) _ _
    rw [htransitions.mpr h.transitions orders.transitions orders'.transitions, hsequencesSame,
      detectCommunicationBursts, hbursts.mpr hburstSame orders.involved orders'.involved]
    rfl

end

/-- Fractions, near enough. -/
def sampleFractions : Fractions where
  dominates count total := decide (2 * total < 5 * count)
  isSupported count total := decide (2 * total ≤ 5 * count)
  percent count total := toString (100 * count / total)
  rounded count := count

/-- Seven events, to and fro between two apps. -/
def toAndFro : List Event :=
  [contextAt 0 "notes", contextAt 1 "reader", contextAt 2 "notes", contextAt 3 "reader",
    contextAt 4 "notes", contextAt 5 "reader", contextAt 6 "notes"]

/-- Every map in the order of its first keys. -/
def firstOrders : MapOrders := ⟨.asIs, fun _ => .asIs, fun _ => .asIs⟩

/-- The map of the switches the other way round. -/
def otherOrders : MapOrders := ⟨.backwards, fun _ => .asIs, fun _ => .asIs⟩

/-- The switches there and back are given the other way round. -/
theorem another_order_analyzes_again :
    ¬ ∀ (toLowercase : String → String) (fractions : Fractions) (events : List Event)
      (orders orders' : MapOrders),
      let analyzed := PatternMiner.detect toLowercase fractions orders events
      let patterns := PatternMiner.detect toLowercase fractions orders' events
      computePatternsHash defaultHasher patterns = computePatternsHash defaultHasher analyzed ∧
        patternsChanged defaultHasher (computePatternsHash defaultHasher analyzed) patterns =
          false := by
  intro hall
  have hsame := (hall id sampleFractions toAndFro firstOrders otherOrders).2
  revert hsame
  decide +kernel

end Oneshim.Analysis
