/-
  What deep work there is, and what is reported of it (`pattern_miner/detectors.rs`).

  Deep work is a maximal run of events of one coding app, with no gap over two minutes, that spans
  half an hour or more.  The detector goes over the events once and keeps an open block.

  1. **Blocks** (`deepWorkBlocks_eq`) — what the detector reports: the maximal runs by the gaps as
     it measures them, in whole seconds, the last one left out, since nothing closes it.

  2. **Runs** (`deepWorkRuns`) — the deep work there is.

  3. **The result** (`deepWorkBlocks_eq_runs_iff`) — when the two are the same.
-/
import Oneshim.Analysis.PatternMiner
import Oneshim.Lib.Runs

namespace Oneshim.Analysis

open Focus (second)
open Lib.Runs (infix_of_mem_splitBy splitBy_cons_run splitBy_refine)

/-! ## Blocks -/

/-- The next entry stays in the block. -/
def staysInBlock (prev entry : Switch) : Bool :=
  decide (entry.app = prev.app ∧ gapSecs entry prev ≤ 120)

section

variable (toLowercase : String → String)

/-- Half an hour or more in a coding app. -/
def isDeepWork (run : List Switch) : Bool :=
  match run.head?, run.getLast? with
  | some first, some last =>
    decide (1800 * second ≤ last.time - first.time) && isCodingApp toLowercase first.app
  | _, _ => false

variable {toLowercase}

/-- Whole seconds, from some number on. -/
theorem le_gapSecs_iff {n : Int} (hn : 0 < n) (later earlier : Switch) :
    n ≤ gapSecs later earlier ↔ n * second ≤ later.time - earlier.time := by
  rw [gapSecs, second]
  rcases Int.lt_or_le (later.time - earlier.time) 0 with hneg | hpos
  · have hle : (later.time - earlier.time).tdiv 1000000000 ≤ 0 := by
      rw [← neg_neg (later.time - earlier.time), Int.neg_tdiv]
      exact Int.neg_nonpos_of_nonneg (Int.tdiv_nonneg (by omega) (by decide))
    constructor <;> intro <;> omega
  · rw [Int.tdiv_eq_ediv_of_nonneg hpos]
    omega

theorem isDeepWork_iff {run : List Switch} {first last : Switch} (hfirst : run.head? = some first)
    (hlast : run.getLast? = some last) : isDeepWork toLowercase run = true ↔
      1800 ≤ gapSecs last first ∧ isCodingApp toLowercase first.app = true := by
  simp only [isDeepWork, hfirst, hlast, Bool.and_eq_true, decide_eq_true_eq,
    le_gapSecs_iff (by decide : (0 : Int) < 1800)]

/-- **The loop** reports the runs, the last one left out. -/
theorem deepWorkLoop_eq {start prev : Switch} {block : List Switch}
    (hstart : block.head? = some start) (hprev : block.getLast? = some prev)
    (hblock : block.IsChain fun a b => staysInBlock a b) (happ : prev.app = start.app)
    (rest : List Switch) : deepWorkLoop toLowercase start block prev rest =
      ((block ++ rest).splitBy staysInBlock).dropLast.filter (isDeepWork toLowercase) := by
  have hne : block ≠ [] := by
    rintro rfl
    cases hstart
  induction rest generalizing start prev block with
  | nil =>
    rw [List.append_nil, List.splitBy_of_isChain hne hblock]
    rfl
  | cons entry rest ih =>
    unfold deepWorkLoop
    split
    · next hcut =>
      -- the block is closed before the entry
      have hapart : ∀ x ∈ block.getLast?, staysInBlock x entry = false := by
        intro x hx
        rw [hprev] at hx
        obtain rfl : prev = x := Option.some.inj hx
        refine decide_eq_false fun hstays => ?_
        rcases hcut with hother | hgap
        · exact hother (hstays.1.trans happ)
        · omega
      have hrest := ih rfl rfl (List.isChain_singleton entry) rfl (List.cons_ne_nil _ _)
      have hsplit : (entry :: rest).splitBy staysInBlock ≠ [] :=
        List.splitBy_ne_nil.mpr (List.cons_ne_nil _ _)
      rw [splitBy_cons_run hne hblock hapart, List.dropLast_cons_of_ne_nil hsplit,
        List.filter_cons, hrest, List.singleton_append]
      by_cases hdeep : isDeepWork toLowercase block = true
      · rw [if_pos ((isDeepWork_iff hstart hprev).mp hdeep), if_pos hdeep]
        rfl
      · rw [if_neg fun h => hdeep ((isDeepWork_iff hstart hprev).mpr h), if_neg hdeep]
        rfl
    · next hstays =>
      rw [not_or, not_not] at hstays
      have hchain : (block ++ [entry]).IsChain fun a b => staysInBlock a b := by
        refine List.isChain_append.mpr ⟨hblock, List.isChain_singleton entry, fun x hx y hy => ?_⟩
        rw [hprev] at hx
        obtain rfl : prev = x := Option.some.inj hx
        obtain rfl : entry = y := Option.some.inj hy
        exact decide_eq_true ⟨hstays.1.trans happ.symm, Int.not_lt.mp hstays.2⟩
      have hhead : (block ++ [entry]).head? = some start := by
        rw [List.head?_append_of_ne_nil _ hne, hstart]
      rw [ih hhead (List.getLast?_concat) hchain hstays.1 (by simp), List.append_assoc,
        List.singleton_append]

/-- **What is reported.** -/
theorem deepWorkBlocks_eq (switches : List Switch) : deepWorkBlocks toLowercase switches =
    (switches.splitBy staysInBlock).dropLast.filter (isDeepWork toLowercase) := by
  cases switches with
  | nil => rfl
  | cons first rest =>
    exact deepWorkLoop_eq rfl rfl (List.isChain_singleton first) rfl rest

/-! ## Runs -/

/-- Two events of one app, with no gap over two minutes. -/
def together (a b : Switch) : Bool :=
  decide (b.app = a.app ∧ b.time - a.time ≤ 120 * second)

variable (toLowercase) in
/-- **The deep work there is**: the maximal runs of one coding app that span half an hour. -/
def deepWorkRuns (switches : List Switch) : List (List Switch) :=
  (switches.splitBy together).filter (isDeepWork toLowercase)

theorem staysInBlock_of_together {a b : Switch} (h : together a b = true) :
    staysInBlock a b = true := by
  obtain ⟨happ, hgap⟩ := of_decide_eq_true h
  refine decide_eq_true ⟨happ, ?_⟩
  by_contra hover
  have := (le_gapSecs_iff (by decide : (0 : Int) < 121) b a).mp (by omega)
  rw [second] at hgap this
  omega

/-- A stretch begins no earlier, and ends no later. -/
theorem Chronological.infix_within {block run : List Switch} (hchron : Chronological block)
    (h : run <:+: block) {first last start finish : Switch} (hfirst : run.head? = some first)
    (hlast : run.getLast? = some last) (hstart : block.head? = some start)
    (hfinish : block.getLast? = some finish) :
    start.time ≤ first.time ∧ last.time ≤ finish.time := by
  obtain ⟨front, back, rfl⟩ := h
  have hne : run ≠ [] := by
    rintro rfl
    cases hfirst
  constructor
  · cases front with
    | nil =>
      rw [List.nil_append, List.head?_append_of_ne_nil _ hne, hfirst] at hstart
      rw [Option.some.inj hstart]
    | cons a front =>
      obtain rfl : a = start := Option.some.inj hstart
      refine (List.pairwise_cons.mp hchron).1 first ?_
      exact List.mem_append_left _ (List.mem_append_right _ (List.mem_of_mem_head? hfirst))
  · rcases List.eq_nil_or_concat back with rfl | ⟨back, b, rfl⟩
    · rw [List.append_nil, List.getLast?_append_of_ne_nil _ hne, hlast] at hfinish
      rw [Option.some.inj hfinish]
    · rw [List.concat_eq_append, ← List.append_assoc] at hfinish hchron
      obtain rfl : b = finish := Option.some.inj ((List.getLast?_concat).symm.trans hfinish)
      refine (List.pairwise_append.mp hchron).2.2 last ?_ b (List.mem_singleton_self b)
      exact List.mem_append_left _ (List.mem_append_right _ (List.mem_of_mem_getLast? hlast))

/-- A stretch of deep work is in deep work, in one app. -/
theorem isDeepWork_of_infix {run block : List Switch} (hchron : Chronological block)
    (happ : ∀ a ∈ block, ∀ b ∈ block, a.app = b.app) (h : run <:+: block)
    (hrun : isDeepWork toLowercase run = true) : isDeepWork toLowercase block = true := by
  cases hfirst : run.head? with
  | none => simp [isDeepWork, hfirst] at hrun
  | some first =>
    cases hlast : run.getLast? with
    | none => simp [isDeepWork, hfirst, hlast] at hrun
    | some last =>
      obtain ⟨hspan, hcoding⟩ := (isDeepWork_iff hfirst hlast).mp hrun
      rw [le_gapSecs_iff (by decide)] at hspan
      have hmem : first ∈ block := h.subset (List.mem_of_mem_head? hfirst)
      have hne : block ≠ [] := List.ne_nil_of_mem hmem
      have hstart := List.head?_eq_some_head hne
      have hfinish := List.getLast?_eq_some_getLast hne
      obtain ⟨hbefore, hafter⟩ := hchron.infix_within h hfirst hlast hstart hfinish
      refine (isDeepWork_iff hstart hfinish).mpr ⟨(le_gapSecs_iff (by decide) _ _).mpr ?_, ?_⟩
      · omega
      · rw [happ _ (List.mem_of_mem_head? hstart) first hmem]
        exact hcoding

/-- A block is in one app. -/
theorem app_eq_of_chain {block : List Switch} (h : block.IsChain fun a b => staysInBlock a b) :
    ∀ a ∈ block, ∀ b ∈ block, a.app = b.app := by
  have hsame : block.IsChain fun a b => a.app = b.app :=
    h.imp fun a b hstays => (of_decide_eq_true hstays).1.symm
  have htrans : IsTrans Switch fun a b => a.app = b.app := ⟨fun _ _ _ hab hbc => hab.trans hbc⟩
  have hpairs : block.Pairwise fun a b => a.app = b.app := List.isChain_iff_pairwise.mp hsame
  intro a ha b hb
  have hflip : block.Pairwise (flip fun a b : Switch => a.app = b.app) := hpairs.imp Eq.symm
  exact @List.Pairwise.forall_of_forall_of_flip Switch block (fun a b => a.app = b.app)
    (fun _ _ => rfl) hpairs hflip a ha b hb

/-- The deep work in a block: the block itself where it has no gap over two minutes. -/
theorem deepWork_of_block {block : List Switch} (hchron : Chronological block) (hne : block ≠ [])
    (hblock : block.IsChain fun a b => staysInBlock a b)
    (hgaps : isDeepWork toLowercase block = true →
      block.IsChain fun a b => b.time - a.time ≤ 120 * second) :
    (block.splitBy together).filter (isDeepWork toLowercase) =
      [block].filter (isDeepWork toLowercase) := by
  have happ := app_eq_of_chain hblock
  by_cases hdeep : isDeepWork toLowercase block = true
  · have htogether : block.IsChain fun a b => together a b := by
      refine List.isChain_iff_getElem.mpr fun i hi => decide_eq_true ⟨?_, ?_⟩
      · exact (of_decide_eq_true (List.isChain_iff_getElem.mp hblock i hi)).1
      · exact List.isChain_iff_getElem.mp (hgaps hdeep) i hi
    rw [List.splitBy_of_isChain hne htogether]
  · have hnone : (block.splitBy together).filter (isDeepWork toLowercase) = [] := by
      refine List.filter_eq_nil_iff.mpr fun run hrun hrundeep => hdeep ?_
      exact isDeepWork_of_infix hchron happ (infix_of_mem_splitBy hrun) hrundeep
    rw [hnone, List.filter_cons_of_neg hdeep, List.filter_nil]

/-- The same of several blocks. -/
theorem filter_flatMap_blocks (blocks : List (List Switch))
    (h : ∀ block ∈ blocks, (Chronological block ∧ block ≠ [] ∧
        block.IsChain fun a b => staysInBlock a b) ∧
      (isDeepWork toLowercase block = true →
        block.IsChain fun a b => b.time - a.time ≤ 120 * second)) :
    (blocks.flatMap (·.splitBy together)).filter (isDeepWork toLowercase) =
      blocks.filter (isDeepWork toLowercase) := by
  induction blocks with
  | nil => rfl
  | cons block blocks ih =>
    obtain ⟨⟨hchron, hne, hblock⟩, hgaps⟩ := h block List.mem_cons_self
    rw [List.flatMap_cons, List.filter_append, deepWork_of_block hchron hne hblock hgaps,
      ih fun other hother => h other (List.mem_cons_of_mem _ hother), ← List.filter_append,
      List.singleton_append]

variable (toLowercase) in
/-- **When deep work is reported completely.**  Of events in the order of time the detector reports
    just the maximal runs of one coding app without a gap over two minutes that span half an hour,
    if and only if no reported block has a gap that whole seconds make two minutes of, and there is
    no such run in the last block. -/
theorem deepWorkBlocks_eq_runs_iff (switches : List Switch) (hchron : Chronological switches) :
    deepWorkBlocks toLowercase switches = deepWorkRuns toLowercase switches ↔
      (∀ block ∈ (switches.splitBy staysInBlock).dropLast, isDeepWork toLowercase block = true →
        block.IsChain fun a b => b.time - a.time ≤ 120 * second) ∧
      ∀ last ∈ (switches.splitBy staysInBlock).getLast?, ∀ run ∈ last.splitBy together,
        isDeepWork toLowercase run = false := by
  have hrefine : switches.splitBy together =
      (switches.splitBy staysInBlock).flatMap (·.splitBy together) :=
    splitBy_refine (fun _ _ => staysInBlock_of_together) switches
  have hblocks (block : List Switch) (hblock : block ∈ switches.splitBy staysInBlock) :
      Chronological block ∧ block ≠ [] ∧ block.IsChain fun a b => staysInBlock a b :=
    ⟨List.Pairwise.sublist (infix_of_mem_splitBy hblock).sublist hchron,
      List.ne_nil_of_mem_splitBy hblock, List.isChain_of_mem_splitBy hblock⟩
  rw [deepWorkBlocks_eq]
  constructor
  · intro hsame
    -- a block that is reported is a run
    have hgaps (block : List Switch) (hmem : block ∈ (switches.splitBy staysInBlock).dropLast)
        (hdeep : isDeepWork toLowercase block = true) :
        block.IsChain fun a b => b.time - a.time ≤ 120 * second := by
      have hrun : block ∈ deepWorkRuns toLowercase switches := by
        rw [← hsame]
        exact List.mem_filter.mpr ⟨hmem, hdeep⟩
      have hchain := List.isChain_of_mem_splitBy (List.mem_filter.mp hrun).1
      exact hchain.imp fun a b hab => (of_decide_eq_true hab).2
    refine ⟨hgaps, fun last hlast run hrun => Bool.eq_false_iff.mpr fun hdeep => ?_⟩
    have hsplit : switches.splitBy staysInBlock =
        (switches.splitBy staysInBlock).dropLast ++ [last] :=
      (List.dropLast_append_getLast? last hlast).symm
    have hfront : ((switches.splitBy staysInBlock).dropLast.flatMap
        (·.splitBy together)).filter (isDeepWork toLowercase) =
          (switches.splitBy staysInBlock).dropLast.filter (isDeepWork toLowercase) :=
      filter_flatMap_blocks _ fun block hmem =>
        ⟨hblocks block (List.mem_of_mem_dropLast hmem), hgaps block hmem⟩
    rw [deepWorkRuns, hrefine, hsplit, List.flatMap_append, List.filter_append,
      List.dropLast_concat, hfront] at hsame
    have hnil := List.self_eq_append_right.mp hsame
    have hin : run ∈ ([last].flatMap (·.splitBy together)).filter (isDeepWork toLowercase) :=
      List.mem_filter.mpr ⟨by simpa using hrun, hdeep⟩
    rw [hnil] at hin
    cases hin
  · rintro ⟨hgaps, hlast⟩
    rw [deepWorkRuns, hrefine]
    rcases List.eq_nil_or_concat (switches.splitBy staysInBlock) with hnil | ⟨front, last, hsplit⟩
    · rw [hnil]
      rfl
    · rw [List.concat_eq_append] at hsplit
      rw [hsplit, List.dropLast_concat] at hgaps
      have hlastNone : ([last].flatMap (·.splitBy together)).filter (isDeepWork toLowercase) =
          [] := by
        rw [List.flatMap_singleton]
        refine List.filter_eq_nil_iff.mpr fun run hrun => Bool.eq_false_iff.mp ?_
        exact hlast last (by rw [hsplit]; exact List.getLast?_concat) run hrun
      have hfront : (front.flatMap (·.splitBy together)).filter (isDeepWork toLowercase) =
          front.filter (isDeepWork toLowercase) :=
        filter_flatMap_blocks _ fun block hmem =>
          ⟨hblocks block (hsplit ▸ List.mem_append_left _ hmem), hgaps block hmem⟩
      rw [hsplit, List.dropLast_concat, List.flatMap_append, List.filter_append, hlastNone,
        hfront, List.append_nil]

end

/-- Half an hour in one app, an event every two minutes. -/
def halfAnHour : List Switch :=
  (List.range 16).map fun i : Nat => ⟨i * (120 * second), "code"⟩

/-- The same, and then another app. -/
def halfAnHourAndSlack : List Switch := halfAnHour ++ [{ time := 1900 * second, app := "slack" }]

theorem deepWorkBlocks_halfAnHourAndSlack :
    deepWorkBlocks id halfAnHourAndSlack = deepWorkRuns id halfAnHourAndSlack ↔
      (∀ block ∈ (halfAnHourAndSlack.splitBy staysInBlock).dropLast, isDeepWork id block = true →
        block.IsChain fun a b => b.time - a.time ≤ 120 * second) ∧
      ∀ last ∈ (halfAnHourAndSlack.splitBy staysInBlock).getLast?,
        ∀ run ∈ last.splitBy together, isDeepWork id run = false :=
  deepWorkBlocks_eq_runs_iff id halfAnHourAndSlack (by decide +kernel)

/-- Nothing closes the block. -/
theorem open_block_unreported :
    ¬ ∀ (toLowercase : String → String) (switches : List Switch), Chronological switches →
      deepWorkBlocks toLowercase switches = deepWorkRuns toLowercase switches := by
  intro hall
  have hsame := hall id halfAnHour (by decide +kernel)
  revert hsame
  decide +kernel

end Oneshim.Analysis
