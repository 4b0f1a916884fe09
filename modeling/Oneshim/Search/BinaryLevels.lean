/-
  What the Hamming distance of two codes says (`oneshim-core/src/binary_quantizer.rs`).

  A component is coded by the quarter it falls in, two bits for each of four levels, and four
  components make a byte.

  1. **Bits** (`hammingDistance_encode`) — the distance of two codes is the sum over the components
     of the bits in which their levels differ, also where the last byte is not full.

  2. **Levels** (`levelAt_mono`) — a greater component has no lower level.

  3. **The result** (`hamming_respects_levels`) — the levels are coded as numbers, so 1 and 2 differ
     in two bits, 1 and 3 in one: a vector between two others is further from the first than the
     second by no more than the components that go from level 1 over 2 to 3.
-/
import Mathlib.Algebra.BigOperators.Group.Finset.Piecewise
import Mathlib.Algebra.Order.BigOperators.Group.Finset
import Oneshim.Search.AdaptiveSearch

namespace Oneshim.Search

/-! ## Bits -/

/-- Four codes in a byte, the first in the high bits. -/
def packByte (a b c d : UInt8) : UInt8 :=
  ((((0 : UInt8) ||| (a <<< 6)) ||| (b <<< 4)) ||| (c <<< 2)) ||| (d <<< 0)

/-- One of the four codes. -/
def IsLevel (code : UInt8) : Prop := ∃ level : Fin 4, code = UInt8.ofNat level

theorem IsLevel.xor {a b : UInt8} (ha : IsLevel a) (hb : IsLevel b) : IsLevel (a ^^^ b) := by
  obtain ⟨i, rfl⟩ := ha
  obtain ⟨j, rfl⟩ := hb
  have hxor : ∀ i j : Fin 4, ∃ level : Fin 4, UInt8.ofNat i ^^^ UInt8.ofNat j = UInt8.ofNat level := by
    decide
  exact hxor i j

/-- The codes do not overlap in the byte. -/
theorem packByte_eq {a b c d : UInt8} (ha : IsLevel a) (hb : IsLevel b) (hc : IsLevel c)
    (hd : IsLevel d) : packByte a b c d = a <<< 6 ^^^ b <<< 4 ^^^ c <<< 2 ^^^ d <<< 0 := by
  obtain ⟨i, rfl⟩ := ha
  obtain ⟨j, rfl⟩ := hb
  obtain ⟨k, rfl⟩ := hc
  obtain ⟨l, rfl⟩ := hd
  revert i j k l
  decide +kernel

/-- The bits of a byte are those of its codes. -/
theorem countOnes_packed {a b c d : UInt8} (ha : IsLevel a) (hb : IsLevel b) (hc : IsLevel c)
    (hd : IsLevel d) : countOnes (a <<< 6 ^^^ b <<< 4 ^^^ c <<< 2 ^^^ d <<< 0) =
      countOnes a + countOnes b + countOnes c + countOnes d := by
  obtain ⟨i, rfl⟩ := ha
  obtain ⟨j, rfl⟩ := hb
  obtain ⟨k, rfl⟩ := hc
  obtain ⟨l, rfl⟩ := hd
  revert i j k l
  decide +kernel

/-- **Two bytes differ** as their codes do, one by one. -/
theorem countOnes_packByte_xor {a b c d a' b' c' d' : UInt8} (ha : IsLevel a) (hb : IsLevel b)
    (hc : IsLevel c) (hd : IsLevel d) (ha' : IsLevel a') (hb' : IsLevel b') (hc' : IsLevel c')
    (hd' : IsLevel d') : countOnes (packByte a b c d ^^^ packByte a' b' c' d') =
      countOnes (a ^^^ a') + countOnes (b ^^^ b') + countOnes (c ^^^ c') + countOnes (d ^^^ d') := by
  rw [← countOnes_packed (ha.xor ha') (hb.xor hb') (hc.xor hc') (hd.xor hd'), packByte_eq ha hb hc hd,
    packByte_eq ha' hb' hc' hd']
  simp only [UInt8.shiftLeft_xor]
  ac_rfl

section

variable {F : Type} (arith : Arithmetic F) (thresholds : QuantileThresholds F)

/-- The codes of the components. -/
def levels (vector : List F) : List UInt8 := vector.mapIdx (quantileCode arith thresholds)

/-- The code of a component; zero behind the last one. -/
def levelAt (vector : List F) (d : Nat) : UInt8 := (levels arith thresholds vector).getD d 0

variable {arith thresholds}

theorem isLevel_quantileCode (d : Nat) (val : F) :
    IsLevel (quantileCode arith thresholds d val) := by
  unfold quantileCode
  split
  · exact ⟨0, rfl⟩
  · split
    · exact ⟨1, rfl⟩
    · split
      · exact ⟨2, rfl⟩
      · exact ⟨3, rfl⟩

theorem levelAt_of_lt {vector : List F} {d : Nat} {val : F} (h : vector[d]? = some val) :
    levelAt arith thresholds vector d = quantileCode arith thresholds d val := by
  rw [levelAt, levels, List.getD_eq_getElem?_getD, List.getElem?_mapIdx, h]
  rfl

theorem levelAt_of_le {vector : List F} {d : Nat} (h : vector.length ≤ d) :
    levelAt arith thresholds vector d = 0 := by
  rw [levelAt, levels, List.getD_eq_getElem?_getD, List.getElem?_mapIdx,
    List.getElem?_eq_none h]
  rfl

theorem isLevel_levelAt (vector : List F) (d : Nat) : IsLevel (levelAt arith thresholds vector d) := by
  cases h : vector[d]? with
  | none =>
    rw [levelAt_of_le (List.getElem?_eq_none_iff.mp h)]
    exact ⟨0, rfl⟩
  | some val =>
    rw [levelAt_of_lt h]
    exact isLevel_quantileCode d val

/-- The bytes of a code. -/
theorem encode_eq {vector : List F} (hdim : vector.length = thresholds.dimensions) :
    encode arith vector thresholds = .ok ⟨(List.range ((thresholds.dimensions * 2 + 7) / 8)).map
      fun byte => packByte (levelAt arith thresholds vector (4 * byte))
        (levelAt arith thresholds vector (4 * byte + 1))
        (levelAt arith thresholds vector (4 * byte + 2))
        (levelAt arith thresholds vector (4 * byte + 3))⟩ := by
  rw [encode, if_neg (not_not.mpr hdim)]
  rfl

/-- **The distance of two codes** is the sum of the bits in which the levels differ. -/
theorem hammingDistance_encode {a b : List F} (ha : a.length = thresholds.dimensions)
    (hb : b.length = thresholds.dimensions) :
    ∃ codeA codeB, encode arith a thresholds = .ok codeA ∧ encode arith b thresholds = .ok codeB ∧
      hammingDistance codeA codeB = ∑ d ∈ Finset.range thresholds.dimensions,
        countOnes (levelAt arith thresholds a d ^^^ levelAt arith thresholds b d) := by
  refine ⟨_, _, encode_eq ha, encode_eq hb, ?_⟩
  let bits (d : Nat) := countOnes (levelAt arith thresholds a d ^^^ levelAt arith thresholds b d)
  have hbytes : ∀ count, ((List.range count).map fun byte => bits (4 * byte) + bits (4 * byte + 1) +
      bits (4 * byte + 2) + bits (4 * byte + 3)).sum = ∑ d ∈ Finset.range (4 * count), bits d := by
    intro count
    induction count with
    | zero => rfl
    | succ count ih =>
      rw [List.range_succ, List.map_append, List.sum_append, ih, Nat.mul_succ]
      simp only [Finset.sum_range_succ, List.map_cons, List.map_nil, List.sum_singleton]
      omega
  have hzip : hammingDistance
      ⟨(List.range ((thresholds.dimensions * 2 + 7) / 8)).map fun byte =>
        packByte (levelAt arith thresholds a (4 * byte)) (levelAt arith thresholds a (4 * byte + 1))
          (levelAt arith thresholds a (4 * byte + 2)) (levelAt arith thresholds a (4 * byte + 3))⟩
      ⟨(List.range ((thresholds.dimensions * 2 + 7) / 8)).map fun byte =>
        packByte (levelAt arith thresholds b (4 * byte)) (levelAt arith thresholds b (4 * byte + 1))
          (levelAt arith thresholds b (4 * byte + 2)) (levelAt arith thresholds b (4 * byte + 3))⟩ =
      ∑ d ∈ Finset.range (4 * ((thresholds.dimensions * 2 + 7) / 8)), bits d := by
    rw [← hbytes, hammingDistance, List.zip_map', List.map_map]
    refine congrArg List.sum (List.map_congr_left fun byte _ => ?_)
    exact countOnes_packByte_xor (isLevel_levelAt a _) (isLevel_levelAt a _) (isLevel_levelAt a _)
      (isLevel_levelAt a _) (isLevel_levelAt b _) (isLevel_levelAt b _) (isLevel_levelAt b _)
      (isLevel_levelAt b _)
  rw [hzip]
  -- behind the last component nothing differs
  refine (Finset.sum_subset (fun d hd => ?_) fun d _ hd => ?_).symm
  · rw [Finset.mem_range] at hd ⊢
    omega
  · rw [Finset.mem_range, Nat.not_lt] at hd
    show countOnes (levelAt arith thresholds a d ^^^ levelAt arith thresholds b d) = 0
    rw [levelAt_of_le (ha.symm ▸ hd), levelAt_of_le (hb.symm ▸ hd)]
    decide

end

/-! ## Levels -/

section

variable {F : Type} {arith : Arithmetic F} {thresholds : QuantileThresholds F} {le : F → F → Prop}

/-- A greater value has no lower code. -/
theorem quantileCode_mono (hle : ∀ x y q, le x y → arith.lt y q = true → arith.lt x q = true) (d : Nat)
    {x y : F} (h : le x y) :
    quantileCode arith thresholds d x ≤ quantileCode arith thresholds d y := by
  have hq (q : F) : arith.lt y q = true → arith.lt x q = true := hle x y q h
  unfold quantileCode
  by_cases h25 : arith.lt y (thresholds.q25.getD d arith.zero) = true
  · rw [if_pos h25, if_pos (hq _ h25)]
    decide
  · by_cases h50 : arith.lt y (thresholds.q50.getD d arith.zero) = true
    · rw [if_neg h25, if_pos h50, if_pos (hq _ h50)]
      split <;> decide
    · by_cases h75 : arith.lt y (thresholds.q75.getD d arith.zero) = true
      · rw [if_neg h25, if_neg h50, if_pos h75, if_pos (hq _ h75)]
        repeat' split
        all_goals decide
      · rw [if_neg h25, if_neg h50, if_neg h75]
        repeat' split
        all_goals decide

/-- The levels of a vector that is greater in every component. -/
theorem levelAt_mono (hle : ∀ x y q, le x y → arith.lt y q = true → arith.lt x q = true)
    {a b : List F} (hab : List.Forall₂ le a b) (d : Nat) :
    levelAt arith thresholds a d ≤ levelAt arith thresholds b d := by
  by_cases hd : d < a.length
  · have hd' : d < b.length := hab.length_eq ▸ hd
    rw [levelAt_of_lt (List.getElem?_eq_getElem hd), levelAt_of_lt (List.getElem?_eq_getElem hd')]
    exact quantileCode_mono hle d (hab.get hd hd')
  · have hd' : b.length ≤ d := hab.length_eq ▸ Nat.le_of_not_lt hd
    rw [levelAt_of_le (Nat.le_of_not_lt hd), levelAt_of_le hd']
    exact UInt8.le_refl 0

/-- The component goes from level 1 over 2 to 3. -/
def Crosses (arith : Arithmetic F) (thresholds : QuantileThresholds F) (a b c : List F) (d : Nat) :
    Prop :=
  levelAt arith thresholds a d = 1 ∧ levelAt arith thresholds b d = 2 ∧
    levelAt arith thresholds c d = 3

instance (a b c : List F) : DecidablePred (Crosses arith thresholds a b c) := fun _ =>
  inferInstanceAs (Decidable (_ ∧ _ ∧ _))

/-- **One component.**  In order, two levels differ in no more bits than the outer ones, but for one
    bit of the levels 1, 2 and 3. -/
theorem countOnes_le_of_le {a b c : UInt8} (ha : IsLevel a) (hb : IsLevel b) (hc : IsLevel c)
    (hab : a ≤ b) (hbc : b ≤ c) :
    countOnes (a ^^^ b) ≤ countOnes (a ^^^ c) + if a = 1 ∧ b = 2 ∧ c = 3 then 1 else 0 := by
  obtain ⟨i, rfl⟩ := ha
  obtain ⟨j, rfl⟩ := hb
  obtain ⟨k, rfl⟩ := hc
  revert i j k
  decide +kernel

end

/-! ## The result -/

/-- **Distances and levels.**  For vectors that are greater and greater in every component, the
    second is further from the first than the third by no more than the components that go from
    level 1 over 2 to 3; where none does, it is not further. -/
theorem hamming_respects_levels {F : Type} (arith : Arithmetic F) (thresholds : QuantileThresholds F)
    (le : F → F → Prop) (hle : ∀ x y q, le x y → arith.lt y q = true → arith.lt x q = true)
    (a b c : List F) (hdim : a.length = thresholds.dimensions) (hab : List.Forall₂ le a b)
    (hbc : List.Forall₂ le b c) :
    ∃ codeA codeB codeC, encode arith a thresholds = .ok codeA ∧
      encode arith b thresholds = .ok codeB ∧ encode arith c thresholds = .ok codeC ∧
      hammingDistance codeA codeB ≤ hammingDistance codeA codeC +
        ((Finset.range thresholds.dimensions).filter (Crosses arith thresholds a b c)).card ∧
      ((∀ d < thresholds.dimensions, ¬ Crosses arith thresholds a b c d) →
        hammingDistance codeA codeB ≤ hammingDistance codeA codeC) := by
  have hdimB : b.length = thresholds.dimensions := hab.length_eq ▸ hdim
  have hdimC : c.length = thresholds.dimensions := hbc.length_eq ▸ hdimB
  obtain ⟨codeA, codeB, hcodeA, hcodeB, hdistB⟩ :=
    @hammingDistance_encode F arith thresholds a b hdim hdimB
  obtain ⟨codeA', codeC, hcodeA', hcodeC, hdistC⟩ :=
    @hammingDistance_encode F arith thresholds a c hdim hdimC
  rw [hcodeA] at hcodeA'
  cases hcodeA'
  have hbound : hammingDistance codeA codeB ≤ hammingDistance codeA codeC +
      ((Finset.range thresholds.dimensions).filter (Crosses arith thresholds a b c)).card := by
    rw [hdistB, hdistC, Finset.card_filter, ← Finset.sum_add_distrib]
    exact Finset.sum_le_sum fun d _ => countOnes_le_of_le (isLevel_levelAt a d) (isLevel_levelAt b d)
      (isLevel_levelAt c d) (levelAt_mono hle hab d) (levelAt_mono hle hbc d)
  refine ⟨codeA, codeB, codeC, hcodeA, hcodeB, hcodeC, hbound, fun hnone => ?_⟩
  rw [Finset.filter_eq_empty_iff.mpr fun d hd => hnone d (Finset.mem_range.mp hd),
    Finset.card_empty] at hbound
  exact hbound

/-- Thresholds of one dimension. -/
def unitThresholds : QuantileThresholds Nat := ⟨[1], [2], [3], 1, rfl, rfl, rfl⟩

/-- From level 0 over 1 to 3. -/
theorem hamming_respects_levels_sample :
    ∃ codeA codeB codeC, encode sampleArithmetic [0] unitThresholds = .ok codeA ∧
      encode sampleArithmetic [1] unitThresholds = .ok codeB ∧
      encode sampleArithmetic [3] unitThresholds = .ok codeC ∧
      hammingDistance codeA codeB ≤ hammingDistance codeA codeC := by
  obtain ⟨codeA, codeB, codeC, hA, hB, hC, -, hle⟩ := hamming_respects_levels sampleArithmetic
    unitThresholds (fun x y => x ≤ y)
    (fun _ _ _ hxy hyq => decide_eq_true (Nat.lt_of_le_of_lt hxy (of_decide_eq_true hyq)))
    [0] [1] [3] rfl (.cons (by decide) .nil) (.cons (by decide) .nil)
  exact ⟨codeA, codeB, codeC, hA, hB, hC, hle (by decide)⟩

/-- **A nearer level with more bits.**  From level 1, level 2 is two bits away, level 3 one. -/
theorem middle_level_further :
    encode sampleArithmetic [1] unitThresholds = .ok ⟨[64]⟩ ∧
      encode sampleArithmetic [2] unitThresholds = .ok ⟨[128]⟩ ∧
      encode sampleArithmetic [3] unitThresholds = .ok ⟨[192]⟩ ∧
      ¬ hammingDistance ⟨[64]⟩ ⟨[128]⟩ ≤ hammingDistance ⟨[64]⟩ ⟨[192]⟩ := by
  exact ⟨rfl, rfl, rfl, by decide⟩

end Oneshim.Search
