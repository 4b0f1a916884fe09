/-
  What the blurred rectangles cover (`oneshim-vision/src/privacy_gateway.rs`).

  The sensitive regions are merged with a gap, and each merged region is cut to the image with a
  margin.  Where a region stands is up to the word recognizer: it can start left of or above the
  image, reach out of it, or be empty.

  1. **Axes** — both directions are treated alike: an extent is a start and a size, and merging two
     makes one that spans both (`Spanned.widen`).  The sums are those of some of the given extents,
     so they fit in an `i32` when the sums of the given ones do (`SumsFit`).

  2. **Coverage** — no pixel of a region is lost by merging, and none of those in the image is lost
     by cutting (`merged_regions_cover`).
-/
import Oneshim.Vision.PrivacyGateway

namespace Oneshim.Vision

/-! ## Axes -/

/-- `n` is an `i32`. -/
def FitsI32 (n : Int) : Prop := -2147483648 ≤ n ∧ n < 2147483648

instance (n : Int) : Decidable (FitsI32 n) := inferInstanceAs (Decidable (_ ∧ _))

theorem FitsI32.i32_eq {n : Int} (h : FitsI32 n) : i32 n = n := Vision.i32_eq h.1 h.2

/-- **The sums fit**: the end of an extent, its start less the margin, and the size, with the margin on
    both sides, from where one extent starts to where another one ends.  A merged extent has at
    least the size 1. -/
def SumsFit (extents : List (Int × Int)) : Prop :=
  (∀ a ∈ extents, FitsI32 a.2 ∧ FitsI32 (a.1 + a.2) ∧ FitsI32 (a.1 - 4) ∧
    FitsI32 (a.1 + max a.2 1)) ∧
  ∀ a ∈ extents, ∀ b ∈ extents, FitsI32 (b.1 + max b.2 1 - a.1 + 8)

instance (extents : List (Int × Int)) : Decidable (SumsFit extents) :=
  inferInstanceAs (Decidable (_ ∧ _))

/-- The extent stands between the start of a given one and the end of a given one. -/
structure Spanned (extents : List (Int × Int)) (start size : Int) : Prop where
  range : FitsI32 size
  stop : -2147483648 ≤ start + size
  left : ∃ a ∈ extents, a.1 ≤ start
  right : ∃ b ∈ extents, start + max size 1 ≤ b.1 + max b.2 1

section Axes

variable {extents : List (Int × Int)} {start size start' size' : Int}

theorem Spanned.of_mem (hfit : SumsFit extents) (h : (start, size) ∈ extents) :
    Spanned extents start size where
  range := (hfit.1 _ h).1
  stop := (hfit.1 _ h).2.1.1
  left := ⟨_, h, Int.le_refl _⟩
  right := ⟨_, h, Int.le_refl _⟩

/-- What fits of a spanned extent. -/
theorem Spanned.fits (hfit : SumsFit extents) (h : Spanned extents start size) :
    FitsI32 (start + size) ∧ FitsI32 (start - 4) ∧ start + max size 1 < 2147483648 := by
  obtain ⟨⟨hsize, -⟩, hstop, ⟨a, ha, hleft⟩, b, hb, hright⟩ := h
  obtain ⟨-, -, ⟨hmargin, -⟩, -⟩ := hfit.1 a ha
  obtain ⟨-, -, -, -, hend⟩ := hfit.1 b hb
  refine ⟨⟨hstop, ?_⟩, ⟨?_, ?_⟩, ?_⟩
  · omega
  · omega
  · omega
  · omega

/-- **Two spanned extents are merged into a spanned one**, which begins where the first of them
    begins and ends behind both. -/
theorem Spanned.widen (hfit : SumsFit extents) (h : Spanned extents start size)
    (h' : Spanned extents start' size') {merged : Int}
    (hmerged : merged = max (i32 (max (i32 (start + size)) (i32 (start' + size')) -
      min start start')) 1) :
    Spanned extents (min start start') merged ∧
      start + size ≤ min start start' + merged ∧ start' + size' ≤ min start start' + merged := by
  rw [(h.fits hfit).1.i32_eq, (h'.fits hfit).1.i32_eq] at hmerged
  obtain ⟨⟨hsize, -⟩, hstop, ⟨a, ha, hleft⟩, b, hb, hright⟩ := h
  obtain ⟨-, hstop', ⟨a', ha', hleft'⟩, b', hb', hright'⟩ := h'
  -- the merged extent starts and ends with one of the two
  have hab := (hfit.2 a ha b hb).2
  have hab' := (hfit.2 a ha b' hb').2
  have ha'b := (hfit.2 a' ha' b hb).2
  have ha'b' := (hfit.2 a' ha' b' hb').2
  have hwidth : FitsI32 (max (start + size) (start' + size') - min start start') := by
    constructor
    · omega
    · omega
  rw [hwidth.i32_eq] at hmerged
  refine ⟨⟨⟨?_, ?_⟩, ?_, ?_, ?_⟩, ?_, ?_⟩
  · omega
  · omega
  · omega
  · rcases Int.le_total start start' with hle | hle
    · exact ⟨a, ha, by omega⟩
    · exact ⟨a', ha', by omega⟩
  · rcases Int.le_total (start + max size 1) (start' + max size' 1) with hle | hle
    · exact ⟨b', hb', by omega⟩
    · exact ⟨b, hb, by omega⟩
  · omega
  · omega

/-- **Cutting with a margin** loses nothing inside the image. -/
theorem Spanned.cut (hfit : SumsFit extents) (h : Spanned extents start size) {p dimension : Nat}
    (hp : p < dimension) (hstart : start ≤ p) (hend : p < start + size) :
    asU32 (max (i32 (start - 4)) 0) ≤ p ∧
      p < asU32 (max (i32 (start - 4)) 0) +
        min (asU32 (i32 (size + 8))) (dimension - asU32 (max (i32 (start - 4)) 0)) := by
  have hmargin := (h.fits hfit).2.1
  obtain ⟨⟨-, hsize⟩, hstop, ⟨a, ha, hleft⟩, b, hb, hright⟩ := h
  have hab := (hfit.2 a ha b hb).2
  have hwide : FitsI32 (size + 8) := by
    constructor
    · omega
    · omega
  rw [hmargin.i32_eq, hwide.i32_eq]
  have hx : (asU32 (max (start - 4) 0) : Int) = max (start - 4) 0 := by
    apply asU32_eq
    · omega
    · have := hmargin.2
      omega
  have hw : (asU32 (size + 8) : Int) = size + 8 := by
    apply asU32_eq
    · omega
    · have := hwide.2
      omega
  constructor
  · omega
  · omega

end Axes

/-! ## Coverage -/

namespace SensitiveRegion

/-- The pixel is in the region, inside the image or not. -/
def Has (region : SensitiveRegion) (px py : Int) : Prop :=
  (region.x ≤ px ∧ px < region.x + region.w) ∧ (region.y ≤ py ∧ py < region.y + region.h)

theorem Has.inside {region outer : SensitiveRegion} {px py : Int} (h : region.Has px py)
    (hinside : region.Inside outer) : outer.Has px py := by
  obtain ⟨⟨hx, hx'⟩, hy, hy'⟩ := h
  obtain ⟨hleft, hright, htop, hbottom⟩ := hinside
  exact ⟨⟨by omega, by omega⟩, by omega, by omega⟩

/-- Both extents are spanned by those of the regions. -/
structure SpannedBy (regions : List SensitiveRegion) (region : SensitiveRegion) : Prop where
  x : Spanned (regions.map fun r => (r.x, r.w)) region.x region.w
  y : Spanned (regions.map fun r => (r.y, r.h)) region.y region.h

end SensitiveRegion

/-- The sums fit in both directions. -/
structure RegionSumsFit (regions : List SensitiveRegion) : Prop where
  x : SumsFit (regions.map fun r => (r.x, r.w))
  y : SumsFit (regions.map fun r => (r.y, r.h))

theorem widens_spannedBy {regions : List SensitiveRegion} (hfit : RegionSumsFit regions) :
    Widens (SensitiveRegion.SpannedBy regions) := by
  intro candidate region hc hr
  obtain ⟨hx, hxc, hxr⟩ := hc.x.widen hfit.x hr.x rfl
  obtain ⟨hy, hyc, hyr⟩ := hc.y.widen hfit.y hr.y rfl
  refine ⟨⟨hx, hy⟩, ⟨?_, hxc, ?_, hyc⟩, ⟨?_, hxr, ?_, hyr⟩⟩
  · exact Int.min_le_left _ _
  · exact Int.min_le_left _ _
  · exact Int.min_le_right _ _
  · exact Int.min_le_right _ _

/-- **Merging covers everything**, and so does what is blurred of a merged region: every pixel of a
    region is one of a merged region, and every pixel of a merged region that is in the image is one
    of the area that is blurred for it. -/
theorem merged_regions_cover (regions : List SensitiveRegion) (hfit : RegionSumsFit regions) :
    (∀ region ∈ regions, ∀ px py : Int, region.Has px py →
      ∃ merged ∈ mergeSensitiveRegions regions, merged.Has px py) ∧
    ∀ merged ∈ mergeSensitiveRegions regions, ∀ imgW imgH px py : Nat, px < imgW → py < imgH →
      merged.Has px py → (merged.area imgW imgH).Contains px py := by
  have hregions : ∀ region ∈ regions, region.SpannedBy regions := fun region hregion =>
    ⟨.of_mem hfit.x (List.mem_map_of_mem hregion), .of_mem hfit.y (List.mem_map_of_mem hregion)⟩
  obtain ⟨hspanned, hcover⟩ := exists_merged_of_mem (widens_spannedBy hfit) hregions
  constructor
  · intro region hregion px py hhas
    obtain ⟨merged, hmerged, hinside⟩ := hcover region hregion
    exact ⟨merged, hmerged, hhas.inside hinside⟩
  · intro merged hmerged imgW imgH px py hpx hpy ⟨⟨hleft, hright⟩, htop, hbottom⟩
    obtain ⟨hx, hy⟩ := hspanned merged hmerged
    exact ⟨hx.cut hfit.x hpx hleft hright, hy.cut hfit.y hpy htop hbottom⟩

/-- A region that starts left of and above the image, one near it, and an empty one. -/
def sampleRegions : List SensitiveRegion := [⟨-6, -2, 10, 8⟩, ⟨12, 3, 20, 5⟩, ⟨200, 90, 0, -7⟩]

theorem merged_regions_cover_sample :
    (∀ region ∈ sampleRegions, ∀ px py : Int, region.Has px py →
      ∃ merged ∈ mergeSensitiveRegions sampleRegions, merged.Has px py) ∧
    ∀ merged ∈ mergeSensitiveRegions sampleRegions, ∀ imgW imgH px py : Nat, px < imgW → py < imgH →
      merged.Has px py → (merged.area imgW imgH).Contains px py :=
  merged_regions_cover sampleRegions ⟨by decide, by decide⟩

end Oneshim.Vision
