/-
  The changed region of a screenshot (`oneshim-vision/src/delta.rs`).

  Two frames are compared tile by tile, and the rectangle around the changed tiles is sent on.  The
  buffers are indexed byte by byte; an index outside is a panic, here `none`.

  1. **Code** — `isTileChangedFast` on the raw bytes, the two tile loops, and `computeDelta`.
     Coordinates are `u32`s and wrap around (`u32`).

  2. **No index is outside** (`isTileChangedFast_eq`) — what the loops read of a tile are its
     pixels.

  3. **The extremes** (`Extremes`) — what the loop over the tiles keeps of the changed ones.

  4. **The bounding box** (`Exact`) — the region is the smallest tile-aligned rectangle, cut to the
     image, around the changed tiles.  It is as long as no changed tile ends behind 2³² in either
     direction and their number does not wrap around to 0 (`exact_iff`).

  `changed_ratio` is left out: a float that is only reported.
-/
import Mathlib.Algebra.GroupWithZero.Nat
import Mathlib.Data.List.Induction
import Mathlib.Tactic.ByContra

namespace Oneshim.Vision.Delta

/-! ## The code -/

/-- The result of an operation on `u32`s. -/
def u32 (n : Nat) : Nat := n % 4294967296

/-- `RgbaImage`: four bytes for each pixel, row by row. -/
structure RgbaBuffer where
  width : Nat
  height : Nat
  raw : List UInt8
  width_lt : width < 4294967296
  height_lt : height < 4294967296
  length_raw : raw.length = height * (width * 4)

/-- `Rect`. -/
structure Rect where
  x : Nat
  y : Nat
  w : Nat
  h : Nat

/-- `DeltaRegion`. -/
structure DeltaRegion where
  region : Rect
  changedTiles : Nat
  totalTiles : Nat

/-- `TILE_SIZE`. -/
def tileSize : Nat := 16

/-- `CHANGE_THRESHOLD`. -/
def changeThreshold : Nat := 30

/-- `div_ceil`. -/
def divCeil (n d : Nat) : Nat := if n % d > 0 then n / d + 1 else n / d

/-- `(p - c).unsigned_abs()` of two bytes as `i32`s. -/
def unsignedAbs (p c : UInt8) : Nat := ((p.toNat : Int) - c.toNat).natAbs

/-- What one pixel adds to `diff_sum`: red, green and blue. -/
def pixelDiff (prev curr : List UInt8) (pixelOffset : Nat) : Option Nat := do
  let pr ← prev[pixelOffset]?
  let pg ← prev[pixelOffset + 1]?
  let pb ← prev[pixelOffset + 2]?
  let cr ← curr[pixelOffset]?
  let cg ← curr[pixelOffset + 1]?
  let cb ← curr[pixelOffset + 2]?
  return unsignedAbs pr cr + unsignedAbs pg cg + unsignedAbs pb cb

/-- `is_tile_changed_fast`; `(diff_sum, pixel_count)` goes through the loops.  The offsets of the
    pixels of an image are below the length of its `Vec`, so they do not wrap around. -/
def isTileChangedFast (prev curr : List UInt8) (stride startX startY endX endY : Nat) :
    Option Bool := do
  let (diffSum, pixelCount) ← (List.range' startY (endY - startY)).foldlM
    (fun acc y =>
      let rowOffset := y * stride
      (List.range' startX (endX - startX)).foldlM
        (fun acc x => do
          let diff ← pixelDiff prev curr (rowOffset + x * 4)
          return (acc.1 + diff, acc.2 + 1)) acc)
    (0, 0)
  if pixelCount = 0 then return false
  return diffSum / pixelCount > changeThreshold

/-- The variables of the loop over the tiles. -/
structure Scan where
  changedTiles : Nat
  minX : Nat
  minY : Nat
  maxX : Nat
  maxY : Nat

/-- The body of the loops: tile `tx` of row `ty`. -/
def scanTile (prev curr : RgbaBuffer) (scan : Scan) (ty tx : Nat) : Option Scan := do
  let startX := u32 (tx * tileSize)
  let startY := u32 (ty * tileSize)
  let endX := min (u32 (startX + tileSize)) prev.width
  let endY := min (u32 (startY + tileSize)) prev.height
  if ← isTileChangedFast prev.raw curr.raw (prev.width * 4) startX startY endX endY then
    return ⟨u32 (scan.changedTiles + 1), min scan.minX startX, min scan.minY startY,
      max scan.maxX endX, max scan.maxY endY⟩
  else return scan

/-- `compute_delta`, on the images as `to_rgba8` gives them; the outer `none` is a panic. -/
def computeDelta (prev curr : RgbaBuffer) : Option (Option DeltaRegion) := do
  if prev.width ≠ curr.width ∨ prev.height ≠ curr.height then
    let tiles := u32 (u32 (curr.width / tileSize + 1) * u32 (curr.height / tileSize + 1))
    return some ⟨⟨0, 0, curr.width, curr.height⟩, tiles, tiles⟩
  let tilesX := divCeil prev.width tileSize
  let tilesY := divCeil prev.height tileSize
  let scan ← (List.range tilesY).foldlM
    (fun scan ty => (List.range tilesX).foldlM (fun scan tx => scanTile prev curr scan ty tx) scan)
    ⟨0, prev.width, prev.height, 0, 0⟩
  if scan.changedTiles = 0 then return none
  return some ⟨⟨scan.minX, scan.minY, scan.maxX - scan.minX, scan.maxY - scan.minY⟩,
    scan.changedTiles, u32 (tilesX * tilesY)⟩

/-! ## No index is outside -/

/-- What a pixel of the images adds. -/
def diffAt (prev curr : RgbaBuffer) (x y : Nat) : Nat :=
  let pixelOffset := y * (prev.width * 4) + x * 4
  unsignedAbs (prev.raw.getD pixelOffset 0) (curr.raw.getD pixelOffset 0) +
    unsignedAbs (prev.raw.getD (pixelOffset + 1) 0) (curr.raw.getD (pixelOffset + 1) 0) +
    unsignedAbs (prev.raw.getD (pixelOffset + 2) 0) (curr.raw.getD (pixelOffset + 2) 0)

/-- Two images of one size. -/
structure SameSize (prev curr : RgbaBuffer) : Prop where
  width : curr.width = prev.width
  height : curr.height = prev.height

section

variable {prev curr : RgbaBuffer}

/-- A pixel of the image has its bytes. -/
theorem pixelDiff_eq (hsize : SameSize prev curr) {x y : Nat} (hx : x < prev.width)
    (hy : y < prev.height) :
    pixelDiff prev.raw curr.raw (y * (prev.width * 4) + x * 4) = some (diffAt prev curr x y) := by
  have hrow : y * (prev.width * 4) + (prev.width * 4) ≤ prev.height * (prev.width * 4) := by
    have := Nat.mul_le_mul_right (prev.width * 4) hy
    rw [Nat.succ_mul] at this
    exact this
  have hprev : y * (prev.width * 4) + x * 4 + 2 < prev.raw.length := by
    rw [prev.length_raw]
    omega
  have hcurr : y * (prev.width * 4) + x * 4 + 2 < curr.raw.length := by
    rw [curr.length_raw, hsize.width, hsize.height]
    omega
  unfold pixelDiff diffAt
  generalize y * (prev.width * 4) + x * 4 = pixelOffset at hprev hcurr
  simp only [List.getD_eq_getElem?_getD]
  rw [List.getElem?_eq_getElem (by omega : pixelOffset < prev.raw.length),
    List.getElem?_eq_getElem (by omega : pixelOffset + 1 < prev.raw.length),
    List.getElem?_eq_getElem hprev,
    List.getElem?_eq_getElem (by omega : pixelOffset < curr.raw.length),
    List.getElem?_eq_getElem (by omega : pixelOffset + 1 < curr.raw.length),
    List.getElem?_eq_getElem hcurr]
  rfl

/-- The columns from `startX` to `endX` of the rows from `startY` to `endY`. -/
def areaDiff (prev curr : RgbaBuffer) (startX startY endX endY : Nat) : Nat :=
  ((List.range' startY (endY - startY)).map fun y =>
    ((List.range' startX (endX - startX)).map fun x => diffAt prev curr x y).sum).sum

/-- The pixels differ by more than the threshold, on average. -/
def areaChanged (prev curr : RgbaBuffer) (startX startY endX endY : Nat) : Bool :=
  let pixelCount := (endY - startY) * (endX - startX)
  pixelCount ≠ 0 && areaDiff prev curr startX startY endX endY / pixelCount > changeThreshold

/-- A loop that never panics is a loop. -/
theorem foldlM_eq_some {α β : Type} {f : β → α → Option β} {g : β → α → β} {l : List α}
    (h : ∀ a ∈ l, ∀ acc, f acc a = some (g acc a)) (acc : β) :
    l.foldlM f acc = some (l.foldl g acc) := by
  induction l generalizing acc with
  | nil => rfl
  | cons a l ih =>
    rw [List.foldlM_cons, h a List.mem_cons_self acc]
    exact ih (fun b hb => h b (List.mem_cons_of_mem a hb)) (g acc a)

theorem foldl_sum_count {α : Type} (f : α → Nat) (n : Nat) (l : List α) (acc : Nat × Nat) :
    l.foldl (fun acc a => (acc.1 + f a, acc.2 + n)) acc =
      (acc.1 + (l.map f).sum, acc.2 + l.length * n) := by
  induction l generalizing acc with
  | nil => simp
  | cons a l ih =>
    rw [List.foldl_cons, ih, List.map_cons, List.sum_cons, List.length_cons, Nat.succ_mul]
    congr 1
    · omega
    · omega

/-- **What the loops compute of an area of the image**, without an index outside. -/
theorem isTileChangedFast_eq (hsize : SameSize prev curr) {startX startY endX endY : Nat}
    (hx : endX ≤ prev.width) (hy : endY ≤ prev.height) :
    isTileChangedFast prev.raw curr.raw (prev.width * 4) startX startY endX endY =
      some (areaChanged prev curr startX startY endX endY) := by
  have hrow : ∀ y ∈ List.range' startY (endY - startY), ∀ acc : Nat × Nat,
      (List.range' startX (endX - startX)).foldlM
        (fun acc x => do
          let diff ← pixelDiff prev.raw curr.raw (y * (prev.width * 4) + x * 4)
          return (acc.1 + diff, acc.2 + 1)) acc =
        some (acc.1 + ((List.range' startX (endX - startX)).map fun x => diffAt prev curr x y).sum,
          acc.2 + (endX - startX)) := by
    intro y hmem acc
    have hy' : y < prev.height := by
      have := List.mem_range'_1.mp hmem
      omega
    rw [foldlM_eq_some (g := fun acc x => (acc.1 + diffAt prev curr x y, acc.2 + 1)),
      foldl_sum_count, List.length_range', Nat.mul_one]
    intro x hmem acc
    have hx' : x < prev.width := by
      have := List.mem_range'_1.mp hmem
      omega
    rw [pixelDiff_eq hsize hx' hy']
    rfl
  unfold isTileChangedFast
  rw [foldlM_eq_some hrow, foldl_sum_count, List.length_range']
  simp only [Nat.zero_add]
  show (if (endY - startY) * (endX - startX) = 0 then some false else
    some (decide (areaDiff prev curr startX startY endX endY /
      ((endY - startY) * (endX - startX)) > changeThreshold))) = _
  unfold areaChanged
  by_cases hcount : (endY - startY) * (endX - startX) = 0
  · simp [hcount]
  · simp only [ne_eq, hcount, not_false_eq_true, decide_true, Bool.true_and, if_false]

/-! ## The extremes -/

/-- A tile: its column and its row. -/
abbrev Tile := Nat × Nat

/-- The tiles of an image, row by row. -/
def tiles (width height : Nat) : List Tile :=
  (List.range (divCeil height tileSize)).flatMap fun ty =>
    (List.range (divCeil width tileSize)).map fun tx => (tx, ty)

/-- What the code takes a tile for. -/
def detected (prev curr : RgbaBuffer) (tile : Tile) : Bool :=
  areaChanged prev curr (u32 (tile.1 * tileSize)) (u32 (tile.2 * tileSize))
    (min (u32 (u32 (tile.1 * tileSize) + tileSize)) prev.width)
    (min (u32 (u32 (tile.2 * tileSize) + tileSize)) prev.height)

/-- The variables after a changed tile. -/
def Scan.note (prev : RgbaBuffer) (scan : Scan) (tile : Tile) : Scan :=
  ⟨u32 (scan.changedTiles + 1), min scan.minX (u32 (tile.1 * tileSize)),
    min scan.minY (u32 (tile.2 * tileSize)),
    max scan.maxX (min (u32 (u32 (tile.1 * tileSize) + tileSize)) prev.width),
    max scan.maxY (min (u32 (u32 (tile.2 * tileSize) + tileSize)) prev.height)⟩

/-- Which tiles there are. -/
theorem lt_divCeil_iff {n d i : Nat} (hd : 0 < d) : i < divCeil n d ↔ i * d < n := by
  have hdiv := Nat.div_add_mod n d
  have hmod := Nat.mod_lt n hd
  unfold divCeil
  rw [Nat.mul_comm] at hdiv
  by_cases hrest : n % d > 0
  · rw [if_pos hrest, Nat.lt_succ_iff]
    constructor
    · intro h
      have := Nat.mul_le_mul_right d h
      omega
    · intro h
      by_contra hlt
      have := Nat.mul_le_mul_right d (Nat.lt_of_not_le hlt)
      rw [Nat.succ_mul] at this
      omega
  · rw [if_neg hrest]
    constructor
    · intro h
      have := Nat.mul_le_mul_right d h
      rw [Nat.succ_mul] at this
      omega
    · intro h
      by_contra hlt
      have := Nat.mul_le_mul_right d (Nat.le_of_not_lt hlt)
      omega

theorem mem_tiles {width height : Nat} {tile : Tile} :
    tile ∈ tiles width height ↔ tile.1 * tileSize < width ∧ tile.2 * tileSize < height := by
  unfold tiles
  simp only [List.mem_flatMap, List.mem_range, List.mem_map]
  rw [← lt_divCeil_iff (by decide : 0 < tileSize), ← lt_divCeil_iff (by decide : 0 < tileSize)]
  constructor
  · rintro ⟨ty, hty, tx, htx, rfl⟩
    exact ⟨htx, hty⟩
  · rintro ⟨htx, hty⟩
    exact ⟨tile.2, hty, tile.1, htx, rfl⟩

/-- **The loops note the changed tiles, one after the other**, and never panic. -/
theorem scan_eq (hsize : SameSize prev curr) (scan : Scan) :
    (List.range (divCeil prev.height tileSize)).foldlM
      (fun scan ty => (List.range (divCeil prev.width tileSize)).foldlM
        (fun scan tx => scanTile prev curr scan ty tx) scan) scan =
      some (((tiles prev.width prev.height).filter (detected prev curr)).foldl
        (Scan.note prev) scan) := by
  have htile : ∀ (scan : Scan) (ty tx : Nat), scanTile prev curr scan ty tx =
      some (if detected prev curr (tx, ty) then scan.note prev (tx, ty) else scan) := by
    intro scan ty tx
    unfold scanTile
    simp only
    rw [isTileChangedFast_eq hsize (Nat.min_le_right _ _) (Nat.min_le_right _ _)]
    cases hchanged : detected prev curr (tx, ty) with
    | false =>
      unfold detected at hchanged
      simp only at hchanged
      rw [hchanged]
      rfl
    | true =>
      unfold detected at hchanged
      simp only at hchanged
      rw [hchanged]
      rfl
  rw [foldlM_eq_some (g := fun scan ty => (List.range (divCeil prev.width tileSize)).foldl
    (fun scan tx => if detected prev curr (tx, ty) then scan.note prev (tx, ty) else scan) scan)]
  · congr 1
    rw [List.foldl_filter, tiles, List.foldl_flatMap]
    congr 1
    funext scan ty
    rw [List.foldl_map]
  · intro ty _ scan
    exact foldlM_eq_some (fun tx _ scan => htile scan ty tx) scan

/-- A fold that chooses between two values ends with one of them, before all in an order. -/
theorem foldl_choice_spec {choose : Nat → Nat → Nat} {le : Nat → Nat → Prop}
    (hchoose : ∀ a b, choose a b = a ∨ choose a b = b)
    (hle : ∀ a b, le (choose a b) a ∧ le (choose a b) b)
    (htrans : ∀ a b c, le a b → le b c → le a c) (hrefl : ∀ a, le a a) (l : List Nat) (a : Nat) :
    (∀ x ∈ l, le (l.foldl choose a) x) ∧ le (l.foldl choose a) a ∧
      (l.foldl choose a = a ∨ l.foldl choose a ∈ l) := by
  induction l generalizing a with
  | nil => exact ⟨fun x hx => absurd hx List.not_mem_nil, hrefl a, .inl rfl⟩
  | cons b l ih =>
    obtain ⟨hrest, hinit, hmem⟩ := ih (choose a b)
    rw [List.foldl_cons]
    refine ⟨fun x hx => ?_, htrans _ _ _ hinit (hle a b).1, ?_⟩
    · rcases List.mem_cons.mp hx with rfl | hx
      · exact htrans _ _ _ hinit (hle a x).2
      · exact hrest x hx
    · rcases hmem with heq | hmem
      · rw [heq]
        refine (hchoose a b).imp_right fun hb => ?_
        rw [hb]
        exact List.mem_cons_self
      · exact .inr (List.mem_cons_of_mem b hmem)

theorem foldl_min_spec (l : List Nat) (a : Nat) :
    (∀ x ∈ l, l.foldl min a ≤ x) ∧ l.foldl min a ≤ a ∧ (l.foldl min a = a ∨ l.foldl min a ∈ l) :=
  @foldl_choice_spec min (fun x y => x ≤ y) (fun a b => by omega) (fun a b => by omega)
    (fun _ _ _ => Nat.le_trans) Nat.le_refl l a

theorem foldl_max_spec (l : List Nat) (a : Nat) :
    (∀ x ∈ l, x ≤ l.foldl max a) ∧ a ≤ l.foldl max a ∧ (l.foldl max a = a ∨ l.foldl max a ∈ l) :=
  @foldl_choice_spec max (fun x y => y ≤ x) (fun a b => by omega) (fun a b => by omega)
    (fun _ _ _ h h' => Nat.le_trans h' h) Nat.le_refl l a

/-- The variables after some changed tiles. -/
theorem foldl_note (found : List Tile) (scan : Scan) :
    found.foldl (Scan.note prev) scan =
      ⟨if found = [] then scan.changedTiles else u32 (scan.changedTiles + found.length),
        (found.map fun tile => u32 (tile.1 * tileSize)).foldl min scan.minX,
        (found.map fun tile => u32 (tile.2 * tileSize)).foldl min scan.minY,
        (found.map fun tile => min (u32 (u32 (tile.1 * tileSize) + tileSize)) prev.width).foldl max
          scan.maxX,
        (found.map fun tile => min (u32 (u32 (tile.2 * tileSize) + tileSize)) prev.height).foldl max
          scan.maxY⟩ := by
  induction found generalizing scan with
  | nil => rfl
  | cons tile found ih =>
    rw [List.foldl_cons, ih]
    have hcount : (if found = [] then (scan.note prev tile).changedTiles
        else u32 ((scan.note prev tile).changedTiles + found.length)) =
          u32 (scan.changedTiles + (tile :: found).length) := by
      show (if found = [] then u32 (scan.changedTiles + 1)
        else u32 (u32 (scan.changedTiles + 1) + found.length)) = _
      unfold u32
      by_cases hnil : found = []
      · rw [if_pos hnil, hnil]
        rfl
      · rw [if_neg hnil, List.length_cons, Nat.mod_add_mod]
        congr 1
        omega
    rw [hcount, if_neg (by simp)]
    rfl

/-! ## The bounding box -/

/-- The tile differs by more than the threshold. -/
def tileChanged (prev curr : RgbaBuffer) (tile : Tile) : Bool :=
  areaChanged prev curr (tile.1 * tileSize) (tile.2 * tileSize)
    (min (tile.1 * tileSize + tileSize) prev.width)
    (min (tile.2 * tileSize + tileSize) prev.height)

/-- The tiles that changed. -/
def changedTiles (prev curr : RgbaBuffer) : List Tile :=
  (tiles prev.width prev.height).filter (tileChanged prev curr)

/-- The pixels of the tile are in the rectangle. -/
structure Rect.Contains (rect : Rect) (img : RgbaBuffer) (tile : Tile) : Prop where
  left : rect.x ≤ tile.1 * tileSize
  right : min (tile.1 * tileSize + tileSize) img.width ≤ rect.x + rect.w
  top : rect.y ≤ tile.2 * tileSize
  bottom : min (tile.2 * tileSize + tileSize) img.height ≤ rect.y + rect.h

/-- The rectangle is made of tiles, cut to the image. -/
structure Rect.TileAligned (rect : Rect) (img : RgbaBuffer) : Prop where
  left : ∃ column, rect.x = column * tileSize
  right : ∃ column, rect.x + rect.w = min (column * tileSize) img.width
  top : ∃ row, rect.y = row * tileSize
  bottom : ∃ row, rect.y + rect.h = min (row * tileSize) img.height

/-- **The smallest tile-aligned rectangle around the changed tiles.** -/
structure BoundingBox (prev curr : RgbaBuffer) (region : Rect) : Prop where
  inside : region.x + region.w ≤ prev.width ∧ region.y + region.h ≤ prev.height
  aligned : region.TileAligned prev
  contains : ∀ tile ∈ changedTiles prev curr, region.Contains prev tile
  least : ∀ other : Rect, other.TileAligned prev →
    (∀ tile ∈ changedTiles prev curr, other.Contains prev tile) →
    (other.x ≤ region.x ∧ region.x + region.w ≤ other.x + other.w) ∧
      other.y ≤ region.y ∧ region.y + region.h ≤ other.y + other.h

/-- **No index is outside, nothing is returned exactly when no tile changed, and what is returned is
    the bounding box.** -/
def Exact (prev curr : RgbaBuffer) : Prop :=
  ∃ answer, computeDelta prev curr = some answer ∧
    (answer = none ↔ changedTiles prev curr = []) ∧
    ∀ delta, answer = some delta → BoundingBox prev curr delta.region

/-- The tile ends before 2³² in both directions. -/
def EndsInRange (tile : Tile) : Prop :=
  tile.1 * tileSize + tileSize < 4294967296 ∧ tile.2 * tileSize + tileSize < 4294967296

instance (tile : Tile) : Decidable (EndsInRange tile) := inferInstanceAs (Decidable (_ ∧ _))

theorem u32_eq {n : Nat} (h : n < 4294967296) : u32 n = n := Nat.mod_eq_of_lt h

/-- **A tile whose end wraps around has no pixels** for the code. -/
theorem detected_eq {tile : Tile} (htile : tile ∈ tiles prev.width prev.height) :
    detected prev curr tile = (tileChanged prev curr tile && decide (EndsInRange tile)) := by
  obtain ⟨hx, hy⟩ := mem_tiles.mp htile
  have hwidth := prev.width_lt
  have hheight := prev.height_lt
  unfold detected
  rw [u32_eq (Nat.lt_trans hx hwidth), u32_eq (Nat.lt_trans hy hheight)]
  by_cases hrange : EndsInRange tile
  · rw [u32_eq hrange.1, u32_eq hrange.2, decide_eq_true hrange, Bool.and_true]
    rfl
  · rw [decide_eq_false hrange, Bool.and_false]
    unfold EndsInRange at hrange
    unfold tileSize at *
    -- the end of the last column, or of the last row, wraps around to 0
    have hzero : u32 (tile.1 * 16 + 16) = 0 ∨ u32 (tile.2 * 16 + 16) = 0 := by
      unfold u32
      omega
    have hcount : (min (u32 (tile.2 * 16 + 16)) prev.height - tile.2 * 16) *
        (min (u32 (tile.1 * 16 + 16)) prev.width - tile.1 * 16) = 0 := by
      rcases hzero with h | h
      · rw [h, Nat.zero_min, Nat.zero_sub, Nat.mul_zero]
      · rw [h, Nat.zero_min, Nat.zero_sub, Nat.zero_mul]
    unfold areaChanged
    simp only [hcount, ne_eq, not_true_eq_false, decide_false, Bool.false_and]

/-- The tiles that the code finds changed. -/
def foundTiles (prev curr : RgbaBuffer) : List Tile :=
  (changedTiles prev curr).filter fun tile => decide (EndsInRange tile)

theorem filter_detected (prev curr : RgbaBuffer) :
    (tiles prev.width prev.height).filter (detected prev curr) = foundTiles prev curr := by
  unfold foundTiles changedTiles
  rw [List.filter_filter]
  apply List.filter_congr
  intro tile htile
  rw [detected_eq htile, Bool.and_comm]

theorem mem_foundTiles {tile : Tile} (h : tile ∈ foundTiles prev curr) :
    (tile.1 * tileSize < prev.width ∧ tile.2 * tileSize < prev.height) ∧ EndsInRange tile := by
  obtain ⟨hchanged, hrange⟩ := List.mem_filter.mp h
  exact ⟨mem_tiles.mp (List.mem_filter.mp hchanged).1, of_decide_eq_true hrange⟩

/-- The rectangle around some tiles. -/
structure Around (img : RgbaBuffer) (found : List Tile) (region : Rect) : Prop where
  left : ∃ tile ∈ found, region.x = tile.1 * tileSize
  right : ∃ tile ∈ found, region.x + region.w = min (tile.1 * tileSize + tileSize) img.width
  top : ∃ tile ∈ found, region.y = tile.2 * tileSize
  bottom : ∃ tile ∈ found, region.y + region.h = min (tile.2 * tileSize + tileSize) img.height
  contains : ∀ tile ∈ found, region.Contains img tile

/-- One axis, that of `coord`: where the first tile starts and the last one ends. -/
theorem extremes_spec {found : List Tile} (hfound : found ≠ []) (coord : Tile → Nat)
    (dimension : Nat) (hin : ∀ tile ∈ found, coord tile * tileSize < dimension)
    (hrange : ∀ tile ∈ found, coord tile * tileSize + tileSize < 4294967296) {first last : Nat}
    (hfirst : first = (found.map fun tile => u32 (coord tile * tileSize)).foldl min dimension)
    (hlast : last = (found.map fun tile =>
      min (u32 (u32 (coord tile * tileSize) + tileSize)) dimension).foldl max 0) :
    (∃ tile ∈ found, first = coord tile * tileSize) ∧
    (∃ tile ∈ found, first + (last - first) = min (coord tile * tileSize + tileSize) dimension) ∧
    ∀ tile ∈ found, first ≤ coord tile * tileSize ∧
      min (coord tile * tileSize + tileSize) dimension ≤ first + (last - first) := by
  have hstart : ∀ tile ∈ found, u32 (coord tile * tileSize) = coord tile * tileSize := by
    intro tile htile
    have := hrange tile htile
    exact u32_eq (by omega)
  have hstarts : (found.map fun tile => u32 (coord tile * tileSize)) =
      found.map fun tile => coord tile * tileSize := List.map_congr_left hstart
  have hstops : (found.map fun tile =>
      min (u32 (u32 (coord tile * tileSize) + tileSize)) dimension) =
      found.map fun tile => min (coord tile * tileSize + tileSize) dimension := by
    apply List.map_congr_left
    intro tile htile
    rw [hstart tile htile, u32_eq (hrange tile htile)]
  rw [hstarts] at hfirst
  rw [hstops] at hlast
  obtain ⟨hle, -, hmem⟩ := foldl_min_spec (found.map fun tile => coord tile * tileSize) dimension
  obtain ⟨hge, -, hmem'⟩ := foldl_max_spec
    (found.map fun tile => min (coord tile * tileSize + tileSize) dimension) 0
  rw [← hfirst] at hle hmem
  rw [← hlast] at hge hmem'
  obtain ⟨tile, htile⟩ := List.exists_mem_of_ne_nil found hfound
  have hstart := hle _ (List.mem_map_of_mem htile)
  have hstop := hge _ (List.mem_map_of_mem htile)
  have hwithin := hin tile htile
  have hend : first + (last - first) = last := by
    unfold tileSize at *
    omega
  rw [hend]
  refine ⟨?_, ?_, fun other hother => ⟨?_, ?_⟩⟩
  · obtain ⟨other, hother, heq⟩ := List.mem_map.mp (hmem.resolve_left (by omega))
    exact ⟨other, hother, heq.symm⟩
  · have hpos : last ≠ 0 := by
      unfold tileSize at *
      omega
    obtain ⟨other, hother, heq⟩ := List.mem_map.mp (hmem'.resolve_left hpos)
    exact ⟨other, hother, heq.symm⟩
  · exact hle _ (List.mem_map_of_mem hother)
  · exact hge _ (List.mem_map_of_mem hother)

/-- **What is computed**: nothing where no tile is found or their number wraps around to 0, else the
    rectangle around the tiles found. -/
theorem computeDelta_cases (hsize : SameSize prev curr) :
    (u32 (foundTiles prev curr).length = 0 ∧ computeDelta prev curr = some none) ∨
    (u32 (foundTiles prev curr).length ≠ 0 ∧ ∃ delta, computeDelta prev curr = some (some delta) ∧
      Around prev (foundTiles prev curr) delta.region) := by
  have hscan := scan_eq hsize ⟨0, prev.width, prev.height, 0, 0⟩
  rw [filter_detected, foldl_note] at hscan
  unfold computeDelta
  rw [if_neg (by simp [hsize.width, hsize.height])]
  simp only
  rw [hscan]
  by_cases hnil : foundTiles prev curr = []
  · left
    rw [hnil]
    exact ⟨rfl, rfl⟩
  · simp only [if_neg hnil, Nat.zero_add]
    by_cases hcount : u32 (foundTiles prev curr).length = 0
    · left
      refine ⟨hcount, ?_⟩
      show (if u32 (foundTiles prev curr).length = 0 then some none else _) = _
      rw [if_pos hcount]
    · right
      refine ⟨hcount, ?_⟩
      refine ⟨_, if_neg hcount, ?_⟩
      obtain ⟨hleft, hright, hx⟩ := extremes_spec hnil Prod.fst prev.width
        (fun tile htile => (mem_foundTiles htile).1.1)
        (fun tile htile => (mem_foundTiles htile).2.1)
        rfl rfl
      obtain ⟨htop, hbottom, hy⟩ := extremes_spec hnil Prod.snd prev.height
        (fun tile htile => (mem_foundTiles htile).1.2)
        (fun tile htile => (mem_foundTiles htile).2.2)
        rfl rfl
      exact ⟨hleft, hright, htop, hbottom, fun tile htile =>
        ⟨(hx tile htile).1, (hx tile htile).2, (hy tile htile).1, (hy tile htile).2⟩⟩

/-- The rectangle around the changed tiles is their bounding box. -/
theorem Around.boundingBox {region : Rect} (h : Around prev (changedTiles prev curr) region) :
    BoundingBox prev curr region where
  inside := by
    obtain ⟨r, -, hright⟩ := h.right
    obtain ⟨b, -, hbottom⟩ := h.bottom
    rw [hright, hbottom]
    exact ⟨Nat.min_le_right _ _, Nat.min_le_right _ _⟩
  aligned := by
    obtain ⟨l, -, hleft⟩ := h.left
    obtain ⟨r, -, hright⟩ := h.right
    obtain ⟨t, -, htop⟩ := h.top
    obtain ⟨b, -, hbottom⟩ := h.bottom
    refine ⟨⟨l.1, hleft⟩, ⟨r.1 + 1, ?_⟩, ⟨t.2, htop⟩, ⟨b.2 + 1, ?_⟩⟩
    · rw [hright, Nat.succ_mul]
    · rw [hbottom, Nat.succ_mul]
  contains := h.contains
  least := by
    intro other _ hother
    obtain ⟨l, hl, hleft⟩ := h.left
    obtain ⟨r, hr, hright⟩ := h.right
    obtain ⟨t, ht, htop⟩ := h.top
    obtain ⟨b, hb, hbottom⟩ := h.bottom
    rw [hright, hbottom, hleft, htop]
    exact ⟨⟨(hother l hl).left, (hother r hr).right⟩, (hother t ht).top, (hother b hb).bottom⟩

/-- A changed tile that ends behind 2³² is not in the region. -/
theorem not_exact_of_wraps (hsize : SameSize prev curr) {tile : Tile}
    (htile : tile ∈ changedTiles prev curr) (hwraps : ¬ EndsInRange tile) : ¬ Exact prev curr := by
  rintro ⟨answer, hanswer, hnone, hbox⟩
  have hsome : answer ≠ none := fun h => List.ne_nil_of_mem htile (hnone.mp h)
  rcases computeDelta_cases hsize with ⟨-, hdelta⟩ | ⟨-, delta, hdelta, haround⟩
  · exact hsome (Option.some.inj (hanswer.symm.trans hdelta))
  · have hcontains := (hbox delta (Option.some.inj (hanswer.symm.trans hdelta))).contains tile htile
    obtain ⟨hx, hy⟩ := mem_tiles.mp (List.mem_filter.mp htile).1
    obtain ⟨r, hr, hright⟩ := haround.right
    obtain ⟨b, hb, hbottom⟩ := haround.bottom
    have hr' := (mem_foundTiles hr).2.1
    have hb' := (mem_foundTiles hb).2.2
    have hcx := hcontains.right
    have hcy := hcontains.bottom
    unfold EndsInRange at hwraps
    unfold tileSize at *
    omega

/-- A number of changed tiles that wraps around to 0 looks like none. -/
theorem not_exact_of_count (hsize : SameSize prev curr)
    (hrange : ∀ tile ∈ changedTiles prev curr, EndsInRange tile)
    (hsome : changedTiles prev curr ≠ [])
    (hcount : u32 (changedTiles prev curr).length = 0) : ¬ Exact prev curr := by
  have hfound : foundTiles prev curr = changedTiles prev curr :=
    List.filter_eq_self.mpr fun tile htile => decide_eq_true (hrange tile htile)
  rintro ⟨answer, hanswer, hnone, -⟩
  rcases computeDelta_cases hsize with ⟨-, hdelta⟩ | ⟨hcount', -⟩
  · exact hsome (hnone.mp (Option.some.inj (hanswer.symm.trans hdelta)))
  · rw [hfound] at hcount'
    exact hcount' hcount

/-- **The delta region is exact** as long as no changed tile ends behind 2³² in either direction and
    the number of changed tiles, if there are any, is no multiple of 2³². -/
theorem exact_iff (prev curr : RgbaBuffer) (hsize : SameSize prev curr) :
    Exact prev curr ↔ (∀ tile ∈ changedTiles prev curr, EndsInRange tile) ∧
      (changedTiles prev curr ≠ [] → (changedTiles prev curr).length % 4294967296 ≠ 0) := by
  constructor
  · intro hexact
    have hrange : ∀ tile ∈ changedTiles prev curr, EndsInRange tile := by
      intro tile htile
      by_contra hwraps
      exact not_exact_of_wraps hsize htile hwraps hexact
    exact ⟨hrange, fun hsome hcount => not_exact_of_count hsize hrange hsome hcount hexact⟩
  · rintro ⟨hrange, hcount⟩
    have hfound : foundTiles prev curr = changedTiles prev curr :=
      List.filter_eq_self.mpr fun tile htile => decide_eq_true (hrange tile htile)
    rcases computeDelta_cases hsize with ⟨hzero, hdelta⟩ | ⟨hcount', delta, hdelta, haround⟩
    · rw [hfound] at hzero
      have hnil : changedTiles prev curr = [] := by
        by_contra hsome
        exact hcount hsome hzero
      exact ⟨none, hdelta, iff_of_true rfl hnil, fun delta h => absurd h (by simp)⟩
    · rw [hfound] at haround hcount'
      refine ⟨some delta, hdelta, iff_of_false (by simp) ?_, fun delta' h => ?_⟩
      · intro hnil
        rw [hnil] at hcount'
        exact hcount' rfl
      · obtain rfl := Option.some.inj h
        exact haround.boundingBox

end

/-- A line of 2³² - 1 pixels of one color. -/
def longLine (value : UInt8) : RgbaBuffer where
  width := 4294967295
  height := 1
  raw := List.replicate 17179869180 value
  width_lt := by decide
  height_lt := by decide
  length_raw := List.length_replicate

/-- From black to white every pixel changes. -/
theorem diffAt_longLine {x : Nat} (hx : x < 4294967295) :
    diffAt (longLine 0) (longLine 255) x 0 = 765 := by
  have hbyte : ∀ (value : UInt8) (offset : Nat), offset < 17179869180 →
      (longLine value).raw.getD offset 0 = value := by
    intro value offset hoffset
    show (List.replicate _ value).getD offset 0 = value
    rw [List.getD_eq_getElem?_getD, List.getElem?_replicate, if_pos hoffset, Option.getD_some]
  have hstart : 0 * ((longLine 0).width * 4) + x * 4 + 2 < 17179869180 := by
    rw [Nat.zero_mul, Nat.zero_add]
    omega
  dsimp only [diffAt]
  rw [hbyte 0 _ (by omega), hbyte 255 _ (by omega), hbyte 0 _ (by omega), hbyte 255 _ (by omega),
    hbyte 0 _ (by omega), hbyte 255 _ (by omega)]
  rfl

/-- The last tile changes. -/
theorem mem_changedTiles_longLine :
    (268435455, 0) ∈ changedTiles (longLine 0) (longLine 255) := by
  have htile : (268435455, 0) ∈ tiles 4294967295 1 :=
    mem_tiles.mpr ⟨show 268435455 * 16 < 4294967295 by omega, show 0 * 16 < 1 by omega⟩
  refine List.mem_filter.mpr ⟨htile, ?_⟩
  have hsum : areaDiff (longLine 0) (longLine 255) 4294967280 0 4294967295 1 = 15 * 765 := by
    unfold areaDiff
    rw [List.range'_one, List.map_singleton, List.map_congr_left (g := fun _ => 765)]
    · rfl
    · intro x hmem
      have hx := List.mem_range'_1.mp hmem
      exact diffAt_longLine (by omega)
  have hchanged : areaChanged (longLine 0) (longLine 255) 4294967280 0 4294967295 1 = true := by
    unfold areaChanged
    rw [hsum]
    decide
  have hright : min (268435455 * tileSize + tileSize) 4294967295 = 4294967295 := by decide
  show areaChanged _ _ (268435455 * tileSize) (0 * tileSize)
    (min (268435455 * tileSize + tileSize) 4294967295) (min (0 * tileSize + tileSize) 1) = true
  rw [hright]
  exact hchanged

/-- **The last tile of a very long line is lost**: the line turns white, and the region ends before
    the last tile. -/
theorem last_tile_lost : ¬ ∀ prev curr : RgbaBuffer, SameSize prev curr → Exact prev curr := by
  intro h
  have hwraps : ¬ EndsInRange (268435455, 0) := by
    intro hrange
    have hend : 268435455 * 16 + 16 < 4294967296 := hrange.1
    omega
  exact @not_exact_of_wraps (longLine 0) (longLine 255) ⟨rfl, rfl⟩ _ mem_changedTiles_longLine hwraps
    (h (longLine 0) (longLine 255) ⟨rfl, rfl⟩)

theorem exact_iff_longLine :
    Exact (longLine 0) (longLine 255) ↔
      (∀ tile ∈ changedTiles (longLine 0) (longLine 255), EndsInRange tile) ∧
        (changedTiles (longLine 0) (longLine 255) ≠ [] →
          (changedTiles (longLine 0) (longLine 255)).length % 4294967296 ≠ 0) :=
  exact_iff (longLine 0) (longLine 255) ⟨rfl, rfl⟩

end Oneshim.Vision.Delta
