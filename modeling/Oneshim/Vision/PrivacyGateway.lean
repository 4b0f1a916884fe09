/-
  The privacy gateway (`oneshim-vision/src/privacy_gateway.rs`, `oneshim-vision/src/privacy.rs`).

  Before a screenshot goes to an external service, the words that an OCR finds on it are checked, and
  the boxes of the sensitive ones are blurred.

  1. **Code** — finding the sensitive words, alone and two to five in a row, merging their boxes,
     blurring, and the callers.  Decoding, OCR, blurring and encoding are libraries; where one of the
     fallible steps fails, the image is handed out AS IT IS.

  2. **Merging** (`exists_merged_of_mem`) — every box of a sensitive word is inside a merged region.

  3. **Blurring** (`pixel_blurRegions`) — a pixel in the area of a region is a pixel of a blurred
     cut-out, every other one is as it was.

  4. **The result** (`external_image_sanitized`) — when every step succeeds, every box of a sensitive
     word is blurred; the unmodified image is handed out when a step fails or nothing is sensitive.

  An `i32` is an `Int` that is wrapped after each operation.
-/
import Mathlib.Data.List.Induction
import Oneshim.Core.Consent
import Oneshim.Privacy.Upload

namespace Oneshim.Vision

/-! ## The code -/

/-- `PrivacyDenied`. -/
inductive PrivacyDenied where
  | noConsent
  | sensitiveApp (app : String)
  | excludedByPolicy

/-- `SanitizedImage`. -/
structure SanitizedImage where
  imageData : List UInt8
  metadataStripped : Bool
  redactedRegions : Nat

/-- `OcrWordBox`. -/
structure OcrWordBox where
  text : String
  x : Int
  y : Int
  w : Int
  h : Int

/-- `SensitiveRegion`. -/
structure SensitiveRegion where
  x : Int
  y : Int
  w : Int
  h : Int

/-- `PiiMarker`. -/
inductive PiiMarker where
  | email | phone | card | koreanId | ssn | iban | apiKey | ip | userPath | passport

/-- The result of an operation on `i32`s. -/
def i32 (n : Int) : Int := n.bmod 4294967296

section

/- `sanitize_title_with_level`. -/
variable (sanitizeTitleWithLevel : String → PiiFilterLevel → String)

/-- `marker_inserted`. -/
def markerInserted (original masked marker : String) : Bool :=
  Lib.Text.contains masked.toList marker.toList &&
    (!Lib.Text.contains original.toList marker.toList || masked != original)

/-- The markers of the kinds. -/
def piiMarkers : List (String × PiiMarker) :=
  [("[EMAIL]", .email), ("[PHONE]", .phone), ("[CARD]", .card), ("[KR_ID]", .koreanId),
    ("[SSN]", .ssn), ("[IBAN]", .iban), ("[API_KEY]", .apiKey), ("[IP]", .ip), ("[USER]", .userPath),
    ("[PASSPORT]", .passport)]

/-- `detect_pii_markers_with_level`. -/
def detectPiiMarkersWithLevel (text : String) (level : PiiFilterLevel) : List PiiMarker :=
  let masked := sanitizeTitleWithLevel text level
  piiMarkers.filterMap fun (marker, kind) =>
    if markerInserted text masked marker then some kind else none

/-- `is_sensitive_segment_with_level`. -/
def isSensitiveSegmentWithLevel (text : String) (level : PiiFilterLevel) : Bool :=
  !(detectPiiMarkersWithLevel sanitizeTitleWithLevel text level).isEmpty

/-- A stable `sort_by_key` with the key `(y, x)`. -/
def sortByYX {α : Type} (y x : α → Int) (items : List α) : List α :=
  items.mergeSort fun a b => y a < y b || (y a == y b && x a ≤ x b)

/-- `slice::windows`. -/
def windows {α : Type} (size : Nat) : List α → List (List α)
  | [] => []
  | x :: xs => if size ≤ (x :: xs).length then (x :: xs).take size :: windows size xs else []

/-- The words of a window are on one line and sensitive together. -/
def windowIsSensitive (level : PiiFilterLevel) (window : List (OcrWordBox × Nat)) : Bool :=
  let yMin := (window.map fun word => word.1.y).min?.getD 0
  let yMax := (window.map fun word => word.1.y).max?.getD 0
  if i32 (i32 (yMax - yMin)).natAbs > 14 then false
  else
    let compact := String.join (window.map fun word => word.1.text)
    let spaced := String.intercalate " " (window.map fun word => word.1.text)
    isSensitiveSegmentWithLevel sanitizeTitleWithLevel compact level ||
      isSensitiveSegmentWithLevel sanitizeTitleWithLevel spaced level

/-- The set `sensitive_indices`: the numbers of the words that are sensitive, alone or in a row. -/
def sensitiveIndices (level : PiiFilterLevel) (indexed : List (OcrWordBox × Nat)) : List Nat :=
  let single := indexed.filter fun word =>
    isSensitiveSegmentWithLevel sanitizeTitleWithLevel word.1.text level
  let inRow := ([2, 3, 4, 5].takeWhile fun size => size ≤ indexed.length).flatMap fun size =>
    ((windows size indexed).filter (windowIsSensitive sanitizeTitleWithLevel level)).flatten
  (single ++ inRow).map (·.2)

/-- The boxes of the sensitive words. -/
def sensitiveBoxes (level : PiiFilterLevel) (wordBoxes : List OcrWordBox) : List OcrWordBox :=
  let indexed := sortByYX (fun word => word.1.y) (fun word => word.1.x) wordBoxes.zipIdx
  let sensitive := sensitiveIndices sanitizeTitleWithLevel level indexed
  (wordBoxes.zipIdx.filter fun word => sensitive.contains word.2).map (·.1)

/-- The raw region of a word. -/
def OcrWordBox.region (box : OcrWordBox) : SensitiveRegion := ⟨box.x, box.y, max box.w 1, max box.h 1⟩

/-- The two regions overlap or are at most `gap` apart. -/
def SensitiveRegion.near (candidate region : SensitiveRegion) : Bool :=
  let candidateRight := i32 (candidate.x + candidate.w)
  let candidateBottom := i32 (candidate.y + candidate.h)
  let regionRight := i32 (region.x + region.w)
  let regionBottom := i32 (region.y + region.h)
  (region.x ≤ i32 (candidateRight + 10) && i32 (regionRight + 10) ≥ candidate.x) &&
    (region.y ≤ i32 (candidateBottom + 10) && i32 (regionBottom + 10) ≥ candidate.y)

/-- A candidate that takes a region in. -/
def SensitiveRegion.widen (candidate region : SensitiveRegion) : SensitiveRegion :=
  let left := min candidate.x region.x
  let top := min candidate.y region.y
  let right := max (i32 (candidate.x + candidate.w)) (i32 (region.x + region.w))
  let bottom := max (i32 (candidate.y + candidate.h)) (i32 (region.y + region.h))
  ⟨left, top, max (i32 (right - left)) 1, max (i32 (bottom - top)) 1⟩

/-- One region joins the first candidate that is near, or becomes one. -/
def mergeRegion (region : SensitiveRegion) : List SensitiveRegion → List SensitiveRegion
  | [] => [region]
  | candidate :: merged =>
    if candidate.near region then candidate.widen region :: merged
    else candidate :: mergeRegion region merged

/-- `merge_sensitive_regions`. -/
def mergeSensitiveRegions (regions : List SensitiveRegion) : List SensitiveRegion :=
  (sortByYX SensitiveRegion.y SensitiveRegion.x regions).foldl
    (fun merged region => mergeRegion region merged) []

/-- `detect_sensitive_regions`. -/
def detectSensitiveRegions (wordBoxes : List OcrWordBox) (level : PiiFilterLevel) :
    List SensitiveRegion :=
  mergeSensitiveRegions ((sensitiveBoxes sanitizeTitleWithLevel level wordBoxes).map
    OcrWordBox.region)

end

/-- `resolve_filter_level`. -/
def resolveFilterLevel (piiFilterLevel : PiiFilterLevel) (externalDataPolicy : ExternalDataPolicy)
    (allowUnredactedExternalOcr : Bool) : PiiFilterLevel :=
  if allowUnredactedExternalOcr then .off
  else
    match externalDataPolicy with
    | .piiFilterStrict => .strict
    | .piiFilterStandard => .standard
    | .allowFiltered => piiFilterLevel

/-! ## Images -/

/-- A pixel: red, green, blue and alpha. -/
abbrev Pixel := UInt8 × UInt8 × UInt8 × UInt8

/-- `RgbaImage`; `pixel` is called with coordinates inside. -/
structure RgbaImage where
  width : Nat
  height : Nat
  pixel : Nat → Nat → Pixel

/-- A rectangle of pixels. -/
structure Area where
  x : Nat
  y : Nat
  w : Nat
  h : Nat

/-- The pixel is in the area. -/
def Area.Contains (area : Area) (px py : Nat) : Prop :=
  (area.x ≤ px ∧ px < area.x + area.w) ∧ (area.y ≤ py ∧ py < area.y + area.h)

instance (area : Area) (px py : Nat) : Decidable (area.Contains px py) :=
  inferInstanceAs (Decidable ((_ ∧ _) ∧ (_ ∧ _)))

/-- `crop_imm`. -/
def RgbaImage.crop (img : RgbaImage) (area : Area) : RgbaImage :=
  ⟨area.w, area.h, fun px py => img.pixel (area.x + px) (area.y + py)⟩

/-- `put_pixel`. -/
def RgbaImage.putPixel (img : RgbaImage) (x y : Nat) (value : Pixel) : RgbaImage :=
  { img with pixel := fun px py => if px = x ∧ py = y then value else img.pixel px py }

/-- `n as u32`. -/
def asU32 (n : Int) : Nat := (n % 4294967296).toNat

/-- The area of a region, with its margin, inside an image. -/
def SensitiveRegion.area (region : SensitiveRegion) (imgW imgH : Nat) : Area :=
  let x := asU32 (max (i32 (region.x - 4)) 0)
  let y := asU32 (max (i32 (region.y - 4)) 0)
  ⟨x, y, min (asU32 (i32 (region.w + 8))) (imgW - x), min (asU32 (i32 (region.h + 8))) (imgH - y)⟩

/-- The row `dy` of the copying loop. -/
def copyRow (blurred : RgbaImage) (area : Area) (dy : Nat) (img : RgbaImage) : RgbaImage :=
  (List.range (min area.w blurred.width)).foldl
    (fun img dx =>
      if area.x + dx < img.width ∧ area.y + dy < img.height then
        img.putPixel (area.x + dx) (area.y + dy) (blurred.pixel dx dy)
      else img) img

/-- The loop over one region; `blur` is `DynamicImage::blur(8.0)`. -/
def blurRegion (blur : RgbaImage → RgbaImage) (img : RgbaImage) (region : SensitiveRegion) :
    RgbaImage :=
  let area := region.area img.width img.height
  if area.w = 0 ∨ area.h = 0 then img
  else
    let blurred := blur (img.crop area)
    (List.range (min area.h blurred.height)).foldl (fun img dy => copyRow blurred area dy img) img

/-- The loop over the regions. -/
def blurRegions (blur : RgbaImage → RgbaImage) (img : RgbaImage) (regions : List SensitiveRegion) :
    RgbaImage :=
  regions.foldl (blurRegion blur) img

/-- The libraries, and the feature `ocr`. -/
structure Libraries (Img : Type) where
  ocr : Bool
  /-- `image::load_from_memory`. -/
  loadFromMemory : List UInt8 → Except String Img
  toRgba8 : Img → RgbaImage
  /-- `extract_words_with_boxes`. -/
  extractWordsWithBoxes : Img → Except String (List OcrWordBox)
  /-- `blur(8.0)`. -/
  blur : RgbaImage → RgbaImage
  /-- `write_to` with `ImageFormat::Png`. -/
  writePng : RgbaImage → Except String (List UInt8)
  sanitizeTitleWithLevel : String → PiiFilterLevel → String
  /-- The decoder's limits. -/
  load_size : ∀ data img, loadFromMemory data = .ok img →
    (toRgba8 img).width < 1073741824 ∧ (toRgba8 img).height < 1073741824
  /-- The boxes are inside the image. -/
  words_inside : ∀ img wordBoxes, extractWordsWithBoxes img = .ok wordBoxes → ∀ box ∈ wordBoxes,
    (0 ≤ box.x ∧ 0 ≤ box.w ∧ box.x + box.w ≤ (toRgba8 img).width) ∧
      (0 ≤ box.y ∧ 0 ≤ box.h ∧ box.y + box.h ≤ (toRgba8 img).height)
  /-- Blurring keeps the size. -/
  blur_size : ∀ img, (blur img).width = img.width ∧ (blur img).height = img.height

section

variable {Img : Type} (libraries : Libraries Img)

/-- `blur_pii_regions`: the bytes and the number of regions. -/
def blurPiiRegions (imageData : List UInt8) (filterLevel : PiiFilterLevel) : List UInt8 × Nat :=
  if libraries.ocr then
    match libraries.loadFromMemory imageData with
    | .error _ => (imageData, 0)
    | .ok img =>
      match libraries.extractWordsWithBoxes img with
      | .error _ => (imageData, 0)
      | .ok wordBoxes =>
        if wordBoxes.isEmpty then (imageData, 0)
        else
          let piiRegions :=
            detectSensitiveRegions libraries.sanitizeTitleWithLevel wordBoxes filterLevel
          if piiRegions.isEmpty then (imageData, 0)
          else
            match libraries.writePng
              (blurRegions libraries.blur (libraries.toRgba8 img) piiRegions) with
            | .error _ => (imageData, 0)
            | .ok output => (output, piiRegions.length)
  else (imageData, 0)

/-- `sanitize_image_for_external_policy`. -/
def sanitizeImageForExternalPolicy (imageData : List UInt8) (piiFilterLevel : PiiFilterLevel)
    (externalDataPolicy : ExternalDataPolicy) (allowUnredactedExternalOcr : Bool) :
    SanitizedImage :=
  let filterLevel := resolveFilterLevel piiFilterLevel externalDataPolicy allowUnredactedExternalOcr
  let (sanitizedData, redactedRegions) :=
    if filterLevel = .off then (imageData, 0) else blurPiiRegions libraries imageData filterLevel
  ⟨sanitizedData, true, redactedRegions⟩

/-- `PrivacyGateway`. -/
structure PrivacyGateway where
  consentManager : ConsentManager
  piiFilterLevel : PiiFilterLevel
  externalDataPolicy : ExternalDataPolicy
  privacyConfig : PrivacyConfig

/-- `prepare_image_for_external_with_override`; `toLowercase` is `str::to_lowercase`. -/
def PrivacyGateway.prepareImageForExternalWithOverride (toLowercase : String → String)
    (self : PrivacyGateway) (imageData : List UInt8) (activeApp windowTitle : String)
    (allowUnredactedExternalOcr : Bool) : Except PrivacyDenied SanitizedImage :=
  if !self.consentManager.isPermitted (·.ocrProcessing) then .error .noConsent
  else if isSensitiveApp toLowercase activeApp then .error (.sensitiveApp activeApp)
  else if shouldExclude toLowercase activeApp windowTitle self.privacyConfig.excludedApps
      self.privacyConfig.excludedAppPatterns self.privacyConfig.excludedTitlePatterns
      self.privacyConfig.autoExcludeSensitive then .error .excludedByPolicy
  else
    .ok (sanitizeImageForExternalPolicy libraries imageData self.piiFilterLevel
      self.externalDataPolicy allowUnredactedExternalOcr)

end

/-! ## Merging -/

theorem i32_eq {n : Int} (hle : -2147483648 ≤ n) (hlt : n < 2147483648) : i32 n = n := by
  rw [i32, Int.bmod_eq_emod]
  split
  · omega
  · omega

/-- The region is in an image, up to one pixel at the far sides. -/
structure SensitiveRegion.Within (region : SensitiveRegion) (imgW imgH : Nat) : Prop where
  x : 0 ≤ region.x
  w : 1 ≤ region.w
  right : region.x + region.w ≤ imgW + 1
  y : 0 ≤ region.y
  h : 1 ≤ region.h
  bottom : region.y + region.h ≤ imgH + 1

/-- Every pixel of a region is a pixel of the other. -/
structure SensitiveRegion.Inside (region outer : SensitiveRegion) : Prop where
  left : outer.x ≤ region.x
  right : region.x + region.w ≤ outer.x + outer.w
  top : outer.y ≤ region.y
  bottom : region.y + region.h ≤ outer.y + outer.h

theorem SensitiveRegion.Inside.refl (region : SensitiveRegion) : region.Inside region :=
  ⟨Int.le_refl _, Int.le_refl _, Int.le_refl _, Int.le_refl _⟩

theorem SensitiveRegion.Inside.trans {a b c : SensitiveRegion} (hab : a.Inside b)
    (hbc : b.Inside c) : a.Inside c :=
  ⟨Int.le_trans hbc.left hab.left, Int.le_trans hab.right hbc.right,
    Int.le_trans hbc.top hab.top, Int.le_trans hab.bottom hbc.bottom⟩

/-- An image whose coordinates, with the margins, are `i32`s. -/
def Fits (imgW imgH : Nat) : Prop := imgW < 1073741824 ∧ imgH < 1073741824

section

variable {imgW imgH : Nat} {P : SensitiveRegion → Prop}

/-- A candidate that takes a region in contains both, as long as `P` keeps the sums from wrapping
    around. -/
def Widens (P : SensitiveRegion → Prop) : Prop :=
  ∀ candidate region : SensitiveRegion, P candidate → P region →
    P (candidate.widen region) ∧ candidate.Inside (candidate.widen region) ∧
      region.Inside (candidate.widen region)

/-- What is widened stays inside the image. -/
theorem widens_within (hfits : Fits imgW imgH) :
    Widens fun region => region.Within imgW imgH := by
  intro candidate region hc hr
  obtain ⟨hW, hH⟩ := hfits
  obtain ⟨hcx, hcw, hcr, hcy, hch, hcb⟩ := hc
  obtain ⟨hrx, hrw, hrr, hry, hrh, hrb⟩ := hr
  have hright : i32 (candidate.x + candidate.w) = candidate.x + candidate.w :=
    i32_eq (by omega) (by omega)
  have hbottom : i32 (candidate.y + candidate.h) = candidate.y + candidate.h :=
    i32_eq (by omega) (by omega)
  have hright' : i32 (region.x + region.w) = region.x + region.w := i32_eq (by omega) (by omega)
  have hbottom' : i32 (region.y + region.h) = region.y + region.h := i32_eq (by omega) (by omega)
  have hwidth : i32 (max (candidate.x + candidate.w) (region.x + region.w) -
      min candidate.x region.x) =
        max (candidate.x + candidate.w) (region.x + region.w) - min candidate.x region.x :=
    i32_eq (by omega) (by omega)
  have hheight : i32 (max (candidate.y + candidate.h) (region.y + region.h) -
      min candidate.y region.y) =
        max (candidate.y + candidate.h) (region.y + region.h) - min candidate.y region.y :=
    i32_eq (by omega) (by omega)
  simp only [SensitiveRegion.widen, hright, hbottom, hright', hbottom', hwidth, hheight]
  refine ⟨⟨?_, ?_, ?_, ?_, ?_, ?_⟩, ⟨?_, ?_, ?_, ?_⟩, ⟨?_, ?_, ?_, ?_⟩⟩ <;> dsimp only <;> omega

/-- **One region** is taken in, and no region is lost. -/
theorem mergeRegion_spec {region : SensitiveRegion} {merged : List SensitiveRegion}
    (hwiden : Widens P) (hr : P region) (hmerged : ∀ m ∈ merged, P m) :
    (∀ m ∈ mergeRegion region merged, P m) ∧
      ∀ r, (r = region ∨ r ∈ merged) → ∃ m ∈ mergeRegion region merged, r.Inside m := by
  induction merged with
  | nil =>
    refine ⟨fun m hm => ?_, fun r h => ?_⟩
    · rw [List.mem_singleton.mp hm]
      exact hr
    · rcases h with rfl | h
      · exact ⟨r, List.mem_singleton_self r, .refl r⟩
      · cases h
  | cons candidate merged ih =>
    have hc := hmerged candidate List.mem_cons_self
    have hrest := fun m hm => hmerged m (List.mem_cons_of_mem _ hm)
    by_cases hnear : candidate.near region = true
    · obtain ⟨hwithin, hcandidate, hregion⟩ := hwiden candidate region hc hr
      rw [mergeRegion, if_pos hnear]
      refine ⟨fun m hm => ?_, fun r h => ?_⟩
      · rcases List.mem_cons.mp hm with rfl | hm
        · exact hwithin
        · exact hrest m hm
      · rcases h with rfl | h
        · exact ⟨_, List.mem_cons_self, hregion⟩
        · rcases List.mem_cons.mp h with rfl | h
          · exact ⟨_, List.mem_cons_self, hcandidate⟩
          · exact ⟨r, List.mem_cons_of_mem _ h, .refl r⟩
    · obtain ⟨hwithin, hinside⟩ := ih hrest
      rw [mergeRegion, if_neg hnear]
      refine ⟨fun m hm => ?_, fun r h => ?_⟩
      · rcases List.mem_cons.mp hm with rfl | hm
        · exact hc
        · exact hwithin m hm
      · by_cases hsame : r = candidate
        · exact ⟨candidate, List.mem_cons_self, hsame ▸ .refl r⟩
        · have hold : r = region ∨ r ∈ merged :=
            h.imp_right fun h => (List.mem_cons.mp h).resolve_left hsame
          obtain ⟨m, hm, hrm⟩ := hinside r hold
          exact ⟨m, List.mem_cons_of_mem _ hm, hrm⟩

/-- **Every region is inside a merged one.** -/
theorem exists_merged_of_mem {regions : List SensitiveRegion} (hwiden : Widens P)
    (hregions : ∀ r ∈ regions, P r) :
    (∀ m ∈ mergeSensitiveRegions regions, P m) ∧
      ∀ r ∈ regions, ∃ m ∈ mergeSensitiveRegions regions, r.Inside m := by
  have hfold : ∀ (rest merged : List SensitiveRegion), (∀ r ∈ rest, P r) →
      (∀ m ∈ merged, P m) →
      (∀ m ∈ rest.foldl (fun merged region => mergeRegion region merged) merged, P m) ∧
      ∀ r, (r ∈ rest ∨ r ∈ merged) →
        ∃ m ∈ rest.foldl (fun merged region => mergeRegion region merged) merged, r.Inside m := by
    intro rest
    induction rest with
    | nil => exact fun merged _ hmerged =>
        ⟨hmerged, fun r h => ⟨r, h.resolve_left List.not_mem_nil, .refl r⟩⟩
    | cons region rest ih =>
      intro merged hrest hmerged
      obtain ⟨hwithin, hinside⟩ :=
        mergeRegion_spec hwiden (hrest region List.mem_cons_self) hmerged
      obtain ⟨hall, hcover⟩ := ih (mergeRegion region merged)
        (fun r hr => hrest r (List.mem_cons_of_mem _ hr)) hwithin
      refine ⟨hall, fun r h => ?_⟩
      by_cases hrest' : r ∈ rest
      · exact hcover r (.inl hrest')
      · have hnow : r = region ∨ r ∈ merged :=
          h.imp_left fun h => (List.mem_cons.mp h).resolve_right hrest'
        obtain ⟨m, hm, hrm⟩ := hinside r hnow
        obtain ⟨outer, houter, hmo⟩ := hcover m (.inr hm)
        exact ⟨outer, houter, hrm.trans hmo⟩
  have hmem : ∀ r, r ∈ sortByYX SensitiveRegion.y SensitiveRegion.x regions ↔ r ∈ regions :=
    fun r => List.mem_mergeSort
  obtain ⟨hall, hcover⟩ := hfold (sortByYX SensitiveRegion.y SensitiveRegion.x regions) []
    (fun r hr => hregions r ((hmem r).mp hr)) (fun _ h => absurd h List.not_mem_nil)
  exact ⟨hall, fun r hr => hcover r (.inl ((hmem r).mpr hr))⟩

/-! ## Blurring -/

/-- The pixel is in the region. -/
def SensitiveRegion.Covers (region : SensitiveRegion) (px py : Nat) : Prop :=
  (region.x ≤ px ∧ px < region.x + region.w) ∧ (region.y ≤ py ∧ py < region.y + region.h)

theorem SensitiveRegion.Covers.inside {region outer : SensitiveRegion} {px py : Nat}
    (h : region.Covers px py) (hinside : region.Inside outer) : outer.Covers px py := by
  obtain ⟨⟨hx, hx'⟩, hy, hy'⟩ := h
  obtain ⟨hleft, hright, htop, hbottom⟩ := hinside
  exact ⟨⟨by omega, by omega⟩, by omega, by omega⟩

theorem asU32_eq {n : Int} (hle : 0 ≤ n) (hlt : n < 4294967296) : (asU32 n : Int) = n := by
  rw [asU32, Int.emod_eq_of_lt hle hlt, Int.toNat_of_nonneg hle]

/-- The part of a region that is in the image is in its area. -/
theorem SensitiveRegion.Covers.area {region : SensitiveRegion} {px py : Nat}
    (hfits : Fits imgW imgH) (hwithin : region.Within imgW imgH) (h : region.Covers px py)
    (hpx : px < imgW) (hpy : py < imgH) : (region.area imgW imgH).Contains px py := by
  obtain ⟨hW, hH⟩ := hfits
  obtain ⟨hx, hw, hr, hy, hh, hb⟩ := hwithin
  obtain ⟨⟨hleft, hright⟩, htop, hbottom⟩ := h
  have hx4 : i32 (region.x - 4) = region.x - 4 := i32_eq (by omega) (by omega)
  have hy4 : i32 (region.y - 4) = region.y - 4 := i32_eq (by omega) (by omega)
  have hw8 : i32 (region.w + 8) = region.w + 8 := i32_eq (by omega) (by omega)
  have hh8 : i32 (region.h + 8) = region.h + 8 := i32_eq (by omega) (by omega)
  have hax : (asU32 (max (region.x - 4) 0) : Int) = max (region.x - 4) 0 :=
    asU32_eq (by omega) (by omega)
  have hay : (asU32 (max (region.y - 4) 0) : Int) = max (region.y - 4) 0 :=
    asU32_eq (by omega) (by omega)
  have haw : (asU32 (region.w + 8) : Int) = region.w + 8 := asU32_eq (by omega) (by omega)
  have hah : (asU32 (region.h + 8) : Int) = region.h + 8 := asU32_eq (by omega) (by omega)
  simp only [SensitiveRegion.area, Area.Contains, hx4, hy4, hw8, hh8]
  refine ⟨⟨?_, ?_⟩, ?_, ?_⟩ <;> omega

end

/-- The image after some pixels of another have been copied into it. -/
structure Copied (img copied : RgbaImage) (covered : Nat → Nat → Prop) (value : Nat → Nat → Pixel) :
    Prop where
  width : copied.width = img.width
  height : copied.height = img.height
  inside : ∀ px py, covered px py → px < img.width → py < img.height →
    copied.pixel px py = value px py
  outside : ∀ px py, ¬ covered px py → copied.pixel px py = img.pixel px py

section

variable {img copied : RgbaImage} {covered : Nat → Nat → Prop} {value : Nat → Nat → Pixel}

theorem Copied.of_iff {covered' : Nat → Nat → Prop} (h : Copied img copied covered value)
    (hiff : ∀ px py, covered' px py ↔ covered px py) : Copied img copied covered' value :=
  ⟨h.width, h.height, fun px py hcovered => h.inside px py ((hiff px py).mp hcovered),
    fun px py hnot => h.outside px py fun hcovered => hnot ((hiff px py).mpr hcovered)⟩

/-- One pixel more; outside the image nothing is written. -/
theorem Copied.putPixel (h : Copied img copied covered value) (x y : Nat) :
    Copied img
      (if x < copied.width ∧ y < copied.height then copied.putPixel x y (value x y) else copied)
      (fun px py => covered px py ∨ (px = x ∧ py = y)) value := by
  by_cases hin : x < copied.width ∧ y < copied.height
  · rw [if_pos hin]
    refine ⟨h.width, h.height, fun px py hcovered hpx hpy => ?_, fun px py hnot => ?_⟩
    · show (if px = x ∧ py = y then value x y else copied.pixel px py) = value px py
      by_cases hat : px = x ∧ py = y
      · rw [if_pos hat, hat.1, hat.2]
      · rw [if_neg hat]
        exact h.inside px py (hcovered.resolve_right hat) hpx hpy
    · show (if px = x ∧ py = y then value x y else copied.pixel px py) = img.pixel px py
      rw [if_neg fun hat => hnot (.inr hat)]
      exact h.outside px py fun hcovered => hnot (.inl hcovered)
  · rw [if_neg hin]
    refine ⟨h.width, h.height, fun px py hcovered hpx hpy => ?_, fun px py hnot => ?_⟩
    · rcases hcovered with hcovered | ⟨rfl, rfl⟩
      · exact h.inside px py hcovered hpx hpy
      · exact absurd ⟨h.width ▸ hpx, h.height ▸ hpy⟩ hin
    · exact h.outside px py fun hcovered => hnot (.inl hcovered)

/-- **One row** of the copying loop. -/
theorem Copied.copyRow {blurred : RgbaImage} {area : Area} (dy : Nat)
    (h : Copied img copied covered fun px py => blurred.pixel (px - area.x) (py - area.y)) :
    Copied img (copyRow blurred area dy copied)
      (fun px py => covered px py ∨
        ((area.x ≤ px ∧ px < area.x + min area.w blurred.width) ∧ py = area.y + dy))
      fun px py => blurred.pixel (px - area.x) (py - area.y) := by
  unfold Vision.copyRow
  generalize min area.w blurred.width = n
  induction n with
  | zero =>
    refine h.of_iff fun px py => ⟨fun hcovered => hcovered.resolve_right ?_, .inl⟩
    omega
  | succ n ih =>
    rw [List.range_succ, List.foldl_append]
    have hstep := ih.putPixel (area.x + n) (area.y + dy)
    rw [Nat.add_sub_cancel_left, Nat.add_sub_cancel_left] at hstep
    refine Copied.of_iff hstep fun px py => ?_
    constructor
    · rintro (hold | ⟨⟨hle, hlt⟩, rfl⟩)
      · exact .inl (.inl hold)
      · by_cases hlast : px = area.x + n
        · exact .inr ⟨hlast, rfl⟩
        · exact .inl (.inr ⟨⟨hle, by omega⟩, rfl⟩)
    · rintro ((hold | ⟨⟨hle, hlt⟩, rfl⟩) | ⟨rfl, rfl⟩)
      · exact .inl hold
      · exact .inr ⟨⟨hle, by omega⟩, rfl⟩
      · exact .inr ⟨⟨by omega, by omega⟩, rfl⟩

/-- **The copying loop** copies the blurred cut-out into its area. -/
theorem copied_rows (blurred : RgbaImage) (area : Area) (img : RgbaImage) :
    Copied img ((List.range (min area.h blurred.height)).foldl
        (fun img dy => copyRow blurred area dy img) img)
      (fun px py => (area.x ≤ px ∧ px < area.x + min area.w blurred.width) ∧
        (area.y ≤ py ∧ py < area.y + min area.h blurred.height))
      fun px py => blurred.pixel (px - area.x) (py - area.y) := by
  generalize min area.h blurred.height = n
  induction n with
  | zero =>
    exact ⟨rfl, rfl, fun px py hcovered => absurd hcovered (by omega), fun _ _ _ => rfl⟩
  | succ n ih =>
    rw [List.range_succ, List.foldl_append]
    refine (ih.copyRow n).of_iff fun px py => ?_
    constructor
    · rintro ⟨hx, hle, hlt⟩
      by_cases hlast : py = area.y + n
      · exact .inr ⟨hx, hlast⟩
      · exact .inl ⟨hx, hle, by omega⟩
    · rintro (⟨hx, hle, hlt⟩ | ⟨hx, rfl⟩)
      · exact ⟨hx, hle, by omega⟩
      · exact ⟨hx, by omega, by omega⟩

end

section

variable {blur : RgbaImage → RgbaImage}

/-- **One region**: its area holds the blurred cut-out, everything else is as it was. -/
theorem copied_blurRegion
    (hsize : ∀ img, (blur img).width = img.width ∧ (blur img).height = img.height)
    (img : RgbaImage) (region : SensitiveRegion) :
    Copied img (blurRegion blur img region) (region.area img.width img.height).Contains
      fun px py => (blur (img.crop (region.area img.width img.height))).pixel
        (px - (region.area img.width img.height).x) (py - (region.area img.width img.height).y) := by
  unfold blurRegion
  generalize region.area img.width img.height = area
  dsimp only
  by_cases hempty : area.w = 0 ∨ area.h = 0
  · rw [if_pos hempty]
    refine ⟨rfl, rfl, fun px py hcovered => ?_, fun _ _ _ => rfl⟩
    obtain ⟨⟨hx, hx'⟩, hy, hy'⟩ := hcovered
    omega
  · rw [if_neg hempty]
    obtain ⟨hw, hh⟩ := hsize (img.crop area)
    have hw' : min area.w (blur (img.crop area)).width = area.w := by
      rw [hw]
      exact Nat.min_self area.w
    have hh' : min area.h (blur (img.crop area)).height = area.h := by
      rw [hh]
      exact Nat.min_self area.h
    have hrows := copied_rows (blur (img.crop area)) area img
    rw [hw', hh'] at hrows
    rw [hh']
    exact hrows

/-- The pixel is one of a blurred cut-out: of the image as it was before one of the regions. -/
def BlurredAt (blur : RgbaImage → RgbaImage) (img : RgbaImage) (regions : List SensitiveRegion)
    (px py : Nat) : Prop :=
  ∃ done region rest, regions = done ++ region :: rest ∧
    (region.area img.width img.height).Contains px py ∧
    (blurRegions blur img regions).pixel px py =
      (blur ((blurRegions blur img done).crop (region.area img.width img.height))).pixel
        (px - (region.area img.width img.height).x) (py - (region.area img.width img.height).y)

/-- **The loop over the regions**: a pixel in an area is blurred, every other one is as it was. -/
theorem pixel_blurRegions
    (hsize : ∀ img, (blur img).width = img.width ∧ (blur img).height = img.height)
    (img : RgbaImage) (regions : List SensitiveRegion) :
    ((blurRegions blur img regions).width = img.width ∧
      (blurRegions blur img regions).height = img.height) ∧
    (∀ px py, px < img.width → py < img.height →
      (∃ region ∈ regions, (region.area img.width img.height).Contains px py) →
      BlurredAt blur img regions px py) ∧
    ∀ px py, (∀ region ∈ regions, ¬ (region.area img.width img.height).Contains px py) →
      (blurRegions blur img regions).pixel px py = img.pixel px py := by
  induction regions using List.reverseRecOn with
  | nil =>
    refine ⟨⟨rfl, rfl⟩, fun px py _ _ h => ?_, fun _ _ _ => rfl⟩
    obtain ⟨region, hmem, -⟩ := h
    cases hmem
  | append_singleton regions region ih =>
    obtain ⟨⟨hw, hh⟩, hinside, houtside⟩ := ih
    have hlast : blurRegions blur img (regions ++ [region]) =
        blurRegion blur (blurRegions blur img regions) region := by
      rw [blurRegions, List.foldl_append]
      rfl
    have hcopied := copied_blurRegion hsize (blurRegions blur img regions) region
    rw [hw, hh] at hcopied
    rw [hlast]
    refine ⟨⟨hcopied.width.trans hw, hcopied.height.trans hh⟩, fun px py hpx hpy h => ?_,
      fun px py h => ?_⟩
    · by_cases hcontains : (region.area img.width img.height).Contains px py
      · refine ⟨regions, region, [], rfl, hcontains, ?_⟩
        rw [hlast]
        exact hcopied.inside px py hcontains (hw ▸ hpx) (hh ▸ hpy)
      · have hearlier : ∃ r ∈ regions, (r.area img.width img.height).Contains px py := by
          obtain ⟨r, hr, hrc⟩ := h
          rcases List.mem_append.mp hr with hr | hr
          · exact ⟨r, hr, hrc⟩
          · exact absurd (List.mem_singleton.mp hr ▸ hrc) hcontains
        obtain ⟨done, r, rest, rfl, hrc, hpixel⟩ := hinside px py hpx hpy hearlier
        refine ⟨done, r, rest ++ [region], by simp, hrc, ?_⟩
        rw [hlast, hcopied.outside px py hcontains]
        exact hpixel
    · have hnot := h region (List.mem_append_right _ (List.mem_singleton_self _))
      rw [hcopied.outside px py hnot]
      exact houtside px py fun r hr => h r (List.mem_append_left _ hr)

end

/-! ## What goes out -/

/-- A step failed. -/
inductive StepFailed {Img : Type} (libraries : Libraries Img) (imageData : List UInt8)
    (filterLevel : PiiFilterLevel) : Prop where
  | decode (e : String) (h : libraries.loadFromMemory imageData = .error e)
  | ocr (img : Img) (e : String) (hload : libraries.loadFromMemory imageData = .ok img)
      (h : libraries.extractWordsWithBoxes img = .error e)
  | encode (img : Img) (wordBoxes : List OcrWordBox) (e : String)
      (hload : libraries.loadFromMemory imageData = .ok img)
      (hwords : libraries.extractWordsWithBoxes img = .ok wordBoxes)
      (h : libraries.writePng (blurRegions libraries.blur (libraries.toRgba8 img)
        (detectSensitiveRegions libraries.sanitizeTitleWithLevel wordBoxes filterLevel)) = .error e)

/-- Why the unmodified image goes out: the feature is not built in, the image cannot be decoded or
    read, nothing on it is sensitive, or the blurred image cannot be encoded. -/
inductive Unmodified {Img : Type} (libraries : Libraries Img) (imageData : List UInt8)
    (filterLevel : PiiFilterLevel) : Prop where
  | notBuiltIn (h : libraries.ocr = false)
  | stepFailed (h : StepFailed libraries imageData filterLevel)
  | nothingSensitive (img : Img) (wordBoxes : List OcrWordBox)
      (hload : libraries.loadFromMemory imageData = .ok img)
      (hwords : libraries.extractWordsWithBoxes img = .ok wordBoxes)
      (h : sensitiveBoxes libraries.sanitizeTitleWithLevel filterLevel wordBoxes = [])

/-- The image with the boxes of the sensitive words blurred. -/
structure Redacted {Img : Type} (libraries : Libraries Img) (filterLevel : PiiFilterLevel)
    (img : Img) (wordBoxes : List OcrWordBox) (regions : List SensitiveRegion) (result : RgbaImage) :
    Prop where
  result_eq : result = blurRegions libraries.blur (libraries.toRgba8 img) regions
  size : result.width = (libraries.toRgba8 img).width ∧ result.height = (libraries.toRgba8 img).height
  blurred : ∀ box ∈ sensitiveBoxes libraries.sanitizeTitleWithLevel filterLevel wordBoxes,
    ∀ px py, px < result.width → py < result.height → box.region.Covers px py →
      BlurredAt libraries.blur (libraries.toRgba8 img) regions px py
  unchanged : ∀ px py,
    (∀ region ∈ regions, ¬ (region.area result.width result.height).Contains px py) →
      result.pixel px py = (libraries.toRgba8 img).pixel px py

/-- What `blur_pii_regions` makes of an image. -/
def Outcome {Img : Type} (libraries : Libraries Img) (imageData : List UInt8)
    (filterLevel : PiiFilterLevel) (output : List UInt8) (redactedRegions : Nat) : Prop :=
  (output = imageData ∧ redactedRegions = 0 ∧ Unmodified libraries imageData filterLevel) ∨
  ∃ img wordBoxes regions result, libraries.loadFromMemory imageData = .ok img ∧
    libraries.extractWordsWithBoxes img = .ok wordBoxes ∧
    Redacted libraries filterLevel img wordBoxes regions result ∧
    libraries.writePng result = .ok output ∧ redactedRegions = regions.length

section

variable {Img : Type} (libraries : Libraries Img)

theorem mergeRegion_ne_nil (region : SensitiveRegion) (merged : List SensitiveRegion) :
    mergeRegion region merged ≠ [] := by
  cases merged with
  | nil => exact List.cons_ne_nil _ _
  | cons candidate merged =>
    rw [mergeRegion]
    split
    · exact List.cons_ne_nil _ _
    · exact List.cons_ne_nil _ _

/-- Where there is a region, there is a merged one. -/
theorem mergeSensitiveRegions_eq_nil {regions : List SensitiveRegion}
    (h : mergeSensitiveRegions regions = []) : regions = [] := by
  have hsorted : sortByYX SensitiveRegion.y SensitiveRegion.x regions = [] := by
    rcases List.eq_nil_or_concat (sortByYX SensitiveRegion.y SensitiveRegion.x regions) with
      hnil | ⟨init, last, hlast⟩
    · exact hnil
    · rw [mergeSensitiveRegions, hlast, List.concat_eq_append, List.foldl_append] at h
      exact absurd h (mergeRegion_ne_nil _ _)
  have hlength := congrArg List.length hsorted
  rw [sortByYX, List.length_mergeSort] at hlength
  exact List.eq_nil_of_length_eq_zero hlength

/-- The sensitive boxes are boxes. -/
theorem mem_of_mem_sensitiveBoxes {sanitizeTitleWithLevel : String → PiiFilterLevel → String}
    {filterLevel : PiiFilterLevel} {wordBoxes : List OcrWordBox} {box : OcrWordBox}
    (h : box ∈ sensitiveBoxes sanitizeTitleWithLevel filterLevel wordBoxes) : box ∈ wordBoxes := by
  obtain ⟨word, hword, rfl⟩ := List.mem_map.mp h
  exact List.fst_mem_of_mem_zipIdx (List.mem_of_mem_filter hword)

/-- The regions of an image that has been read blur the boxes of its sensitive words. -/
theorem redacted_blurRegions {imageData : List UInt8} {img : Img} {wordBoxes : List OcrWordBox}
    (filterLevel : PiiFilterLevel) (hload : libraries.loadFromMemory imageData = .ok img)
    (hwords : libraries.extractWordsWithBoxes img = .ok wordBoxes) :
    Redacted libraries filterLevel img wordBoxes
      (detectSensitiveRegions libraries.sanitizeTitleWithLevel wordBoxes filterLevel)
      (blurRegions libraries.blur (libraries.toRgba8 img)
        (detectSensitiveRegions libraries.sanitizeTitleWithLevel wordBoxes filterLevel)) := by
  have hfits : Fits (libraries.toRgba8 img).width (libraries.toRgba8 img).height :=
    libraries.load_size imageData img hload
  have hregions : ∀ r ∈ (sensitiveBoxes libraries.sanitizeTitleWithLevel filterLevel wordBoxes).map
      OcrWordBox.region,
      r.Within (libraries.toRgba8 img).width (libraries.toRgba8 img).height := by
    intro r hr
    obtain ⟨box, hbox, rfl⟩ := List.mem_map.mp hr
    obtain ⟨⟨hx, hw, hr⟩, hy, hh, hb⟩ :=
      libraries.words_inside img wordBoxes hwords box (mem_of_mem_sensitiveBoxes hbox)
    refine ⟨hx, ?_, ?_, hy, ?_, ?_⟩ <;> simp only [OcrWordBox.region] <;> omega
  obtain ⟨hwithin, hmerged⟩ := exists_merged_of_mem (widens_within hfits) hregions
  obtain ⟨hsize, hinside, houtside⟩ := pixel_blurRegions libraries.blur_size (libraries.toRgba8 img)
    (detectSensitiveRegions libraries.sanitizeTitleWithLevel wordBoxes filterLevel)
  refine ⟨rfl, hsize, fun box hbox px py hpx hpy hcovers => ?_, fun px py hnot => ?_⟩
  · rw [hsize.1] at hpx
    rw [hsize.2] at hpy
    obtain ⟨region, hregion, hbr⟩ := hmerged box.region (List.mem_map_of_mem hbox)
    exact hinside px py hpx hpy
      ⟨region, hregion, (hcovers.inside hbr).area hfits (hwithin region hregion) hpx hpy⟩
  · rw [hsize.1, hsize.2] at hnot
    exact houtside px py hnot

/-- **Blurring an image** either blurs the box of every sensitive word or leaves the image. -/
theorem outcome_blurPiiRegions (imageData : List UInt8) (filterLevel : PiiFilterLevel) :
    Outcome libraries imageData filterLevel (blurPiiRegions libraries imageData filterLevel).1
      (blurPiiRegions libraries imageData filterLevel).2 := by
  unfold blurPiiRegions
  by_cases hocr : libraries.ocr = true
  · rw [if_pos hocr]
    cases hload : libraries.loadFromMemory imageData with
    | error e => exact .inl ⟨rfl, rfl, .stepFailed (.decode e hload)⟩
    | ok img =>
      dsimp only
      cases hwords : libraries.extractWordsWithBoxes img with
      | error e => exact .inl ⟨rfl, rfl, .stepFailed (.ocr img e hload hwords)⟩
      | ok wordBoxes =>
        dsimp only
        by_cases hempty : wordBoxes.isEmpty = true
        · rw [if_pos hempty]
          have hnone : sensitiveBoxes libraries.sanitizeTitleWithLevel filterLevel wordBoxes = [] := by
            rw [List.isEmpty_iff.mp hempty]
            rfl
          exact .inl ⟨rfl, rfl, .nothingSensitive img wordBoxes hload hwords hnone⟩
        · rw [if_neg hempty]
          by_cases hregions : (detectSensitiveRegions libraries.sanitizeTitleWithLevel wordBoxes
              filterLevel).isEmpty = true
          · rw [if_pos hregions]
            have hnone := mergeSensitiveRegions_eq_nil (List.isEmpty_iff.mp hregions)
            exact .inl ⟨rfl, rfl, .nothingSensitive img wordBoxes hload hwords
              (List.map_eq_nil_iff.mp hnone)⟩
          · rw [if_neg hregions]
            cases hpng : libraries.writePng (blurRegions libraries.blur (libraries.toRgba8 img)
              (detectSensitiveRegions libraries.sanitizeTitleWithLevel wordBoxes filterLevel)) with
            | error e => exact .inl ⟨rfl, rfl, .stepFailed (.encode img wordBoxes e hload hwords hpng)⟩
            | ok output =>
              exact .inr ⟨img, wordBoxes, _, _, hload, hwords,
                redacted_blurRegions libraries filterLevel hload hwords, hpng, rfl⟩
  · rw [if_neg hocr]
    exact .inl ⟨rfl, rfl, .notBuiltIn (Bool.eq_false_iff.mpr hocr)⟩

/-- **An image for an external service**, from either caller: the box of every sensitive word is
    blurred, or the image is unmodified, for one of the listed reasons. -/
theorem external_image_sanitized (toLowercase : String → String) (gateway : PrivacyGateway)
    (imageData : List UInt8) (activeApp windowTitle : String) (allowUnredactedExternalOcr : Bool)
    (hlevel : resolveFilterLevel gateway.piiFilterLevel gateway.externalDataPolicy
      allowUnredactedExternalOcr ≠ .off) :
    Outcome libraries imageData
      (resolveFilterLevel gateway.piiFilterLevel gateway.externalDataPolicy
        allowUnredactedExternalOcr)
      (sanitizeImageForExternalPolicy libraries imageData gateway.piiFilterLevel
        gateway.externalDataPolicy allowUnredactedExternalOcr).imageData
      (sanitizeImageForExternalPolicy libraries imageData gateway.piiFilterLevel
        gateway.externalDataPolicy allowUnredactedExternalOcr).redactedRegions ∧
    ∀ sanitized, gateway.prepareImageForExternalWithOverride libraries toLowercase imageData activeApp
        windowTitle allowUnredactedExternalOcr = .ok sanitized →
      Outcome libraries imageData
        (resolveFilterLevel gateway.piiFilterLevel gateway.externalDataPolicy
          allowUnredactedExternalOcr)
        sanitized.imageData sanitized.redactedRegions := by
  have houtcome := outcome_blurPiiRegions libraries imageData
    (resolveFilterLevel gateway.piiFilterLevel gateway.externalDataPolicy allowUnredactedExternalOcr)
  have hstatic : sanitizeImageForExternalPolicy libraries imageData gateway.piiFilterLevel
      gateway.externalDataPolicy allowUnredactedExternalOcr =
        ⟨(blurPiiRegions libraries imageData (resolveFilterLevel gateway.piiFilterLevel
            gateway.externalDataPolicy allowUnredactedExternalOcr)).1, true,
          (blurPiiRegions libraries imageData (resolveFilterLevel gateway.piiFilterLevel
            gateway.externalDataPolicy allowUnredactedExternalOcr)).2⟩ := by
    simp only [sanitizeImageForExternalPolicy, if_neg hlevel]
  rw [hstatic]
  refine ⟨houtcome, fun sanitized hok => ?_⟩
  rw [PrivacyGateway.prepareImageForExternalWithOverride, hstatic] at hok
  split at hok
  · cases hok
  · split at hok
    · cases hok
    · split at hok
      · cases hok
      · cases hok
        exact houtcome

end

/-- The beginning of a picture in the format PGM, of 120 by 30 pixels in shades of grey. -/
def pgmHeader : List UInt8 := [80, 53, 10, 49, 50, 48, 32, 51, 48, 10, 50, 53, 53, 10]

/-- A page with the strokes of one word in the middle. -/
def page : List UInt8 :=
  pgmHeader ++ (List.range 3600).map fun i =>
    if 8 ≤ i / 120 ∧ i / 120 < 22 ∧ 10 ≤ i % 120 ∧ i % 120 < 100 ∧ i % 3 = 0 then 0 else 255

/-- The decoder reads pictures of this size; the OCR, where it is installed, finds the word `a@b.co`
    where the page has it. -/
def pageLibraries (installed : Bool) : Libraries RgbaImage where
  ocr := true
  loadFromMemory data :=
    if data.take 14 = pgmHeader ∧ data.length = 3614 then
      .ok ⟨120, 30, fun x y =>
        let grey := data.getD (14 + 120 * y + x) 255
        (grey, grey, grey, 255)⟩
    else .error "The image format could not be determined"
  toRgba8 img := img
  extractWordsWithBoxes img :=
    if installed then
      .ok (if img.width = 120 ∧ img.height = 30 ∧ img.pixel 12 8 = (0, 0, 0, 255) then
        [⟨"a@b.co", 10, 8, 90, 14⟩] else [])
    else .error "OCR initialize failure"
  blur img := { img with pixel := fun _ _ => (170, 170, 170, 255) }
  writePng img := .ok ([137, 80, 78, 71, 13, 10, 26, 10] ++
    (List.range (img.width * img.height)).map fun i =>
      (img.pixel (i % img.width) (i / img.width)).1)
  sanitizeTitleWithLevel text _ := if text = "a@b.co" then "[EMAIL]" else text
  load_size data img h := by
    split at h
    · cases h
      exact ⟨show 120 < 1073741824 by decide, show 30 < 1073741824 by decide⟩
    · cases h
  words_inside img wordBoxes h box hbox := by
    split at h
    · cases h
      split at hbox
      · rename_i hsize
        rw [List.mem_singleton.mp hbox, hsize.1, hsize.2.1]
        decide
      · cases hbox
    · cases h
  blur_size _ := ⟨rfl, rfl⟩

theorem load_page (installed : Bool) :
    ∃ img, (pageLibraries installed).loadFromMemory page = .ok img := by
  have hpage : page.take 14 = pgmHeader ∧ page.length = 3614 := by
    rw [page]
    exact ⟨List.take_left' rfl, by rw [List.length_append, List.length_map, List.length_range]; rfl⟩
  generalize page = data at hpage ⊢
  exact ⟨_, if_pos hpage⟩

/-- A gateway that may read the screen. -/
def readingGateway : PrivacyGateway where
  consentManager :=
    ⟨none, some
      { consentId := "c", version := currentPolicyVersion, grantedAt := 0,
        permissions := { ocrProcessing := true }, dataRetentionDays := 30 }, false⟩
  piiFilterLevel := .standard
  externalDataPolicy := .allowFiltered
  privacyConfig := ⟨[], [], [], false, .standard⟩

/-- The gateway hands out what the static caller does. -/
theorem readingGateway_prepare {Img : Type} (libraries : Libraries Img) (imageData : List UInt8) :
    readingGateway.prepareImageForExternalWithOverride libraries id imageData "Notes" "Todo" false =
      .ok (sanitizeImageForExternalPolicy libraries imageData .standard .allowFiltered false) := by
  have happ : isSensitiveApp id "Notes" = false := by decide +kernel
  have hexclude : shouldExclude id "Notes" "Todo" [] [] [] false = false := by decide +kernel
  simp [PrivacyGateway.prepareImageForExternalWithOverride, readingGateway,
    ConsentManager.isPermitted, happ, hexclude]

/-- Both callers, for the page. -/
theorem external_image_sanitized_page :
    readingGateway.prepareImageForExternalWithOverride (pageLibraries true) id page "Notes" "Todo"
        false =
      .ok (sanitizeImageForExternalPolicy (pageLibraries true) page .standard .allowFiltered false) ∧
      Outcome (pageLibraries true) page .standard
        (sanitizeImageForExternalPolicy (pageLibraries true) page .standard .allowFiltered
          false).imageData
        (sanitizeImageForExternalPolicy (pageLibraries true) page .standard .allowFiltered
          false).redactedRegions :=
  ⟨readingGateway_prepare (pageLibraries true) page,
    (external_image_sanitized (pageLibraries true) id readingGateway page "Notes" "Todo" false
      (by decide)).2 _ (readingGateway_prepare (pageLibraries true) page)⟩

/-- **Not closed.**  The OCR is not installed, and the image with the sensitive word goes out. -/
theorem failed_ocr_hands_out_original :
    ¬ ∀ (libraries : Libraries RgbaImage) (imageData : List UInt8) (sanitized : SanitizedImage),
      readingGateway.prepareImageForExternalWithOverride libraries id imageData "Notes" "Todo" false =
          .ok sanitized →
      StepFailed libraries imageData .standard → sanitized.imageData ≠ imageData := by
  intro h
  obtain ⟨img, hload⟩ := load_page false
  refine h (pageLibraries false) page _ (readingGateway_prepare (pageLibraries false) page)
    (.ocr img "OCR initialize failure" hload rfl) ?_
  have hbuilt : (pageLibraries false).ocr = true := rfl
  have hocr : (pageLibraries false).extractWordsWithBoxes img =
      .error "OCR initialize failure" := rfl
  simp [sanitizeImageForExternalPolicy, resolveFilterLevel, blurPiiRegions, hbuilt, hload, hocr]

end Oneshim.Vision
