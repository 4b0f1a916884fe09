/-
  Secrets that are split into words (`oneshim-vision/src/privacy_gateway.rs`).

  The words of a line are looked at alone and two to five in a row, joined with and without a blank.
  They are in a row as they come when they are sorted by the vertical place first and by the
  horizontal one second, so on a line that is not quite level they are not in the order in which
  they are read.

  1. **Rows** (`mem_windows_iff`) — what is looked at: the stretches of the sorted words.

  2. **Coverage** (`covered_of_windows`) — a stretch of words as they are read is covered if it is
     looked at.

  3. **Places** (`covered_everywhere_iff`) — it is, whatever the words are, if and only if no word
     is higher than one that is left of it.

  4. **The result** (`split_secrets_covered`).
-/
import Mathlib.Data.List.Sigma
import Mathlib.Data.List.Sort
import Oneshim.Lib.Runs
import Oneshim.Vision.Detector
import Oneshim.Vision.RegionCoverage

namespace Oneshim.Vision

open Privacy (Unicode asciiUnicode sanitized)

/-- A word with its number. -/
abbrev Numbered := OcrWordBox × Nat

/-! ## Lines -/

/-- The words are on one line: no two of them are more than the tolerance apart. -/
def OnOneLine (boxes : List OcrWordBox) : Prop :=
  ∀ a ∈ boxes, ∀ b ∈ boxes, a.y - b.y ≤ 14

instance (boxes : List OcrWordBox) : Decidable (OnOneLine boxes) :=
  inferInstanceAs (Decidable (∀ _ ∈ _, ∀ _ ∈ _, _))

/-- An order of the words from left to right. -/
def LeftToRight (boxes : List OcrWordBox) (order : List Numbered) : Prop :=
  order.Perm boxes.zipIdx ∧ order.Pairwise fun a b => a.1.x ≤ b.1.x

/-- The words as they are sorted. -/
def sortedWords (boxes : List OcrWordBox) : List Numbered :=
  sortByYX (fun word => word.1.y) (fun word => word.1.x) boxes.zipIdx

section

variable (sanitizeTitleWithLevel : String → PiiFilterLevel → String) (level : PiiFilterLevel)

/-- The joined words are sensitive. -/
def JoinedIsSensitive (run : List Numbered) : Prop :=
  isSensitiveSegmentWithLevel sanitizeTitleWithLevel
      (String.join (run.map fun word => word.1.text)) level = true ∨
    isSensitiveSegmentWithLevel sanitizeTitleWithLevel
      (String.intercalate " " (run.map fun word => word.1.text)) level = true

/-- Two to five words in the order from left to right that are sensitive together. -/
structure SplitSecret (boxes : List OcrWordBox) (run : List Numbered) : Prop where
  inOrder : ∃ order, LeftToRight boxes order ∧ run <:+: order
  two_le : 2 ≤ run.length
  le_five : run.length ≤ 5
  sensitive : JoinedIsSensitive sanitizeTitleWithLevel level run

/-- **Covered**: every pixel of the box of a word of a split secret is in a region. -/
def SplitSecretsCovered (boxes : List OcrWordBox) : Prop :=
  ∀ run, SplitSecret sanitizeTitleWithLevel level boxes run → ∀ word ∈ run, ∀ px py : Int,
    word.1.region.Has px py →
      ∃ region ∈ detectSensitiveRegions sanitizeTitleWithLevel boxes level, region.Has px py

/-- **Every split secret is looked at**: its words follow one another as they are sorted, too. -/
def SecretsAreWindows (boxes : List OcrWordBox) : Prop :=
  ∀ run, SplitSecret sanitizeTitleWithLevel level boxes run → run <:+: sortedWords boxes

end

/-! ## Rows -/

theorem mem_windows_iff {α : Type} {size : Nat} (hsize : 0 < size) {l window : List α} :
    window ∈ windows size l ↔ window <:+: l ∧ window.length = size := by
  induction l with
  | nil =>
    refine iff_of_false List.not_mem_nil ?_
    rintro ⟨hstretch, hlength⟩
    rw [List.eq_nil_of_infix_nil hstretch, List.length_nil] at hlength
    omega
  | cons x xs ih =>
    unfold windows
    split
    · next hle =>
      rw [List.mem_cons, ih, List.infix_cons_iff]
      constructor
      · rintro (rfl | ⟨hstretch, hlength⟩)
        · exact ⟨.inl (List.take_prefix _ _), by rw [List.length_take]; omega⟩
        · exact ⟨.inr hstretch, hlength⟩
      · rintro ⟨hbegins | hstretch, hlength⟩
        · left
          rw [← hlength]
          exact List.prefix_iff_eq_take.mp hbegins
        · exact .inr ⟨hstretch, hlength⟩
    · next hshort =>
      refine iff_of_false List.not_mem_nil ?_
      rintro ⟨hstretch, hlength⟩
      have := hstretch.length_le
      omega

variable {boxes : List OcrWordBox}

theorem mem_sortedWords {word : Numbered} :
    word ∈ sortedWords boxes ↔ word ∈ boxes.zipIdx := List.mem_mergeSort

theorem fst_mem_of_mem_sortedWords {word : Numbered} (h : word ∈ sortedWords boxes) :
    word.1 ∈ boxes :=
  List.fst_mem_of_mem_zipIdx (mem_sortedWords.mp h)

section

variable {sanitizeTitleWithLevel : String → PiiFilterLevel → String} {level : PiiFilterLevel}

/-- On a line a stretch of words is sensitive if the joined words are. -/
theorem windowIsSensitive_iff (hline : OnOneLine boxes) {window : List Numbered}
    (hwindow : ∀ word ∈ window, word.1 ∈ boxes) :
    windowIsSensitive sanitizeTitleWithLevel level window = true ↔
      JoinedIsSensitive sanitizeTitleWithLevel level window := by
  have hflat : ¬ (i32 (i32 ((window.map fun word => word.1.y).max?.getD 0 -
      (window.map fun word => word.1.y).min?.getD 0)).natAbs > 14) := by
    cases hmin : (window.map fun word => word.1.y).min? with
    | none =>
      rw [List.min?_eq_none_iff.mp hmin]
      decide
    | some low =>
      cases hmax : (window.map fun word => word.1.y).max? with
      | none =>
        rw [List.max?_eq_none_iff.mp hmax] at hmin
        cases hmin
      | some high =>
        obtain ⟨lowest, hlowest, rfl⟩ := List.mem_map.mp (List.min?_mem hmin)
        obtain ⟨highest, hhighest, rfl⟩ := List.mem_map.mp (List.max?_mem hmax)
        have hup := hline _ (hwindow highest hhighest) _ (hwindow lowest hlowest)
        have hdown := hline _ (hwindow lowest hlowest) _ (hwindow highest hhighest)
        have hheight : i32 (highest.1.y - lowest.1.y) = highest.1.y - lowest.1.y :=
          i32_eq (by omega) (by omega)
        rw [Option.getD_some, Option.getD_some, hheight, i32_eq (by omega) (by omega)]
        omega
  rw [windowIsSensitive, if_neg hflat, Bool.or_eq_true, JoinedIsSensitive]

/-- Every word of a sensitive stretch of two to five words is found. -/
theorem mem_sensitiveIndices_of_window {indexed window : List Numbered} (htwo : 2 ≤ window.length)
    (hfive : window.length ≤ 5) (hstretch : window <:+: indexed)
    (hsensitive : windowIsSensitive sanitizeTitleWithLevel level window = true) :
    ∀ word ∈ window, word.2 ∈ sensitiveIndices sanitizeTitleWithLevel level indexed := by
  intro word hword
  have hsize : window.length ∈ [2, 3, 4, 5].takeWhile fun size => size ≤ indexed.length := by
    have hle := hstretch.length_le
    generalize window.length = size at htwo hfive hle
    obtain rfl | rfl | rfl | rfl : size = 2 ∨ size = 3 ∨ size = 4 ∨ size = 5 := by omega
    · simp [List.takeWhile_cons, hle]
    · simp [List.takeWhile_cons, hle, show 2 ≤ indexed.length by omega]
    · simp [List.takeWhile_cons, hle, show 2 ≤ indexed.length by omega,
        show 3 ≤ indexed.length by omega]
    · simp [hle, show 2 ≤ indexed.length by omega, show 3 ≤ indexed.length by omega,
        show 4 ≤ indexed.length by omega]
  have hwindow : window ∈ windows window.length indexed :=
    (mem_windows_iff (by omega)).mpr ⟨hstretch, rfl⟩
  refine List.mem_map_of_mem (List.mem_append_right _ (List.mem_flatMap.mpr ⟨_, hsize, ?_⟩))
  exact List.mem_flatten.mpr ⟨window, List.mem_filter.mpr ⟨hwindow, hsensitive⟩, hword⟩

/-- A word of a stretch that is looked at is covered. -/
theorem box_mem_sensitiveBoxes {word : Numbered} (hword : word ∈ boxes.zipIdx)
    (h : word.2 ∈ sensitiveIndices sanitizeTitleWithLevel level (sortedWords boxes)) :
    word.1 ∈ sensitiveBoxes sanitizeTitleWithLevel level boxes := by
  refine List.mem_map_of_mem (List.mem_filter.mpr ⟨hword, ?_⟩)
  exact List.contains_iff_mem.mpr h

theorem SumsFit.mono {extents extents' : List (Int × Int)} (h : SumsFit extents)
    (hsub : extents' ⊆ extents) : SumsFit extents' :=
  ⟨fun a ha => h.1 a (hsub ha), fun a ha b hb => h.2 a (hsub ha) b (hsub hb)⟩

theorem RegionSumsFit.mono {regions regions' : List SensitiveRegion} (h : RegionSumsFit regions)
    (hsub : regions' ⊆ regions) : RegionSumsFit regions' :=
  ⟨h.x.mono (List.map_subset _ hsub), h.y.mono (List.map_subset _ hsub)⟩

/-- **Coverage**: a split secret that is looked at is covered. -/
theorem covered_of_windows (hline : OnOneLine boxes)
    (hfit : RegionSumsFit (boxes.map OcrWordBox.region))
    (h : SecretsAreWindows sanitizeTitleWithLevel level boxes) :
    SplitSecretsCovered sanitizeTitleWithLevel level boxes := by
  intro run hrun word hword px py hhas
  have hstretch := h run hrun
  have hmem (word) (hword : word ∈ run) : word ∈ sortedWords boxes := hstretch.subset hword
  have hsensitive : windowIsSensitive sanitizeTitleWithLevel level run = true :=
    (windowIsSensitive_iff hline fun word hword => fst_mem_of_mem_sortedWords (hmem word hword)).mpr
      hrun.sensitive
  have hbox : word.1 ∈ sensitiveBoxes sanitizeTitleWithLevel level boxes :=
    box_mem_sensitiveBoxes (mem_sortedWords.mp (hmem word hword))
      (mem_sensitiveIndices_of_window hrun.two_le hrun.le_five hstretch hsensitive word hword)
  have hsub : (sensitiveBoxes sanitizeTitleWithLevel level boxes).map OcrWordBox.region ⊆
      boxes.map OcrWordBox.region :=
    List.map_subset _ fun box hbox => mem_of_mem_sensitiveBoxes hbox
  exact (merged_regions_cover _ (hfit.mono hsub)).1 word.1.region (List.mem_map_of_mem hbox) px py
    hhas

end

/-! ## Places -/

/-- Of two words the one that is further right is not higher. -/
def Level (a b : OcrWordBox) : Prop := (a.x < b.x ∧ a.y ≤ b.y) ∨ (b.x < a.x ∧ b.y ≤ a.y)

theorem Level.symm {a b : OcrWordBox} (h : Level a b) : Level b a := Or.symm h

/-- **Level words**: no word is higher than one that is left of it, and no two are one above the
    other. -/
def LevelWords (boxes : List OcrWordBox) : Prop := boxes.Pairwise Level

/-- The words as they are sorted go down, and to the right where they do not. -/
theorem pairwise_sortedWords (boxes : List OcrWordBox) :
    (sortedWords boxes).Pairwise fun a b =>
      a.1.y < b.1.y ∨ (a.1.y = b.1.y ∧ a.1.x ≤ b.1.x) := by
  refine (List.pairwise_mergeSort (fun a b c => ?_) (fun a b => ?_) boxes.zipIdx).imp fun h => ?_
  · simp only [Bool.or_eq_true, Bool.and_eq_true, decide_eq_true_eq, beq_iff_eq]
    omega
  · simp only [Bool.or_eq_true, Bool.and_eq_true, decide_eq_true_eq, beq_iff_eq]
    omega
  · simpa using h

theorem nodup_sortedWords (boxes : List OcrWordBox) : (sortedWords boxes).Nodup := by
  have hperm : (sortedWords boxes).Perm boxes.zipIdx := List.mergeSort_perm _ _
  exact hperm.nodup_iff.mpr (List.Nodup.of_map Prod.snd (List.nodup_zipIdx_map_snd boxes))

variable {order : List Numbered}

/-- Level words are sorted from left to right. -/
theorem eq_sortedWords_of_level (hlevel : LevelWords boxes) (horder : LeftToRight boxes order) :
    order = sortedWords boxes := by
  have hpairs : (boxes.zipIdx.map Prod.fst).Pairwise Level := by
    rw [List.zipIdx_map_fst]
    exact hlevel
  rw [List.pairwise_map] at hpairs
  have hofPerm {l : List Numbered} (hl : l.Perm boxes.zipIdx) :
      l.Pairwise fun a b => Level a.1 b.1 :=
    hl.symm.pairwise hpairs fun h => h.symm
  have hsorted : (sortedWords boxes).Pairwise fun a b => a.1.x < b.1.x := by
    refine ((hofPerm (List.mergeSort_perm _ _)).and (pairwise_sortedWords boxes)).imp ?_
    rintro a b ⟨hleft | hright, hdown⟩
    · exact hleft.1
    · omega
  have hordered : order.Pairwise fun a b => a.1.x < b.1.x := by
    refine ((hofPerm horder.1).and horder.2).imp ?_
    rintro a b ⟨hleft | hright, hle⟩
    · exact hleft.1
    · omega
  refine (horder.1.trans (List.mergeSort_perm _ _).symm).eq_of_pairwise ?_ hordered hsorted
  intro a b _ _ hab hba
  omega

/-! ### Other words in the same places -/

/-- The same boxes with other words. -/
def withTexts (text : Nat → String) (boxes : List OcrWordBox) : List OcrWordBox :=
  boxes.mapIdx fun i box => { box with text := text i }

/-- A word with another text. -/
def reworded (text : Nat → String) (word : Numbered) : Numbered :=
  ({ word.1 with text := text word.2 }, word.2)

theorem zipIdx_withTexts (text : Nat → String) (boxes : List OcrWordBox) :
    (withTexts text boxes).zipIdx = boxes.zipIdx.map (reworded text) := by
  refine List.ext_getElem (by simp [withTexts]) fun i _ _ => ?_
  simp [withTexts, reworded]

theorem sortedWords_withTexts (text : Nat → String) (boxes : List OcrWordBox) :
    sortedWords (withTexts text boxes) = (sortedWords boxes).map (reworded text) := by
  rw [sortedWords, sortedWords, zipIdx_withTexts, sortByYX, sortByYX]
  symm
  apply List.map_mergeSort
  intro a _ b _
  rfl

theorem LeftToRight.withTexts (h : LeftToRight boxes order) (text : Nat → String) :
    LeftToRight (withTexts text boxes) (order.map (reworded text)) := by
  refine ⟨?_, List.pairwise_map.mpr h.2⟩
  rw [zipIdx_withTexts]
  exact h.1.map _

theorem OnOneLine.withTexts (h : OnOneLine boxes) (text : Nat → String) :
    OnOneLine (withTexts text boxes) := by
  intro a ha b hb
  obtain ⟨i, hi, rfl⟩ := List.mem_mapIdx.mp ha
  obtain ⟨j, hj, rfl⟩ := List.mem_mapIdx.mp hb
  exact h boxes[i] (List.getElem_mem hi) boxes[j] (List.getElem_mem hj)

theorem regions_withTexts (text : Nat → String) (boxes : List OcrWordBox) :
    (withTexts text boxes).map OcrWordBox.region = boxes.map OcrWordBox.region := by
  refine List.ext_getElem (by simp [withTexts]) fun i _ _ => ?_
  simp [withTexts, OcrWordBox.region]

theorem levelWords_withTexts (text : Nat → String) (boxes : List OcrWordBox) :
    LevelWords (withTexts text boxes) ↔ LevelWords boxes := by
  have hplaces (boxes : List OcrWordBox) : LevelWords boxes ↔
      (boxes.map OcrWordBox.region).Pairwise fun a b =>
        (a.x < b.x ∧ a.y ≤ b.y) ∨ (b.x < a.x ∧ b.y ≤ a.y) := by
    rw [List.pairwise_map]
    exact Iff.rfl
  rw [hplaces, hplaces, regions_withTexts]

/-- One text is sensitive. -/
def flagging (secret : String) : String → PiiFilterLevel → String :=
  fun text _ => if text = secret then "[EMAIL]" else text

/-- A sanitizer that flags one text. -/
theorem sensitive_flagging_iff (level : PiiFilterLevel) {text secret : String}
    (hsecret : secret ≠ "[EMAIL]") :
    isSensitiveSegmentWithLevel (flagging secret) text level = true ↔ text = secret := by
  by_cases htext : text = secret
  · refine iff_of_true ?_ htext
    have hmasked : flagging secret text level = "[EMAIL]" := if_pos htext
    have hmarker : markerInserted text "[EMAIL]" "[EMAIL]" = true := by
      have hother : ("[EMAIL]" != text) = true := by
        rw [htext]
        exact bne_iff_ne.mpr hsecret.symm
      rw [markerInserted, hother, Bool.or_true, Bool.and_true]
      decide
    simp [isSensitiveSegmentWithLevel, detectPiiMarkersWithLevel, piiMarkers, hmasked, hmarker]
  · refine iff_of_false ?_ htext
    have hmasked : flagging secret text level = text := if_neg htext
    have hnone (marker : String) : markerInserted text text marker = false := by
      simp [markerInserted]
    simp [isSensitiveSegmentWithLevel, detectPiiMarkersWithLevel, hmasked, hnone]

/-- The two words of a pair have the texts `a` and `b`, all others `c`. -/
def pairTexts (i j : Nat) (k : Nat) : Char := if k = i then 'a' else if k = j then 'b' else 'c'

theorem pairTexts_eq_a {i j k : Nat} (h : pairTexts i j k = 'a') : k = i := by
  unfold pairTexts at h
  split at h
  · assumption
  · split at h <;> exact absurd h (by decide)

theorem pairTexts_eq_b {i j k : Nat} (h : pairTexts i j k = 'b') : k = j := by
  unfold pairTexts at h
  split at h
  · exact absurd h (by decide)
  · split at h
    · assumption
    · exact absurd h (by decide)

/-- Joined words read `ab` just if they are the pair. -/
theorem joined_pairTexts {i j : Nat} {window : List Numbered} (htwo : 2 ≤ window.length)
    (h : String.join (window.map fun word => String.singleton (pairTexts i j word.2)) = "ab" ∨
      String.intercalate " "
        (window.map fun word => String.singleton (pairTexts i j word.2)) = "ab") :
    ∃ u v, window = [u, v] ∧ u.2 = i ∧ v.2 = j := by
  have hab : "ab".toList = ['a', 'b'] := by decide
  rcases window with _ | ⟨u, _ | ⟨v, rest⟩⟩
  · exact absurd htwo (by decide)
  · exact absurd htwo (by simp)
  · rcases h with hcompact | hspaced
    · have hchars := congrArg String.toList hcompact
      rw [String.toList_join, hab] at hchars
      simp only [List.map_cons, List.flatMap_cons, String.toList_singleton,
        List.singleton_append] at hchars
      obtain ⟨hu, htail⟩ := List.cons.inj hchars
      obtain ⟨hv, hrest⟩ := List.cons.inj htail
      cases rest with
      | nil => exact ⟨u, v, rfl, pairTexts_eq_a hu, pairTexts_eq_b hv⟩
      | cons w rest => simp at hrest
    · -- there is a blank in between
      have hchars := congrArg String.toList hspaced
      simp only [String.toList_intercalate, List.map_cons, List.intercalate_cons_cons,
        String.toList_singleton, List.cons_append, hab] at hchars
      exact absurd (List.cons.inj (List.cons.inj hchars).2).1 (by decide)

/-- A box has a corner. -/
theorem OcrWordBox.region_has (box : OcrWordBox) : box.region.Has box.x box.y := by
  refine ⟨⟨Int.le_refl _, ?_⟩, Int.le_refl _, ?_⟩
  · show box.x < box.x + max box.w 1
    omega
  · show box.y < box.y + max box.h 1
    omega

/-- The number tells the word. -/
theorem eq_of_number_eq {a b : Numbered} (ha : a ∈ boxes.zipIdx) (hb : b ∈ boxes.zipIdx)
    (h : a.2 = b.2) : a = b := by
  have hbox := List.mem_zipIdx_iff_getElem?.mp ha
  rw [h, List.mem_zipIdx_iff_getElem?.mp hb] at hbox
  exact Prod.ext (Option.some.inj hbox).symm h

section

variable {sanitizeTitleWithLevel : String → PiiFilterLevel → String} {level : PiiFilterLevel}

/-- Where there is a region, a word or a stretch of words is sensitive. -/
theorem sensitive_of_region {region : SensitiveRegion}
    (h : region ∈ detectSensitiveRegions sanitizeTitleWithLevel boxes level) :
    (∃ word ∈ sortedWords boxes,
      isSensitiveSegmentWithLevel sanitizeTitleWithLevel word.1.text level = true) ∨
    ∃ window, window <:+: sortedWords boxes ∧ 2 ≤ window.length ∧
      windowIsSensitive sanitizeTitleWithLevel level window = true := by
  have hboxes : sensitiveBoxes sanitizeTitleWithLevel level boxes ≠ [] := by
    intro hnone
    rw [detectSensitiveRegions, hnone] at h
    simp [mergeSensitiveRegions, sortByYX] at h
  obtain ⟨box, hbox⟩ := List.exists_mem_of_ne_nil _ hboxes
  obtain ⟨word, hword, -⟩ := List.mem_map.mp hbox
  have hindex : word.2 ∈ sensitiveIndices sanitizeTitleWithLevel level (sortedWords boxes) :=
    List.contains_iff_mem.mp (List.mem_filter.mp hword).2
  obtain ⟨found, hfound, -⟩ := List.mem_map.mp hindex
  rcases List.mem_append.mp hfound with hsingle | hrow
  · exact .inl ⟨found, (List.mem_filter.mp hsingle).1, (List.mem_filter.mp hsingle).2⟩
  · obtain ⟨size, hsize, hrow⟩ := List.mem_flatMap.mp hrow
    obtain ⟨window, hwindow, -⟩ := List.mem_flatten.mp hrow
    obtain ⟨hwindow, hsensitive⟩ := List.mem_filter.mp hwindow
    have htwo : 2 ≤ size := by
      have hmem := (List.takeWhile_sublist _).subset hsize
      simp only [List.mem_cons, List.not_mem_nil, or_false] at hmem
      omega
    obtain ⟨hstretch, hlength⟩ := (mem_windows_iff (by omega)).mp hwindow
    exact .inr ⟨window, hstretch, by omega, hsensitive⟩

end

/-- **Neighbours**: where all words that can stand in some places are covered, two that follow one
    another from left to right do so as they are sorted. -/
theorem pair_of_covered (hline : OnOneLine boxes)
    (hcovered : ∀ text, SplitSecretsCovered (flagging "ab") .basic (withTexts text boxes))
    (horder : LeftToRight boxes order) {a b : Numbered} (hpair : [a, b] <:+: order) :
    [a, b] <:+: sortedWords boxes := by
  have hmem (word : Numbered) (hword : word ∈ [a, b]) : word ∈ boxes.zipIdx :=
    horder.1.mem_iff.mp (hpair.subset hword)
  have hab : a.2 ≠ b.2 := by
    have hnodup : (order.map Prod.snd).Nodup :=
      (horder.1.map _).nodup_iff.mpr (List.nodup_zipIdx_map_snd boxes)
    have hpairNodup := List.Pairwise.sublist (hpair.sublist.map Prod.snd) hnodup
    exact (List.pairwise_cons.mp hpairNodup).1 b.2 List.mem_cons_self
  let text (k : Nat) : String := String.singleton (pairTexts a.2 b.2 k)
  have hsecret : SplitSecret (flagging "ab") .basic (withTexts text boxes)
      [reworded text a, reworded text b] := by
    refine ⟨⟨_, horder.withTexts text, hpair.map (reworded text)⟩, Nat.le_refl 2, by simp, ?_⟩
    refine .inl ((sensitive_flagging_iff _ (by decide)).mpr ?_)
    have ha : text a.2 = "a" := by
      show String.singleton (pairTexts a.2 b.2 a.2) = "a"
      rw [pairTexts, if_pos rfl]
      rfl
    have hb : text b.2 = "b" := by
      show String.singleton (pairTexts a.2 b.2 b.2) = "b"
      rw [pairTexts, if_neg hab.symm, if_pos rfl]
      rfl
    show String.join [text a.2, text b.2] = "ab"
    rw [ha, hb]
    decide
  obtain ⟨region, hregion, -⟩ := hcovered text _ hsecret (reworded text a) List.mem_cons_self
    a.1.x a.1.y (OcrWordBox.region_has _)
  rcases sensitive_of_region hregion with ⟨word, hword, hsensitive⟩ |
    ⟨window, hstretch, htwo, hsensitive⟩
  · -- a single word is too short
    rw [sortedWords_withTexts] at hword
    obtain ⟨word, -, rfl⟩ := List.mem_map.mp hword
    have hshort := congrArg String.length ((sensitive_flagging_iff _ (by decide)).mp hsensitive)
    simp only [reworded, text, String.length_singleton] at hshort
    exact absurd hshort (by decide)
  · rw [windowIsSensitive_iff (hline.withTexts text) fun word hword =>
      fst_mem_of_mem_sortedWords (hstretch.subset hword)] at hsensitive
    rw [sortedWords_withTexts] at hstretch
    obtain ⟨window, hwindow, rfl⟩ := List.infix_map_iff.mp hstretch
    rw [JoinedIsSensitive, sensitive_flagging_iff _ (by decide),
      sensitive_flagging_iff _ (by decide), List.map_map] at hsensitive
    rw [List.length_map] at htwo
    obtain ⟨u, v, rfl, hu, hv⟩ := joined_pairTexts htwo hsensitive
    have hin (word : Numbered) (hword : word ∈ [u, v]) : word ∈ boxes.zipIdx :=
      mem_sortedWords.mp (hwindow.subset hword)
    rw [eq_of_number_eq (hmem a (by simp)) (hin u (by simp)) hu.symm,
      eq_of_number_eq (hmem b (by simp)) (hin v (by simp)) hv.symm]
    exact hwindow

/-- Where all words are covered, the sorted words are the only order from left to right. -/
theorem eq_sortedWords_of_covered (hline : OnOneLine boxes)
    (hcovered : ∀ text, SplitSecretsCovered (flagging "ab") .basic (withTexts text boxes))
    (horder : LeftToRight boxes order) : order = sortedWords boxes :=
  Lib.Runs.eq_of_neighbours (horder.1.trans (List.mergeSort_perm _ _).symm)
    (nodup_sortedWords boxes) fun _ _ hpair => pair_of_covered hline hcovered horder hpair

theorem exists_leftToRight (boxes : List OcrWordBox) : ∃ order, LeftToRight boxes order := by
  refine ⟨boxes.zipIdx.mergeSort fun a b => a.1.x ≤ b.1.x, List.mergeSort_perm _ _, ?_⟩
  refine (List.pairwise_mergeSort (fun a b c => ?_) (fun a b => ?_) boxes.zipIdx).imp fun h => ?_
  · simp only [decide_eq_true_eq]
    omega
  · simp only [Bool.or_eq_true, decide_eq_true_eq]
    omega
  · simpa using h

/-- **Places**: all words that can stand in some places of a line are covered, whatever is
    sensitive, if and only if the places are level. -/
theorem covered_everywhere_iff (hline : OnOneLine boxes)
    (hfit : RegionSumsFit (boxes.map OcrWordBox.region)) :
    (∀ sanitizeTitleWithLevel level text,
      SplitSecretsCovered sanitizeTitleWithLevel level (withTexts text boxes)) ↔
        LevelWords boxes := by
  constructor
  · intro hcovered
    have hunique {order : List Numbered} (horder : LeftToRight boxes order) :
        order = sortedWords boxes :=
      eq_sortedWords_of_covered hline (fun text => hcovered (flagging "ab") .basic text) horder
    have hsorted : LeftToRight boxes (sortedWords boxes) := by
      obtain ⟨order, horder⟩ := exists_leftToRight boxes
      exact hunique horder ▸ horder
    have hchain : (sortedWords boxes).IsChain fun a b => a.1.x < b.1.x := by
      refine List.isChain_iff_forall_rel_of_append_cons_cons.mpr fun a b front back hl => ?_
      by_contra hnot
      -- two words at one place can be read in either order
      have hplaces : (front ++ a :: b :: back).map (fun word => word.1.x) =
          (front ++ b :: a :: back).map fun word => word.1.x := by
        have hle : a.1.x ≤ b.1.x := by
          have hpairwise := hl ▸ hsorted.2
          exact (List.pairwise_cons.mp (List.pairwise_append.mp hpairwise).2.1).1 b
            List.mem_cons_self
        have hsame : a.1.x = b.1.x := Int.le_antisymm hle (Int.not_lt.mp hnot)
        simp [hsame]
      have hswapped : LeftToRight boxes (front ++ b :: a :: back) := by
        refine ⟨?_, ?_⟩
        · refine List.Perm.trans ?_ hsorted.1
          rw [hl]
          exact (List.Perm.swap a b back).append_left front
        · have hpairwise : ((front ++ a :: b :: back).map fun word => word.1.x).Pairwise (· ≤ ·) :=
            List.pairwise_map.mpr (hl ▸ hsorted.2)
          rw [hplaces] at hpairwise
          exact List.pairwise_map.mp hpairwise
      have hboth : front ++ b :: a :: back = front ++ a :: b :: back :=
        (hunique hswapped).trans hl
      have hsame : b = a := (List.cons.inj (List.append_cancel_left hboth)).1
      have hnodup := nodup_sortedWords boxes
      rw [hl, List.nodup_append] at hnodup
      exact (List.nodup_cons.mp hnodup.2.1).1 (hsame ▸ List.mem_cons_self)
    have htrans : IsTrans Numbered fun a b => a.1.x < b.1.x := ⟨fun _ _ _ => Int.lt_trans⟩
    have hlevel : (sortedWords boxes).Pairwise fun a b => Level a.1 b.1 := by
      refine ((List.isChain_iff_pairwise.mp hchain).and (pairwise_sortedWords boxes)).imp ?_
      rintro a b ⟨hleft, hdown⟩
      exact .inl ⟨hleft, by omega⟩
    have hzip : boxes.zipIdx.Pairwise fun a b => Level a.1 b.1 :=
      (List.mergeSort_perm _ _).pairwise hlevel fun h => h.symm
    rw [LevelWords, ← List.zipIdx_map_fst 0 boxes, List.pairwise_map]
    exact hzip
  · intro hlevel sanitizeTitleWithLevel level text
    refine covered_of_windows (hline.withTexts text) (by rwa [regions_withTexts]) ?_
    intro run hrun
    obtain ⟨order, horder, hstretch⟩ := hrun.inOrder
    rwa [eq_sortedWords_of_level ((levelWords_withTexts text boxes).mpr hlevel) horder] at hstretch

/-! ## The result -/

/-- **When split secrets are covered.**  On a line each of them is covered if its words follow one
    another as they are sorted, too; and this is so of all words that can stand in some places,
    whatever is sensitive, if and only if the places are level. -/
theorem split_secrets_covered (boxes : List OcrWordBox) (hline : OnOneLine boxes)
    (hfit : RegionSumsFit (boxes.map OcrWordBox.region)) :
    (∀ sanitizeTitleWithLevel level, SecretsAreWindows sanitizeTitleWithLevel level boxes →
      SplitSecretsCovered sanitizeTitleWithLevel level boxes) ∧
    ((∀ sanitizeTitleWithLevel level text,
      SplitSecretsCovered sanitizeTitleWithLevel level (withTexts text boxes)) ↔
        LevelWords boxes) :=
  ⟨fun _ _ => covered_of_windows hline hfit, covered_everywhere_iff hline hfit⟩

/-- An address in two words, the right one five pixels higher. -/
def splitAddress : List OcrWordBox := [⟨"mail.com", 60, 100, 50, 12⟩, ⟨"user@", 10, 105, 40, 12⟩]

theorem split_secrets_covered_splitAddress :
    (∀ sanitizeTitleWithLevel level, SecretsAreWindows sanitizeTitleWithLevel level splitAddress →
      SplitSecretsCovered sanitizeTitleWithLevel level splitAddress) ∧
    ((∀ sanitizeTitleWithLevel level text,
      SplitSecretsCovered sanitizeTitleWithLevel level (withTexts text splitAddress)) ↔
        LevelWords splitAddress) :=
  split_secrets_covered splitAddress (by decide) ⟨by decide, by decide⟩

theorem detectSensitiveRegions_splitAddress :
    detectSensitiveRegions (sanitized asciiUnicode) splitAddress .standard = [] := by
  have hsorted : sortByYX (fun word : Numbered => word.1.y) (fun word => word.1.x)
      splitAddress.zipIdx = splitAddress.zipIdx := by
    rw [sortByYX]
    exact List.mergeSort_of_pairwise (by decide)
  have hboxes : sensitiveBoxes (sanitized asciiUnicode) .standard splitAddress = [] := by
    rw [sensitiveBoxes, hsorted]
    decide +kernel
  rw [detectSensitiveRegions, hboxes]
  simp [mergeSensitiveRegions, sortByYX]

/-- The address is read from left to right, and looked at the other way round. -/
theorem jitter_hides_address :
    ¬ ∀ (unicode : Unicode) (boxes : List OcrWordBox) (level : PiiFilterLevel), OnOneLine boxes →
      SplitSecretsCovered (sanitized unicode) level boxes := by
  intro hall
  have hsecret : SplitSecret (sanitized asciiUnicode) .standard splitAddress
      splitAddress.zipIdx.reverse := by
    refine ⟨⟨_, ⟨List.reverse_perm _, by decide⟩, List.infix_rfl⟩, by decide, by decide, .inl ?_⟩
    decide +kernel
  obtain ⟨region, hregion, -⟩ := hall asciiUnicode splitAddress .standard (by decide) _ hsecret
    (⟨"user@", 10, 105, 40, 12⟩, 1) List.mem_cons_self 10 105 (OcrWordBox.region_has _)
  rw [detectSensitiveRegions_splitAddress] at hregion
  cases hregion

end Oneshim.Vision
