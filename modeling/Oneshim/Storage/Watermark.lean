/-
  The local watermark (`compute_max_hlc`): what the maximum over the six tables can be.

  It fits the types of a timestamp, it can be stored again, no row is above it, and it always
  carries the id of the LOCAL device, whatever device the maximal row came from.
-/
import Oneshim.Storage.SyncExtractor

namespace Oneshim

open Lib

theorem coalesceMax_lt (xs : List Int64) : coalesceMax xs < 2 ^ 63 := by
  unfold coalesceMax
  cases h : (xs.map Int64.toInt).max? with
  | none => decide
  | some m =>
    obtain ⟨x, -, rfl⟩ := List.mem_map.mp (List.max?_mem h)
    exact Int64.toInt_lt x

/-- One table's maximum fits its types. -/
theorem tableMaxHlc_lt {table : String} {stamps : List Stamp} {w c : Nat}
    (h : tableMaxHlc table stamps = .ok (w, c)) : w < 2 ^ 63 ∧ c < 2 ^ 32 := by
  simp only [tableMaxHlc] at h
  split at h
  case h_1 w' c' hw hc =>
    cases h
    unfold readU64 at hw
    unfold readU32 at hc
    split at hw
    case isTrue =>
      split at hc
      case isTrue hrange =>
        have hlt := coalesceMax_lt (List.map Stamp.hlcWallMs (List.filter
          (fun s => s.hlcWallMs.toInt == coalesceMax (List.map Stamp.hlcWallMs stamps)) stamps))
        cases hw
        cases hc
        omega
      case isFalse => nomatch hc
    case isFalse => nomatch hw
  case h_2 => nomatch h
  case h_3 => nomatch h

/-- One round of the loop keeps the maximum or takes the candidate. -/
theorem raiseMax_ok {deviceId : String} {max max' : Hlc} {t : String × List Stamp}
    (h : raiseMax deviceId max t = .ok max') :
    ∃ w c, tableMaxHlc t.1 t.2 = .ok (w, c) ∧
      ((max' = ⟨w, c, deviceId⟩ ∧ max < max') ∨ (max' = max ∧ ⟨w, c, deviceId⟩ ≤ max)) := by
  obtain ⟨⟨w, c⟩, ht, hret⟩ := bind_eq_ok_iff.mp h
  refine ⟨w, c, ht, ?_⟩
  cases hret
  split
  case isTrue hafter => exact .inl ⟨rfl, Hlc.isAfter_iff.mp hafter⟩
  case isFalse hnot =>
    exact .inr ⟨rfl, Hlc.isAfter_eq_false_iff.mp (Bool.not_eq_true _ ▸ hnot)⟩

/-- The local watermark can be stored again. -/
theorem computeMaxHlc_lt {deviceId : String} {db : Database} {h : Hlc}
    (hmax : computeMaxHlc deviceId db = .ok h) : h.wallMs < 2 ^ 63 ∧ h.counter < 2 ^ 32 := by
  refine foldlM_invariant (P := fun m : Hlc => m.wallMs < 2 ^ 63 ∧ m.counter < 2 ^ 32) ?_
    (by decide) hmax
  intro t m m' hm hstep
  obtain ⟨w, c, ht, ⟨rfl, -⟩ | ⟨rfl, -⟩⟩ := raiseMax_ok hstep
  · exact tableMaxHlc_lt ht
  · exact hm

/-- The local watermark carries the local device id: the first table already raises the default. -/
theorem computeMaxHlc_deviceId {deviceId : String} {db : Database} {h : Hlc}
    (hne : deviceId ≠ "") (hmax : computeMaxHlc deviceId db = .ok h) : h.deviceId = deviceId := by
  unfold computeMaxHlc syncedStamps at hmax
  rw [List.foldlM_cons] at hmax
  obtain ⟨m, hfirst, hrest⟩ := bind_eq_ok_iff.mp hmax
  refine foldlM_invariant (P := fun m : Hlc => m.deviceId = deviceId) ?_ ?_ hrest
  · intro t m m' hm hstep
    obtain ⟨w, c, -, ⟨rfl, -⟩ | ⟨rfl, -⟩⟩ := raiseMax_ok hstep
    · rfl
    · exact hm
  · obtain ⟨w, c, -, ⟨rfl, -⟩ | ⟨-, hle⟩⟩ := raiseMax_ok hfirst
    · rfl
    · -- a candidate with a device id is above the default
      have hlt : Hlc.default < ⟨w, c, deviceId⟩ := by
        rw [Hlc.lt_iff]
        have hdevice : "" < deviceId := by
          rw [String.lt_iff_toList_lt]
          obtain ⟨c, cs, hcs⟩ := List.exists_cons_of_ne_nil
            (fun h => hne (String.toList_eq_nil_iff.mp h))
          rw [hcs]
          exact List.nil_lt_cons c cs
        rcases Nat.eq_zero_or_pos w with rfl | hw
        · rcases Nat.eq_zero_or_pos c with rfl | hc
          · exact .inr ⟨rfl, .inr ⟨rfl, hdevice⟩⟩
          · exact .inr ⟨rfl, .inl hc⟩
        · exact .inl hw
      exact absurd hle (not_le.mpr hlt)

/-! ## No row is above it -/

/-- The columns `(wall_ms, counter)` of the stamp are not above the timestamp's. -/
def Stamp.NotAbove (m : Hlc) (s : Stamp) : Prop :=
  s.hlcWallMs.toInt < m.wallMs ∨
    (s.hlcWallMs.toInt = m.wallMs ∧ s.hlcCounter.toInt ≤ m.counter)

theorem le_coalesceMax {xs : List Int64} {x : Int64} (hx : x ∈ xs) : x.toInt ≤ coalesceMax xs := by
  have hmem : x.toInt ∈ xs.map Int64.toInt := List.mem_map_of_mem hx
  unfold coalesceMax
  cases h : (xs.map Int64.toInt).max? with
  | none =>
    rw [List.max?_eq_none_iff.mp h] at hmem
    nomatch hmem
  | some m => exact (List.max?_eq_some_iff.mp h).2 _ hmem

theorem coalesceMax_mem {xs : List Int64} (hne : xs ≠ []) : ∃ x ∈ xs, x.toInt = coalesceMax xs := by
  unfold coalesceMax
  cases h : (xs.map Int64.toInt).max? with
  | none => exact absurd (List.map_eq_nil_iff.mp (List.max?_eq_none_iff.mp h)) hne
  | some m =>
    obtain ⟨x, hx, rfl⟩ := List.mem_map.mp (List.max?_mem h)
    exact ⟨x, hx, rfl⟩

/-- The wall clock of a table's latest rows is the table's maximum. -/
theorem coalesceMax_latest {stamps : List Stamp} {s : Stamp} (hs : s ∈ stamps) :
    coalesceMax ((stamps.filter (fun s =>
      s.hlcWallMs.toInt == coalesceMax (stamps.map Stamp.hlcWallMs))).map Stamp.hlcWallMs)
      = coalesceMax (stamps.map Stamp.hlcWallMs) := by
  obtain ⟨x, hx, hmax⟩ := coalesceMax_mem (List.ne_nil_of_mem
    (List.mem_map_of_mem (f := Stamp.hlcWallMs) hs))
  obtain ⟨y, hy, rfl⟩ := List.mem_map.mp hx
  have hin : y ∈ stamps.filter (fun s =>
      s.hlcWallMs.toInt == coalesceMax (stamps.map Stamp.hlcWallMs)) :=
    List.mem_filter.mpr ⟨hy, beq_iff_eq.mpr hmax⟩
  obtain ⟨z, hz, hlatest⟩ := coalesceMax_mem (List.ne_nil_of_mem
    (List.mem_map_of_mem (f := Stamp.hlcWallMs) hin))
  obtain ⟨v, hv, rfl⟩ := List.mem_map.mp hz
  rw [← hlatest]
  exact beq_iff_eq.mp (List.mem_filter.mp hv).2

/-- No row of a table is above the table's maximum. -/
theorem tableMaxHlc_notAbove {table deviceId : String} {stamps : List Stamp} {w c : Nat}
    (h : tableMaxHlc table stamps = .ok (w, c)) :
    ∀ s ∈ stamps, s.NotAbove ⟨w, c, deviceId⟩ := by
  intro s hs
  simp only [tableMaxHlc, coalesceMax_latest hs] at h
  have hwall := le_coalesceMax (List.mem_map_of_mem (f := Stamp.hlcWallMs) hs)
  generalize coalesceMax (stamps.map Stamp.hlcWallMs) = maxWall at h hwall
  have hcounter : s.hlcWallMs.toInt = maxWall → s.hlcCounter.toInt ≤ coalesceMax
      ((stamps.filter (fun s => s.hlcWallMs.toInt == maxWall)).map Stamp.hlcCounter) := by
    intro heq
    exact le_coalesceMax (List.mem_map_of_mem (List.mem_filter.mpr ⟨hs, beq_iff_eq.mpr heq⟩))
  unfold readU64 readU32 at h
  split at h
  case h_1 w' c' hw hc =>
    cases h
    split at hw
    case isFalse => nomatch hw
    case isTrue hwpos =>
      split at hc
      case isFalse => nomatch hc
      case isTrue hcrange =>
        cases hw
        cases hc
        rcases Int.lt_or_eq_of_le hwall with hlt | heq
        · refine .inl ?_
          show _ < ((Int.toNat _ : Nat) : Int)
          omega
        · have hle := hcounter heq
          refine .inr ⟨?_, ?_⟩
          · show _ = ((Int.toNat _ : Nat) : Int)
            omega
          · show _ ≤ ((Int.toNat _ : Nat) : Int)
            omega
  case h_2 => nomatch h
  case h_3 => nomatch h

theorem Stamp.NotAbove.mono {a b : Hlc} {s : Stamp} (h : s.NotAbove a) (hle : a ≤ b) :
    s.NotAbove b := by
  have hpair : a.wallMs < b.wallMs ∨ (a.wallMs = b.wallMs ∧ a.counter ≤ b.counter) := by
    rcases hle.lt_or_eq with hlt | rfl
    · rcases Hlc.lt_iff.mp hlt with hw | ⟨hw, hc | ⟨hc, -⟩⟩
      · exact .inl hw
      · exact .inr ⟨hw, by omega⟩
      · exact .inr ⟨hw, by omega⟩
    · exact .inr ⟨rfl, Nat.le_refl _⟩
  unfold Stamp.NotAbove at h ⊢
  omega

/-- **No row is above the local watermark** in its `(wall_ms, counter)`. -/
theorem computeMaxHlc_notAbove {deviceId : String} {db : Database} {h : Hlc}
    (hmax : computeMaxHlc deviceId db = .ok h) :
    ∀ t ∈ syncedStamps db, ∀ s ∈ t.2, s.NotAbove h := by
  refine foldlM_induction
    (P := fun seen (m : Hlc) => ∀ t ∈ seen, ∀ s ∈ t.2, s.NotAbove m) ?_ []
    (fun t ht => absurd ht List.not_mem_nil) hmax
  intro seen t m m' _ hseen hstep t' ht' s hs
  obtain ⟨w, c, htable, hcases⟩ := raiseMax_ok hstep
  have hm : m ≤ m' := by
    rcases hcases with ⟨-, hlt⟩ | ⟨rfl, -⟩
    · exact hlt.le
    · exact le_refl _
  have hnew : (⟨w, c, deviceId⟩ : Hlc) ≤ m' := by
    rcases hcases with ⟨rfl, -⟩ | ⟨rfl, hle⟩
    · exact le_refl _
    · exact hle
  rcases List.mem_append.mp ht' with hold | hlast
  · exact (hseen t' hold s hs).mono hm
  · rw [List.mem_singleton.mp hlast] at hs
    exact (tableMaxHlc_notAbove htable s hs).mono hnew

end Oneshim
