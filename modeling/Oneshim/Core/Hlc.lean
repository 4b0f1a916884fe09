/-
  The hybrid logical clock (`oneshim-core/src/sync/hlc.rs`).

  A timestamp is `(wall_ms, counter, device_id)`, and the derived `Ord` of the source compares
  the fields in that order.  Here the order is pulled back along the lexicographic key, so that
  the order theory of Mathlib applies, and `isAfter` is the field-by-field test the source runs;
  `isAfter_iff` says they agree.

  `device_id` is compared bytewise by the source; on UTF-8 that is the code-point order of
  `String`.
-/
import Mathlib.Data.Prod.Lex
import Mathlib.Data.String.Basic

namespace Oneshim

/-- A hybrid logical clock timestamp. -/
structure Hlc where
  /-- Wall-clock milliseconds since the epoch (`u64`). -/
  wallMs : Nat
  /-- Counter for events within one millisecond (`u32`). -/
  counter : Nat
  /-- The device that issued the timestamp: the tiebreaker. -/
  deviceId : String
deriving DecidableEq

namespace Hlc

/-- `Hlc::default()`. -/
def default : Hlc := ⟨0, 0, ""⟩

/-- A timestamp whose parts fit their Rust types. -/
structure Fits (h : Hlc) : Prop where
  wallMs : h.wallMs < 2 ^ 64
  counter : h.counter < 2 ^ 32

/-- The lexicographic key. -/
def toKey (h : Hlc) : Nat ×ₗ Nat ×ₗ String := toLex (h.wallMs, toLex (h.counter, h.deviceId))

theorem toKey_injective : Function.Injective toKey := by
  rintro ⟨w, c, d⟩ ⟨w', c', d'⟩ h
  obtain ⟨hw, hrest⟩ := Prod.mk.inj (toLex.injective h)
  obtain ⟨hc, hd⟩ := Prod.mk.inj (toLex.injective hrest)
  subst hw hc hd
  rfl

/-- The derived `Ord`: `wall_ms`, then `counter`, then `device_id`. -/
instance : LinearOrder Hlc := LinearOrder.lift' toKey toKey_injective

theorem lt_iff {a b : Hlc} :
    a < b ↔ a.wallMs < b.wallMs ∨
      (a.wallMs = b.wallMs ∧
        (a.counter < b.counter ∨ (a.counter = b.counter ∧ a.deviceId < b.deviceId))) := by
  show toKey a < toKey b ↔ _
  simp only [toKey, Prod.Lex.toLex_lt_toLex]

/-- `is_after`: does this timestamp come after `other`? -/
def isAfter (self other : Hlc) : Bool :=
  decide (other.wallMs < self.wallMs) ||
    (self.wallMs == other.wallMs &&
      (decide (other.counter < self.counter) ||
        (self.counter == other.counter && decide (other.deviceId < self.deviceId))))

@[simp] theorem isAfter_iff {self other : Hlc} : self.isAfter other = true ↔ other < self := by
  rw [lt_iff]
  simp only [isAfter, Bool.or_eq_true, Bool.and_eq_true, decide_eq_true_eq, beq_iff_eq]
  constructor
  · rintro (h | ⟨hw, h | ⟨hc, h⟩⟩)
    · exact .inl h
    · exact .inr ⟨hw.symm, .inl h⟩
    · exact .inr ⟨hw.symm, .inr ⟨hc.symm, h⟩⟩
  · rintro (h | ⟨hw, h | ⟨hc, h⟩⟩)
    · exact .inl h
    · exact .inr ⟨hw.symm, .inl h⟩
    · exact .inr ⟨hw.symm, .inr ⟨hc.symm, h⟩⟩

theorem isAfter_eq_false_iff {self other : Hlc} : self.isAfter other = false ↔ self ≤ other := by
  rw [← not_lt, ← isAfter_iff, Bool.not_eq_true]

/-- `Hlc::now`: the reading of the wall clock is the caller's. -/
def now (currentTimeMs : Nat) (deviceId : String) : Hlc := ⟨currentTimeMs, 0, deviceId⟩

example : isAfter ⟨100, 1, "b"⟩ ⟨100, 1, "a"⟩ = true := by decide

end Hlc
end Oneshim
