/-
  Hashers.

  A hasher takes in what is written to it, piece by piece, and gives a number at the end.  Which
  number it gives is its own affair, so two sequences of pieces hash the same with every hasher just
  if they are the same (`hash_eq_iff`).

  The default hasher of the standard library is SipHash-1-3 with both keys zero (`defaultHasher`).
-/
import Mathlib.Logic.Basic

namespace Lib

/-- What is written to a hasher. -/
inductive Write where
  | str (text : String)
  | u32 (n : Nat)
deriving DecidableEq

/-- A hasher. -/
structure Hasher (σ : Type) where
  new : σ
  write : σ → Write → σ
  finish : σ → UInt64

namespace Hasher

variable {σ : Type}

/-- The hash of what is written. -/
def hash (hasher : Hasher σ) (writes : List Write) : UInt64 :=
  hasher.finish (writes.foldl hasher.write hasher.new)

/-- It remembers what is written, and tells one sequence from all others. -/
def telling (target : List Write) : Hasher (List Write) where
  new := []
  write written piece := written ++ [piece]
  finish written := if written = target then 1 else 0

theorem hash_telling (target writes : List Write) :
    (telling target).hash writes = if writes = target then 1 else 0 := by
  have hwritten (front : List Write) :
      writes.foldl (telling target).write front = front ++ writes := by
    induction writes generalizing front with
    | nil => exact (List.append_nil front).symm
    | cons piece rest ih =>
      rw [List.foldl_cons, ih, telling, List.append_assoc, List.singleton_append]
  rw [hash, hwritten]
  rfl

/-- **Whatever the hasher**, only the same writes hash the same. -/
theorem hash_eq_iff (writes writes' : List Write) :
    (∀ (σ : Type) (hasher : Hasher σ), hasher.hash writes = hasher.hash writes') ↔
      writes = writes' := by
  constructor
  · intro h
    refine Decidable.byContradiction fun hne => ?_
    have hsame := h _ (telling writes)
    rw [hash_telling, hash_telling, if_pos rfl, if_neg (Ne.symm hne)] at hsame
    exact absurd hsame (by decide)
  · rintro rfl _ _
    rfl

end Hasher

/-! ## SipHash -/

/-- The four words. -/
structure SipState where
  v0 : UInt64
  v1 : UInt64
  v2 : UInt64
  v3 : UInt64

/-- The bits that leave at the top come back at the bottom. -/
def rotateLeft (x n : UInt64) : UInt64 := x <<< n ||| x >>> (64 - n)

namespace SipState

/-- The words at the beginning. -/
def ofKeys (k0 k1 : UInt64) : SipState :=
  ⟨k0 ^^^ 0x736f6d6570736575, k1 ^^^ 0x646f72616e646f6d, k0 ^^^ 0x6c7967656e657261,
    k1 ^^^ 0x7465646279746573⟩

/-- One round. -/
def round (s : SipState) : SipState :=
  let v0 := s.v0 + s.v1
  let v1 := rotateLeft s.v1 13 ^^^ v0
  let v2 := s.v2 + s.v3
  let v3 := rotateLeft s.v3 16 ^^^ v2
  let v0 := rotateLeft v0 32 + v3
  let v2 := v2 + v1
  ⟨v0, rotateLeft v1 17 ^^^ v2, rotateLeft v2 32, rotateLeft v3 21 ^^^ v0⟩

/-- One word of input. -/
def compress (s : SipState) (word : UInt64) : SipState :=
  let after := round { s with v3 := s.v3 ^^^ word }
  { after with v0 := after.v0 ^^^ word }

/-- Three rounds at the end. -/
def finalize (s : SipState) : UInt64 :=
  let after := round (round (round { s with v2 := s.v2 ^^^ 0xff }))
  after.v0 ^^^ after.v1 ^^^ after.v2 ^^^ after.v3

end SipState

/-- Bytes as a number, the lowest first. -/
def littleEndian (bytes : List UInt8) : UInt64 :=
  bytes.foldr (fun byte high => high <<< 8 ||| byte.toUInt64) 0

/-- Eight bytes at a time; the last word has the length at its top. -/
def sipBlocks (length : UInt64) (s : SipState) : List UInt8 → UInt64
  | b0 :: b1 :: b2 :: b3 :: b4 :: b5 :: b6 :: b7 :: rest =>
    sipBlocks length (s.compress (littleEndian [b0, b1, b2, b3, b4, b5, b6, b7])) rest
  | rest => (s.compress (length <<< 56 ||| littleEndian rest)).finalize

/-- SipHash-1-3. -/
def sipHash (k0 k1 : UInt64) (bytes : List UInt8) : UInt64 :=
  sipBlocks (UInt64.ofNat bytes.length) (SipState.ofKeys k0 k1) bytes

/-- The bytes that a piece is written as: a text ends with a byte that is in no text, a number has
    its lowest byte first. -/
def Write.bytes : Write → List UInt8
  | .str text => text.toUTF8.toList ++ [0xff]
  | .u32 n => (List.range 4).map fun i => UInt8.ofNat (n >>> (8 * i))

/-- `DefaultHasher`. -/
def defaultHasher : Hasher (List UInt8) where
  new := []
  write written piece := written ++ piece.bytes
  finish := sipHash 0 0

/-- Nothing written. -/
example : defaultHasher.hash [] = 15130871412783076140 := by decide +kernel

end Lib
