/-
  Hexadecimal text for byte strings.

  `encode` writes two UPPER-case digits per byte, most significant first, and `encodeLower` two
  lower-case ones; `decode` reads digits of either case and refuses an odd length or a foreign
  character.  `decode_encode` and `decodeChars_encodeLower` are the round trips, and
  `encodeLower_injective` says that different bytes have different texts.
-/
import Mathlib.Data.List.Basic

namespace Lib.Hex

/-- The digit of a number below sixteen. -/
def digit (n : Nat) : Char :=
  if n < 10 then Char.ofNat ('0'.toNat + n) else Char.ofNat ('A'.toNat + (n - 10))

/-- The number a digit stands for. -/
def value? (c : Char) : Option Nat :=
  if '0' ≤ c ∧ c ≤ '9' then some (c.toNat - '0'.toNat)
  else if 'A' ≤ c ∧ c ≤ 'F' then some (c.toNat - 'A'.toNat + 10)
  else if 'a' ≤ c ∧ c ≤ 'f' then some (c.toNat - 'a'.toNat + 10)
  else none

def encodeChars : List UInt8 → List Char
  | [] => []
  | b :: bs => digit (b.toNat / 16) :: digit (b.toNat % 16) :: encodeChars bs

def decodeChars : List Char → Option (List UInt8)
  | [] => some []
  | [_] => none
  | hi :: lo :: rest =>
    match value? hi, value? lo, decodeChars rest with
    | some h, some l, some bs => some (UInt8.ofNat (16 * h + l) :: bs)
    | _, _, _ => none

/-- Two digits per byte. -/
def encode (bs : List UInt8) : String := String.ofList (encodeChars bs)

/-- The bytes a digit string stands for. -/
def decode (s : String) : Option (List UInt8) := decodeChars s.toList

theorem value?_digit {n : Nat} (h : n < 16) : value? (digit n) = some n := by
  have hall : ∀ k : Fin 16, value? (digit k.val) = some k.val := by decide
  exact hall ⟨n, h⟩

theorem decodeChars_encodeChars (bs : List UInt8) : decodeChars (encodeChars bs) = some bs := by
  induction bs with
  | nil => rfl
  | cons b bs ih =>
    have hb : b.toNat < 256 := b.toNat_lt
    have hhi : value? (digit (b.toNat / 16)) = some (b.toNat / 16) := value?_digit (by omega)
    have hlo : value? (digit (b.toNat % 16)) = some (b.toNat % 16) := value?_digit (by omega)
    rw [encodeChars, decodeChars, hhi, hlo, ih]
    have hbyte : 16 * (b.toNat / 16) + b.toNat % 16 = b.toNat := Nat.div_add_mod _ _
    simp only [hbyte, UInt8.ofNat_toNat]

/-- **Round trip**: decoding an encoded byte string gives it back. -/
theorem decode_encode (bs : List UInt8) : decode (encode bs) = some bs := by
  rw [decode, encode, String.toList_ofList]
  exact decodeChars_encodeChars bs

/-! ## Lower case -/

/-- The lower-case digit of a number below sixteen. -/
def lowerDigit (n : Nat) : Char :=
  if n < 10 then Char.ofNat ('0'.toNat + n) else Char.ofNat ('a'.toNat + (n - 10))

/-- Two lower-case digits per byte. -/
def encodeLower (bs : List UInt8) : String :=
  String.ofList (bs.flatMap (fun b => [lowerDigit (b.toNat / 16), lowerDigit (b.toNat % 16)]))

theorem lowerDigit_inj {m n : Nat} (hm : m < 16) (hn : n < 16)
    (h : lowerDigit m = lowerDigit n) : m = n := by
  have hall : ∀ i j : Fin 16, lowerDigit i.val = lowerDigit j.val → i = j := by decide
  exact congrArg Fin.val (hall ⟨m, hm⟩ ⟨n, hn⟩ h)

theorem value?_lowerDigit {n : Nat} (h : n < 16) : value? (lowerDigit n) = some n := by
  have hall : ∀ k : Fin 16, value? (lowerDigit k.val) = some k.val := by decide
  exact hall ⟨n, h⟩

/-- Lower-case digits are read back too. -/
theorem decodeChars_encodeLower (bs : List UInt8) :
    decodeChars (encodeLower bs).toList = some bs := by
  rw [encodeLower, String.toList_ofList]
  induction bs with
  | nil => rfl
  | cons b bs ih =>
    have hb : b.toNat < 256 := b.toNat_lt
    have hhi : value? (lowerDigit (b.toNat / 16)) = some (b.toNat / 16) :=
      value?_lowerDigit (by omega)
    have hlo : value? (lowerDigit (b.toNat % 16)) = some (b.toNat % 16) :=
      value?_lowerDigit (by omega)
    simp only [List.flatMap_cons, List.cons_append, List.nil_append, decodeChars, hhi, hlo, ih]
    have hbyte : 16 * (b.toNat / 16) + b.toNat % 16 = b.toNat := Nat.div_add_mod _ _
    simp only [hbyte, UInt8.ofNat_toNat]

theorem length_encodeLower (bs : List UInt8) : (encodeLower bs).toList.length = 2 * bs.length := by
  rw [encodeLower, String.toList_ofList]
  induction bs with
  | nil => rfl
  | cons b bs ih =>
    rw [List.flatMap_cons, List.length_append, ih, List.length_cons]
    simp only [List.length_cons, List.length_nil]
    omega

/-- What holds of every lower-case digit holds of every character of the text. -/
theorem forall_mem_encodeLower {P : Char → Prop} (h : ∀ n < 16, P (lowerDigit n))
    (bs : List UInt8) : ∀ c ∈ (encodeLower bs).toList, P c := by
  intro c hc
  rw [encodeLower, String.toList_ofList] at hc
  obtain ⟨b, -, hc⟩ := List.mem_flatMap.mp hc
  have hb : b.toNat < 256 := b.toNat_lt
  rcases List.mem_cons.mp hc with rfl | hc
  · exact h _ (by omega)
  · rw [List.mem_singleton.mp hc]
    exact h _ (by omega)

/-- Bytes are told apart by their digits. -/
theorem encodeLower_injective : Function.Injective encodeLower := by
  intro xs ys h
  have hchars := congrArg String.toList h
  rw [encodeLower, encodeLower, String.toList_ofList, String.toList_ofList] at hchars
  clear h
  induction xs generalizing ys with
  | nil =>
    cases ys with
    | nil => rfl
    | cons y ys => nomatch hchars
  | cons x xs ih =>
    cases ys with
    | nil => nomatch hchars
    | cons y ys =>
      simp only [List.flatMap_cons, List.cons_append, List.nil_append, List.cons.injEq] at hchars
      obtain ⟨hhi, hlo, hrest⟩ := hchars
      have hx : x.toNat < 256 := x.toNat_lt
      have hy : y.toNat < 256 := y.toNat_lt
      have hdiv := lowerDigit_inj (by omega) (by omega) hhi
      have hmod := lowerDigit_inj (by omega) (by omega) hlo
      have hbyte : x = y := UInt8.toNat.inj (by omega)
      rw [hbyte, ih hrest]

example : encodeLower [171, 7] = "ab07" := by decide

end Lib.Hex
