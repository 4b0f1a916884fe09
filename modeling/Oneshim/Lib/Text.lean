/-
  Text: cutting at a separator, white space, and decimal numbers.

  * `splitLast`     — cut at the LAST occurrence of a separator;
  * `split`         — cut at every occurrence of a separator;
  * `cutAt`         — cut at the FIRST occurrence of a text;
  * `trim`, `firstWord` — without the white space around it, and up to the next white space;
  * `splitWhitespace`, `sliceTo` — the words, and the first bytes;
  * `decimal`       — a number in base ten, no leading zeros;
  * `parseUnsigned` — read a number below a bound: an optional `+`, then at least one digit and
    nothing but digits;
  * `signedDecimal`, `parseSigned` — the same with a minus sign.

  A printed number contains no separator (`decimal_ne`) and is read back (`parseUnsigned_decimal`),
  so fields printed with separators in between can be cut apart again from the right.
-/
import Mathlib.Algebra.GroupWithZero.Nat
import Mathlib.Data.List.Basic
import Mathlib.Data.List.DropRight
import Mathlib.Data.List.Infix

namespace Lib
namespace Text

/-! ## Cutting -/

/-- The text before and after the last `sep`. -/
def splitLast (sep : Char) : List Char → Option (List Char × List Char)
  | [] => none
  | c :: cs =>
    match splitLast sep cs with
    | some (before, after) => some (c :: before, after)
    | none => if c = sep then some ([], cs) else none

variable {sep : Char}

theorem splitLast_eq_none {cs : List Char} (h : ∀ c ∈ cs, c ≠ sep) :
    splitLast sep cs = none := by
  induction cs with
  | nil => rfl
  | cons c cs ih =>
    have hrest := ih (fun x hx => h x (List.mem_cons_of_mem c hx))
    rw [splitLast, hrest]
    exact if_neg (h c List.mem_cons_self)

/-- The cut is where it was made, when nothing after it looks like a separator. -/
theorem splitLast_append (before : List Char) {after : List Char} (h : ∀ c ∈ after, c ≠ sep) :
    splitLast sep (before ++ sep :: after) = some (before, after) := by
  induction before with
  | nil =>
    rw [List.nil_append, splitLast, splitLast_eq_none h]
    exact if_pos rfl
  | cons c before ih => rw [List.cons_append, splitLast, ih]

/-- The text before and after the first `sep`. -/
def cutAt (sep : List Char) : List Char → Option (List Char × List Char)
  | [] => if sep.isEmpty then some ([], []) else none
  | c :: cs =>
    if sep.isPrefixOf (c :: cs) then some ([], (c :: cs).drop sep.length)
    else (cutAt sep cs).map fun cut => (c :: cut.1, cut.2)

/-- Texts that begin differently are different. -/
theorem append_ne_append {a b c d : String} (n : Nat) (ha : n ≤ a.toList.length)
    (hc : n ≤ c.toList.length) (h : a.toList.take n ≠ c.toList.take n) : a ++ b ≠ c ++ d := by
  intro heq
  have hlist := congrArg (fun s => s.toList.take n) heq
  simp only [String.toList_append] at hlist
  rw [List.take_append_of_le_length ha, List.take_append_of_le_length hc] at hlist
  exact h hlist

/-- Fields without the separator can be cut apart again. -/
theorem append_cons_inj {a b x y : List Char} (ha : ∀ c ∈ a, c ≠ sep) (hb : ∀ c ∈ b, c ≠ sep)
    (h : a ++ sep :: x = b ++ sep :: y) : a = b ∧ x = y := by
  induction a generalizing b with
  | nil =>
    cases b with
    | nil => exact ⟨rfl, (List.cons.inj h).2⟩
    | cons d b => exact absurd (List.cons.inj h).1.symm (hb d List.mem_cons_self)
  | cons c a ih =>
    cases b with
    | nil => exact absurd (List.cons.inj h).1 (ha c List.mem_cons_self)
    | cons d b =>
      obtain ⟨rfl, htail⟩ := List.cons.inj h
      obtain ⟨rfl, hrest⟩ := ih (fun e he => ha e (List.mem_cons_of_mem c he))
        (fun e he => hb e (List.mem_cons_of_mem c he)) htail
      exact ⟨rfl, hrest⟩

/-- Does `part` occur in `s`? -/
def contains (s part : List Char) : Bool := decide (part <:+: s)

/-! ## White space and case -/

/-- The characters with the Unicode property `White_Space`. -/
def isWhitespace (c : Char) : Bool :=
  (0x09 ≤ c.toNat && c.toNat ≤ 0x0D) || (0x2000 ≤ c.toNat && c.toNat ≤ 0x200A) ||
    [0x20, 0x85, 0xA0, 0x1680, 0x2028, 0x2029, 0x202F, 0x205F, 0x3000].contains c.toNat

/-- Without the white space at either end. -/
def trim (s : List Char) : List Char :=
  ((s.dropWhile isWhitespace).reverse.dropWhile isWhitespace).reverse

/-- The words between the white space. -/
def splitWhitespace (s : List Char) : List (List Char) :=
  (s.splitOnP isWhitespace).filter fun word => !word.isEmpty

/-- The length in UTF-8. -/
def utf8Len (s : List Char) : Nat := (s.map Char.utf8Size).sum

/-- The first `n` bytes; none where they end inside a character or there are fewer. -/
def sliceTo : Nat → List Char → Option (List Char)
  | 0, _ => some []
  | _ + 1, [] => none
  | n + 1, c :: cs =>
    if c.utf8Size ≤ n + 1 then (sliceTo (n + 1 - c.utf8Size) cs).map (c :: ·) else none

/-- The parts between the separators; there is always one. -/
def split (sep : Char) : List Char → List (List Char)
  | [] => [[]]
  | c :: cs =>
    if c = sep then [] :: split sep cs
    else
      match split sep cs with
      | [] => [[c]]
      | part :: parts => (c :: part) :: parts

theorem split_ne_nil (sep : Char) (cs : List Char) : split sep cs ≠ [] := by
  cases cs with
  | nil => exact List.cons_ne_nil _ _
  | cons c cs =>
    unfold split
    split
    · exact List.cons_ne_nil _ _
    · split
      · exact List.cons_ne_nil _ _
      · exact List.cons_ne_nil _ _

/-- A character in front goes to the first part. -/
theorem split_cons_of_ne {sep c : Char} (hc : c ≠ sep) {cs part : List Char}
    {parts : List (List Char)} (h : split sep cs = part :: parts) :
    split sep (c :: cs) = (c :: part) :: parts := by
  simp only [split, if_neg hc, h]

/-- A character at the end goes to the last part. -/
theorem split_concat_of_ne {sep c : Char} (hc : c ≠ sep) (cs : List Char) :
    ∃ init last, split sep cs = init ++ [last] ∧ split sep (cs ++ [c]) = init ++ [last ++ [c]] := by
  induction cs with
  | nil => exact ⟨[], [], rfl, by simp only [List.nil_append, split, if_neg hc]⟩
  | cons d cs ih =>
    obtain ⟨init, last, hcs, hconcat⟩ := ih
    by_cases hd : d = sep
    · exact ⟨[] :: init, last, by simp only [split, if_pos hd, hcs, List.cons_append],
        by simp only [List.cons_append, split, if_pos hd, hconcat]⟩
    · cases init with
      | nil => exact ⟨[], d :: last, split_cons_of_ne hd hcs, split_cons_of_ne hd hconcat⟩
      | cons part init =>
        exact ⟨(d :: part) :: init, last, split_cons_of_ne hd hcs, split_cons_of_ne hd hconcat⟩

theorem trim_cons_of_isWhitespace {c : Char} (hc : isWhitespace c = true) (cs : List Char) :
    trim (c :: cs) = trim cs := by
  unfold trim
  rw [List.dropWhile_cons_of_pos hc]

theorem trim_concat_of_isWhitespace {c : Char} (hc : isWhitespace c = true) (cs : List Char) :
    trim (cs ++ [c]) = trim cs := by
  unfold trim
  rw [List.dropWhile_append]
  split
  · next hempty =>
    rw [List.isEmpty_iff.mp hempty, List.dropWhile_cons_of_pos hc]
    rfl
  · rw [List.reverse_append, List.reverse_singleton, List.singleton_append,
      List.dropWhile_cons_of_pos hc]

/-- **White space around the whole text does not matter** for its trimmed parts. -/
theorem map_trim_split_trim (hsep : isWhitespace sep = false) (s : List Char) :
    (split sep (trim s)).map trim = (split sep s).map trim := by
  have hne : ∀ {c}, isWhitespace c = true → c ≠ sep := by
    rintro c hc rfl
    rw [hsep] at hc
    cases hc
  have hfront : ∀ s, (split sep (s.dropWhile isWhitespace)).map trim = (split sep s).map trim := by
    intro s
    induction s with
    | nil => rfl
    | cons c cs ih =>
      by_cases hc : isWhitespace c = true
      · obtain ⟨part, parts, hcs⟩ := List.exists_cons_of_ne_nil (split_ne_nil sep cs)
        rw [List.dropWhile_cons_of_pos hc, ih, split_cons_of_ne (hne hc) hcs, hcs, List.map_cons,
          List.map_cons, trim_cons_of_isWhitespace hc]
      · rw [List.dropWhile_cons_of_neg hc]
  have hback : ∀ s, (split sep (s.rdropWhile isWhitespace)).map trim = (split sep s).map trim := by
    intro s
    induction s using List.reverseRecOn with
    | nil => rfl
    | append_singleton cs c ih =>
      by_cases hc : isWhitespace c = true
      · obtain ⟨init, last, hcs, hconcat⟩ := split_concat_of_ne (hne hc) cs
        rw [List.rdropWhile_concat_pos _ _ _ hc, ih, hcs, hconcat, List.map_append, List.map_append,
          List.map_singleton, List.map_singleton, trim_concat_of_isWhitespace hc]
      · rw [List.rdropWhile_concat_neg _ _ _ hc]
  exact (hback _).trans (hfront s)

/-- The parts of a text that goes on after a separator. -/
theorem split_append (sep : Char) (xs ys : List Char) :
    split sep (xs ++ sep :: ys) = split sep xs ++ split sep ys := by
  induction xs with
  | nil => simp only [List.nil_append, split, if_pos, List.cons_append]
  | cons c cs ih =>
    by_cases hc : c = sep
    · simp only [List.cons_append, split, if_pos hc, ih]
    · obtain ⟨part, parts, hcs⟩ := List.exists_cons_of_ne_nil (split_ne_nil sep cs)
      rw [hcs] at ih
      rw [split_cons_of_ne hc hcs, List.cons_append, split_cons_of_ne hc ih]
      rfl

/-- A text without the separator is its only part. -/
theorem split_eq_singleton {s : List Char} (h : ∀ c ∈ s, c ≠ sep) :
    split sep s = [s] := by
  induction s with
  | nil => rfl
  | cons c cs ih =>
    exact split_cons_of_ne (h c List.mem_cons_self) (ih fun c' hc' => h c' (List.mem_cons_of_mem _ hc'))

/-- With the separator there are two parts at least. -/
theorem split_of_mem {s : List Char} (h : sep ∈ s) :
    ∃ first second rest, split sep s = first :: second :: rest := by
  obtain ⟨before, after, rfl⟩ := List.append_of_mem h
  obtain ⟨first, parts, hbefore⟩ := List.exists_cons_of_ne_nil (split_ne_nil sep before)
  obtain ⟨last, rest, hafter⟩ := List.exists_cons_of_ne_nil (split_ne_nil sep after)
  rw [split_append, hbefore, hafter]
  cases parts with
  | nil => exact ⟨first, last, rest, rfl⟩
  | cons second parts => exact ⟨first, second, parts ++ last :: rest, rfl⟩

/-- A text without white space is trimmed. -/
theorem trim_eq_self {s : List Char} (h : ∀ c ∈ s, isWhitespace c = false) : trim s = s := by
  have hkeep : ∀ t : List Char, (∀ c ∈ t, isWhitespace c = false) → t.dropWhile isWhitespace = t := by
    intro t ht
    cases t with
    | nil => rfl
    | cons c cs => exact List.dropWhile_cons_of_neg (by rw [ht c List.mem_cons_self]; decide)
  rw [trim, hkeep s h, hkeep _ (fun c hc => h c (List.mem_reverse.mp hc)), List.reverse_reverse]

/-- White space at the front is no part of a word without any. -/
theorem infix_dropWhile {part s : List Char} (hpart : ∀ c ∈ part, isWhitespace c = false)
    (h : part <:+: s) : part <:+: s.dropWhile isWhitespace := by
  obtain ⟨before, after, rfl⟩ := h
  induction before with
  | nil =>
    cases part with
    | nil => exact List.nil_infix
    | cons c cs =>
      rw [List.nil_append, List.cons_append,
        List.dropWhile_cons_of_neg (by rw [hpart c List.mem_cons_self]; decide)]
      exact ⟨[], after, rfl⟩
  | cons b before ih =>
    by_cases hb : isWhitespace b = true
    · rw [List.cons_append, List.cons_append, List.dropWhile_cons_of_pos hb]
      exact ih
    · rw [List.cons_append, List.cons_append, List.dropWhile_cons_of_neg hb]
      exact ⟨b :: before, after, rfl⟩

/-- Trimming leaves what has no white space in it. -/
theorem infix_trim {part s : List Char} (hpart : ∀ c ∈ part, isWhitespace c = false)
    (h : part <:+: s) : part <:+: trim s := by
  have hback : ∀ c ∈ part.reverse, isWhitespace c = false := fun c hc =>
    hpart c (List.mem_reverse.mp hc)
  have hrev := infix_dropWhile hback (List.reverse_infix.mpr (infix_dropWhile hpart h))
  rw [← List.reverse_infix, List.reverse_reverse] at hrev
  exact hrev

/-- The first word, if there is one. -/
def firstWord (s : List Char) : Option (List Char) :=
  let word := (s.dropWhile isWhitespace).takeWhile (!isWhitespace ·)
  if word.isEmpty then none else some word

/-- The ASCII letters in lower case. -/
def lower (s : List Char) : List Char := s.map Char.toLower

/-! ## Numbers -/

/-- The digits of `n` in base ten. -/
def decimal (n : Nat) : List Char := Nat.toDigits 10 n

/-- Drop one leading plus sign. -/
def stripPlus : List Char → List Char
  | '+' :: rest => rest
  | s => s

/-- Read a number below `bound`. -/
def parseUnsigned (bound : Nat) (s : List Char) : Option Nat :=
  if (stripPlus s).isEmpty || !(stripPlus s).all Char.isDigit then none
  else if Nat.ofDigitChars 10 (stripPlus s) 0 < bound then
    some (Nat.ofDigitChars 10 (stripPlus s) 0)
  else none

theorem isDigit_of_mem_decimal {n : Nat} {c : Char} (h : c ∈ decimal n) : c.isDigit = true :=
  Nat.isDigit_of_mem_toDigits (by decide) (by decide) h

/-- A printed number contains nothing but digits. -/
theorem decimal_ne (hsep : sep.isDigit = false) {n : Nat} {c : Char} (h : c ∈ decimal n) :
    c ≠ sep := by
  rintro rfl
  rw [isDigit_of_mem_decimal h] at hsep
  nomatch hsep

theorem stripPlus_decimal (n : Nat) : stripPlus (decimal n) = decimal n := by
  unfold stripPlus
  split
  · next rest heq =>
    have hplus : '+' ∈ decimal n := heq ▸ List.mem_cons_self
    exact absurd rfl (decimal_ne rfl hplus)
  · rfl

/-- **A printed number is read back.** -/
theorem parseUnsigned_decimal {bound n : Nat} (h : n < bound) :
    parseUnsigned bound (decimal n) = some n := by
  have hne : decimal n ≠ [] := Nat.toDigits_ne_nil
  have hall : (decimal n).all Char.isDigit = true :=
    List.all_eq_true.mpr (fun c hc => isDigit_of_mem_decimal hc)
  have hvalue : Nat.ofDigitChars 10 (decimal n) 0 = n := Nat.ofDigitChars_ten_toDigits
  unfold parseUnsigned
  rw [stripPlus_decimal, hall, List.isEmpty_eq_false_iff.mpr hne, hvalue]
  exact if_pos h

theorem decimal_injective : Function.Injective decimal := by
  intro m n h
  have hm := parseUnsigned_decimal (Nat.lt_succ_of_le (Nat.le_add_right m n))
  have hn := parseUnsigned_decimal (Nat.lt_succ_of_le (Nat.le_add_left n m))
  rw [h, hn] at hm
  exact (Option.some.inj hm).symm

example : parseUnsigned (2 ^ 32) "+42".toList = some 42 := by decide

/-- The number in base ten, after a minus sign when it is negative. -/
def signedDecimal : Int → List Char
  | .ofNat n => decimal n
  | .negSucc n => '-' :: decimal (n + 1)

/-- Read a number from `-bound` to below `bound`. -/
def parseSigned (bound : Nat) : List Char → Option Int
  | '-' :: digits =>
    if digits.isEmpty || !digits.all Char.isDigit then none
    else if Nat.ofDigitChars 10 digits 0 ≤ bound then some (-Int.ofNat (Nat.ofDigitChars 10 digits 0))
    else none
  | s => (parseUnsigned bound s).map Int.ofNat

/-- **A printed signed number is read back.** -/
theorem parseSigned_signedDecimal {bound : Nat} {n : Int} (hlow : -(bound : Int) ≤ n)
    (hhigh : n < bound) : parseSigned bound (signedDecimal n) = some n := by
  cases n with
  | ofNat n =>
    have hread := parseUnsigned_decimal (Int.ofNat_lt.mp hhigh)
    show parseSigned bound (decimal n) = some (Int.ofNat n)
    unfold parseSigned
    split
    · next digits heq =>
      have hminus : '-' ∈ decimal n := heq ▸ List.mem_cons_self
      exact absurd rfl (decimal_ne rfl hminus)
    · rw [hread]
      rfl
  | negSucc n =>
    have hne : decimal (n + 1) ≠ [] := Nat.toDigits_ne_nil
    have hall : (decimal (n + 1)).all Char.isDigit = true :=
      List.all_eq_true.mpr (fun c hc => isDigit_of_mem_decimal hc)
    have hvalue : Nat.ofDigitChars 10 (decimal (n + 1)) 0 = n + 1 :=
      Nat.ofDigitChars_ten_toDigits
    have hbound : n + 1 ≤ bound := by omega
    simp only [signedDecimal, parseSigned, hall, List.isEmpty_eq_false_iff.mpr hne, hvalue]
    exact if_pos hbound

theorem signedDecimal_injective : Function.Injective signedDecimal := by
  intro m n h
  have hm : parseSigned (m.natAbs + n.natAbs + 1) (signedDecimal m) = some m :=
    parseSigned_signedDecimal (by omega) (by omega)
  have hn : parseSigned (m.natAbs + n.natAbs + 1) (signedDecimal n) = some n :=
    parseSigned_signedDecimal (by omega) (by omega)
  rw [h, hn] at hm
  exact (Option.some.inj hm).symm

/-- A printed signed number contains nothing but digits and the minus sign. -/
theorem signedDecimal_ne (hsep : sep.isDigit = false) (hminus : sep ≠ '-') {n : Int} {c : Char}
    (h : c ∈ signedDecimal n) : c ≠ sep := by
  cases n with
  | ofNat n => exact decimal_ne hsep h
  | negSucc n =>
    rcases List.mem_cons.mp h with rfl | hdigit
    · exact hminus.symm
    · exact decimal_ne hsep hdigit

end Text
end Lib
