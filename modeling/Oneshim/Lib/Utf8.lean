/-
  Text by byte offsets, as a `&str` is used.

  A text is its characters; an offset counts the bytes before a place.  Not every offset is a place:
  one in the middle of a character is not, nor one behind the end, and a slice that begins or ends
  there fails.

  * `cutBytes`             — the text before and after an offset (`cutBytes_eq_some_iff`);
  * `sliceFrom`            — `&s[n..]`, as `Text.sliceTo` is `&s[..n]`; `slice` — `&s[m..n]`;
  * `find`                 — `str::find` with a text: the offset of its first occurrence;
  * `findWhere`            — `str::find` with a closure, `unwrap_or` the length.

  What `find` finds is a place (`exists_of_find`), so slices there do not fail.  Where characters
  are replaced by others of their sizes all places stay (`sliceFrom_map`, `find_map`).
-/
import Oneshim.Lib.Text

namespace Lib.Utf8

open Lib.Text (utf8Len cutAt sliceTo)

/-! ## Offsets -/

@[simp] theorem utf8Len_cons (c : Char) (cs : List Char) :
    utf8Len (c :: cs) = c.utf8Size + utf8Len cs := rfl

@[simp] theorem utf8Len_append (a b : List Char) : utf8Len (a ++ b) = utf8Len a + utf8Len b := by
  simp [utf8Len]

theorem length_le_utf8Len (s : List Char) : s.length ≤ utf8Len s := by
  induction s with
  | nil => exact Nat.le_refl 0
  | cons c cs ih =>
    have hc := c.utf8Size_pos
    rw [List.length_cons, utf8Len_cons]
    omega

theorem utf8Len_eq_zero {s : List Char} (h : utf8Len s = 0) : s = [] := by
  have hle := length_le_utf8Len s
  exact List.length_eq_zero_iff.mp (by omega)

/-- The text before and after an offset. -/
def cutBytes : Nat → List Char → Option (List Char × List Char)
  | 0, cs => some ([], cs)
  | _ + 1, [] => none
  | n + 1, c :: cs =>
    if c.utf8Size ≤ n + 1 then
      (cutBytes (n + 1 - c.utf8Size) cs).map fun cut => (c :: cut.1, cut.2)
    else none

theorem cutBytes_append (a b : List Char) : cutBytes (utf8Len a) (a ++ b) = some (a, b) := by
  induction a with
  | nil => cases b <;> rfl
  | cons c a ih =>
    have hc := c.utf8Size_pos
    obtain ⟨n, hn⟩ : ∃ n, utf8Len (c :: a) = n + 1 := ⟨utf8Len (c :: a) - 1, by
      rw [utf8Len_cons]
      omega⟩
    rw [hn, List.cons_append, cutBytes]
    rw [utf8Len_cons] at hn
    rw [if_pos (by omega), show n + 1 - c.utf8Size = utf8Len a by omega, ih]
    rfl

/-- **An offset is a place** where the bytes before it are whole characters. -/
theorem cutBytes_eq_some_iff {n : Nat} {s a b : List Char} :
    cutBytes n s = some (a, b) ↔ s = a ++ b ∧ utf8Len a = n := by
  constructor
  · intro h
    induction s generalizing n a b with
    | nil =>
      cases n with
      | zero =>
        cases h
        exact ⟨rfl, rfl⟩
      | succ n => cases h
    | cons c cs ih =>
      cases n with
      | zero =>
        cases h
        exact ⟨rfl, rfl⟩
      | succ n =>
        rw [cutBytes] at h
        split at h
        · next hle =>
          obtain ⟨cut, hcut, heq⟩ := Option.map_eq_some_iff.mp h
          obtain ⟨hcs, hlen⟩ := ih hcut
          cases heq
          refine ⟨by rw [hcs]; rfl, ?_⟩
          rw [utf8Len_cons, hlen]
          omega
        · cases h
  · rintro ⟨rfl, rfl⟩
    exact cutBytes_append a b

/-- `&s[n..]`. -/
def sliceFrom (n : Nat) (s : List Char) : Option (List Char) := (cutBytes n s).map (·.2)

theorem sliceTo_eq (n : Nat) (s : List Char) : sliceTo n s = (cutBytes n s).map (·.1) := by
  induction s generalizing n with
  | nil => cases n <;> rfl
  | cons c cs ih =>
    cases n with
    | zero => rfl
    | succ n =>
      rw [sliceTo, cutBytes, ih]
      split
      · rw [Option.map_map, Option.map_map]
        rfl
      · rfl

/-- `&s[m..n]`. -/
def slice (m n : Nat) (s : List Char) : Option (List Char) := (sliceTo n s).bind (sliceFrom m)

/-- `is_char_boundary`. -/
def IsPlace (n : Nat) (s : List Char) : Prop := ∃ a b, s = a ++ b ∧ utf8Len a = n

theorem sliceFrom_append (a b : List Char) : sliceFrom (utf8Len a) (a ++ b) = some b := by
  rw [sliceFrom, cutBytes_append]
  rfl

theorem sliceTo_append (a b : List Char) : sliceTo (utf8Len a) (a ++ b) = some a := by
  rw [sliceTo_eq, cutBytes_append]
  rfl

theorem sliceFrom_eq_some_iff {n : Nat} {s b : List Char} :
    sliceFrom n s = some b ↔ ∃ a, s = a ++ b ∧ utf8Len a = n := by
  rw [sliceFrom, Option.map_eq_some_iff]
  constructor
  · rintro ⟨⟨a, _⟩, hcut, rfl⟩
    exact ⟨a, cutBytes_eq_some_iff.mp hcut⟩
  · rintro ⟨a, h⟩
    exact ⟨(a, b), cutBytes_eq_some_iff.mpr h, rfl⟩

/-- A place of the rest is a place behind what is before it. -/
theorem sliceFrom_add (a b : List Char) (n : Nat) :
    sliceFrom (utf8Len a + n) (a ++ b) = sliceFrom n b := by
  cases h : sliceFrom n b with
  | some c =>
    obtain ⟨d, rfl, rfl⟩ := sliceFrom_eq_some_iff.mp h
    exact sliceFrom_eq_some_iff.mpr ⟨a ++ d, (List.append_assoc a d c).symm, utf8Len_append a d⟩
  | none =>
    by_contra hsome
    obtain ⟨c, hc⟩ := Option.ne_none_iff_exists'.mp hsome
    obtain ⟨x, hx, hlen⟩ := sliceFrom_eq_some_iff.mp hc
    have hle : utf8Len a ≤ utf8Len x := by omega
    -- a place behind the first part cuts the second
    obtain ⟨d, rfl⟩ : a <+: x := by
      rcases List.prefix_or_prefix_of_prefix ⟨b, rfl⟩ ⟨c, hx.symm⟩ with hax | ⟨d, hxa⟩
      · exact hax
      · have hd : utf8Len d = 0 := by
          have hlength := congrArg utf8Len hxa
          rw [utf8Len_append] at hlength
          omega
        rw [utf8Len_eq_zero hd, List.append_nil] at hxa
        exact ⟨[], by rw [List.append_nil, hxa]⟩
    rw [List.append_assoc] at hx
    rw [utf8Len_append] at hlen
    have hsome : sliceFrom n b = some c :=
      sliceFrom_eq_some_iff.mpr ⟨d, List.append_cancel_left hx, by omega⟩
    rw [h] at hsome
    cases hsome

theorem sliceTo_eq_some_iff {n : Nat} {s a : List Char} :
    sliceTo n s = some a ↔ (∃ b, s = a ++ b) ∧ utf8Len a = n := by
  rw [sliceTo_eq, Option.map_eq_some_iff]
  constructor
  · rintro ⟨⟨_, b⟩, hcut, rfl⟩
    obtain ⟨heq, hlen⟩ := cutBytes_eq_some_iff.mp hcut
    exact ⟨⟨b, heq⟩, hlen⟩
  · rintro ⟨⟨b, heq⟩, hlen⟩
    exact ⟨(a, b), cutBytes_eq_some_iff.mpr ⟨heq, hlen⟩, rfl⟩

theorem slice_append (a b c : List Char) :
    slice (utf8Len a) (utf8Len a + utf8Len b) (a ++ (b ++ c)) = some b := by
  rw [slice, ← utf8Len_append, ← List.append_assoc, sliceTo_append, Option.bind_some,
    sliceFrom_append]

theorem sliceFrom_isSome_iff {n : Nat} {s : List Char} :
    (sliceFrom n s).isSome = true ↔ IsPlace n s := by
  rw [Option.isSome_iff_exists]
  constructor
  · rintro ⟨b, hb⟩
    obtain ⟨a, h⟩ := sliceFrom_eq_some_iff.mp hb
    exact ⟨a, b, h⟩
  · rintro ⟨a, b, h⟩
    exact ⟨b, sliceFrom_eq_some_iff.mpr ⟨a, h⟩⟩

theorem sliceTo_isSome_iff {n : Nat} {s : List Char} :
    (sliceTo n s).isSome = true ↔ IsPlace n s := by
  rw [Option.isSome_iff_exists]
  constructor
  · rintro ⟨a, ha⟩
    obtain ⟨⟨b, heq⟩, hlen⟩ := sliceTo_eq_some_iff.mp ha
    exact ⟨a, b, heq, hlen⟩
  · rintro ⟨a, b, heq, hlen⟩
    exact ⟨a, sliceTo_eq_some_iff.mpr ⟨⟨b, heq⟩, hlen⟩⟩

/-! ## Finding -/

/-- A cut is around the text that was looked for. -/
theorem eq_of_cutAt {pattern s before after : List Char}
    (h : cutAt pattern s = some (before, after)) : s = before ++ (pattern ++ after) := by
  induction s generalizing before after with
  | nil =>
    unfold cutAt at h
    split at h
    · next hempty =>
      cases h
      rw [List.isEmpty_iff.mp hempty]
      rfl
    · cases h
  | cons c cs ih =>
    unfold cutAt at h
    split at h
    · next hhere =>
      cases h
      obtain ⟨rest, hrest⟩ := List.isPrefixOf_iff_prefix.mp hhere
      rw [← hrest, List.drop_left, List.nil_append]
    · obtain ⟨cut, hcut, heq⟩ := Option.map_eq_some_iff.mp h
      cases heq
      rw [ih hcut]
      rfl

/-- The cut is around the first one. -/
theorem length_le_of_cutAt {pattern s before after front rest : List Char}
    (h : cutAt pattern s = some (before, after)) (hs : s = front ++ (pattern ++ rest)) :
    before.length ≤ front.length := by
  induction s generalizing before front with
  | nil =>
    unfold cutAt at h
    split at h
    · cases h
      exact Nat.zero_le _
    · cases h
  | cons c cs ih =>
    unfold cutAt at h
    split at h
    · cases h
      exact Nat.zero_le _
    · next hhere =>
      obtain ⟨⟨before', after'⟩, hcut, heq⟩ := Option.map_eq_some_iff.mp h
      cases heq
      cases front with
      | nil => exact absurd (List.isPrefixOf_iff_prefix.mpr ⟨rest, hs.symm⟩) hhere
      | cons d front =>
        rw [List.cons_append, List.cons.injEq] at hs
        exact Nat.succ_le_succ (ih hcut hs.2)

/-- A text that occurs is found. -/
theorem cutAt_isSome_iff {pattern s : List Char} :
    (cutAt pattern s).isSome = true ↔ pattern <:+: s := by
  induction s with
  | nil =>
    unfold cutAt
    rw [List.infix_nil]
    cases pattern <;> simp
  | cons c cs ih =>
    unfold cutAt
    split
    · next hhere =>
      exact iff_of_true rfl (List.isPrefixOf_iff_prefix.mp hhere).isInfix
    · next hhere =>
      rw [Option.isSome_map, ih, List.infix_cons_iff]
      constructor
      · exact .inr
      · rintro (hbegins | hlater)
        · exact absurd (List.isPrefixOf_iff_prefix.mpr hbegins) hhere
        · exact hlater

/-- `str::find` with a text. -/
def find (pattern s : List Char) : Option Nat := (cutAt pattern s).map fun cut => utf8Len cut.1

/-- **What is found is a place.** -/
theorem exists_of_find {pattern s : List Char} {n : Nat} (h : find pattern s = some n) :
    ∃ before after, s = before ++ (pattern ++ after) ∧ utf8Len before = n := by
  obtain ⟨⟨before, after⟩, hcut, hn⟩ := Option.map_eq_some_iff.mp h
  exact ⟨before, after, eq_of_cutAt hcut, hn⟩

/-- **It is the first one.** -/
theorem find_first {pattern s before after front rest : List Char} (hs : s = before ++ after)
    (h : find pattern s = some (utf8Len before)) (hother : s = front ++ (pattern ++ rest)) :
    before.length ≤ front.length := by
  obtain ⟨⟨before', after'⟩, hcut, hlen⟩ := Option.map_eq_some_iff.mp h
  have hfirst := length_le_of_cutAt hcut hother
  -- both cuts are at the same byte
  have hsame : before' = before := by
    have hcutAt := sliceTo_append before' (pattern ++ after')
    rw [← eq_of_cutAt hcut, hlen, hs, sliceTo_append, Option.some.injEq] at hcutAt
    exact hcutAt.symm
  exact hsame ▸ hfirst

theorem find_eq_none_iff {pattern s : List Char} : find pattern s = none ↔ ¬ pattern <:+: s := by
  rw [find, Option.map_eq_none_iff, ← cutAt_isSome_iff, Option.not_isSome_iff_eq_none]

/-- `str::find` with a closure, `unwrap_or` the length. -/
def findWhere (p : Char → Bool) (s : List Char) : Nat := utf8Len (s.takeWhile fun c => !p c)

theorem sliceFrom_findWhere (p : Char → Bool) (s : List Char) :
    sliceFrom (findWhere p s) s = some (s.dropWhile fun c => !p c) := by
  have h := sliceFrom_append (s.takeWhile fun c => !p c) (s.dropWhile fun c => !p c)
  rwa [List.takeWhile_append_dropWhile] at h

/-! ## Other characters of the same sizes -/

section

variable {f : Char → Char} (hsize : ∀ c, (f c).utf8Size = c.utf8Size)
include hsize

theorem utf8Len_map (s : List Char) : utf8Len (s.map f) = utf8Len s := by
  induction s with
  | nil => rfl
  | cons c cs ih => rw [List.map_cons, utf8Len_cons, utf8Len_cons, hsize, ih]

theorem cutBytes_map (n : Nat) (s : List Char) : cutBytes n (s.map f) =
    (cutBytes n s).map fun cut => (cut.1.map f, cut.2.map f) := by
  induction s generalizing n with
  | nil => cases n <;> rfl
  | cons c cs ih =>
    cases n with
    | zero => rfl
    | succ n =>
      rw [List.map_cons, cutBytes, cutBytes, hsize]
      split
      · rw [ih, Option.map_map, Option.map_map]
        rfl
      · rfl

theorem sliceFrom_map (n : Nat) (s : List Char) :
    sliceFrom n (s.map f) = (sliceFrom n s).map (·.map f) := by
  rw [sliceFrom, sliceFrom, cutBytes_map hsize, Option.map_map, Option.map_map]
  rfl

/-- A text is found at the same place when no other character becomes one of its own. -/
theorem find_map {pattern : List Char} (hpattern : ∀ p ∈ pattern, ∀ c, f c = p ↔ c = p)
    (s : List Char) : find pattern (s.map f) = find pattern s := by
  have hhere : ∀ s : List Char, pattern.isPrefixOf (s.map f) = pattern.isPrefixOf s := by
    clear hsize
    induction pattern with
    | nil => exact fun _ => rfl
    | cons p ps ih =>
      intro s
      cases s with
      | nil => rfl
      | cons c cs =>
        rw [List.map_cons, List.isPrefixOf_cons_cons, List.isPrefixOf_cons_cons,
          ih (fun q hq => hpattern q (List.mem_cons_of_mem p hq))]
        congr 1
        rw [Bool.eq_iff_iff, beq_iff_eq, beq_iff_eq, eq_comm, hpattern p List.mem_cons_self,
          eq_comm]
  induction s with
  | nil => rfl
  | cons c cs ih =>
    unfold find at ih ⊢
    have hcut := hhere (c :: cs)
    rw [List.map_cons] at hcut ⊢
    rw [cutAt, cutAt, hcut]
    split
    · rfl
    · rw [Option.map_map, Option.map_map]
      have hrest := congrArg (Option.map (c.utf8Size + ·)) ih
      rw [Option.map_map, Option.map_map] at hrest
      refine Eq.trans ?_ (hrest.trans ?_)
      · congr 1
        funext cut
        show utf8Len (f c :: cut.1) = _
        rw [utf8Len_cons, hsize]
        rfl
      · rfl

end

end Lib.Utf8
