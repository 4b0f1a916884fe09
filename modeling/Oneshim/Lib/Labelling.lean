/-
  Labels that put points into classes.

  Points with the same label are one class, and a point without a label is alone.  Labels are
  changed in two ways: all points of one label are given another one, or some points of one label
  are given a label that nobody has.

  * `classes` — the classes of a labelling, an equivalence of the points;
  * `Joins s pairs` — the equivalences above `s` that relate every pair, of which the least one is
    what linking the pairs should come to: `isLeast_trans` — one set of pairs after another,
    `isLeast_self` — pairs that are related already;
  * `isLeast_merge` — giving all points of one label another one links a pair, and nothing more;
  * `classes_split_le`, `not_classes_split` — a fresh label for some points of a class refines the
    classes and takes the class apart.
-/
import Mathlib.Data.Setoid.Basic
import Mathlib.Order.Bounds.Basic

namespace Lib.Labelling

variable {ι κ : Type}

/-- The classes of a labelling. -/
def classes (label : ι → Option κ) : Setoid ι where
  r i j := i = j ∨ label i ≠ none ∧ label i = label j
  iseqv :=
    { refl := fun _ => .inl rfl
      symm := by
        rintro i j (rfl | ⟨hi, hij⟩)
        · exact .inl rfl
        · exact .inr ⟨hij ▸ hi, hij.symm⟩
      trans := by
        rintro i j k (rfl | ⟨hi, hij⟩) (rfl | ⟨hj, hjk⟩)
        · exact .inl rfl
        · exact .inr ⟨hj, hjk⟩
        · exact .inr ⟨hi, hij⟩
        · exact .inr ⟨hi, hij.trans hjk⟩ }

theorem classes_of_eq {label : ι → Option κ} {i j : ι} {k : κ} (hi : label i = some k)
    (hj : label j = some k) : classes label i j :=
  .inr ⟨by rw [hi]; exact Option.some_ne_none k, hi.trans hj.symm⟩

/-! ## Linking pairs -/

/-- The equivalences above one that relate every pair. -/
def Joins (s : Setoid ι) (pairs : Set (ι × ι)) : Set (Setoid ι) :=
  {r | s ≤ r ∧ ∀ pair ∈ pairs, r pair.1 pair.2}

theorem isLeast_self {s : Setoid ι} {pairs : Set (ι × ι)}
    (h : ∀ pair ∈ pairs, s pair.1 pair.2) : IsLeast (Joins s pairs) s :=
  ⟨⟨le_refl s, h⟩, fun _ hr => hr.1⟩

/-- One set of pairs after another. -/
theorem isLeast_trans {s t u : Setoid ι} {first second : Set (ι × ι)}
    (ht : IsLeast (Joins s first) t) (hu : IsLeast (Joins t second) u) :
    IsLeast (Joins s (first ∪ second)) u := by
  refine ⟨⟨le_trans ht.1.1 hu.1.1, ?_⟩, ?_⟩
  · rintro pair (hpair | hpair)
    · exact hu.1.1 (ht.1.2 pair hpair)
    · exact hu.1.2 pair hpair
  · rintro r ⟨hs, hpairs⟩
    have htr : t ≤ r := ht.2 ⟨hs, fun pair hpair => hpairs pair (.inl hpair)⟩
    exact hu.2 ⟨htr, fun pair hpair => hpairs pair (.inr hpair)⟩

section

variable [DecidableEq κ]

/-- All points of one label are given another one. -/
def merge (label : ι → Option κ) (keep gone : κ) (i : ι) : Option κ :=
  if label i = some gone then some keep else label i

/-- **Merging two labels** links two points that have them, and nothing more. -/
theorem isLeast_merge {label : ι → Option κ} {keep gone : κ} {a b : ι} {pairs : Set (ι × ι)}
    (ha : label a = some keep) (hb : label b = some gone)
    (hpairs : pairs = {(a, b)} ∨ pairs = {(b, a)}) :
    IsLeast (Joins (classes label) pairs) (classes (merge label keep gone)) := by
  have hab : classes (merge label keep gone) a b := by
    refine classes_of_eq (k := keep) ?_ ?_
    · simp only [merge, ha]
      split <;> rfl
    · simp only [merge, hb, if_true]
  refine ⟨⟨?_, ?_⟩, ?_⟩
  · rintro i j (rfl | ⟨hi, hij⟩)
    · exact .inl rfl
    · refine .inr ⟨?_, ?_⟩
      · simp only [merge]
        split
        · exact Option.some_ne_none keep
        · exact hi
      · simp only [merge, hij]
  · intro pair hpair
    rcases hpairs with rfl | rfl
    · rw [Set.mem_singleton_iff.mp hpair]
      exact hab
    · rw [Set.mem_singleton_iff.mp hpair]
      exact (classes _).symm hab
  · rintro r ⟨hle, hrel⟩
    have hrab : r a b := by
      rcases hpairs with rfl | rfl
      · exact hrel (a, b) rfl
      · exact r.symm (hrel (b, a) rfl)
    -- a point that has the merged label was one of either
    have hto {i : ι} (hi : merge label keep gone i = some keep) : r a i := by
      simp only [merge] at hi
      split at hi
      · next hgone => exact r.trans hrab (hle (classes_of_eq hb hgone))
      · exact hle (classes_of_eq ha hi)
    rintro i j (rfl | ⟨hi, hij⟩)
    · exact r.refl i
    · by_cases hkeep : merge label keep gone i = some keep
      · exact r.trans (r.symm (hto hkeep)) (hto (hij ▸ hkeep))
      · have hsame {i : ι} (h : merge label keep gone i ≠ some keep) :
            merge label keep gone i = label i := by
          simp only [merge] at h ⊢
          split
          · next hgone => exact absurd (if_pos hgone) h
          · rfl
        rw [hsame hkeep] at hi hij
        rw [hsame (fun h => hkeep (by rw [hsame hkeep, hij, h]))] at hij
        exact hle (.inr ⟨hi, hij⟩)

end

/-! ## Taking a class apart -/

section

variable {label : ι → Option κ} {old fresh : κ} (chosen : ι → Prop) [DecidablePred chosen]

/-- Some points are given a label. -/
def split (label : ι → Option κ) (fresh : κ) (i : ι) : Option κ :=
  if chosen i then some fresh else label i

variable {chosen}

/-- **A fresh label** for points of one class refines the classes. -/
theorem classes_split_le (hfresh : ∀ i, label i ≠ some fresh)
    (hold : ∀ i, chosen i → label i = some old) :
    classes (split chosen label fresh) ≤ classes label := by
  rintro i j (rfl | ⟨hi, hij⟩)
  · exact .inl rfl
  · simp only [split] at hi hij
    split at hij
    · next hchosen =>
      split at hij
      · next hchosen' => exact classes_of_eq (hold i hchosen) (hold j hchosen')
      · exact absurd hij.symm (hfresh j)
    · next hother =>
      rw [if_neg hother] at hi
      split at hij
      · exact absurd hij (hfresh i)
      · exact .inr ⟨hi, hij⟩

/-- The chosen points are apart from the others. -/
theorem not_classes_split (hfresh : ∀ i, label i ≠ some fresh) {i j : ι}
    (h : ¬(chosen i ↔ chosen j)) : ¬classes (split chosen label fresh) i j := by
  rintro (rfl | ⟨-, hij⟩)
  · exact h Iff.rfl
  · simp only [split] at hij
    split at hij
    · next hi =>
      split at hij
      · next hj => exact h (iff_of_true hi hj)
      · exact hfresh j hij.symm
    · next hi =>
      split at hij
      · exact hfresh i hij
      · next hj => exact h (iff_of_false hi hj)

end

end Lib.Labelling
