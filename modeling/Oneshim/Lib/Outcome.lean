/-
  Fallible steps: inverting `Except` binds and running a step over a list.

  A fallible program is a chain of binds in `Except ε`; the first error ends it.  Two things are
  needed of such programs, whatever they compute:

  * inversion — a bind that returned `.ok` returned `.ok` at both of its halves;
  * the run rules — what one successful step preserves, a successful `foldlM` preserves, and a
    step that always succeeds under an invariant gives a fold that always succeeds;
  * the simulation rule — what follows one step after the other follows the whole run.

  The invariant of the run rules is indexed by the list ALREADY consumed, so it can say what has
  been processed so far.
-/
import Mathlib.Data.List.Forall2

namespace Lib

variable {ε α β σ : Type}

/-- A bind returns a value exactly when both halves do. -/
theorem bind_eq_ok_iff {x : Except ε α} {f : α → Except ε β} {b : β} :
    (x >>= f) = .ok b ↔ ∃ a, x = .ok a ∧ f a = .ok b := by
  cases x with
  | error e => exact ⟨fun h => (nomatch h), fun ⟨_, h, _⟩ => (nomatch h)⟩
  | ok a => exact ⟨fun h => ⟨a, rfl, h⟩, fun ⟨_, h, hf⟩ => by cases h; exact hf⟩

theorem map_eq_ok_iff {x : Except ε α} {f : α → β} {b : β} :
    f <$> x = .ok b ↔ ∃ a, x = .ok a ∧ f a = b := by
  cases x with
  | error e => exact ⟨fun h => (nomatch h), fun ⟨_, h, _⟩ => (nomatch h)⟩
  | ok a =>
    constructor
    · intro h
      exact ⟨a, rfl, Except.ok.inj h⟩
    · rintro ⟨_, h, hf⟩
      cases h
      exact congrArg Except.ok hf

theorem ok_bind (a : α) (f : α → Except ε β) : ((Except.ok a : Except ε α) >>= f) = f a := rfl

theorem error_bind (e : ε) (f : α → Except ε β) :
    ((Except.error e : Except ε α) >>= f) = .error e := rfl

/-! ## Running a step over a list -/

variable {f : σ → α → Except ε σ} {xs : List α}

/-- What one successful step preserves, a successful run preserves. -/
theorem foldlM_induction {P : List α → σ → Prop}
    (hstep : ∀ seen a s s', a ∈ xs → P seen s → f s a = .ok s' → P (seen ++ [a]) s') (seen : List α)
    {s s' : σ} (h0 : P seen s) (hrun : xs.foldlM f s = .ok s') :
    P (seen ++ xs) s' := by
  induction xs generalizing seen s with
  | nil =>
    cases hrun
    rw [List.append_nil]
    exact h0
  | cons a xs ih =>
    rw [List.foldlM_cons, bind_eq_ok_iff] at hrun
    obtain ⟨s₁, hs₁, hrest⟩ := hrun
    have hP₁ := hstep seen a s s₁ List.mem_cons_self h0 hs₁
    have := ih (fun seen b t t' hb => hstep seen b t t' (List.mem_cons_of_mem _ hb))
      (seen ++ [a]) hP₁ hrest
    rwa [List.append_assoc, List.singleton_append] at this

/-- The run rule for an invariant that does not look at the list. -/
theorem foldlM_invariant {P : σ → Prop} (hstep : ∀ a s s', P s → f s a = .ok s' → P s') {s s' : σ}
    (h0 : P s) (hrun : xs.foldlM f s = .ok s') : P s' :=
  foldlM_induction (P := fun _ => P) (fun _ a s s' _ => hstep a s s') [] h0 hrun

/-- A step that succeeds and keeps the invariant on every element gives a run that succeeds. -/
theorem foldlM_total {P : List α → σ → Prop}
    (hstep : ∀ seen a s, a ∈ xs → P seen s → ∃ s', f s a = .ok s' ∧ P (seen ++ [a]) s')
    (seen : List α) {s : σ} (h0 : P seen s) :
    ∃ s', xs.foldlM f s = .ok s' ∧ P (seen ++ xs) s' := by
  induction xs generalizing seen s with
  | nil => exact ⟨s, rfl, by rwa [List.append_nil]⟩
  | cons a xs ih =>
    obtain ⟨s₁, hs₁, hP₁⟩ := hstep seen a s List.mem_cons_self h0
    obtain ⟨s', hs', hP'⟩ := ih
      (fun seen b t hb => hstep seen b t (List.mem_cons_of_mem _ hb)) (seen ++ [a]) hP₁
    refine ⟨s', ?_, ?_⟩
    · rw [List.foldlM_cons, hs₁, ok_bind]
      exact hs'
    · rwa [List.append_assoc, List.singleton_append] at hP'

/-- A step that always succeeds gives a run that succeeds. -/
theorem foldlM_total_of_each (hstep : ∀ s, ∀ a ∈ xs, ∃ s', f s a = .ok s') (s : σ) :
    ∃ s', xs.foldlM f s = .ok s' := by
  obtain ⟨s', hs', -⟩ := foldlM_total (P := fun _ _ => True) (fun _ a s ha _ =>
    (hstep s a ha).imp fun _ h => ⟨h, trivial⟩) [] (s := s) trivial
  exact ⟨s', hs'⟩

/-- In a successful run every element's step succeeded, at some state of the run. -/
theorem foldlM_mem_ok {s s' : σ} (hrun : xs.foldlM f s = .ok s') :
    ∀ a ∈ xs, ∃ t t', f t a = .ok t' := by
  have hP := foldlM_induction (P := fun seen _ => ∀ a ∈ seen, ∃ t t', f t a = .ok t')
    (fun seen a t t' _ hP hs b hb => by
      rcases List.mem_append.mp hb with hseen | hnew
      · exact hP b hseen
      · rw [List.mem_singleton.mp hnew]
        exact ⟨t, t', hs⟩)
    [] (fun _ h => (nomatch h)) hrun
  exact hP

/-- What a step hands BACK, from the state after it to the state before, a run hands back. -/
theorem foldlM_inherits {Q : σ → Prop} (hback : ∀ s a s', a ∈ xs → f s a = .ok s' → Q s' → Q s)
    {s s' : σ} (hrun : xs.foldlM f s = .ok s') (hlast : Q s') : Q s := by
  induction xs generalizing s with
  | nil =>
    cases hrun
    exact hlast
  | cons a xs ih =>
    rw [List.foldlM_cons, bind_eq_ok_iff] at hrun
    obtain ⟨s₁, hs₁, hrest⟩ := hrun
    have hQ₁ : Q s₁ := ih (fun s b s' hb => hback s b s' (List.mem_cons_of_mem _ hb)) hrest
    exact hback s a s₁ List.mem_cons_self hs₁ hQ₁

/-- **The simulation rule**: a run of `g` follows a successful run of `f` step by step, where a
    step may use what the states of the run inherit from its end. -/
theorem foldlM_simulates {ε' τ : Type} {g : τ → α → Except ε' τ} {R : σ → τ → Prop} {Q : σ → Prop}
    (hback : ∀ s a s', a ∈ xs → f s a = .ok s' → Q s' → Q s)
    (hstep : ∀ s t a s', a ∈ xs → R s t → f s a = .ok s' → Q s' → ∃ t', g t a = .ok t' ∧ R s' t')
    {s s' : σ} {t : τ} (h0 : R s t) (hrun : xs.foldlM f s = .ok s') (hlast : Q s') :
    ∃ t', xs.foldlM g t = .ok t' ∧ R s' t' := by
  induction xs generalizing s t with
  | nil =>
    cases hrun
    exact ⟨t, rfl, h0⟩
  | cons a xs ih =>
    rw [List.foldlM_cons, bind_eq_ok_iff] at hrun
    obtain ⟨s₁, hs₁, hrest⟩ := hrun
    have hback' : ∀ s b s', b ∈ xs → f s b = .ok s' → Q s' → Q s :=
      fun s b s' hb => hback s b s' (List.mem_cons_of_mem _ hb)
    obtain ⟨t₁, ht₁, hR₁⟩ :=
      hstep s t a s₁ List.mem_cons_self h0 hs₁ (foldlM_inherits hback' hrest hlast)
    obtain ⟨t', ht', hR'⟩ :=
      ih hback' (fun s t b s' hb => hstep s t b s' (List.mem_cons_of_mem _ hb)) hR₁ hrest
    refine ⟨t', ?_, hR'⟩
    rw [List.foldlM_cons, ht₁, ok_bind]
    exact ht'

/-- A run over the parts of a list, one after the other. -/
theorem foldlM_flatMap {γ : Type} (f : σ → α → Except ε σ) (parts : γ → List α) (xs : List γ)
    (s : σ) :
    (xs.flatMap parts).foldlM f s = xs.foldlM (fun s x => (parts x).foldlM f s) s := by
  induction xs generalizing s with
  | nil => rfl
  | cons x xs ih =>
    rw [List.flatMap_cons, List.foldlM_append, List.foldlM_cons]
    exact bind_congr ih

/-- A traversal returns the list of the element results. -/
theorem mapM_eq_ok_iff {f : α → Except ε β} {ys : List β} :
    xs.mapM f = .ok ys ↔ List.Forall₂ (fun x y => f x = .ok y) xs ys := by
  induction xs generalizing ys with
  | nil =>
    rw [List.mapM_nil]
    constructor
    · intro h
      cases h
      exact List.Forall₂.nil
    · intro h
      cases h
      rfl
  | cons x xs ih =>
    rw [List.mapM_cons, bind_eq_ok_iff]
    constructor
    · rintro ⟨y, hy, h⟩
      obtain ⟨ys', hys, hret⟩ := bind_eq_ok_iff.mp h
      cases hret
      exact List.Forall₂.cons hy (ih.mp hys)
    · intro h
      cases h with
      | cons hy hys => exact ⟨_, hy, bind_eq_ok_iff.mpr ⟨_, ih.mpr hys, rfl⟩⟩

/-! ## Lists element by element -/

/-- The partner of an element of the right list. -/
theorem exists_of_forall₂_right {R : α → β → Prop} {ys : List β} (h : List.Forall₂ R xs ys) {y : β}
    (hy : y ∈ ys) : ∃ x ∈ xs, R x y := by
  induction h with
  | nil => nomatch hy
  | @cons a b _ _ hab _ ih =>
    rcases List.mem_cons.mp hy with rfl | hin
    · exact ⟨a, List.mem_cons_self, hab⟩
    · obtain ⟨x, hx, hR⟩ := ih hin
      exact ⟨x, List.mem_cons_of_mem _ hx, hR⟩

/-- The partner of an element of the left list. -/
theorem exists_of_forall₂_left {R : α → β → Prop} {ys : List β} (h : List.Forall₂ R xs ys) {x : α}
    (hx : x ∈ xs) : ∃ y ∈ ys, R x y := by
  obtain ⟨y, hy, hR⟩ := exists_of_forall₂_right h.flip hx
  exact ⟨y, hy, hR⟩

end Lib
