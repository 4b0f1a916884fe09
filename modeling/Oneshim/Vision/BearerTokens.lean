/-
  When the bearer masker completes (`oneshim-vision/src/privacy.rs`).

  `mask_bearer_tokens` looks for `bearer ` in the lower case of its text, and uses the offsets that
  it finds in the text.

  1. **Sizes** — as long as the lower case of every character is one of the same size, the offsets
     are right.  It is so for ASCII, and not for every letter (`Unicode.KeepsSize`).

  2. **A clear text** (`BearerClear`) — read from left to right, the way the masker goes.  Where a
     `bearer ` has no token one byte is passed over, which may be a part of a character.

  3. **The result** — the masker completes on a clear text (`maskBearerTokens_isSome`), and on no
     other whose characters all keep their sizes (`bearerClear_of_isSome`).
-/
import Oneshim.Vision.Maskers

namespace Oneshim.Vision.Privacy

open Lib Lib.Text Lib.Utf8

/-! ## Sizes -/

variable {unicode : Unicode}

/-- The lower case of a character is one character of the same size. -/
def Unicode.KeepsSize (self : Unicode) (c : Char) : Prop :=
  ∃ d, self.charToLowercase c = [d] ∧ d.utf8Size = c.utf8Size

theorem ascii_of_all {s : List Char} (h : (s.all fun c => c.utf8Size = 1) = true) :
    ∀ c ∈ s, c.utf8Size = 1 :=
  fun c hc => of_decide_eq_true (List.all_eq_true.mp h c hc)

/-- The final sigma as the other one. -/
def plainSigma (c : Char) : Char := if c = 'ς' then 'σ' else c

theorem utf8Size_plainSigma (c : Char) : (plainSigma c).utf8Size = c.utf8Size := by
  unfold plainSigma
  split
  · next h => rw [h]; decide
  · rfl

/-- The lower case, one character after the other. -/
def Unicode.lowered (self : Unicode) (s : List Char) : List Char :=
  s.flatMap fun c => (self.charToLowercase c).map plainSigma

theorem lowered_cons (c : Char) (cs : List Char) : unicode.lowered (c :: cs) =
    (unicode.charToLowercase c).map plainSigma ++ unicode.lowered cs := List.flatMap_cons

theorem lowered_append (s t : List Char) :
    unicode.lowered (s ++ t) = unicode.lowered s ++ unicode.lowered t := List.flatMap_append

theorem map_toLowercaseBehind (before s : List Char) :
    (unicode.toLowercaseBehind before s).map plainSigma = unicode.lowered s := by
  induction s generalizing before with
  | nil => rfl
  | cons c cs ih =>
    rw [Unicode.toLowercaseBehind, List.map_append, ih, lowered_cons]
    congr 1
    split
    · next h =>
      rw [h.1, Unicode.charToLowercase, if_neg (by decide), if_pos rfl]
      decide
    · rfl

theorem map_toLowercase (s : List Char) :
    (unicode.toLowercase s).map plainSigma = unicode.lowered s := map_toLowercaseBehind [] s

theorem utf8Len_toLowercase (s : List Char) :
    utf8Len (unicode.toLowercase s) = utf8Len (unicode.lowered s) := by
  rw [← map_toLowercase, utf8Len_map utf8Size_plainSigma]

theorem find_plainSigma (s : List Char) :
    find "bearer ".toList (s.map plainSigma) = find "bearer ".toList s := by
  refine find_map utf8Size_plainSigma (fun p hp c => ?_) s
  have hsize := ascii_of_all (s := "bearer ".toList) (by decide) p hp
  have hne : p ≠ 'σ' ∧ p ≠ 'ς' := by
    constructor <;> (rintro rfl; exact absurd hsize (by decide))
  unfold plainSigma
  split
  · next h => exact iff_of_false hne.1.symm (h ▸ hne.2.symm)
  · rfl

theorem find_toLowercase (s : List Char) :
    find "bearer ".toList (unicode.toLowercase s) = find "bearer ".toList (unicode.lowered s) := by
  rw [← map_toLowercase, find_plainSigma]

theorem utf8Len_lowered {s : List Char} (h : ∀ c ∈ s, unicode.KeepsSize c) :
    utf8Len (unicode.lowered s) = utf8Len s := by
  induction s with
  | nil => rfl
  | cons c cs ih =>
    obtain ⟨d, hd, hsize⟩ := h c List.mem_cons_self
    rw [lowered_cons, hd, utf8Len_append, List.map_singleton, utf8Len_cons, utf8Size_plainSigma,
      hsize, utf8Len_cons, ih fun c hc => h c (List.mem_cons_of_mem _ hc)]
    rfl

/-- Behind characters that keep their sizes the lower case is searched from the right place. -/
theorem sliceFrom_toLowercase {front : List Char} (hfront : ∀ c ∈ front, unicode.KeepsSize c)
    (rest : List Char) :
    ∃ lower, sliceFrom (utf8Len front) (unicode.toLowercase (front ++ rest)) = some lower ∧
      lower.map plainSigma = unicode.lowered rest := by
  have hslice := sliceFrom_map utf8Size_plainSigma (utf8Len front)
    (unicode.toLowercase (front ++ rest))
  rw [map_toLowercase, lowered_append, ← utf8Len_lowered hfront, sliceFrom_append] at hslice
  obtain ⟨lower, hlower, hmap⟩ := Option.map_eq_some_iff.mp hslice.symm
  rw [← utf8Len_lowered hfront]
  exact ⟨lower, hlower, hmap⟩

theorem utf8Size_toLower (c : Char) : c.toLower.utf8Size = c.utf8Size := by
  unfold Char.toLower
  split
  · next h =>
    have hle : c.val.toNat ≤ 90 := UInt32.le_iff_toNat_le.mp h.2
    have hc : c.utf8Size = 1 :=
      Char.utf8Size_eq_one_iff.mpr (UInt32.le_iff_toNat_le.mpr (show c.val.toNat ≤ 127 by omega))
    rw [hc, Char.utf8Size_eq_one_iff, UInt32.le_iff_toNat_le]
    show (c.val + 32).toNat ≤ 127
    rw [UInt32.toNat_add]
    show (c.val.toNat + 32) % 2 ^ 32 ≤ 127
    omega
  · rfl

theorem keepsSize_of_ascii {c : Char} (h : c.utf8Size = 1) : unicode.KeepsSize c :=
  ⟨c.toLower, by rw [Unicode.charToLowercase, if_pos h], utf8Size_toLower c⟩

/-! ## A clear text -/

/-- The token at the beginning of a text, and the text behind it. -/
def token (text : List Char) : List Char := text.takeWhile fun c => !endsKey c
def afterToken (text : List Char) : List Char := text.dropWhile fun c => !endsKey c

/-- The first `bearer ` of a text, in any case, stands between these two parts of it, and the
    characters before it keep their sizes. -/
structure BearerBetween (unicode : Unicode) (text before after : List Char) : Prop where
  word : ∃ word, text = before ++ (word ++ after) ∧ lower word = "bearer ".toList
  first : find "bearer ".toList (unicode.toLowercase text) = some (utf8Len before)
  keeps : ∀ c ∈ before, unicode.KeepsSize c

/-- **What a text must be like**: no character before a `bearer ` that is looked at, or in a token
    that is passed over, changes its size in lower case, and no `bearer ` that is looked at stands
    directly before a separator of several bytes. -/
inductive BearerClear (unicode : Unicode) : List Char → Prop where
  /-- There is no `bearer `. -/
  | absent {text} : find "bearer ".toList (unicode.toLowercase text) = none →
      BearerClear unicode text
  /-- Its token is long enough to be masked. -/
  | masked {text before after} : BearerBetween unicode text before after →
      8 ≤ utf8Len (token after) → BearerClear unicode (afterToken after) → BearerClear unicode text
  /-- Its token is passed over. -/
  | passed {text before after} : BearerBetween unicode text before after → token after ≠ [] →
      utf8Len (token after) < 8 → (∀ c ∈ token after, unicode.KeepsSize c) →
      BearerClear unicode (afterToken after) → BearerClear unicode text
  /-- It has no token, and one byte is passed over. -/
  | bare {text before c after} : BearerBetween unicode text before (c :: after) →
      endsKey c = true → c.utf8Size = 1 → BearerClear unicode after → BearerClear unicode text
  /-- It ends the text. -/
  | last {text before} : BearerBetween unicode text before [] → BearerClear unicode text

/-- The word is ASCII. -/
theorem ascii_of_word {word : List Char} (h : lower word = "bearer ".toList) :
    ∀ c ∈ word, c.utf8Size = 1 := by
  intro c hc
  have hmem : c.toLower ∈ "bearer ".toList := h ▸ List.mem_map_of_mem hc
  rw [← utf8Size_toLower, ascii_of_all (by decide) _ hmem]

theorem utf8Len_of_ascii {s : List Char} (h : ∀ c ∈ s, c.utf8Size = 1) : utf8Len s = s.length := by
  induction s with
  | nil => rfl
  | cons c cs ih =>
    rw [utf8Len_cons, h c List.mem_cons_self, ih fun c hc => h c (List.mem_cons_of_mem _ hc),
      List.length_cons, Nat.add_comm]

theorem utf8Len_word {word : List Char} (h : lower word = "bearer ".toList) : utf8Len word = 7 := by
  rw [utf8Len_of_ascii (ascii_of_word h)]
  have hlength := congrArg List.length h
  rwa [lower, List.length_map] at hlength

/-! ## Looking -/

variable {front text before after : List Char}

/-- A look that finds nothing. -/
theorem bearerStep_absent (hfront : ∀ c ∈ front, unicode.KeepsSize c)
    (h : find "bearer ".toList (unicode.toLowercase text) = none) :
    bearerStep unicode (front ++ text, utf8Len front) = .done (front ++ text) := by
  obtain ⟨lower, hlower, hmap⟩ := sliceFrom_toLowercase hfront text
  unfold bearerStep
  dsimp only
  split
  · rfl
  · rw [hlower, Step.need_some, ← find_plainSigma, hmap, ← find_toLowercase, h]

/-- **A look that finds a `bearer `** behind characters that keep their sizes. -/
theorem bearerStep_found (hfront : ∀ c ∈ front, unicode.KeepsSize c)
    (h : BearerBetween unicode text before after) :
    bearerStep unicode (front ++ text, utf8Len front) =
      if 8 ≤ utf8Len (token after) then
        .again (front ++ before ++ "Bearer [API_KEY]".toList ++ afterToken after,
          utf8Len (front ++ before) + 16)
      else
        .again (front ++ text, utf8Len (front ++ before) + 7 + max (utf8Len (token after)) 1) := by
  obtain ⟨lower, hlower, hmap⟩ := sliceFrom_toLowercase hfront text
  obtain ⟨word, htext, hword⟩ := h.word
  have hinside : ¬ utf8Len (unicode.toLowercase (front ++ text)) ≤ utf8Len front := by
    intro hle
    rw [utf8Len_toLowercase, lowered_append, utf8Len_append, utf8Len_lowered hfront,
      ← utf8Len_toLowercase] at hle
    have hnone : unicode.toLowercase text = [] := utf8Len_eq_zero (by omega)
    have hfirst := h.first
    rw [hnone] at hfirst
    cases hfirst
  have hafter : sliceFrom (utf8Len (front ++ before) + 7) (front ++ text) = some after := by
    rw [htext, ← utf8Len_word hword, ← utf8Len_append, ← List.append_assoc, ← List.append_assoc]
    exact sliceFrom_append _ _
  unfold bearerStep
  dsimp only
  rw [if_neg hinside, hlower, Step.need_some, ← find_plainSigma, hmap, ← find_toLowercase, h.first]
  dsimp only
  rw [← utf8Len_append, hafter, Step.need_some]
  show (if 8 ≤ utf8Len (token after) then _ else _) = _
  split
  · have hthrough : front ++ text = (front ++ before ++ word) ++ after := by
      rw [htext, List.append_assoc, List.append_assoc]
    have htail : sliceFrom (utf8Len (front ++ before) + 7 + findWhere endsKey after)
        (front ++ text) = some (afterToken after) := by
      rw [hthrough, ← utf8Len_word hword, ← utf8Len_append, sliceFrom_add, sliceFrom_findWhere]
      rfl
    have hto : sliceTo (utf8Len (front ++ before)) (front ++ text) = some (front ++ before) := by
      rw [hthrough, List.append_assoc (front ++ before)]
      exact sliceTo_append _ _
    rw [htail, Step.need_some, hto, Step.need_some]
  · rfl

/-- The masker searches from the beginning of a clear text, behind characters that keep their sizes;
    or it has passed the end. -/
def SearchesClear (unicode : Unicode) (state : List Char × Nat) : Prop :=
  (∃ front text, state = (front ++ text, utf8Len front) ∧ (∀ c ∈ front, unicode.KeepsSize c) ∧
      BearerClear unicode text) ∨
    utf8Len (unicode.toLowercase state.1) ≤ state.2

/-- What has been passed keeps its sizes. -/
theorem BearerBetween.passes (h : BearerBetween unicode text before after)
    (hfront : ∀ c ∈ front, unicode.KeepsSize c) :
    ∃ passed, front ++ text = passed ++ after ∧ utf8Len passed = utf8Len (front ++ before) + 7 ∧
      ∀ c ∈ passed, unicode.KeepsSize c := by
  obtain ⟨word, htext, hword⟩ := h.word
  refine ⟨front ++ before ++ word, ?_, ?_, ?_⟩
  · rw [htext, List.append_assoc, List.append_assoc]
  · rw [utf8Len_append _ word, utf8Len_word hword]
  · intro c hc
    rcases List.mem_append.mp hc with hc | hc
    · exact (List.mem_append.mp hc).elim (hfront c) (h.keeps c)
    · exact keepsSize_of_ascii (ascii_of_word hword c hc)

/-- The marker keeps its sizes. -/
theorem keepsSize_masked (h : BearerBetween unicode text before after)
    (hfront : ∀ c ∈ front, unicode.KeepsSize c) :
    utf8Len (front ++ before ++ "Bearer [API_KEY]".toList) = utf8Len (front ++ before) + 16 ∧
      ∀ c ∈ front ++ before ++ "Bearer [API_KEY]".toList, unicode.KeepsSize c := by
  have hascii := ascii_of_all (s := "Bearer [API_KEY]".toList) (by decide)
  constructor
  · rw [utf8Len_append _ "Bearer [API_KEY]".toList, utf8Len_of_ascii hascii]
    rfl
  · intro c hc
    rcases List.mem_append.mp hc with hc | hc
    · exact (List.mem_append.mp hc).elim (hfront c) (h.keeps c)
    · exact keepsSize_of_ascii (hascii c hc)

/-- **A look at a clear text** does not fail, and the next one is at a clear text again. -/
theorem SearchesClear.step {state : List Char × Nat} (h : SearchesClear unicode state) :
    bearerStep unicode state ≠ .panic ∧
      ∀ next, bearerStep unicode state = .again next → SearchesClear unicode next := by
  rcases h with ⟨front, text, rfl, hfront, hclear⟩ | hend
  · -- the look goes on behind what it has passed
    have hgoes (passed : List Char) {before after rest : List Char}
        (hbetween : BearerBetween unicode text before after) (hshort : utf8Len (token after) < 8)
        (heq : front ++ text = passed ++ rest) (hpassed : ∀ c ∈ passed, unicode.KeepsSize c)
        (hn : utf8Len passed = utf8Len (front ++ before) + 7 + max (utf8Len (token after)) 1)
        (hrest : BearerClear unicode rest) :
        bearerStep unicode (front ++ text, utf8Len front) ≠ .panic ∧
          ∀ next, bearerStep unicode (front ++ text, utf8Len front) = .again next →
            SearchesClear unicode next := by
      rw [bearerStep_found hfront hbetween, if_neg (by omega)]
      refine ⟨by simp, ?_⟩
      rintro _ ⟨⟩
      exact .inl ⟨passed, rest, by rw [heq, hn], hpassed, hrest⟩
    cases hclear with
    | absent hnone =>
      rw [bearerStep_absent hfront hnone]
      exact ⟨by simp, by simp⟩
    | masked hbetween hlong hrest =>
      obtain ⟨hlen, hkeeps⟩ := keepsSize_masked hbetween hfront
      rw [bearerStep_found hfront hbetween, if_pos hlong]
      refine ⟨by simp, ?_⟩
      rintro _ ⟨⟩
      exact .inl ⟨_, _, by rw [hlen], hkeeps, hrest⟩
    | @passed _ _ after hbetween hne hshort htoken hrest =>
      obtain ⟨passed, heq, hlen, hkeeps⟩ := hbetween.passes hfront
      have hpos : 0 < utf8Len (token after) :=
        Nat.pos_of_ne_zero fun hzero => hne (utf8Len_eq_zero hzero)
      refine hgoes (passed ++ token after) hbetween hshort ?_ ?_ ?_ hrest
      · rw [heq, List.append_assoc, token, afterToken, List.takeWhile_append_dropWhile]
      · intro c hc
        exact (List.mem_append.mp hc).elim (hkeeps c) (htoken c)
      · rw [utf8Len_append passed, hlen]
        omega
    | @bare _ _ c after hbetween hends hone hrest =>
      obtain ⟨passed, heq, hlen, hkeeps⟩ := hbetween.passes hfront
      have htoken : token (c :: after) = [] := by rw [token, List.takeWhile_cons, hends]; rfl
      refine hgoes (passed ++ [c]) hbetween (by rw [htoken]; decide) ?_ ?_ ?_ hrest
      · rw [heq, List.append_assoc]
        rfl
      · intro d hd
        rcases List.mem_append.mp hd with hd | hd
        · exact hkeeps d hd
        · rw [List.mem_singleton.mp hd]
          exact keepsSize_of_ascii hone
      · rw [utf8Len_append passed, hlen, htoken, utf8Len_cons, hone]
        rfl
    | last hbetween =>
      obtain ⟨passed, heq, hlen, hkeeps⟩ := hbetween.passes hfront
      rw [bearerStep_found hfront hbetween, if_neg (by decide)]
      refine ⟨by simp, ?_⟩
      rintro _ ⟨⟩
      refine .inr ?_
      rw [utf8Len_toLowercase, heq, List.append_nil, utf8Len_lowered hkeeps, hlen]
      omega
  · unfold bearerStep
    rw [if_pos hend]
    exact ⟨by simp, by simp⟩

/-! ## Where every character keeps its size -/

/-- The lower case is cut where the text is. -/
theorem exists_of_lowered {s x y : List Char} (hkeeps : ∀ c ∈ s, unicode.KeepsSize c)
    (h : unicode.lowered s = x ++ y) :
    ∃ a b, s = a ++ b ∧ unicode.lowered a = x ∧ unicode.lowered b = y := by
  induction s generalizing x with
  | nil =>
    obtain ⟨rfl, rfl⟩ := List.append_eq_nil_iff.mp h.symm
    exact ⟨[], [], rfl, rfl, rfl⟩
  | cons c cs ih =>
    cases x with
    | nil => exact ⟨[], c :: cs, rfl, rfl, h⟩
    | cons d x =>
      obtain ⟨e, he, -⟩ := hkeeps c List.mem_cons_self
      rw [lowered_cons, he] at h
      obtain ⟨hd, hrest⟩ := List.cons.inj h
      obtain ⟨a, b, rfl, rfl, rfl⟩ := ih (fun c hc => hkeeps c (List.mem_cons_of_mem _ hc)) hrest
      refine ⟨c :: a, b, rfl, ?_, rfl⟩
      rw [lowered_cons, he, ← hd]
      rfl

/-- What becomes ASCII is ASCII. -/
theorem lower_eq_of_lowered {s t : List Char} (hkeeps : ∀ c ∈ s, unicode.KeepsSize c)
    (h : unicode.lowered s = t) (hascii : ∀ d ∈ t, d.utf8Size = 1) : lower s = t := by
  induction s generalizing t with
  | nil => exact h
  | cons c cs ih =>
    obtain ⟨d, hd, hsize⟩ := hkeeps c List.mem_cons_self
    rw [lowered_cons, hd] at h
    subst h
    have hone : c.utf8Size = 1 := by
      rw [← hsize, ← utf8Size_plainSigma]
      exact hascii _ List.mem_cons_self
    have hlower : d = c.toLower := by
      rw [Unicode.charToLowercase, if_pos hone] at hd
      exact (List.singleton_inj.mp hd).symm
    have hplain : plainSigma c.toLower = c.toLower := by
      refine if_neg fun heq => ?_
      have htwo := congrArg Char.utf8Size heq
      rw [utf8Size_toLower, hone] at htwo
      exact absurd htwo (by decide)
    rw [hlower, List.map_singleton, hplain]
    exact congrArg (c.toLower :: ·) (ih (fun c hc => hkeeps c (List.mem_cons_of_mem _ hc)) rfl
      fun d hd => hascii d (List.mem_cons_of_mem _ hd))

theorem exists_between {n : Nat} (hkeeps : ∀ c ∈ text, unicode.KeepsSize c)
    (h : find "bearer ".toList (unicode.toLowercase text) = some n) :
    ∃ before after, BearerBetween unicode text before after := by
  have hfind := h
  rw [find_toLowercase] at hfind
  obtain ⟨x, y, hlowered, hlen⟩ := exists_of_find hfind
  obtain ⟨before, rest, rfl, hx, hrest⟩ := exists_of_lowered hkeeps hlowered
  have hbefore := fun c hc => hkeeps c (List.mem_append_left rest hc)
  have hrestKeeps := fun c hc => hkeeps c (List.mem_append_right before hc)
  obtain ⟨word, after, rfl, hword, -⟩ := exists_of_lowered hrestKeeps hrest
  refine ⟨before, after, ⟨word, rfl, lower_eq_of_lowered (fun c hc =>
    hrestKeeps c (List.mem_append_left after hc)) hword (ascii_of_all (by decide))⟩, ?_, hbefore⟩
  rw [h, ← hlen, ← hx, utf8Len_lowered hbefore]

/-- Inside a character that is passed over the next look fails. -/
theorem bearerStep_inside {passed after : List Char} {c : Char}
    (hkeeps : ∀ d ∈ passed ++ c :: after, unicode.KeepsSize d) (hmany : c.utf8Size ≠ 1) :
    bearerStep unicode (passed ++ c :: after, utf8Len passed + 1) = .panic := by
  have hpassed := fun d hd => hkeeps d (List.mem_append_left (c :: after) hd)
  obtain ⟨d, hd, hsize⟩ := hkeeps c (List.mem_append_right passed List.mem_cons_self)
  have hpos := c.utf8Size_pos
  have hinside : ¬ utf8Len (unicode.toLowercase (passed ++ c :: after)) ≤ utf8Len passed + 1 := by
    rw [utf8Len_toLowercase, utf8Len_lowered hkeeps, utf8Len_append, utf8Len_cons]
    omega
  have hnone : sliceFrom (utf8Len passed + 1) (unicode.toLowercase (passed ++ c :: after)) =
      none := by
    rw [← Option.map_eq_none_iff (f := (·.map plainSigma)), ← sliceFrom_map utf8Size_plainSigma,
      map_toLowercase, lowered_append, ← utf8Len_lowered hpassed, sliceFrom_add, lowered_cons, hd]
    show ((cutBytes 1 (plainSigma d :: unicode.lowered after)).map (·.2)) = none
    rw [cutBytes, if_neg (by rw [utf8Size_plainSigma]; omega)]
    rfl
  unfold bearerStep
  dsimp only
  rw [if_neg hinside, hnone]
  rfl

/-- **A masker that does not fail** was given a clear text, when every character keeps its size. -/
theorem bearerClear_of_fine (hkeeps : ∀ c ∈ front ++ text, unicode.KeepsSize c)
    (hfine : ∀ state, Reaches (bearerStep unicode) (front ++ text, utf8Len front) state →
      bearerStep unicode state ≠ .panic) : BearerClear unicode text := by
  induction hsize : text.length using Nat.strongRecOn generalizing front text with
  | ind size ih =>
    have hfront := fun c hc => hkeeps c (List.mem_append_left text hc)
    have htext := fun c hc => hkeeps c (List.mem_append_right front hc)
    cases hfind : find "bearer ".toList (unicode.toLowercase text) with
    | none => exact .absent hfind
    | some n =>
      obtain ⟨before, after, hbetween⟩ := exists_between htext hfind
      have hfound := bearerStep_found hfront hbetween
      obtain ⟨passed, heq, hlen, hpassed⟩ := hbetween.passes hfront
      have hafter : ∀ c ∈ after, unicode.KeepsSize c := fun c hc =>
        hkeeps c (heq ▸ List.mem_append_right passed hc)
      have hshorter : after.length < text.length := by
        obtain ⟨word, rfl, hword⟩ := hbetween.word
        have hlength := congrArg List.length hword
        rw [lower, List.length_map] at hlength
        rw [List.length_append, List.length_append, hlength]
        show after.length < before.length + (7 + after.length)
        omega
      -- the rest of the text is looked at with as little to fail
      have hrest (front' : List Char) {rest : List Char}
          (hstep : bearerStep unicode (front ++ text, utf8Len front) =
            .again (front' ++ rest, utf8Len front'))
          (hfront' : ∀ c ∈ front', unicode.KeepsSize c) (hsub : rest.Sublist after) :
          BearerClear unicode rest := by
        refine ih rest.length (by have := hsub.length_le; omega) ?_
          (fun state hreach => hfine state (.head hstep hreach)) rfl
        · intro c hc
          exact (List.mem_append.mp hc).elim (hfront' c) fun hc => hafter c (hsub.subset hc)
      by_cases hlong : 8 ≤ utf8Len (token after)
      · obtain ⟨hmarked, hmarkedKeeps⟩ := keepsSize_masked hbetween hfront
        refine .masked hbetween hlong (hrest _ ?_ hmarkedKeeps (List.dropWhile_sublist _))
        rw [hfound, if_pos hlong, hmarked]
      rw [if_neg hlong] at hfound
      by_cases htoken : token after = []
      · cases after with
        | nil => exact .last hbetween
        | cons c after =>
          have hends : endsKey c = true := by
            by_contra hgoes
            rw [token, List.takeWhile_cons, Bool.eq_false_iff.mpr hgoes] at htoken
            cases htoken
          have hnext : bearerStep unicode (front ++ text, utf8Len front) =
              .again (front ++ text, utf8Len passed + 1) := by
            rw [hfound, htoken, hlen]
            rfl
          by_cases hone : c.utf8Size = 1
          · refine .bare hbetween hends hone (hrest (passed ++ [c]) ?_ ?_
              (List.sublist_cons_self c after))
            · rw [hnext, heq, utf8Len_append, utf8Len_cons, hone, List.append_assoc]
              rfl
            · intro d hd
              rcases List.mem_append.mp hd with hd | hd
              · exact hpassed d hd
              · rw [List.mem_singleton.mp hd]
                exact keepsSize_of_ascii hone
          · refine absurd ?_ (hfine _ (.single hnext))
            rw [heq] at hkeeps ⊢
            exact bearerStep_inside hkeeps hone
      · have hpos : 0 < utf8Len (token after) :=
          Nat.pos_of_ne_zero fun hzero => htoken (utf8Len_eq_zero hzero)
        have hsubset : ∀ c ∈ token after, unicode.KeepsSize c := fun c hc =>
          hafter c ((List.takeWhile_sublist _).subset hc)
        refine .passed hbetween htoken (by omega) hsubset
          (hrest (passed ++ token after) ?_ ?_ (List.dropWhile_sublist _))
        · rw [hfound, heq, Nat.max_eq_left (by omega), List.append_assoc, utf8Len_append passed,
            hlen, token, afterToken, List.takeWhile_append_dropWhile]
        · intro c hc
          exact (List.mem_append.mp hc).elim (hpassed c) (hsubset c)

/-! ## The loop -/

/-- **A step of `mask_bearer_tokens`**: a word and its token are cut out, or passed over. -/
theorem bearerStep_again {state next : List Char × Nat}
    (h : bearerStep unicode state = .again next) :
    (∃ front cut tail, state.1 = front ++ (cut ++ tail) ∧ state.2 ≤ utf8Len front ∧
        0 < utf8Len cut ∧
        next = (front ++ "Bearer [API_KEY]".toList ++ tail, utf8Len front + 16)) ∨
      ∃ n, state.2 < n ∧ state.2 ≤ utf8Len state.1 ∧ next = (state.1, n) := by
  unfold bearerStep at h
  split at h
  · cases h
  · next hinside =>
    rw [Step.need_eq_again_iff] at h
    obtain ⟨rest, hrest, h⟩ := h
    cases hfind : find "bearer ".toList rest with
    | none =>
      rw [hfind] at h
      cases h
    | some relPos =>
      rw [hfind] at h
      dsimp only at h
      rw [Step.need_eq_again_iff] at h
      obtain ⟨after, hafter, h⟩ := h
      obtain ⟨before, heq, hlen⟩ := sliceFrom_eq_some_iff.mp hafter
      split at h
      · next hlong =>
        rw [Step.need_eq_again_iff] at h
        obtain ⟨tail, htail, h⟩ := h
        rw [Step.need_eq_again_iff] at h
        obtain ⟨front, hfront, h⟩ := h
        cases h
        obtain ⟨⟨back, hback⟩, hfrontLen⟩ := sliceTo_eq_some_iff.mp hfront
        obtain ⟨through, hthrough, hthroughLen⟩ := sliceFrom_eq_some_iff.mp htail
        -- the tail begins behind the front
        obtain ⟨cut, rfl⟩ : front <+: through := by
          rcases List.prefix_or_prefix_of_prefix ⟨back, hback.symm⟩ ⟨tail, hthrough.symm⟩ with
            hpre | ⟨more, hmore⟩
          · exact hpre
          · have hlonger := congrArg utf8Len hmore
            rw [utf8Len_append] at hlonger
            omega
        rw [utf8Len_append] at hthroughLen
        refine .inl ⟨front, cut, tail, ?_, by omega, by omega, by rw [hfrontLen]⟩
        rw [hthrough, List.append_assoc]
      · cases h
        refine .inr ⟨_, by omega, ?_, rfl⟩
        rw [heq, utf8Len_append]
        omega

theorem bearerStep_shrinks (unicode : Unicode) :
    Shrinks (bearerStep unicode) fun state => utf8Len state.1 + 1 - state.2 := by
  intro state next hstep
  have hmarker : utf8Len "Bearer [API_KEY]".toList = 16 := by decide
  rcases bearerStep_again hstep with ⟨front, cut, tail, htext, hfrom, hcut, rfl⟩ |
    ⟨n, hn, hbound, rfl⟩
  · dsimp only
    rw [htext]
    simp only [utf8Len_append, hmarker]
    omega
  · dsimp only
    omega

theorem maskBearerTokens_eq_loop (unicode : Unicode) (text : List Char) :
    maskBearerTokens unicode text =
      loop (bearerStep unicode) (utf8Len text + 1 - 0 + 1) (text, 0) := rfl

/-- **The bearer masker completes on a clear text.** -/
theorem maskBearerTokens_isSome {text : List Char} (h : BearerClear unicode text) :
    (maskBearerTokens unicode text).isSome = true := by
  rw [maskBearerTokens_eq_loop]
  refine loop_isSome_of_forall (bearerStep_shrinks unicode) (P := SearchesClear unicode)
    (fun state next hclear hstep => hclear.step.2 next hstep) (fun state hclear => hclear.step.1) ?_
  exact .inl ⟨[], text, rfl, fun c hc => absurd hc List.not_mem_nil, h⟩

/-- **And on no other**, among those whose characters keep their sizes in lower case. -/
theorem bearerClear_of_isSome {text : List Char} (hkeeps : ∀ c ∈ text, unicode.KeepsSize c)
    (h : (maskBearerTokens unicode text).isSome = true) : BearerClear unicode text := by
  rw [maskBearerTokens_eq_loop] at h
  exact @bearerClear_of_fine unicode [] text hkeeps
    ((loop_isSome_iff (bearerStep_shrinks unicode) (text, 0)).mp h)

end Oneshim.Vision.Privacy
