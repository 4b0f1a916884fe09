/-
  The sanitizer and when it completes (`oneshim-vision/src/privacy.rs`).

  1. **Levels** — `sanitizeTitleWithLevel`: which maskers a level runs, and in which order.

  2. **E-mail addresses** (`maskEmails_isSome_iff`) — the cursor goes from one `@` to the next.  The
     start of an address is looked for in ALL of the text; the slice fails where an address begins
     before the place at which the `@` before it was done with.

  3. **The other maskers** complete for every text, but for that of bearer tokens.

  4. **The result** (`completes_iff`) — when the sanitizer completes.
-/
import Oneshim.Privacy.Upload
import Oneshim.Vision.BearerTokens

namespace Oneshim.Vision.Privacy

open Lib Lib.Text Lib.Utf8

/-! ## Levels -/

/-- `PiiFilterLevel::Basic`. -/
def sanitizeBasic (text : List Char) : Option (List Char) := (maskEmails text).map maskPhoneNumbers

/-- `PiiFilterLevel::Standard`. -/
def sanitizeStandard (unicode : Unicode) (text : List Char) : Option (List Char) :=
  (sanitizeBasic (maskIban unicode text)).bind fun result =>
    (maskKoreanId (maskCreditCards result)).bind fun result =>
      maskUserPaths (maskSsn result)

/-- `PiiFilterLevel::Strict`. -/
def sanitizeStrict (unicode : Unicode) (text : List Char) : Option (List Char) :=
  (sanitizeStandard unicode text).bind fun result =>
    (maskApiKeys unicode result).map fun result =>
      maskPassport unicode (maskIpAddresses result)

/-- `sanitize_title_with_level`, on characters. -/
def sanitizeChars (unicode : Unicode) (text : List Char) : PiiFilterLevel → Option (List Char)
  | .off => some text
  | .basic => sanitizeBasic text
  | .standard => sanitizeStandard unicode text
  | .strict => sanitizeStrict unicode text

/-- `sanitize_title_with_level`; `none` where it panics. -/
def sanitizeTitleWithLevel (unicode : Unicode) (title : String) (level : PiiFilterLevel) :
    Option String :=
  (sanitizeChars unicode title.toList level).map String.ofList

/-! ## The cursor of the e-mail masker -/

section Emails

variable {chars : List Char} {i j a : Nat}

/-- The first `@` from a place on. -/
theorem atFrom_eq_some_iff : atFrom chars i = some a ↔
    i ≤ a ∧ chars[a]? = some '@' ∧ ∀ j, i ≤ j → j < a → chars[j]? ≠ some '@' := by
  rw [atFrom, Option.map_eq_some_iff]
  constructor
  · rintro ⟨k, hk, rfl⟩
    obtain ⟨hlt, hat, hbefore⟩ := List.findIdx?_eq_some_iff_getElem.mp hk
    rw [List.length_drop] at hlt
    refine ⟨Nat.le_add_right i k, ?_, ?_⟩
    · rw [List.getElem_drop, beq_iff_eq] at hat
      rw [List.getElem?_eq_getElem (by omega), hat]
    · intro j hij hjk hj
      have hne := hbefore (j - i) (by omega)
      rw [List.getElem_drop, Bool.not_eq_true, beq_eq_false_iff_ne] at hne
      rw [List.getElem?_eq_getElem (by omega), Option.some.injEq] at hj
      refine hne ?_
      rw [← hj]
      congr 1
      omega
  · rintro ⟨hle, hat, hbefore⟩
    obtain ⟨hlt, hval⟩ := List.getElem?_eq_some_iff.mp hat
    refine ⟨a - i, ?_, by omega⟩
    rw [List.findIdx?_eq_some_iff_getElem]
    refine ⟨by rw [List.length_drop]; omega, ?_, ?_⟩
    · rw [List.getElem_drop, beq_iff_eq, ← hval]
      congr 1
      omega
    · intro k hk
      rw [List.getElem_drop, Bool.not_eq_true, beq_eq_false_iff_ne]
      intro heq
      refine hbefore (i + k) (by omega) (by omega) ?_
      rw [List.getElem?_eq_getElem (by omega), heq]

theorem lt_length_of_atFrom (h : atFrom chars i = some a) : i ≤ a ∧ a < chars.length := by
  obtain ⟨hle, hat, -⟩ := atFrom_eq_some_iff.mp h
  exact ⟨hle, (List.getElem?_eq_some_iff.mp hat).1⟩

/-- A cursor that goes on, not past the `@`, sees the same one. -/
theorem atFrom_of_le (h : atFrom chars i = some a) (hij : i ≤ j) (hja : j ≤ a) :
    atFrom chars j = some a := by
  obtain ⟨-, hat, hbefore⟩ := atFrom_eq_some_iff.mp h
  exact atFrom_eq_some_iff.mpr ⟨hja, hat, fun k hjk hka => hbefore k (hij.trans hjk) hka⟩

/-- A cursor that is not at an `@` sees the same one from the next place. -/
theorem atFrom_succ (h : atFrom chars (i + 1) = some a) (hi : chars[i]? ≠ some '@') :
    atFrom chars i = some a := by
  obtain ⟨hle, hat, hbefore⟩ := atFrom_eq_some_iff.mp h
  refine atFrom_eq_some_iff.mpr ⟨by omega, hat, fun k hik hka => ?_⟩
  rcases Nat.lt_or_eq_of_le hik with hlt | rfl
  · exact hbefore k hlt hka
  · exact hi

/-- What is no address from here is none from a later place. -/
theorem not_isAddress_of_le (h : isAddress chars i a = false) (hij : i ≤ j) :
    isAddress chars j a = false := by
  have hstart : addressStart chars i a ≤ addressStart chars j a := by
    unfold addressStart
    split
    · exact Nat.le_refl _
    · exact hij
  rw [isAddress, Bool.and_eq_false_iff, decide_eq_false_iff_not, decide_eq_false_iff_not] at h ⊢
  rcases h with hshort | hend
  · exact .inl (by omega)
  · exact .inr hend

/-- Where an `@` is done with: behind its address, or behind it. -/
def afterAt (chars : List Char) (i a : Nat) : Nat :=
  if isAddress chars i a then addressEnd chars a else a + 1

/-- The `@`s that are handled, each with the place at which the one before was done with. -/
inductive Handled (chars : List Char) : Nat → Nat → Prop where
  | first {a : Nat} : atFrom chars 0 = some a → Handled chars 0 a
  | next {i a b : Nat} : Handled chars i a → atFrom chars (afterAt chars i a) = some b →
      Handled chars (afterAt chars i a) b

/-- **No address begins before the place at which the `@` before it was done with.** -/
def EmailsClear (chars : List Char) : Prop :=
  ∀ i a, Handled chars i a → isAddress chars i a = true → i ≤ addressStart chars i a

theorem Handled.atFrom (h : Handled chars i a) : atFrom chars i = some a := by
  cases h with
  | first h => exact h
  | next _ h => exact h

/-- A step that keeps a character. -/
theorem emailStep_keep (hi : i < chars.length) (hkeep : ∀ a, Privacy.atFrom chars i = some a →
    isAddress chars i a = false) (result : List Char) :
    ∃ c, emailStep chars (i, result) = .again (i + 1, result ++ [c]) ∧ chars[i]? = some c := by
  refine ⟨chars[i], ?_, List.getElem?_eq_getElem hi⟩
  have hchar : keepChar chars (i, result) = .again (i + 1, result ++ [chars[i]]) := by
    rw [keepChar, List.getElem?_eq_getElem hi, Step.need_some]
  unfold emailStep
  dsimp only
  rw [if_pos hi]
  cases hat : Privacy.atFrom chars i with
  | none => exact hchar
  | some a =>
    dsimp only
    rw [hkeep a hat, if_neg Bool.false_ne_true]
    exact hchar

/-- A step at an address. -/
theorem emailStep_address (hat : Privacy.atFrom chars i = some a)
    (haddress : isAddress chars i a = true) (result : List Char) :
    emailStep chars (i, result) =
      .need (sliceChars chars i (addressStart chars i a)) fun front =>
        .again (addressEnd chars a, result ++ front ++ "[EMAIL]".toList) := by
  obtain ⟨hle, hlt⟩ := lt_length_of_atFrom hat
  unfold emailStep
  dsimp only
  rw [if_pos (by omega), hat]
  dsimp only
  rw [haddress, if_pos rfl]

theorem isAddress_iff : isAddress chars i a = true ↔
    addressStart chars i a < a ∧ a + 1 < addressEnd chars a := by
  rw [isAddress, Bool.and_eq_true, decide_eq_true_eq, decide_eq_true_eq]

/-- The slice of an address fails where it begins before the cursor. -/
theorem sliceChars_isSome_iff (hat : Privacy.atFrom chars i = some a)
    (haddress : isAddress chars i a = true) :
    (sliceChars chars i (addressStart chars i a)).isSome = true ↔ i ≤ addressStart chars i a := by
  have hlt := (lt_length_of_atFrom hat).2
  have hstart := (isAddress_iff.mp haddress).1
  unfold sliceChars
  split
  · next hfits => exact iff_of_true rfl hfits.1
  · next hfits => exact iff_of_false (by simp) (fun h => hfits ⟨h, by omega⟩)

/-- Every round leaves less of the text. -/
theorem emailStep_shrinks (chars : List Char) :
    Shrinks (emailStep chars) fun state => chars.length - state.1 := by
  rintro ⟨i, result⟩ ⟨j, result'⟩ hstep
  show chars.length - j < chars.length - i
  by_cases hi : i < chars.length
  · by_cases haddress : ∃ a, Privacy.atFrom chars i = some a ∧ isAddress chars i a = true
    · obtain ⟨a, hat, haddress⟩ := haddress
      rw [emailStep_address hat haddress, Step.need_eq_again_iff] at hstep
      obtain ⟨front, -, heq⟩ := hstep
      cases heq
      have hle := (lt_length_of_atFrom hat).1
      have hend := (isAddress_iff.mp haddress).2
      omega
    · obtain ⟨c, hkeep, -⟩ := emailStep_keep hi (fun a hat =>
        Bool.eq_false_iff.mpr fun h => haddress ⟨a, hat, h⟩) result
      rw [hkeep] at hstep
      cases hstep
      omega
  · rw [emailStep, if_neg hi] at hstep
    cases hstep

/-- As long as nothing fails, every `@` that is handled is reached. -/
theorem reaches_of_handled (hfine : ∀ state, Reaches (emailStep chars) (0, []) state →
    emailStep chars state ≠ .panic) (h : Handled chars i a) :
    ∃ result, Reaches (emailStep chars) (0, []) (i, result) := by
  induction h with
  | first => exact ⟨[], .refl⟩
  | @next i a b hprevious hnext ih =>
    obtain ⟨result, hreach⟩ := ih
    have hat := hprevious.atFrom
    obtain ⟨hle, hlt⟩ := lt_length_of_atFrom hat
    unfold afterAt
    by_cases haddress : isAddress chars i a = true
    · rw [if_pos haddress]
      have hstep := emailStep_address hat haddress result
      have hnot := hfine _ hreach
      rw [hstep, Step.need_ne_panic_iff] at hnot
      obtain ⟨front, hfront, -⟩ := hnot
      rw [hfront, Step.need_some] at hstep
      exact ⟨_, hreach.tail hstep⟩
    · rw [if_neg haddress]
      -- the characters up to the `@` are kept one by one
      have hrun : ∀ k, i + k ≤ a + 1 →
          ∃ result, Reaches (emailStep chars) (0, []) (i + k, result) := by
        intro k
        induction k with
        | zero => exact fun _ => ⟨result, hreach⟩
        | succ k ihk =>
          intro hk
          obtain ⟨kept, hkept⟩ := ihk (by omega)
          have hinside : i + k < chars.length := by omega
          obtain ⟨c, hstep, -⟩ := emailStep_keep hinside
            (fun a' hat' => by
              rw [atFrom_of_le hat (Nat.le_add_right i k) (by omega)] at hat'
              cases hat'
              exact not_isAddress_of_le (Bool.eq_false_iff.mpr haddress)
                (Nat.le_add_right i k)) kept
          exact ⟨_, hkept.tail hstep⟩
      have hend := hrun (a + 1 - i) (by omega)
      rwa [show i + (a + 1 - i) = a + 1 by omega] at hend

/-- Where the cursor is: the next `@` is handled from here, or from before, and is no address. -/
def CursorFits (chars : List Char) (i : Nat) : Prop :=
  ∀ a, atFrom chars i = some a →
    ∃ i₀ ≤ i, Handled chars i₀ a ∧ (i₀ < i → isAddress chars i₀ a = false)

/-- The cursor goes on past the `@` that was looked at. -/
theorem cursorFits_step {state next : Nat × List Char} (hfits : CursorFits chars state.1)
    (hstep : emailStep chars state = .again next) : CursorFits chars next.1 := by
  obtain ⟨i, result⟩ := state
  intro b hb
  by_cases haddress : ∃ a, Privacy.atFrom chars i = some a ∧ isAddress chars i a = true
  · obtain ⟨a, hat, haddress⟩ := haddress
    rw [emailStep_address hat haddress, Step.need_eq_again_iff] at hstep
    obtain ⟨front, -, heq⟩ := hstep
    cases heq
    obtain ⟨i₀, hle, hhandled, hbefore⟩ := hfits a hat
    rcases Nat.lt_or_eq_of_le hle with hlt | rfl
    · rw [not_isAddress_of_le (hbefore hlt) hle] at haddress
      cases haddress
    · have hafter : afterAt chars i₀ a = addressEnd chars a := if_pos haddress
      rw [← hafter] at hb ⊢
      exact ⟨_, Nat.le_refl _, hhandled.next hb, fun hlt => absurd hlt (Nat.lt_irrefl _)⟩
  · have hkeep : ∀ a, Privacy.atFrom chars i = some a → isAddress chars i a = false :=
      fun a hat => Bool.eq_false_iff.mpr fun h => haddress ⟨a, hat, h⟩
    have hi : i < chars.length := by
      by_contra hend
      rw [emailStep, if_neg hend] at hstep
      cases hstep
    obtain ⟨c, hkept, hc⟩ := emailStep_keep hi hkeep result
    rw [hkept] at hstep
    cases hstep
    by_cases hhere : chars[i]? = some '@'
    · -- the `@` under the cursor is done with
      have hat : Privacy.atFrom chars i = some i :=
        atFrom_eq_some_iff.mpr ⟨Nat.le_refl i, hhere, fun j hij hji => absurd hij (by omega)⟩
      obtain ⟨i₀, hle, hhandled, hbefore⟩ := hfits i hat
      have hnone : isAddress chars i₀ i = false := by
        rcases Nat.lt_or_eq_of_le hle with hlt | rfl
        · exact hbefore hlt
        · exact hkeep _ hat
      have hafter : afterAt chars i₀ i = i + 1 := by
        rw [afterAt, hnone]
        rfl
      rw [← hafter] at hb ⊢
      exact ⟨_, Nat.le_refl _, hhandled.next hb, fun hlt => absurd hlt (Nat.lt_irrefl _)⟩
    · have hsame := atFrom_succ hb hhere
      obtain ⟨i₀, hle, hhandled, hbefore⟩ := hfits b hsame
      refine ⟨i₀, by omega, hhandled, fun _ => ?_⟩
      rcases Nat.lt_or_eq_of_le hle with hlt | rfl
      · exact hbefore hlt
      · exact hkeep b hsame

/-- **When the e-mail masker completes.** -/
theorem maskEmails_isSome_iff (text : List Char) :
    (maskEmails text).isSome = true ↔ EmailsClear text := by
  rw [maskEmails, show text.length + 1 = text.length - (0, ([] : List Char)).1 + 1 from rfl,
    loop_isSome_iff (emailStep_shrinks text)]
  constructor
  · intro hfine i a hhandled haddress
    obtain ⟨result, hreach⟩ := reaches_of_handled hfine hhandled
    have hnot := hfine _ hreach
    rw [emailStep_address hhandled.atFrom haddress, Step.need_ne_panic_iff] at hnot
    obtain ⟨front, hfront, -⟩ := hnot
    exact (sliceChars_isSome_iff hhandled.atFrom haddress).mp (by rw [hfront]; rfl)
  · intro hclear state hreach
    have hfits : CursorFits text state.1 := by
      induction hreach with
      | refl =>
        intro a hat
        exact ⟨0, Nat.le_refl 0, .first hat, fun h => absurd h (Nat.lt_irrefl 0)⟩
      | tail _ hstep ih => exact cursorFits_step ih hstep
    obtain ⟨i, result⟩ := state
    by_cases haddress : ∃ a, Privacy.atFrom text i = some a ∧ isAddress text i a = true
    · obtain ⟨a, hat, haddress⟩ := haddress
      obtain ⟨i₀, hle, hhandled, hbefore⟩ := hfits a hat
      rcases Nat.lt_or_eq_of_le hle with hlt | rfl
      · rw [not_isAddress_of_le (hbefore hlt) hle] at haddress
        cases haddress
      · rw [emailStep_address hat haddress, Step.need_ne_panic_iff]
        obtain ⟨front, hfront⟩ := Option.isSome_iff_exists.mp
          ((sliceChars_isSome_iff hat haddress).mpr (hclear i₀ a hhandled haddress))
        exact ⟨front, hfront, by simp⟩
    · by_cases hi : i < text.length
      · obtain ⟨c, hkept, -⟩ := emailStep_keep hi (fun a hat =>
          Bool.eq_false_iff.mpr fun h => haddress ⟨a, hat, h⟩) result
        rw [hkept]
        simp
      · rw [emailStep, if_neg hi]
        simp

end Emails

/-! ## The other maskers -/

theorem apiKeyStep_shrinks {keyPrefix : List Char} (hhead : 2 ≤ utf8Len keyPrefix) :
    Shrinks (apiKeyStep keyPrefix) utf8Len := by
  intro result next hstep
  have hmarker : utf8Len "[API_KEY]".toList = 9 := by decide
  rcases apiKeyStep_cases keyPrefix result with ⟨hdone, -⟩ | ⟨front, after, rfl, hlong, -, hagain⟩
  · cases hdone.symm.trans hstep
  · cases hagain.symm.trans hstep
    have hsplit := congrArg utf8Len
      (List.takeWhile_append_dropWhile (p := fun c => !endsKey c) (l := after))
    rw [utf8Len_append] at hsplit
    unfold findWhere at hlong
    simp only [utf8Len_append, hmarker]
    omega

theorem maskPrefix_isSome {keyPrefix : List Char} (hhead : 2 ≤ utf8Len keyPrefix)
    (text : List Char) : (maskPrefix text keyPrefix).isSome = true := by
  refine loop_isSome_of_forall (P := fun _ => True) (apiKeyStep_shrinks hhead)
    (fun _ _ _ _ => trivial) (fun result _ => ?_) trivial
  rcases apiKeyStep_cases keyPrefix result with ⟨hdone, -⟩ | ⟨front, after, -, -, -, hagain⟩
  · rw [hdone]
    simp
  · rw [hagain]
    simp

theorem two_le_of_mem_keyPrefixes {keyPrefix : List Char} (h : keyPrefix ∈ keyPrefixes) :
    2 ≤ utf8Len keyPrefix := by
  revert keyPrefix
  decide

/-- Every round leaves less of the text. -/
theorem privateKeyStep_shrinks :
    Shrinks privateKeyStep fun state => utf8Len state.1 - state.2 := by
  intro state next hstep
  -- a step that goes on has found a place
  obtain ⟨rest, hrest, -⟩ := Step.need_eq_again_iff.mp hstep
  obtain ⟨front, htext, hfront⟩ := sliceFrom_eq_some_iff.mp hrest
  obtain ⟨text, searchFrom⟩ := state
  dsimp only at htext hfront ⊢
  subst htext hfront
  rcases privateKeyStep_cases front rest with ⟨-, hdone⟩ | ⟨passed, after, rfl, hne, -, hagain⟩ |
    ⟨before, block, tail, rfl, -, hagain⟩
  · cases hdone.symm.trans hstep
  · cases hagain.symm.trans hstep
    have hpos : 0 < utf8Len passed := Nat.pos_of_ne_zero fun h => hne (utf8Len_eq_zero h)
    simp only [utf8Len_append]
    omega
  · cases hagain.symm.trans hstep
    have hbegin : utf8Len "-----BEGIN ".toList = 11 := by decide
    simp only [utf8Len_append, hbegin]
    omega

/-- The search is at a place of the text. -/
def AtPlace (state : List Char × Nat) : Prop :=
  ∃ front rest, state = (front ++ rest, utf8Len front)

/-- The masker of private keys completes. -/
theorem maskPrivateKeyBlocks_isSome (text : List Char) :
    (maskPrivateKeyBlocks text).isSome = true := by
  unfold maskPrivateKeyBlocks
  split
  · rfl
  · refine loop_isSome_of_forall (P := AtPlace) (s := (text, 0)) privateKeyStep_shrinks ?_ ?_
      ⟨[], text, rfl⟩
    · rintro _ next ⟨front, rest, rfl⟩ hstep
      rcases privateKeyStep_cases front rest with ⟨-, hdone⟩ | ⟨passed, after, rfl, -, -, hagain⟩ |
        ⟨before, block, tail, -, -, hagain⟩
      · cases hdone.symm.trans hstep
      · cases hagain.symm.trans hstep
        exact ⟨front ++ passed, after, by rw [List.append_assoc]⟩
      · cases hagain.symm.trans hstep
        exact ⟨_, tail, rfl⟩
    · rintro _ ⟨front, rest, rfl⟩
      rcases privateKeyStep_cases front rest with ⟨-, h⟩ | ⟨_, _, _, _, _, h⟩ | ⟨_, _, _, _, _, h⟩ <;>
        rw [h] <;> simp

/-- Every round leaves less of the text. -/
theorem userPathStep_shrinks {pathPrefix : List Char} (hhead : pathPrefix ≠ []) (sep : Char)
    (text : List Char) :
    Shrinks (userPathStep text pathPrefix (utf8Len pathPrefix) sep)
      fun state => utf8Len text - state.1 := by
  rintro ⟨searchFrom, result⟩ next hstep
  have hinside : searchFrom < utf8Len text := by
    by_contra hend
    rw [userPathStep, if_neg hend] at hstep
    cases hstep
  have hplace := hstep
  rw [userPathStep, if_pos hinside, Step.need_eq_again_iff] at hplace
  obtain ⟨rest, hrest, -⟩ := hplace
  obtain ⟨front, rfl, rfl⟩ := sliceFrom_eq_some_iff.mp hrest
  rw [utf8Len_append] at hinside
  dsimp only
  rcases userPathStep_cases hhead sep front rest result with hdone |
    ⟨passed, after, rfl, hne, hagain⟩ | ⟨before, name, after, rfl, hagain⟩
  · cases hdone.symm.trans hstep
  · cases hagain.symm.trans hstep
    have hpos : 0 < utf8Len passed := Nat.pos_of_ne_zero fun h => hne (utf8Len_eq_zero h)
    simp only [utf8Len_append]
    omega
  · cases hagain.symm.trans hstep
    have hpos : 0 < utf8Len pathPrefix := Nat.pos_of_ne_zero fun h => hhead (utf8Len_eq_zero h)
    simp only [utf8Len_append]
    omega

/-- The masker of user paths completes. -/
theorem maskUserPathsOs_isSome (pathPrefix : List Char) (hhead : pathPrefix ≠ []) (sep : Char)
    (text : List Char) :
    (maskUserPathsOs text pathPrefix (utf8Len pathPrefix) sep).isSome = true := by
  refine loop_isSome_of_forall (s := (0, []))
    (P := fun state => ∃ front rest, text = front ++ rest ∧ state.1 = utf8Len front)
    (userPathStep_shrinks hhead sep text) ?_ ?_ ⟨[], text, rfl, rfl⟩
  · rintro ⟨_, result⟩ next ⟨front, rest, rfl, rfl⟩ hstep
    rcases userPathStep_cases hhead sep front rest result with hdone |
      ⟨passed, after, rfl, -, hagain⟩ | ⟨before, name, after, rfl, hagain⟩
    · cases hdone.symm.trans hstep
    · cases hagain.symm.trans hstep
      exact ⟨front ++ passed, after, by rw [List.append_assoc], rfl⟩
    · cases hagain.symm.trans hstep
      exact ⟨front ++ (before ++ (pathPrefix ++ name)), after,
        by simp only [List.append_assoc], rfl⟩
  · rintro ⟨_, result⟩ ⟨front, rest, rfl, rfl⟩
    rcases userPathStep_cases hhead sep front rest result with h | ⟨_, _, _, _, h⟩ |
      ⟨_, _, _, _, h⟩ <;> rw [h] <;> simp

theorem maskUserPaths_isSome (text : List Char) : (maskUserPaths text).isSome = true := by
  unfold maskUserPaths
  obtain ⟨users, husers⟩ := Option.isSome_iff_exists.mp
    (maskUserPathsOs_isSome "/Users/".toList (by decide) '/' text)
  obtain ⟨home, hhome⟩ := Option.isSome_iff_exists.mp
    (maskUserPathsOs_isSome "/home/".toList (by decide) '/' users)
  have hwindows :=
    maskUserPathsOs_isSome "C:\\Users\\".toList (by decide) '\\' home
  rw [show utf8Len "/Users/".toList = 7 by decide] at husers
  rw [show utf8Len "/home/".toList = 6 by decide] at hhome
  rw [show utf8Len "C:\\Users\\".toList = 9 by decide] at hwindows
  rw [husers, Option.bind_some, hhome, Option.bind_some]
  exact hwindows

/-- Digits are a byte each. -/
theorem utf8Len_of_digits {s : List Char} (h : s.all Char.isDigit = true) :
    utf8Len s = s.length := by
  induction s with
  | nil => rfl
  | cons c cs ih =>
    rw [List.all_cons, Bool.and_eq_true] at h
    have hsize : c.utf8Size = 1 := by
      rw [Char.utf8Size_eq_one_iff]
      have hdigit := h.1
      rw [Char.isDigit, Bool.and_eq_true, decide_eq_true_eq, decide_eq_true_eq] at hdigit
      exact UInt32.le_trans hdigit.2 (by decide)
    rw [utf8Len_cons, List.length_cons, ih h.2, hsize, Nat.add_comm]

/-- The last six characters of a part are six bytes when they are digits. -/
theorem isPlace_of_last_digits {s : List Char} (hlen : 6 ≤ utf8Len s)
    (hdigits : (s.reverse.take 6).all Char.isDigit = true) : IsPlace (utf8Len s - 6) s := by
  rw [List.take_reverse, List.all_reverse] at hdigits
  have hlast := utf8Len_of_digits hdigits
  rw [List.length_drop] at hlast
  have hsplit := congrArg utf8Len (List.take_append_drop (s.length - 6) s)
  rw [utf8Len_append, hlast] at hsplit
  refine ⟨s.take (s.length - 6), s.drop (s.length - 6), (List.take_append_drop _ s).symm, ?_⟩
  -- a part with fewer characters would have fewer bytes
  by_cases hshort : s.length < 6
  · have hnone : utf8Len (s.take (s.length - 6)) = 0 := by
      rw [show s.length - 6 = 0 by omega]
      rfl
    omega
  · omega

/-- The first seven characters of a part are seven bytes when they are digits. -/
theorem isPlace_of_first_digits {s : List Char} (hlen : 7 ≤ utf8Len s)
    (hdigits : (s.take 7).all Char.isDigit = true) : IsPlace 7 s := by
  have hfirst := utf8Len_of_digits hdigits
  rw [List.length_take] at hfirst
  have hsplit := congrArg utf8Len (List.take_append_drop 7 s)
  rw [utf8Len_append, hfirst] at hsplit
  refine ⟨s.take 7, s.drop 7, (List.take_append_drop _ s).symm, ?_⟩
  by_cases hshort : s.length < 7
  · have hnone : utf8Len (s.drop 7) = 0 := by
      rw [List.drop_eq_nil_of_le (by omega)]
      rfl
    omega
  · omega

/-- The masker of Korean ids completes. -/
theorem maskKoreanIdPair_isSome (result : List Char) (window : List Char × List Char) :
    (maskKoreanIdPair result window).isSome = true := by
  unfold maskKoreanIdPair
  split
  · next hid =>
    simp only [Bool.and_eq_true, decide_eq_true_eq] at hid
    obtain ⟨⟨⟨hlen, hlast⟩, hlen'⟩, hfirst⟩ := hid
    obtain ⟨birth, hbirth⟩ := Option.isSome_iff_exists.mp
      (sliceFrom_isSome_iff.mpr (isPlace_of_last_digits hlen hlast))
    obtain ⟨serial, hserial⟩ := Option.isSome_iff_exists.mp
      (sliceTo_isSome_iff.mpr (isPlace_of_first_digits hlen' hfirst))
    rw [hbirth, Option.bind_some, hserial]
    rfl
  · rfl

/-- A row of operations that all complete. -/
theorem foldlM_isSome {α β : Type} {f : α → β → Option α} {items : List β}
    (h : ∀ b ∈ items, ∀ a, (f a b).isSome = true) (a : α) :
    (items.foldlM f a).isSome = true := by
  induction items generalizing a with
  | nil => rfl
  | cons b items ih =>
    obtain ⟨next, hnext⟩ := Option.isSome_iff_exists.mp (h b List.mem_cons_self a)
    rw [List.foldlM_cons, hnext]
    exact ih (fun b hb => h b (List.mem_cons_of_mem _ hb)) next

theorem maskKoreanId_isSome (text : List Char) : (maskKoreanId text).isSome = true := by
  unfold maskKoreanId
  split
  · exact foldlM_isSome (fun window _ result => maskKoreanIdPair_isSome result window) text
  · rfl

theorem maskPrefixes_isSome (text : List Char) :
    (keyPrefixes.foldlM maskPrefix text).isSome = true :=
  foldlM_isSome
    (fun _ hmem result => maskPrefix_isSome (two_le_of_mem_keyPrefixes hmem) result) text

/-! ## When the sanitizer completes -/

/-- The text that the bearer masker sees, at `Strict`. -/
def bearerText (unicode : Unicode) (text : List Char) : Option (List Char) :=
  (sanitizeStandard unicode text).bind fun result => keyPrefixes.foldlM maskPrefix result

theorem sanitizeBasic_isSome_iff (text : List Char) :
    (sanitizeBasic text).isSome = true ↔ EmailsClear text := by
  rw [sanitizeBasic, Option.isSome_map, maskEmails_isSome_iff]

theorem sanitizeStandard_isSome_iff (unicode : Unicode) (text : List Char) :
    (sanitizeStandard unicode text).isSome = true ↔ EmailsClear (maskIban unicode text) := by
  rw [← sanitizeBasic_isSome_iff, sanitizeStandard]
  cases sanitizeBasic (maskIban unicode text) with
  | none => exact Iff.rfl
  | some basic =>
    obtain ⟨ids, hids⟩ := Option.isSome_iff_exists.mp (maskKoreanId_isSome (maskCreditCards basic))
    rw [Option.bind_some, hids]
    exact iff_of_true (maskUserPaths_isSome _) rfl

/-- Only two maskers can panic: the one of addresses and the one of tokens. -/
theorem sanitizeStrict_isSome_iff (unicode : Unicode) (text : List Char) :
    (sanitizeStrict unicode text).isSome = true ↔ EmailsClear (maskIban unicode text) ∧
      ∀ result, bearerText unicode text = some result →
        (maskBearerTokens unicode result).isSome = true := by
  rw [← sanitizeStandard_isSome_iff, sanitizeStrict, bearerText]
  cases sanitizeStandard unicode text with
  | none => simp
  | some standard =>
    obtain ⟨keys, hkeys⟩ := Option.isSome_iff_exists.mp (maskPrefixes_isSome standard)
    rw [Option.bind_some, Option.isSome_map, maskApiKeys, Option.bind_some, hkeys,
      Option.bind_some]
    cases htokens : maskBearerTokens unicode keys with
    | none =>
      refine iff_of_false (by simp) fun h => ?_
      have hkeys := h.2 keys rfl
      rw [htokens] at hkeys
      cases hkeys
    | some tokens =>
      refine iff_of_true (maskPrivateKeyBlocks_isSome tokens) ⟨rfl, ?_⟩
      rintro _ ⟨⟩
      rw [htokens]
      rfl

/-- What the text must be like for the sanitizer to complete. -/
def Completes (unicode : Unicode) (text : List Char) : PiiFilterLevel → Prop
  | .off => True
  | .basic => EmailsClear text
  | .standard => EmailsClear (maskIban unicode text)
  | .strict => EmailsClear (maskIban unicode text) ∧
      ∀ result, bearerText unicode text = some result → BearerClear unicode result

/-- In the text that the bearer masker sees, if it sees one, every character keeps its size in
    lower case. -/
def KeepsSizes (unicode : Unicode) (text : List Char) (level : PiiFilterLevel) : Prop :=
  level = .strict → ∀ result, bearerText unicode text = some result →
    ∀ c ∈ result, unicode.KeepsSize c

/-- **When the sanitizer completes**: on every text that meets the condition; and on no other,
    unless the bearer masker sees a character that changes its size in lower case. -/
theorem completes_iff (unicode : Unicode) (title : String) (level : PiiFilterLevel) :
    (Completes unicode title.toList level →
        (sanitizeTitleWithLevel unicode title level).isSome = true) ∧
      (KeepsSizes unicode title.toList level →
        (sanitizeTitleWithLevel unicode title level).isSome = true →
          Completes unicode title.toList level) := by
  rw [sanitizeTitleWithLevel, Option.isSome_map]
  cases level with
  | off => exact ⟨fun _ => rfl, fun _ _ => trivial⟩
  | basic => exact ⟨(sanitizeBasic_isSome_iff _).mpr, fun _ => (sanitizeBasic_isSome_iff _).mp⟩
  | standard =>
    exact ⟨(sanitizeStandard_isSome_iff unicode _).mpr,
      fun _ => (sanitizeStandard_isSome_iff unicode _).mp⟩
  | strict =>
    constructor
    · rintro ⟨hemails, hbearer⟩
      exact (sanitizeStrict_isSome_iff unicode _).mpr
        ⟨hemails, fun result hresult => maskBearerTokens_isSome (hbearer result hresult)⟩
    · intro hkeeps hsome
      obtain ⟨hemails, hbearer⟩ := (sanitizeStrict_isSome_iff unicode _).mp hsome
      exact ⟨hemails, fun result hresult =>
        bearerClear_of_isSome (hkeeps rfl result hresult) (hbearer result hresult)⟩

/-- The tables of Unicode as far as ASCII, white space and one letter need them: `Ⱥ` has two bytes,
    its lower case has three. -/
def asciiUnicode : Unicode where
  isAlphanumeric := Char.isAlphanum
  toLower c := if c = 'Ⱥ' then ['ⱥ'] else [c]
  isCased := Char.isAlpha
  isCaseIgnorable _ := false

/-- Two tokens, of which one is masked, before a letter that changes its size. -/
theorem completes_iff_tokens :
    (sanitizeTitleWithLevel asciiUnicode "Bearer abcdefgh, bearer x, Ⱥ" .strict).isSome = true := by
  refine (completes_iff asciiUnicode _ .strict).1 ⟨fun i a hhandled => ?_, fun result hresult => ?_⟩
  · have hat := (atFrom_eq_some_iff.mp hhandled.atFrom).2.1
    have hnone : '@' ∉ maskIban asciiUnicode "Bearer abcdefgh, bearer x, Ⱥ".toList := by
      decide +kernel
    exact absurd (List.mem_of_getElem? hat) hnone
  · have htext : bearerText asciiUnicode "Bearer abcdefgh, bearer x, Ⱥ".toList =
        some "Bearer abcdefgh, bearer x, Ⱥ".toList := by decide +kernel
    obtain rfl := Option.some.inj (htext.symm.trans hresult)
    have hascii {s : List Char} (h : (s.all fun c => c.utf8Size = 1) = true) :
        ∀ c ∈ s, asciiUnicode.KeepsSize c := fun c hc => keepsSize_of_ascii (ascii_of_all h c hc)
    have hfirst : BearerBetween asciiUnicode "Bearer abcdefgh, bearer x, Ⱥ".toList []
        "abcdefgh, bearer x, Ⱥ".toList :=
      ⟨⟨"Bearer ".toList, by decide, by decide⟩, by decide +kernel, hascii (by decide)⟩
    have hsecond : BearerBetween asciiUnicode ", bearer x, Ⱥ".toList ", ".toList "x, Ⱥ".toList :=
      ⟨⟨"bearer ".toList, by decide, by decide⟩, by decide +kernel, hascii (by decide)⟩
    exact .masked hfirst (by decide)
      (.passed hsecond (by decide) (by decide) (hascii (by decide)) (.absent (by decide +kernel)))

/-- An address that ends at a `>` is followed by one whose start is looked for before the first; the
    place behind an empty token is inside an ideographic space; and the place behind a letter in the
    text is inside its lower case. -/
theorem sanitizer_panics :
    sanitizeTitleWithLevel asciiUnicode " a@b>c@d" .basic = none ∧
      sanitizeTitleWithLevel asciiUnicode "bearer \u3000" .strict = none ∧
      sanitizeTitleWithLevel asciiUnicode "bearer Ⱥ" .strict = none := by
  decide +kernel

end Oneshim.Vision.Privacy
