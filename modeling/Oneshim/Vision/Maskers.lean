/-
  The maskers of the sanitizer (`oneshim-vision/src/privacy.rs`).

  A window title or a text from the screen goes through a row of maskers.  Each looks for one kind
  of secret and writes a marker in its place.

  1. **Character scanners** (`scan`) — phone numbers, cards, social security numbers, IBANs, IP
     addresses, passports: at every place the text from there on is looked at, together with the
     character before it.  Every index of theirs is compared with the length first; a text with the
     comparison is the list from there on.

  2. **Slicing maskers** — e-mail addresses, Korean ids, API keys, bearer tokens, private keys and
     user paths have cursors of their own and slice between them.  A slice FAILS when it ends before
     it begins or inside a character: these are loops of steps that can fail.

  The tables of Unicode are left open: which characters are alphanumeric, and what the lower case of
  one outside of ASCII is.
-/
import Oneshim.Lib.Loop
import Oneshim.Lib.Utf8

namespace Oneshim.Vision.Privacy

open Lib Lib.Text Lib.Utf8

/-- What the standard library knows of characters. -/
structure Unicode where
  /-- `char::is_alphanumeric`. -/
  isAlphanumeric : Char → Bool
  /-- `char::to_lowercase` outside of ASCII. -/
  toLower : Char → List Char
  isCased : Char → Bool
  isCaseIgnorable : Char → Bool

namespace Unicode

/-- `char::to_lowercase`; a character of one byte is ASCII. -/
def charToLowercase (self : Unicode) (c : Char) : List Char :=
  if c.utf8Size = 1 then [c.toLower] else if c = 'Σ' then ['σ'] else self.toLower c

/-- `case_ignorable_then_cased`. -/
def caseIgnorableThenCased (self : Unicode) (s : List Char) : Bool :=
  (s.dropWhile self.isCaseIgnorable).head?.any self.isCased

/-- `str::to_lowercase` of what comes behind some characters, the last one first: a `Σ` at the end
    of a word has a lower case of its own (`map_uppercase_sigma`). -/
def toLowercaseBehind (self : Unicode) : (before : List Char) → List Char → List Char
  | _, [] => []
  | before, c :: cs =>
    (if c = 'Σ' ∧ self.caseIgnorableThenCased before ∧ !self.caseIgnorableThenCased cs then ['ς']
      else self.charToLowercase c) ++ self.toLowercaseBehind (c :: before) cs

/-- `str::to_lowercase`. -/
def toLowercase (self : Unicode) (s : List Char) : List Char := self.toLowercaseBehind [] s

end Unicode

/-! ## Character scanners -/

/-- A scanner: `look` sees the character before and the text from here on; it may take some
    characters and write something for them.  `skip` characters are left of those it took. -/
def scan (look : Option Char → List Char → Option (Nat × List Char)) :
    Option Char → Nat → List Char → List Char
  | _, _, [] => []
  | _, skip + 1, c :: cs => scan look (some c) skip cs
  | before, 0, c :: cs =>
    match look before (c :: cs) with
    | some found => found.2 ++ scan look (some c) (found.1 - 1) cs
    | none => c :: scan look (some c) 0 cs

/-- Is there a character here of this kind? -/
def isAt (p : Char → Bool) (rest : List Char) (i : Nat) : Bool := rest[i]?.any p

/-- `is_phone_number_start`. -/
def isPhoneNumberStart (c : Char) : Bool := c == '+' || c == '0'

/-- The loop of `find_phone_number_end`: digits, separators and characters that were read. -/
def phoneRun (digits separators read : Nat) : List Char → Nat × Nat × Nat
  | [] => (digits, separators, read)
  | c :: cs =>
    if c.isDigit then phoneRun (digits + 1) separators (read + 1) cs
    else if c == '-' || c == ' ' || c == '.' then
      if separators + 1 > 4 then (digits, separators + 1, read)
      else phoneRun digits (separators + 1) (read + 1) cs
    else (digits, separators, read)

/-- `find_phone_number_end`: how many characters the number has. -/
def findPhoneNumberEnd (rest : List Char) : Option Nat :=
  let plus := if isAt (· == '+') rest 0 then 1 else 0
  let run := phoneRun 0 0 plus (rest.drop plus)
  if 9 ≤ run.1 ∧ 1 ≤ run.2.1 then some run.2.2 else none

/-- The check of `mask_phone_numbers`. -/
def phoneAt (_ : Option Char) (rest : List Char) : Option (Nat × List Char) :=
  if isAt (fun c => (c == '+' || c.isDigit) && isPhoneNumberStart c) rest 0 then
    (findPhoneNumberEnd rest).map fun count => (count, "[PHONE]".toList)
  else none

/-- `mask_phone_numbers`. -/
def maskPhoneNumbers (text : List Char) : List Char := scan phoneAt none 0 text

/-- The inner loop of `mask_credit_cards`: digits and characters that were read. -/
def cardRun (digits read : Nat) : List Char → Nat × Nat
  | [] => (digits, read)
  | c :: cs =>
    if c.isDigit then cardRun (digits + 1) (read + 1) cs
    else if (c == ' ' || c == '-') && isAt Char.isDigit cs 0 then cardRun digits (read + 1) cs
    else (digits, read)

/-- The check of `mask_credit_cards`: a run of digits is taken as a whole. -/
def cardAt (_ : Option Char) (rest : List Char) : Option (Nat × List Char) :=
  if isAt Char.isDigit rest 0 then
    let run := cardRun 0 0 rest
    if 13 ≤ run.1 ∧ run.1 ≤ 19 then some (run.2, "[CARD]".toList)
    else some (run.2, rest.take run.2)
  else none

/-- `mask_credit_cards`. -/
def maskCreditCards (text : List Char) : List Char := scan cardAt none 0 text

/-- The check of `mask_ssn`: three digits, two and four, with dashes, and no digit around. -/
def ssnAt (before : Option Char) (rest : List Char) : Option (Nat × List Char) :=
  if [0, 1, 2, 4, 5, 7, 8, 9, 10].all (isAt Char.isDigit rest) &&
      [3, 6].all (isAt (· == '-') rest) && !before.any Char.isDigit &&
      !isAt Char.isDigit rest 11 then some (11, "[SSN]".toList)
  else none

/-- `mask_ssn`. -/
def maskSsn (text : List Char) : List Char := scan ssnAt none 0 text

/-- The loop of `try_parse_ipv4`: how many characters the octets left have. -/
def octets : Nat → List Char → Option Nat
  | 0, rest => if isAt Char.isDigit rest 0 then none else some 0
  | left + 1, rest =>
    let digits := rest.takeWhile Char.isDigit
    let after := rest.drop digits.length
    if digits.isEmpty ∨ 3 < digits.length ∨ 255 < Nat.ofDigitChars 10 digits 0 then none
    else if left = 0 then (octets 0 after).map (digits.length + ·)
    else if isAt (· == '.') after 0 then
      (octets left (after.drop 1)).map (digits.length + 1 + ·)
    else none

/-- `try_parse_ipv4`, where a digit begins it. -/
def ipAt (_ : Option Char) (rest : List Char) : Option (Nat × List Char) :=
  if isAt Char.isDigit rest 0 then (octets 4 rest).map fun count => (count, "[IP]".toList)
  else none

/-- `mask_ip_addresses`. -/
def maskIpAddresses (text : List Char) : List Char := scan ipAt none 0 text

/-- The loop of `try_parse_iban`: letters and digits, and characters that were read. -/
def ibanRun (alnum read : Nat) : List Char → Nat × Nat
  | [] => (alnum, read)
  | c :: cs =>
    if c.isAlphanum then ibanRun (alnum + 1) (read + 1) cs
    else if c == ' ' || c == '-' then ibanRun alnum (read + 1) cs
    else (alnum, read)

/-- `try_parse_iban`: how many characters the IBAN has. -/
def tryParseIban (unicode : Unicode) (before : Option Char) (rest : List Char) : Option Nat :=
  if 15 ≤ rest.length && !before.any unicode.isAlphanumeric &&
      [0, 1].all (isAt Char.isUpper rest) && [2, 3].all (isAt Char.isDigit rest) then
    let run := ibanRun 0 4 (rest.drop 4)
    if 11 ≤ run.1 ∧ run.1 ≤ 30 then some run.2 else none
  else none

/-- The check of `mask_iban`: the country and the check digits stay. -/
def ibanAt (unicode : Unicode) (before : Option Char) (rest : List Char) :
    Option (Nat × List Char) :=
  (tryParseIban unicode before rest).map fun count => (count, rest.take 4 ++ "[IBAN]".toList)

/-- `mask_iban`. -/
def maskIban (unicode : Unicode) (text : List Char) : List Char := scan (ibanAt unicode) none 0 text

/-- The check of `mask_passport`: a letter and seven or eight digits, and nothing alphanumeric
    around. -/
def passportAt (unicode : Unicode) (before : Option Char) (rest : List Char) :
    Option (Nat × List Char) :=
  let digits := ((rest.drop 1).takeWhile Char.isDigit).length
  if isAt Char.isAlpha rest 0 && 8 ≤ rest.length && !before.any unicode.isAlphanumeric &&
      (digits == 7 || digits == 8) && !isAt unicode.isAlphanumeric rest (1 + digits) then
    some (1 + digits, "[PASSPORT]".toList)
  else none

/-- `mask_passport`. -/
def maskPassport (unicode : Unicode) (text : List Char) : List Char :=
  scan (passportAt unicode) none 0 text

/-! ## E-mail addresses -/

/-- `chars[i..j]`. -/
def sliceChars (chars : List Char) (i j : Nat) : Option (List Char) :=
  if i ≤ j ∧ j ≤ chars.length then some ((chars.take j).drop i) else none

/-- What an address does not begin before. -/
def endsBefore (c : Char) : Bool := isWhitespace c || c == '<' || c == '('

/-- What an address does not go on after. -/
def endsAfter (c : Char) : Bool := isWhitespace c || c == '>' || c == ')'

/-- `rposition`. -/
def rposition (p : Char → Bool) (chars : List Char) : Option Nat :=
  (chars.reverse.findIdx? p).map fun i => chars.length - 1 - i

/-- The first `@` from a cursor on. -/
def atFrom (chars : List Char) (i : Nat) : Option Nat :=
  ((chars.drop i).findIdx? (· == '@')).map (i + ·)

/-- `start`: the whole text is searched, not only what is behind the cursor. -/
def addressStart (chars : List Char) (i atAbs : Nat) : Nat :=
  match rposition endsBefore (chars.take atAbs) with
  | some p => p + 1
  | none => i

/-- `end`. -/
def addressEnd (chars : List Char) (atAbs : Nat) : Nat :=
  match (chars.drop (atAbs + 1)).findIdx? endsAfter with
  | some p => atAbs + 1 + p
  | none => chars.length

/-- Something stands before the `@` and something after it. -/
def isAddress (chars : List Char) (i atAbs : Nat) : Bool :=
  decide (addressStart chars i atAbs < atAbs) && decide (atAbs + 1 < addressEnd chars atAbs)

/-- A character that is kept. -/
def keepChar (chars : List Char) (state : Nat × List Char) : Step (Nat × List Char) (List Char) :=
  .need chars[state.1]? fun c => .again (state.1 + 1, state.2 ++ [c])

/-- The loop of `mask_emails`: the cursor and the result. -/
def emailStep (chars : List Char) (state : Nat × List Char) :
    Step (Nat × List Char) (List Char) :=
  if state.1 < chars.length then
    match atFrom chars state.1 with
    | some atAbs =>
      if isAddress chars state.1 atAbs then
        .need (sliceChars chars state.1 (addressStart chars state.1 atAbs)) fun front =>
          .again (addressEnd chars atAbs, state.2 ++ front ++ "[EMAIL]".toList)
      else keepChar chars state
    | none => keepChar chars state
  else .done state.2

/-- `mask_emails`. -/
def maskEmails (text : List Char) : Option (List Char) :=
  loop (emailStep text) (text.length + 1) (0, [])

/-! ## Korean ids -/

/-- `str::replace`. -/
def replaceAll (needle marker text : List Char) : List Char :=
  scan (fun _ rest => if needle.isPrefixOf rest then some (needle.length, marker) else none) none 0
    text

/-- The body of the loop of `mask_korean_id`, for two parts around a dash. -/
def maskKoreanIdPair (result : List Char) (window : List Char × List Char) : Option (List Char) :=
  if 6 ≤ utf8Len window.1 && (window.1.reverse.take 6).all Char.isDigit &&
      7 ≤ utf8Len window.2 && (window.2.take 7).all Char.isDigit then
    (sliceFrom (utf8Len window.1 - 6) window.1).bind fun birth =>
      (sliceTo 7 window.2).bind fun serial =>
        some (replaceAll (birth ++ '-' :: serial) "[KR_ID]".toList result)
  else some result

/-- `mask_korean_id`. -/
def maskKoreanId (text : List Char) : Option (List Char) :=
  if '-' ∈ text then
    ((split '-' text).zip (split '-' text).tail).foldlM maskKoreanIdPair text
  else some text

/-! ## API keys -/

/-- What a key does not go on after. -/
def endsKey (c : Char) : Bool :=
  isWhitespace c || c == '"' || c == '\'' || c == ',' || c == ';'

/-- The loop of `mask_api_keys` for one of the prefixes. -/
def apiKeyStep (keyPrefix result : List Char) : Step (List Char) (List Char) :=
  match find keyPrefix result with
  | none => .done result
  | some pos =>
    .need (sliceFrom (pos + utf8Len keyPrefix) result) fun after =>
      if 8 ≤ findWhere endsKey after then
        .need (sliceTo pos result) fun front =>
          .need (sliceFrom (pos + utf8Len keyPrefix + findWhere endsKey after) result) fun tail =>
            .again (front ++ "[API_KEY]".toList ++ tail)
      else .done result

def maskPrefix (result keyPrefix : List Char) : Option (List Char) :=
  loop (apiKeyStep keyPrefix) (utf8Len result + 1) result

/-- `prefixes`. -/
def keyPrefixes : List (List Char) :=
  ["sk-", "pk-", "sk_", "pk_", "api_", "key_", "token_", "secret_", "AKIA", "ghp_", "gho_", "ghs_",
    "github_pat_", "xoxb-", "xoxp-"].map String.toList

/-- The loop of `mask_bearer_tokens`: the result and where to search.  The place is found in the
    lower case of the result, and used in the result. -/
def bearerStep (unicode : Unicode) (state : List Char × Nat) :
    Step (List Char × Nat) (List Char) :=
  if utf8Len (unicode.toLowercase state.1) ≤ state.2 then .done state.1
  else
    .need (sliceFrom state.2 (unicode.toLowercase state.1)) fun rest =>
      match find "bearer ".toList rest with
      | none => .done state.1
      | some relPos =>
        let pos := state.2 + relPos
        let tokenStart := pos + 7
        .need (sliceFrom tokenStart state.1) fun after =>
          if 8 ≤ findWhere endsKey after then
            .need (sliceFrom (tokenStart + findWhere endsKey after) state.1) fun tail =>
              .need (sliceTo pos state.1) fun front =>
                .again (front ++ "Bearer [API_KEY]".toList ++ tail, pos + 16)
          else .again (state.1, tokenStart + max (findWhere endsKey after) 1)

/-- `mask_bearer_tokens`. -/
def maskBearerTokens (unicode : Unicode) (text : List Char) : Option (List Char) :=
  loop (bearerStep unicode) (utf8Len text + 2) (text, 0)

/-- Where the block that begins at `beginPos` ends: behind its end marker, or with the text. -/
def blockEnd (result block label : List Char) (beginPos : Nat) : Nat :=
  match find ("-----END ".toList ++ label ++ "-----".toList) block with
  | some rel => beginPos + rel + utf8Len ("-----END ".toList ++ label ++ "-----".toList)
  | none => utf8Len result

/-- The loop of `mask_private_key_blocks`: the result and where to search. -/
def privateKeyStep (state : List Char × Nat) : Step (List Char × Nat) (List Char) :=
  .need (sliceFrom state.2 state.1) fun rest =>
    match find "-----BEGIN ".toList rest with
    | none => .done state.1
    | some relBegin =>
      let beginPos := state.2 + relBegin
      .need (sliceFrom (beginPos + 11) state.1) fun headerAfter =>
        match find "-----".toList headerAfter with
        | none => .done state.1
        | some headerEnd =>
          .need (sliceTo headerEnd headerAfter) fun label =>
            if contains label "PRIVATE KEY".toList then
              .need (sliceFrom beginPos state.1) fun block =>
                .need (sliceFrom (blockEnd state.1 block label beginPos) state.1) fun tail =>
                  .need (sliceTo beginPos state.1) fun front =>
                    .again (front ++ "[PRIVATE_KEY]".toList ++ tail, beginPos + 13)
            else .again (state.1, beginPos + 11)

/-- `mask_private_key_blocks`. -/
def maskPrivateKeyBlocks (text : List Char) : Option (List Char) :=
  if !contains text "-----BEGIN ".toList || !contains text "PRIVATE KEY-----".toList then some text
  else loop privateKeyStep (utf8Len text + 1) (text, 0)

/-- `mask_api_keys`. -/
def maskApiKeys (unicode : Unicode) (text : List Char) : Option (List Char) :=
  (keyPrefixes.foldlM maskPrefix text).bind fun result =>
    (maskBearerTokens unicode result).bind maskPrivateKeyBlocks

/-! ## User paths -/

/-- The loop of `mask_user_paths_os`: where to search and the result. -/
def userPathStep (text pathPrefix : List Char) (prefixLen : Nat) (sep : Char)
    (state : Nat × List Char) : Step (Nat × List Char) (List Char) :=
  if state.1 < utf8Len text then
    .need (sliceFrom state.1 text) fun rest =>
      match find pathPrefix rest with
      | some relStart =>
        let absStart := state.1 + relStart
        .need (sliceFrom (absStart + prefixLen) text) fun after =>
          if after.isEmpty then .done (state.2 ++ rest)
          else if findWhere (fun c => c == sep || isWhitespace c) after = 0 then
            .need (slice state.1 (absStart + prefixLen) text) fun front =>
              .again (absStart + prefixLen, state.2 ++ front)
          else
            .need (slice state.1 absStart text) fun front =>
              .need (sliceTo prefixLen pathPrefix) fun head =>
                .again (absStart + prefixLen +
                    findWhere (fun c => c == sep || isWhitespace c) after,
                  state.2 ++ front ++ head ++ "[USER]".toList)
      | none => .done (state.2 ++ rest)
  else .done state.2

/-- `mask_user_paths_os`. -/
def maskUserPathsOs (text pathPrefix : List Char) (prefixLen : Nat) (sep : Char) :
    Option (List Char) :=
  loop (userPathStep text pathPrefix prefixLen sep) (utf8Len text + 1) (0, [])

/-- `mask_user_paths`. -/
def maskUserPaths (text : List Char) : Option (List Char) :=
  (maskUserPathsOs text "/Users/".toList 7 '/').bind fun result =>
    (maskUserPathsOs result "/home/".toList 6 '/').bind fun result =>
      maskUserPathsOs result "C:\\Users\\".toList 9 '\\'

/-! ## What a step does

Offsets that were found in a text are places of it, so the steps below do not fail. -/

/-- **A step of `mask_api_keys`**, at the first prefix: a key of eight bytes or more is cut out, with
    fewer bytes the loop stops. -/
theorem apiKeyStep_cases (keyPrefix result : List Char) :
    (apiKeyStep keyPrefix result = .done result ∧ (¬ keyPrefix <:+: result ∨
        ∃ front after, result = front ++ (keyPrefix ++ after) ∧ findWhere endsKey after < 8 ∧
          find keyPrefix result = some (utf8Len front))) ∨
      ∃ front after, result = front ++ (keyPrefix ++ after) ∧ 8 ≤ findWhere endsKey after ∧
        find keyPrefix result = some (utf8Len front) ∧
        apiKeyStep keyPrefix result =
          .again (front ++ "[API_KEY]".toList ++ after.dropWhile fun c => !endsKey c) := by
  unfold apiKeyStep
  cases hfind : find keyPrefix result with
  | none => exact .inl ⟨rfl, .inl (find_eq_none_iff.mp hfind)⟩
  | some pos =>
    obtain ⟨front, after, rfl, rfl⟩ := exists_of_find hfind
    have hafter : sliceFrom (utf8Len front + utf8Len keyPrefix) (front ++ (keyPrefix ++ after)) =
        some after := by
      rw [← utf8Len_append, ← List.append_assoc, sliceFrom_append]
    dsimp only
    rw [hafter, Step.need_some]
    split
    · next hlong =>
      refine .inr ⟨front, after, rfl, hlong, rfl, ?_⟩
      have htail : sliceFrom (utf8Len front + utf8Len keyPrefix + findWhere endsKey after)
          (front ++ (keyPrefix ++ after)) = some (after.dropWhile fun c => !endsKey c) := by
        rw [← sliceFrom_findWhere, ← utf8Len_append, ← List.append_assoc, sliceFrom_add]
      rw [sliceTo_append, Step.need_some, htail, Step.need_some]
    · next hshort =>
      exact .inl ⟨rfl, .inr ⟨front, after, rfl, Nat.lt_of_not_le hshort, rfl⟩⟩

/-- The end of a block is a place behind its first line. -/
theorem sliceFrom_blockEnd (front headerAfter label : List Char) :
    ∃ block tail, headerAfter = block ++ tail ∧
      sliceFrom (blockEnd (front ++ ("-----BEGIN ".toList ++ headerAfter))
          ("-----BEGIN ".toList ++ headerAfter) label (utf8Len front))
        (front ++ ("-----BEGIN ".toList ++ headerAfter)) = some tail := by
  unfold blockEnd
  generalize hmarker : "-----END ".toList ++ label ++ "-----".toList = endMarker
  cases hfind : find endMarker ("-----BEGIN ".toList ++ headerAfter) with
  | none =>
    refine ⟨headerAfter, [], (List.append_nil _).symm, ?_⟩
    have h := sliceFrom_append (front ++ ("-----BEGIN ".toList ++ headerAfter)) []
    rwa [List.append_nil] at h
  | some rel =>
    obtain ⟨before, tail, heq, rfl⟩ := exists_of_find hfind
    -- the end marker is longer than the first line's own beginning
    have hlong : 14 ≤ endMarker.length := by
      rw [← hmarker, List.length_append, List.length_append]
      have hend : "-----END ".toList.length = 9 := by decide
      have hdashes : "-----".toList.length = 5 := by decide
      omega
    have hbegin : "-----BEGIN ".toList.length = 11 := by decide
    have hlength := congrArg List.length heq
    simp only [List.length_append] at hlength
    obtain ⟨block, hblock⟩ : tail <:+ headerAfter := by
      have hback : tail <:+ "-----BEGIN ".toList ++ headerAfter :=
        ⟨before ++ endMarker, by rw [heq, List.append_assoc]⟩
      exact List.suffix_of_suffix_length_le hback ⟨_, rfl⟩ (by omega)
    refine ⟨block, tail, hblock.symm, ?_⟩
    rw [heq]
    dsimp only
    rw [Nat.add_assoc, sliceFrom_add, ← utf8Len_append, ← List.append_assoc, sliceFrom_append]

/-- The check of `mask_private_key_blocks` behind `-----BEGIN `: the label up to the next dashes. -/
def isKeyHeader (headerAfter : List Char) : Bool :=
  ((find "-----".toList headerAfter).bind fun headerEnd => sliceTo headerEnd headerAfter).any
    fun label => contains label "PRIVATE KEY".toList

/-- Somewhere the header of a private key begins. -/
def HasKeyHeader (text : List Char) : Prop :=
  ∃ front headerAfter, text = front ++ ("-----BEGIN ".toList ++ headerAfter) ∧
    isKeyHeader headerAfter = true

/-- The beginning of a header is found nowhere inside itself. -/
theorem le_length_of_begin {passed after headerAfter : List Char}
    (h : "-----BEGIN ".toList ++ headerAfter = passed ++ ("-----BEGIN ".toList ++ after))
    (hpassed : passed ≠ []) : 11 ≤ passed.length := by
  by_contra hshort
  have hpos := List.length_pos_iff.mpr hpassed
  -- the blank is its last character only
  have hblank := congrArg (fun s => s[10]?) h
  rw [List.getElem?_append_left (by decide), List.getElem?_append_right (by omega),
    List.getElem?_append_left (by
      rw [show "-----BEGIN ".toList.length = 11 by decide]
      omega)] at hblank
  have honly : ∀ i < 10, "-----BEGIN ".toList[i]? ≠ "-----BEGIN ".toList[10]? := by decide
  exact honly (10 - passed.length) (by omega) hblank.symm

/-- A header is the first that begins, or one behind it. -/
theorem hasKeyHeader_iff {rest before headerAfter : List Char}
    (hfind : find "-----BEGIN ".toList rest = some (utf8Len before))
    (hrest : rest = before ++ ("-----BEGIN ".toList ++ headerAfter)) :
    HasKeyHeader rest ↔ isKeyHeader headerAfter = true ∨ HasKeyHeader headerAfter := by
  constructor
  · rintro ⟨front, after, heq, hkey⟩
    have hle := find_first hrest hfind heq
    rw [hrest] at heq
    obtain ⟨passed, rfl⟩ : before <+: front :=
      List.prefix_of_prefix_length_le ⟨_, heq⟩ ⟨_, rfl⟩ hle
    rw [List.append_assoc, List.append_cancel_left_eq] at heq
    by_cases hpassed : passed = []
    · rw [hpassed, List.nil_append, List.append_cancel_left_eq] at heq
      exact .inl (heq ▸ hkey)
    · have hlong := le_length_of_begin heq hpassed
      obtain ⟨more, rfl⟩ : "-----BEGIN ".toList <+: passed :=
        List.prefix_of_prefix_length_le ⟨_, heq⟩ ⟨_, rfl⟩ hlong
      rw [List.append_assoc, List.append_cancel_left_eq] at heq
      exact .inr ⟨more, after, heq, hkey⟩
  · rintro (hkey | ⟨front, after, rfl, hkey⟩)
    · exact ⟨before, headerAfter, hrest, hkey⟩
    · exact ⟨before ++ "-----BEGIN ".toList ++ front, after,
        by rw [hrest]; simp only [List.append_assoc], hkey⟩

/-- **A step of `mask_private_key_blocks`** from a place: the first header is that of a private key
    and its block is cut out, or it is passed over. -/
theorem privateKeyStep_cases (front rest : List Char) :
    (¬ HasKeyHeader rest ∧
        privateKeyStep (front ++ rest, utf8Len front) = .done (front ++ rest)) ∨
      (∃ passed after, rest = passed ++ after ∧ passed ≠ [] ∧
        (HasKeyHeader rest ↔ HasKeyHeader after) ∧
        privateKeyStep (front ++ rest, utf8Len front) =
          .again (front ++ rest, utf8Len (front ++ passed))) ∨
      ∃ before block tail, rest = before ++ ("-----BEGIN ".toList ++ (block ++ tail)) ∧
        HasKeyHeader rest ∧
        privateKeyStep (front ++ rest, utf8Len front) =
          .again (front ++ before ++ "[PRIVATE_KEY]".toList ++ tail,
            utf8Len (front ++ before ++ "[PRIVATE_KEY]".toList)) := by
  have hbegin : utf8Len "-----BEGIN ".toList = 11 := by decide
  unfold privateKeyStep
  dsimp only
  rw [sliceFrom_append, Step.need_some]
  cases hfind : find "-----BEGIN ".toList rest with
  | none =>
    refine .inl ⟨?_, rfl⟩
    rintro ⟨before, headerAfter, rfl, -⟩
    exact find_eq_none_iff.mp hfind ⟨before, headerAfter, by rw [List.append_assoc]⟩
  | some relBegin =>
    obtain ⟨before, headerAfter, hrest, rfl⟩ := exists_of_find hfind
    have hhas := hasKeyHeader_iff hfind hrest
    subst hrest
    have hheader : sliceFrom (utf8Len front + utf8Len before + 11)
        (front ++ (before ++ ("-----BEGIN ".toList ++ headerAfter))) = some headerAfter := by
      rw [Nat.add_assoc, sliceFrom_add, sliceFrom_add, ← hbegin, sliceFrom_append]
    dsimp only
    rw [hheader, Step.need_some]
    cases hdashes : find "-----".toList headerAfter with
    | none =>
      refine .inl ⟨?_, rfl⟩
      have hnone := find_eq_none_iff.mp hdashes
      rw [hhas, isKeyHeader, hdashes]
      rintro (hkey | ⟨more, after, rfl, -⟩)
      · cases hkey
      · -- a later header would have brought dashes
        exact hnone ⟨more, "BEGIN ".toList ++ after, by simp⟩
    | some headerEnd =>
      obtain ⟨label, more, hlabel, rfl⟩ := exists_of_find hdashes
      have hto : sliceTo (utf8Len label) headerAfter = some label := by rw [hlabel, sliceTo_append]
      rw [isKeyHeader, hdashes, Option.bind_some, hto, Option.any_some] at hhas
      dsimp only
      rw [hto, Step.need_some]
      split
      · next hkey =>
        obtain ⟨block, tail, hblock, htail⟩ :=
          sliceFrom_blockEnd (front ++ before) headerAfter label
        rw [List.append_assoc, utf8Len_append] at htail
        have hfrom : sliceFrom (utf8Len front + utf8Len before)
            (front ++ (before ++ ("-----BEGIN ".toList ++ headerAfter))) =
            some ("-----BEGIN ".toList ++ headerAfter) := by
          rw [sliceFrom_add, sliceFrom_append]
        have hto : sliceTo (utf8Len front + utf8Len before)
            (front ++ (before ++ ("-----BEGIN ".toList ++ headerAfter))) =
            some (front ++ before) := by
          rw [← utf8Len_append, ← List.append_assoc, sliceTo_append]
        rw [hfrom, Step.need_some, htail, Step.need_some, hto, Step.need_some]
        refine .inr (.inr ⟨before, block, tail, by rw [hblock], hhas.mpr (.inl hkey), ?_⟩)
        rw [utf8Len_append, utf8Len_append]
        rfl
      · next hkey =>
        refine .inr (.inl ⟨before ++ "-----BEGIN ".toList, headerAfter, ?_, ?_, ?_, ?_⟩)
        · rw [List.append_assoc]
        · simp
        · exact hhas.trans (or_iff_right hkey)
        · rw [utf8Len_append, utf8Len_append, hbegin, Nat.add_assoc]

/-- **A step of `mask_user_paths_os`** from a place: a name is written over, or passed over. -/
theorem userPathStep_cases {pathPrefix : List Char} (hhead : pathPrefix ≠ []) (sep : Char)
    (front rest result : List Char) :
    userPathStep (front ++ rest) pathPrefix (utf8Len pathPrefix) sep (utf8Len front, result) =
        .done (result ++ rest) ∨
      (∃ passed after, rest = passed ++ after ∧ passed ≠ [] ∧
        userPathStep (front ++ rest) pathPrefix (utf8Len pathPrefix) sep (utf8Len front, result) =
          .again (utf8Len (front ++ passed), result ++ passed)) ∨
      ∃ before name after, rest = before ++ (pathPrefix ++ (name ++ after)) ∧
        userPathStep (front ++ rest) pathPrefix (utf8Len pathPrefix) sep (utf8Len front, result) =
          .again (utf8Len (front ++ (before ++ (pathPrefix ++ name))),
            result ++ before ++ pathPrefix ++ "[USER]".toList) := by
  unfold userPathStep
  dsimp only
  rw [sliceFrom_append, Step.need_some]
  split
  · cases hfind : find pathPrefix rest with
    | none => exact .inl rfl
    | some relStart =>
      obtain ⟨before, after, rfl, rfl⟩ := exists_of_find hfind
      have hafter : sliceFrom (utf8Len front + utf8Len before + utf8Len pathPrefix)
          (front ++ (before ++ (pathPrefix ++ after))) = some after := by
        rw [Nat.add_assoc, sliceFrom_add, sliceFrom_add, sliceFrom_append]
      dsimp only
      rw [hafter, Step.need_some]
      split
      · exact .inl rfl
      · split
        · -- no name
          have hpassed : slice (utf8Len front)
              (utf8Len front + utf8Len before + utf8Len pathPrefix)
              (front ++ (before ++ (pathPrefix ++ after))) = some (before ++ pathPrefix) := by
            rw [Nat.add_assoc, ← utf8Len_append, ← List.append_assoc before, slice_append]
          rw [hpassed, Step.need_some]
          refine .inr (.inl ⟨before ++ pathPrefix, after, ?_, ?_, ?_⟩)
          · rw [List.append_assoc]
          · simp [hhead]
          · rw [utf8Len_append, utf8Len_append, Nat.add_assoc]
        · have hbefore : slice (utf8Len front) (utf8Len front + utf8Len before)
              (front ++ (before ++ (pathPrefix ++ after))) = some before := slice_append _ _ _
          have hhead : sliceTo (utf8Len pathPrefix) pathPrefix = some pathPrefix := by
            have h := sliceTo_append pathPrefix []
            rwa [List.append_nil] at h
          rw [hbefore, Step.need_some, hhead, Step.need_some]
          refine .inr (.inr ⟨before, after.takeWhile fun c => !(c == sep || isWhitespace c),
            after.dropWhile fun c => !(c == sep || isWhitespace c), ?_, ?_⟩)
          · rw [List.takeWhile_append_dropWhile]
          · rw [utf8Len_append, utf8Len_append, utf8Len_append, ← Nat.add_assoc, ← Nat.add_assoc]
            rfl
  · next hend =>
    have hrest : rest = [] := utf8Len_eq_zero (by
      rw [utf8Len_append] at hend
      omega)
    rw [hrest, List.append_nil]
    exact .inl rfl

end Oneshim.Vision.Privacy
