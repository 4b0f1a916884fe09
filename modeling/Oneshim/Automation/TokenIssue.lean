/-
  Issuing policy tokens (`oneshim-automation/src/policy/`).

  The client also issues tokens: the id of the policy, a nonce, the hash of a command and a signature,
  joined by `:`.  `validate_command` cuts a token at every `:` and trims the parts, so a policy whose
  id contains a `:` or white space around it gets tokens that are read as something else.

  1. **Code** — issuing, and `validate_command` over the same hashes and signatures.

  2. **Reading an issued token back** (`parse_issued`) — where the id has no `:`.

  3. **The result** (`issued_token_accepted_iff`) — the ids whose tokens are accepted; those of a
     policy `team:pol-1` are not (`token_of_team_refused`).

  SHA-256 of the scope of a command and the MAC under the signing secret are parameters.
-/
import Oneshim.Automation.PolicyTokens
import Oneshim.Lib.Hex

namespace Oneshim.Automation

open Lib Lib.Text

/-! ## Code -/

/-- `PolicyCommandScope`. -/
structure PolicyCommandScope where
  commandId : String
  sessionId : String
  action : AutomationAction
  timeoutMs : Option Nat

/-- The scope of a command. -/
def AutomationCommand.scope (cmd : AutomationCommand) : PolicyCommandScope :=
  ⟨cmd.commandId, cmd.sessionId, cmd.action, cmd.timeoutMs⟩

/-- What tokens are made with: the MAC under the signing secret, if there is one, and SHA-256 of a
    serialized scope; both are 32 bytes. -/
structure TokenSetup where
  hmac : Option (List Char → List UInt8)
  sha256 : PolicyCommandScope → List UInt8
  length_hmac : ∀ mac, hmac = some mac → ∀ payload, (mac payload).length = 32
  length_sha256 : ∀ scope, (sha256 scope).length = 32

/-- What issuing fails with. -/
inductive IssueError where
  | invalidArguments (message : String)
  | policyDenied (message : String)
  | configMissing (message : String)
  deriving DecidableEq

/-- `build_signature_payload`. -/
def buildSignaturePayload (policyId nonce : List Char) : Option (List Char) → List Char
  | some commandHash => policyId ++ ':' :: nonce ++ ':' :: commandHash
  | none => policyId ++ ':' :: nonce

/-- `compute_policy_token_signature`. -/
def computePolicyTokenSignature (mac : List Char → List UInt8) (policyId nonce : List Char)
    (commandHash : Option (List Char)) : List Char :=
  (Hex.encodeLower (mac (buildSignaturePayload policyId nonce commandHash))).toList

namespace TokenSetup

variable (setup : TokenSetup)

/-- `compute_command_scope_hash`; the fields of a scope can always be serialized. -/
def computeCommandScopeHash (cmd : AutomationCommand) : List Char :=
  (Hex.encodeLower (setup.sha256 cmd.scope)).toList

/-- `verify_policy_token_signature`; the caller has let only hexadecimal digits through. -/
def verifyPolicyTokenSignature (policyId nonce : List Char) (commandHash : Option (List Char))
    (signature : List Char) : Bool :=
  match setup.hmac, Hex.decodeChars signature with
  | some mac, some bytes => bytes == mac (buildSignaturePayload policyId nonce commandHash)
  | _, _ => false

/-- What `validate_command` checks tokens against. -/
def services : PolicyServices where
  verifySignature := setup.verifyPolicyTokenSignature
  scopeHash cmd := .ok (setup.computeCommandScopeHash cmd)

/-- `issue_command_token_for_policy`. -/
def issueCommandTokenForPolicy (policy : ExecutionPolicy) (nonce : List Char)
    (commandHash : Option (List Char)) : Except IssueError (List Char) :=
  if !isValidNonce nonce then
    .error (.invalidArguments "policy token nonce 형식이 유효하지 않습니다")
  else if commandHash.any (!isValidHash ·) then
    .error (.invalidArguments "policy token command hash 형식이 유효하지 않습니다")
  else
    let token := policy.policyId.toList ++ ':' :: nonce
    let token :=
      match commandHash with
      | some commandHash => token ++ ':' :: 'h' :: commandHash
      | none => token
    if policy.requireSignedToken then
      match setup.hmac with
      | none => .error (.configMissing ("서명 policy이 active화되어 있지만 " ++
          "ONESHIM_POLICY_TOKEN_SIGNING_SECRET 환경 변수가 비어 있습니다."))
      | some mac =>
        .ok (token ++
          ':' :: computePolicyTokenSignature mac policy.policyId.toList nonce commandHash)
    else .ok token

/-- `issue_command_token`, with the nonce it makes. -/
def issueCommandToken (client : PolicyClient) (policyId : String) (nonce : List Char) :
    Except IssueError (List Char) :=
  match client.policies.find? (·.policyId == policyId) with
  | none => .error (.policyDenied ("Unknown policy ID: " ++ policyId))
  | some policy => setup.issueCommandTokenForPolicy policy nonce none

/-- `issue_command_token_for_command`, with the nonce it makes. -/
def issueCommandTokenForCommand (client : PolicyClient) (policyId : String) (nonce : List Char)
    (cmd : AutomationCommand) : Except IssueError (List Char) :=
  match client.policies.find? (·.policyId == policyId) with
  | none => .error (.policyDenied ("Unknown policy ID: " ++ policyId))
  | some policy =>
    setup.issueCommandTokenForPolicy policy nonce (some (setup.computeCommandScopeHash cmd))

end TokenSetup

/-- A command with a token. -/
def AutomationCommand.withToken (cmd : AutomationCommand) (token : List Char) : AutomationCommand :=
  { cmd with policyToken := String.ofList token }

@[simp] theorem AutomationCommand.token_withToken (cmd : AutomationCommand) (token : List Char) :
    (cmd.withToken token).token = trim token := by
  rw [AutomationCommand.token, withToken, String.toList_ofList]

/-! ## Accepting -/

/-- What `validate_command` has seen of a token it accepts. -/
structure Accepts (services : PolicyServices) (client : PolicyClient) (now : Int)
    (cmd : AutomationCommand) (parsed : ParsedPolicyToken) (policy : ExecutionPolicy) : Prop where
  parse : parsePolicyToken cmd.token = some parsed
  nonce : isValidNonce parsed.nonce = true
  fresh : client.remainingTtl now ≠ 0
  find : client.policies.find? (·.policyId.toList == parsed.policyId) = some policy
  checked : checkToken services cmd policy parsed = .ok true
  unused : (client.retained now (client.remainingTtl now)).any (·.1 == cmd.token) = false

variable {parsed : ParsedPolicyToken}

theorem getPolicyForToken_of_parsed {policies : List ExecutionPolicy} {token : List Char}
    (h : parsePolicyToken token = some parsed) :
    getPolicyForToken policies token =
      policies.find? (·.policyId.toList == parsed.policyId) := by
  rw [getPolicyForToken, h]

/-- There is nothing in an empty text. -/
theorem isEmpty_of_parsed {token : List Char} (h : parsePolicyToken token = some parsed) :
    token.isEmpty = false := by
  cases token with
  | nil => cases h
  | cons => rfl

/-- No time is left of none. -/
theorem PolicyClient.ttlSeconds_ne_zero {client : PolicyClient} {now : Int}
    (h : client.remainingTtl now ≠ 0) : client.ttlSeconds ≠ 0 :=
  fun hzero => h (by rw [PolicyClient.remainingTtl_eq h, hzero])

section

variable {services : PolicyServices} {client : PolicyClient} {now : Int} {cmd : AutomationCommand}

/-- **Accepting a token.** -/
theorem Accepts.validateCommand_eq {policy : ExecutionPolicy}
    (h : Accepts services client now cmd parsed policy) :
    validateCommand services client now cmd = .validated cmd (.ok true) := by
  have hfound := (getPolicyForToken_of_parsed h.parse).trans h.find
  simp only [validateCommand, TokenService.turn, TokenService.validate,
    if_neg (PolicyClient.ttlSeconds_ne_zero h.fresh), h.parse, isEmpty_of_parsed h.parse, h.nonce,
    beq_eq_false_iff_ne.mpr h.fresh, Bool.not_true, Bool.or_false, Bool.false_eq_true, if_false,
    hfound, h.checked, h.unused]

/-- What is accepted has been seen so. -/
theorem exists_accepts (h : validateCommand services client now cmd = .validated cmd (.ok true)) :
    ∃ parsed policy, Accepts services client now cmd parsed policy := by
  by_cases httl : client.ttlSeconds = 0
  · simp [validateCommand, TokenService.turn, TokenService.validate, httl] at h
  cases hparsed : parsePolicyToken cmd.token with
  | none =>
    simp [validateCommand, TokenService.turn, TokenService.validate, httl, hparsed] at h
  | some parsed =>
    have hempty := isEmpty_of_parsed hparsed
    cases hnonce : isValidNonce parsed.nonce with
    | false =>
      simp [validateCommand, TokenService.turn, TokenService.validate, httl, hparsed, hnonce] at h
    | true =>
      by_cases hfresh : client.remainingTtl now = 0
      · simp [validateCommand, TokenService.turn, TokenService.validate, httl, hparsed, hnonce,
          hfresh] at h
      cases hfound : getPolicyForToken client.policies cmd.token with
      | none =>
        simp [validateCommand, TokenService.turn, TokenService.validate, httl, hparsed, hempty,
          hnonce, hfresh, hfound] at h
      | some policy =>
        cases hchecked : checkToken services cmd policy parsed with
        | error error =>
          simp [validateCommand, TokenService.turn, TokenService.validate, httl, hparsed, hempty,
            hnonce, hfresh, hfound, hchecked] at h
        | ok accepted =>
          cases accepted with
          | false =>
            simp [validateCommand, TokenService.turn, TokenService.validate, httl, hparsed, hempty,
              hnonce, hfresh, hfound, hchecked] at h
          | true =>
            refine ⟨parsed, policy, hparsed, hnonce, hfresh,
              (getPolicyForToken_of_parsed hparsed).symm.trans hfound, hchecked, ?_⟩
            by_contra hused
            rw [Bool.not_eq_false] at hused
            simp only [validateCommand, TokenService.turn, TokenService.validate, if_neg httl,
              hparsed, hempty, hnonce, beq_eq_false_iff_ne.mpr hfresh, Bool.not_true,
              Bool.or_false, Bool.false_eq_true, if_false, hfound, hchecked, hused, if_true] at h
            cases h

end

/-! ## Hexadecimal parts -/

/-- The lower-case hexadecimal digits. -/
def lowerHexdigits : List Char := "0123456789abcdef".toList

/-- A text of lower-case hexadecimal digits. -/
def LowerHex (s : List Char) : Prop := ∀ c ∈ s, c ∈ lowerHexdigits

instance (s : List Char) : Decidable (LowerHex s) := List.decidableBAll _ s

/-- `Uuid::new_v4().simple()`. -/
structure SimpleUuid (nonce : List Char) : Prop where
  length : nonce.length = 32
  hex : LowerHex nonce

theorem lowerHexdigits_spec : ∀ c ∈ lowerHexdigits, c ≠ ':' ∧ c ≠ 'h' ∧ isWhitespace c = false ∧
    isAsciiHexdigit c = true ∧ c.isAlphanum = true ∧ c.toLower = c :=
  @of_decide_eq_true _ (List.decidableBAll _ lowerHexdigits) (by decide)

theorem lowerHex_encodeLower (bs : List UInt8) : LowerHex (Hex.encodeLower bs).toList := by
  have hdigit : ∀ n : Fin 16, Hex.lowerDigit n.val ∈ lowerHexdigits := by decide
  exact Hex.forall_mem_encodeLower (fun n hn => hdigit ⟨n, hn⟩) bs

section

variable {s : List Char}

theorem LowerHex.not_isWhitespace (h : LowerHex s) : ∀ c ∈ s, isWhitespace c = false :=
  fun c hc => (lowerHexdigits_spec c (h c hc)).2.2.1

theorem LowerHex.ne_colon (h : LowerHex s) : ∀ c ∈ s, c ≠ ':' :=
  fun c hc => (lowerHexdigits_spec c (h c hc)).1

theorem LowerHex.lower_eq (h : LowerHex s) : lower s = s := by
  have hsame : ∀ c ∈ s, c.toLower = id c := fun c hc =>
    (lowerHexdigits_spec c (h c hc)).2.2.2.2.2
  rw [lower, List.map_congr_left hsame, List.map_id]

theorem LowerHex.isValidHash (h : LowerHex s) (hlength : s.length = 64) : isValidHash s = true := by
  rw [Automation.isValidHash, hlength, Bool.and_eq_true, List.all_eq_true]
  exact ⟨rfl, fun c hc => (lowerHexdigits_spec c (h c hc)).2.2.2.1⟩

theorem LowerHex.isValidNonce (h : LowerHex s) (hlength : 8 ≤ s.length) :
    isValidNonce s = true := by
  rw [Automation.isValidNonce, Bool.and_eq_true, List.all_eq_true]
  refine ⟨decide_eq_true hlength, fun c hc => ?_⟩
  rw [(lowerHexdigits_spec c (h c hc)).2.2.2.2.1]
  rfl

/-- No hash segment: it would begin with an `h`. -/
theorem LowerHex.parseCommandHashSegment (h : LowerHex s) : parseCommandHashSegment s = none := by
  cases s with
  | nil => rfl
  | cons c cs =>
    have hc := (lowerHexdigits_spec c (h c List.mem_cons_self)).2.1
    rw [Automation.parseCommandHashSegment.eq_def]
    split
    · next heq => exact absurd (List.cons.inj heq).1 hc
    · rfl

end

theorem LowerHex.hashSegment {hash : List Char} (h : LowerHex hash) (hlength : hash.length = 64) :
    Automation.parseCommandHashSegment ('h' :: hash) = some hash := by
  rw [Automation.parseCommandHashSegment, if_pos (h.isValidHash hlength)]

/-! ## Reading an issued token back -/

/-- A part of a token that is made of hexadecimal digits, behind an `h` for the hash. -/
def hashSegment (commandHash : Option (List Char)) : List (List Char) :=
  (commandHash.map ('h' :: ·)).toList

/-- The text of a token. -/
def tokenText (policyId nonce : List Char) (commandHash signature : Option (List Char)) :
    List Char :=
  policyId ++ ((nonce :: (hashSegment commandHash ++ signature.toList)).flatMap (':' :: ·))

/-- The parts of a token behind its policy id. -/
structure IssuedParts (nonce : List Char) (commandHash signature : Option (List Char)) : Prop where
  nonce : SimpleUuid nonce
  hash : ∀ hash, commandHash = some hash → LowerHex hash ∧ hash.length = 64
  signature : ∀ text, signature = some text → LowerHex text ∧ text.length = 64

/-- Parts without a separator are cut apart again. -/
theorem split_flatMap {first : List Char} {parts : List (List Char)}
    (h : ∀ part ∈ parts, ∀ c ∈ part, c ≠ ':') :
    split ':' (first ++ parts.flatMap (':' :: ·)) = split ':' first ++ parts := by
  induction parts generalizing first with
  | nil => simp
  | cons part parts ih =>
    have hrest : split ':' (part ++ parts.flatMap (':' :: ·)) = split ':' part ++ parts :=
      ih fun p hp => h p (List.mem_cons_of_mem _ hp)
    rw [List.flatMap_cons, List.cons_append, split_append, hrest,
      split_eq_singleton (h part List.mem_cons_self)]
    rfl

/-- No part of an issued token has a colon or a white space in it. -/
theorem IssuedParts.hex_of_mem {nonce : List Char} {commandHash signature : Option (List Char)}
    (h : IssuedParts nonce commandHash signature) :
    ∀ part ∈ nonce :: (hashSegment commandHash ++ signature.toList), ∀ c ∈ part,
      c ≠ ':' ∧ isWhitespace c = false := by
  intro part hpart c hc
  rcases List.mem_cons.mp hpart with rfl | hpart
  · exact ⟨h.nonce.hex.ne_colon c hc, h.nonce.hex.not_isWhitespace c hc⟩
  rcases List.mem_append.mp hpart with hpart | hpart
  · obtain ⟨hash, hhash, rfl⟩ := Option.map_eq_some_iff.mp (Option.mem_toList.mp hpart)
    have hhex := (h.hash hash hhash).1
    rcases List.mem_cons.mp hc with rfl | hc
    · decide
    · exact ⟨hhex.ne_colon c hc, hhex.not_isWhitespace c hc⟩
  · have hhex := (h.signature part (Option.mem_toList.mp hpart)).1
    exact ⟨hhex.ne_colon c hc, hhex.not_isWhitespace c hc⟩

/-- **The parts of a token**, as they are read. -/
theorem IssuedParts.parts_eq {nonce : List Char} {commandHash signature : Option (List Char)}
    (h : IssuedParts nonce commandHash signature) (policyId : List Char) :
    (split ':' (tokenText policyId nonce commandHash signature)).map trim =
      (split ':' policyId).map trim ++
        nonce :: (hashSegment commandHash ++ signature.toList) := by
  rw [tokenText, split_flatMap fun part hpart c hc => (h.hex_of_mem part hpart c hc).1,
    List.map_append]
  congr 1
  have htrim : ∀ part ∈ nonce :: (hashSegment commandHash ++ signature.toList),
      trim part = id part := fun part hpart =>
    trim_eq_self fun c hc => (h.hex_of_mem part hpart c hc).2
  rw [List.map_congr_left htrim, List.map_id]

theorem policyTokenParts_of_length {parts : List (List Char)} (h : 5 ≤ parts.length) :
    policyTokenParts parts = none := by
  rcases parts with _ | ⟨a, _ | ⟨b, _ | ⟨c, _ | ⟨d, _ | ⟨e, rest⟩⟩⟩⟩⟩
  iterate 5 simp at h
  rfl

section

variable {nonce : List Char} {commandHash signature : Option (List Char)}

/-- A policy id, the nonce and what follows it. -/
theorem IssuedParts.policyTokenParts_eq (h : IssuedParts nonce commandHash signature)
    (policyId : List Char) :
    policyTokenParts (policyId :: nonce :: (hashSegment commandHash ++ signature.toList)) =
      some ⟨policyId, nonce, commandHash, signature⟩ := by
  cases hhash : commandHash with
  | none =>
    cases hsignature : signature with
    | none => rfl
    | some text =>
      have hnone := (h.signature text hsignature).1.parseCommandHashSegment
      simp only [hashSegment, Option.map_none, Option.toList_none, Option.toList_some,
        List.nil_append, policyTokenParts, hnone]
  | some hash =>
    have hsome := (h.hash hash hhash).1.hashSegment (h.hash hash hhash).2
    cases hsignature : signature with
    | none =>
      simp only [hashSegment, Option.map_some, Option.toList_none, Option.toList_some,
        List.append_nil, policyTokenParts, hsome]
    | some text =>
      simp only [hashSegment, Option.map_some, Option.toList_some, List.cons_append,
        List.nil_append, policyTokenParts, hsome]

/-- **Reading an issued token back**, where the policy id has no separator. -/
theorem parse_issued (h : IssuedParts nonce commandHash signature) {policyId : List Char}
    (hcolon : ':' ∉ policyId) :
    parsePolicyToken (tokenText policyId nonce commandHash signature) =
      if trim policyId = [] then none
      else some ⟨trim policyId, nonce, commandHash, signature⟩ := by
  have hsplit : split ':' policyId = [policyId] :=
    split_eq_singleton fun c hc heq => hcolon (heq ▸ hc)
  have hnonce : nonce.isEmpty = false := by
    cases nonce with
    | nil => cases h.nonce.length
    | cons => rfl
  have hhash : commandHash.any (!isValidHash ·) = false := by
    cases hcommand : commandHash with
    | none => rfl
    | some hash =>
      obtain ⟨hhex, hlength⟩ := h.hash hash hcommand
      rw [Option.any_some, hhex.isValidHash hlength]
      rfl
  have hsignature : signature.any List.isEmpty = false := by
    cases htext : signature with
    | none => rfl
    | some text =>
      have hlength := (h.signature text htext).2
      cases text with
      | nil => cases hlength
      | cons => rfl
  rw [parsePolicyToken, h.parts_eq, hsplit, List.map_singleton, List.singleton_append,
    h.policyTokenParts_eq]
  by_cases hblank : trim policyId = []
  · simp [hblank]
  · simp [hblank, hnonce, hhash, hsignature]

/-- With a separator in the policy id a token with a hash cannot be read. -/
theorem parse_issued_of_colon {hash : List Char} (h : IssuedParts nonce (some hash) signature)
    {policyId : List Char} (hcolon : ':' ∈ policyId) :
    parsePolicyToken (tokenText policyId nonce (some hash) signature) = none := by
  obtain ⟨first, second, rest, hsplit⟩ := split_of_mem hcolon
  rw [parsePolicyToken, h.parts_eq, hsplit]
  have hnone : policyTokenParts ((first :: second :: rest).map trim ++
      nonce :: (hashSegment (some hash) ++ signature.toList)) = none := by
    by_cases hshort : rest = [] ∧ signature = none
    · -- four parts, the third of which is the nonce
      rw [hshort.1, hshort.2]
      simp only [List.map_cons, List.map_nil, hashSegment, Option.map_some, Option.toList_some,
        Option.toList_none, List.append_nil, List.cons_append, List.nil_append, policyTokenParts,
        h.nonce.hex.parseCommandHashSegment, Option.map_none]
    · refine policyTokenParts_of_length ?_
      simp only [List.length_append, List.length_map, List.length_cons, hashSegment,
        Option.map_some, Option.toList_some, List.length_nil]
      have hlong : rest.length ≠ 0 ∨ signature.toList.length ≠ 0 := by
        by_contra hboth
        rw [not_or, not_not, not_not] at hboth
        exact hshort ⟨List.eq_nil_of_length_eq_zero hboth.1,
          Option.toList_eq_nil_iff.mp (List.eq_nil_of_length_eq_zero hboth.2)⟩
      omega
  rw [hnone]
  rfl

end

/-! ## What is issued -/

namespace TokenSetup

variable {setup : TokenSetup} {policy : ExecutionPolicy} {nonce : List Char}
  {commandHash : Option (List Char)}

/-- The signature a token of a policy gets. -/
def signature? (setup : TokenSetup) (policy : ExecutionPolicy) (nonce : List Char)
    (commandHash : Option (List Char)) : Option (List Char) :=
  if policy.requireSignedToken then
    setup.hmac.map (computePolicyTokenSignature · policy.policyId.toList nonce commandHash)
  else none

/-- A policy that gets no tokens: they would have to be signed, and there is no secret. -/
def Unissued (setup : TokenSetup) (policy : ExecutionPolicy) : Prop :=
  policy.requireSignedToken = true ∧ setup.hmac = none

instance : Decidable (setup.Unissued policy) :=
  decidable_of_iff (policy.requireSignedToken = true ∧ setup.hmac.isNone = true)
    (and_congr_right' Option.isNone_iff_eq_none)

theorem hash_computeCommandScopeHash (setup : TokenSetup) (cmd : AutomationCommand) :
    LowerHex (setup.computeCommandScopeHash cmd) ∧
      (setup.computeCommandScopeHash cmd).length = 64 := by
  refine ⟨lowerHex_encodeLower _, ?_⟩
  rw [computeCommandScopeHash, Hex.length_encodeLower, setup.length_sha256]

/-- The parts of an issued token. -/
theorem issuedParts (hnonce : SimpleUuid nonce)
    (hhash : ∀ hash, commandHash = some hash → LowerHex hash ∧ hash.length = 64) :
    IssuedParts nonce commandHash (setup.signature? policy nonce commandHash) := by
  refine ⟨hnonce, hhash, fun text htext => ?_⟩
  rw [signature?] at htext
  split at htext
  · obtain ⟨mac, hmac, rfl⟩ := Option.map_eq_some_iff.mp htext
    refine ⟨lowerHex_encodeLower _, ?_⟩
    rw [computePolicyTokenSignature, Hex.length_encodeLower, setup.length_hmac mac hmac]
  · cases htext

/-- **The text of an issued token.** -/
theorem issue_eq (hnonce : SimpleUuid nonce)
    (hhash : ∀ hash, commandHash = some hash → LowerHex hash ∧ hash.length = 64)
    (hissued : ¬ setup.Unissued policy) :
    setup.issueCommandTokenForPolicy policy nonce commandHash =
      .ok (tokenText policy.policyId.toList nonce commandHash
        (setup.signature? policy nonce commandHash)) := by
  have hnonce' : isValidNonce nonce = true :=
    hnonce.hex.isValidNonce (by rw [hnonce.length]; decide)
  have hhash' : commandHash.any (!isValidHash ·) = false := by
    cases hcommand : commandHash with
    | none => rfl
    | some hash =>
      obtain ⟨hhex, hlength⟩ := hhash hash hcommand
      rw [Option.any_some, hhex.isValidHash hlength]
      rfl
  cases hsigned : policy.requireSignedToken with
  | false =>
    cases commandHash <;>
      simp [issueCommandTokenForPolicy, hnonce', hhash', hsigned, signature?, tokenText, hashSegment]
  | true =>
    cases hmac : setup.hmac with
    | none => exact absurd ⟨hsigned, hmac⟩ hissued
    | some mac =>
      cases commandHash <;>
        simp [issueCommandTokenForPolicy, hnonce', hhash', hsigned, hmac, signature?, tokenText,
          hashSegment]

/-- Without a secret no token is issued that would have to be signed. -/
theorem issue_of_unissued (hunissued : setup.Unissued policy) (token : List Char) :
    setup.issueCommandTokenForPolicy policy nonce commandHash ≠ .ok token := by
  intro h
  simp only [issueCommandTokenForPolicy, hunissued.1, hunissued.2, if_true] at h
  split at h
  · cases h
  split at h <;> cases h

end TokenSetup

/-! ## What is accepted -/

/-- A nonce that is in none of the used tokens. -/
def FreshNonce (client : PolicyClient) (nonce : List Char) : Prop :=
  ∀ entry ∈ client.validatedTokens, ¬ nonce <:+: entry.1

/-- `validate_command` returns true. -/
def TokenAccepted (setup : TokenSetup) (client : PolicyClient) (now : Int)
    (cmd : AutomationCommand) : Prop :=
  validateCommand setup.services client now cmd = .validated cmd (.ok true)

section

variable {setup : TokenSetup} {client : PolicyClient} {now : Int} {cmd : AutomationCommand}
  {policyId nonce : List Char} {commandHash signature : Option (List Char)}

/-- The checks of a token: a signature where the policy asks for one, and the hash if there is one. -/
theorem checkToken_eq_iff {policy : ExecutionPolicy} :
    checkToken setup.services cmd policy parsed = .ok true ↔
      (policy.requireSignedToken = false ∨ ∃ text, parsed.signature = some text ∧
        isValidHash text = true ∧ setup.verifyPolicyTokenSignature parsed.policyId parsed.nonce
          parsed.commandHash text = true) ∧
      ∀ hash, parsed.commandHash = some hash →
        lower hash = lower (setup.computeCommandScopeHash cmd) := by
  have hsigned : (!policy.requireSignedToken || parsed.signature.any fun signature =>
      isValidHash signature && setup.services.verifySignature parsed.policyId parsed.nonce
        parsed.commandHash signature) = true ↔
      (policy.requireSignedToken = false ∨ ∃ text, parsed.signature = some text ∧
        isValidHash text = true ∧ setup.verifyPolicyTokenSignature parsed.policyId parsed.nonce
          parsed.commandHash text = true) := by
    simp [Option.any_eq_true, TokenSetup.services]
  rw [← hsigned, checkToken]
  cases (!policy.requireSignedToken || parsed.signature.any fun signature =>
      isValidHash signature && setup.services.verifySignature parsed.policyId parsed.nonce
        parsed.commandHash signature) with
  | false => simp
  | true =>
    cases hhash : parsed.commandHash with
    | none => simp
    | some hash => simp [TokenSetup.services, Except.map]

/-- A token with a new nonce is not among the used ones. -/
theorem unused_of_freshNonce (h : IssuedParts nonce commandHash signature)
    (hnew : FreshNonce client nonce) (ttlSeconds : Nat) :
    (client.retained now ttlSeconds).any
      (·.1 == trim (tokenText policyId nonce commandHash signature)) = false := by
  rw [List.any_eq_false]
  intro entry hentry heq
  refine hnew entry (List.mem_filter.mp hentry).1 ?_
  rw [beq_iff_eq.mp heq]
  refine infix_trim h.nonce.hex.not_isWhitespace ?_
  exact ⟨policyId ++ [':'],
    (hashSegment commandHash ++ signature.toList).flatMap (':' :: ·), by simp [tokenText]⟩

/-- **When a token is accepted**: its trimmed policy id names a policy that it passes the checks of. -/
theorem accepted_iff (h : IssuedParts nonce commandHash signature) (hcolon : ':' ∉ policyId)
    (hfresh : client.remainingTtl now ≠ 0) (hnew : FreshNonce client nonce) :
    TokenAccepted setup client now
        (cmd.withToken (tokenText policyId nonce commandHash signature)) ↔
      trim policyId ≠ [] ∧ ∃ other,
        client.policies.find? (·.policyId.toList == trim policyId) = some other ∧
        checkToken setup.services cmd other ⟨trim policyId, nonce, commandHash, signature⟩ =
          .ok true := by
  have hparse : parsePolicyToken (cmd.withToken
      (tokenText policyId nonce commandHash signature)).token =
        if trim policyId = [] then none
        else some ⟨trim policyId, nonce, commandHash, signature⟩ := by
    rw [AutomationCommand.token_withToken, parsePolicyToken_trim, parse_issued h hcolon]
  constructor
  · intro haccepted
    obtain ⟨parsed, other, hseen⟩ := exists_accepts haccepted
    rw [hseen.parse] at hparse
    split at hparse
    · cases hparse
    · next hblank =>
      cases hparse
      exact ⟨hblank, other, hseen.find, hseen.checked⟩
  · rintro ⟨hblank, other, hfound, hchecked⟩
    rw [if_neg hblank] at hparse
    have hnonce : isValidNonce nonce = true :=
      h.nonce.hex.isValidNonce (by rw [h.nonce.length]; decide)
    have hunused : (client.retained now (client.remainingTtl now)).any (·.1 == (cmd.withToken
        (tokenText policyId nonce commandHash signature)).token) = false := by
      rw [AutomationCommand.token_withToken]
      exact unused_of_freshNonce h hnew _
    exact Accepts.validateCommand_eq ⟨hparse, hnonce, hfresh, hfound, hchecked, hunused⟩

/-- A token with a hash is not accepted for a command with another hash. -/
theorem not_accepted_of_ne {hash : List Char} (h : IssuedParts nonce (some hash) signature)
    (hne : setup.computeCommandScopeHash cmd ≠ hash) :
    ¬ TokenAccepted setup client now
      (cmd.withToken (tokenText policyId nonce (some hash) signature)) := by
  intro haccepted
  obtain ⟨parsed, other, hseen⟩ := exists_accepts haccepted
  have hparse := hseen.parse
  rw [AutomationCommand.token_withToken, parsePolicyToken_trim] at hparse
  by_cases hcolon : ':' ∈ policyId
  · rw [parse_issued_of_colon h hcolon] at hparse
    cases hparse
  · rw [parse_issued h hcolon] at hparse
    split at hparse
    · cases hparse
    · cases hparse
      have hlower := (checkToken_eq_iff.mp hseen.checked).2 hash rfl
      rw [(h.hash hash rfl).1.lower_eq,
        (setup.hash_computeCommandScopeHash _).1.lower_eq] at hlower
      exact hne hlower.symm

end

/-! ## The result -/

/-- **The property**: issued tokens are accepted, and one for a command is not for a command with
    another scope hash. -/
structure Agrees (setup : TokenSetup) (client : PolicyClient) (now : Int) (policyId : String)
    (nonce : List Char) (cmd : AutomationCommand) : Prop where
  free : ∀ token, setup.issueCommandToken client policyId nonce = .ok token →
    TokenAccepted setup client now (cmd.withToken token)
  bound : ∀ token, setup.issueCommandTokenForCommand client policyId nonce cmd = .ok token →
    TokenAccepted setup client now (cmd.withToken token)
  other : ∀ token, setup.issueCommandTokenForCommand client policyId nonce cmd = .ok token →
    ∀ cmd', setup.computeCommandScopeHash cmd' ≠ setup.computeCommandScopeHash cmd →
      ¬ TokenAccepted setup client now (cmd'.withToken token)

/-- A policy id that is read back from its tokens, or as that of a policy that asks for no
    signature. -/
def ReadBack (client : PolicyClient) (policyId : String) : Prop :=
  ':' ∉ policyId.toList ∧ trim policyId.toList ≠ [] ∧
    (trim policyId.toList = policyId.toList ∨
      ∃ other, client.policies.find? (·.policyId.toList == trim policyId.toList) = some other ∧
        other.requireSignedToken = false)

/-- The MAC tells the signed text of a policy from that of its trimmed id. -/
def Unforgeable (setup : TokenSetup) (policyId nonce hash : List Char) : Prop :=
  ∀ mac, setup.hmac = some mac →
    mac (buildSignaturePayload (trim policyId) nonce (some hash)) =
      mac (buildSignaturePayload policyId nonce (some hash)) →
    buildSignaturePayload (trim policyId) nonce (some hash) =
      buildSignaturePayload policyId nonce (some hash)

section

variable {setup : TokenSetup} {client : PolicyClient} {now : Int} {cmd : AutomationCommand}
  {policyId : String} {policy : ExecutionPolicy} {nonce : List Char}
  {commandHash : Option (List Char)}

theorem find?_toList (policies : List ExecutionPolicy) (policyId : String) :
    policies.find? (·.policyId.toList == policyId.toList) =
      policies.find? (·.policyId == policyId) := by
  refine congrArg (List.find? · policies) (funext fun policy => ?_)
  rw [Bool.eq_iff_iff, beq_iff_eq, beq_iff_eq, String.toList_inj]

theorem policyId_of_find? (h : client.policies.find? (·.policyId == policyId) = some policy) :
    policy.policyId = policyId := by
  have hid := List.find?_some h
  exact beq_iff_eq.mp hid

/-- A signature is right for the policy it was made for. -/
theorem verify_signature? {text : List Char}
    (htext : setup.signature? policy nonce commandHash = some text) (other : List Char) :
    ∃ mac, setup.hmac = some mac ∧
      (setup.verifyPolicyTokenSignature other nonce commandHash text = true ↔
        mac (buildSignaturePayload other nonce commandHash) =
          mac (buildSignaturePayload policy.policyId.toList nonce commandHash)) := by
  rw [TokenSetup.signature?] at htext
  split at htext
  · obtain ⟨mac, hmac, rfl⟩ := Option.map_eq_some_iff.mp htext
    refine ⟨mac, hmac, ?_⟩
    simp only [TokenSetup.verifyPolicyTokenSignature, hmac, computePolicyTokenSignature,
      Hex.decodeChars_encodeLower, beq_iff_eq]
    exact eq_comm
  · cases htext

/-- **The checks of an issued token** against the policy its id is read as. -/
theorem checkToken_issued_of_readBack
    (hcached : client.policies.find? (·.policyId == policyId) = some policy)
    (hissued : ¬ setup.Unissued policy) (hread : ReadBack client policyId)
    (hparts : IssuedParts nonce commandHash (setup.signature? policy nonce commandHash))
    (hhash : ∀ hash, commandHash = some hash →
      lower hash = lower (setup.computeCommandScopeHash cmd)) :
    ∃ other, client.policies.find? (·.policyId.toList == trim policyId.toList) = some other ∧
      checkToken setup.services cmd other ⟨trim policyId.toList, nonce, commandHash,
        setup.signature? policy nonce commandHash⟩ = .ok true := by
  rcases hread.2.2 with hid | ⟨other, hfound, hunsigned⟩
  · rw [hid, find?_toList]
    refine ⟨policy, hcached, checkToken_eq_iff.mpr ⟨?_, hhash⟩⟩
    cases hsigned : policy.requireSignedToken with
    | false => exact .inl rfl
    | true =>
      obtain ⟨mac, hmac⟩ := Option.ne_none_iff_exists'.mp fun hnone => hissued ⟨hsigned, hnone⟩
      have htext : setup.signature? policy nonce commandHash =
          some (computePolicyTokenSignature mac policy.policyId.toList nonce commandHash) := by
        rw [TokenSetup.signature?, if_pos hsigned, hmac]
        rfl
      obtain ⟨hhex, hlength⟩ := hparts.signature _ htext
      obtain ⟨mac', hmac', hverify⟩ := verify_signature? htext policyId.toList
      refine .inr ⟨_, htext, hhex.isValidHash hlength, hverify.mpr ?_⟩
      rw [policyId_of_find? hcached]
  · exact ⟨other, hfound, checkToken_eq_iff.mpr ⟨.inl hunsigned, hhash⟩⟩

/-- Signed texts of one length have policy ids of one length. -/
theorem eq_of_buildSignaturePayload {a b nonce hash : List Char}
    (h : buildSignaturePayload a nonce (some hash) = buildSignaturePayload b nonce (some hash)) :
    a = b := by
  simp only [buildSignaturePayload, List.append_assoc] at h
  exact List.append_cancel_right h

/-- A token for a command that is accepted has an id that is read back. -/
theorem readBack_of_accepted
    (hcached : client.policies.find? (·.policyId == policyId) = some policy)
    {hash : List Char}
    (hparts : IssuedParts nonce (some hash) (setup.signature? policy nonce (some hash)))
    (hnew : FreshNonce client nonce) (hfresh : client.remainingTtl now ≠ 0)
    (hunforgeable : Unforgeable setup policyId.toList nonce hash)
    (haccepted : TokenAccepted setup client now (cmd.withToken (tokenText policyId.toList nonce
      (some hash) (setup.signature? policy nonce (some hash))))) : ReadBack client policyId := by
  have hcolon : ':' ∉ policyId.toList := by
    intro hcolon
    obtain ⟨parsed, other, hseen⟩ := exists_accepts haccepted
    have hparse := hseen.parse
    rw [AutomationCommand.token_withToken, parsePolicyToken_trim,
      parse_issued_of_colon hparts hcolon] at hparse
    cases hparse
  obtain ⟨hblank, other, hfound, hchecked⟩ := (accepted_iff hparts hcolon hfresh hnew).mp haccepted
  refine ⟨hcolon, hblank, ?_⟩
  rcases (checkToken_eq_iff.mp hchecked).1 with hunsigned | ⟨text, htext, -, hverified⟩
  · exact .inr ⟨other, hfound, hunsigned⟩
  · obtain ⟨mac, hmac, hverify⟩ := verify_signature? htext (trim policyId.toList)
    have hmacs := hverify.mp hverified
    rw [policyId_of_find? hcached] at hmacs
    exact .inl (eq_of_buildSignaturePayload (hunforgeable mac hmac hmacs))

/-- A token of an id that is read back is accepted. -/
theorem accepted_of_readBack
    (hcached : client.policies.find? (·.policyId == policyId) = some policy)
    (hissued : ¬ setup.Unissued policy) (hread : ReadBack client policyId)
    (hnonce : SimpleUuid nonce) (hnew : FreshNonce client nonce)
    (hfresh : client.remainingTtl now ≠ 0)
    (hhash : ∀ hash, commandHash = some hash → hash = setup.computeCommandScopeHash cmd)
    {token : List Char}
    (htoken : setup.issueCommandTokenForPolicy policy nonce commandHash = .ok token) :
    TokenAccepted setup client now (cmd.withToken token) := by
  have hscope : ∀ hash, commandHash = some hash → LowerHex hash ∧ hash.length = 64 :=
    fun hash hcommand => hhash hash hcommand ▸ setup.hash_computeCommandScopeHash cmd
  have hparts : IssuedParts nonce commandHash (setup.signature? policy nonce commandHash) :=
    TokenSetup.issuedParts hnonce hscope
  rw [TokenSetup.issue_eq hnonce hscope hissued, policyId_of_find? hcached] at htoken
  cases htoken
  refine (accepted_iff hparts hread.1 hfresh hnew).mpr ⟨hread.2.1, ?_⟩
  exact checkToken_issued_of_readBack hcached hissued hread hparts
    fun hash hcommand => congrArg lower (hhash hash hcommand)

/-- **Issued tokens are accepted** exactly for the policy ids that are read back, and for the
    policies that get no tokens. -/
theorem issued_token_accepted_iff
    (hcached : client.policies.find? (·.policyId == policyId) = some policy)
    (hnonce : SimpleUuid nonce) (hnew : FreshNonce client nonce)
    (hfresh : client.remainingTtl now ≠ 0)
    (hunforgeable : Unforgeable setup policyId.toList nonce (setup.computeCommandScopeHash cmd)) :
    Agrees setup client now policyId nonce cmd ↔
      setup.Unissued policy ∨ ReadBack client policyId := by
  have hfree : setup.issueCommandToken client policyId nonce =
      setup.issueCommandTokenForPolicy policy nonce none := by
    rw [TokenSetup.issueCommandToken, hcached]
  have hbound : setup.issueCommandTokenForCommand client policyId nonce cmd =
      setup.issueCommandTokenForPolicy policy nonce
        (some (setup.computeCommandScopeHash cmd)) := by
    rw [TokenSetup.issueCommandTokenForCommand, hcached]
  have hscope : ∀ hash, some (setup.computeCommandScopeHash cmd) = some hash →
      LowerHex hash ∧ hash.length = 64 := by
    rintro _ ⟨⟩
    exact setup.hash_computeCommandScopeHash cmd
  have hparts : IssuedParts nonce (some (setup.computeCommandScopeHash cmd))
      (setup.signature? policy nonce (some (setup.computeCommandScopeHash cmd))) :=
    TokenSetup.issuedParts hnonce hscope
  by_cases hissued : setup.Unissued policy
  · refine iff_of_true ⟨fun token htoken => ?_, fun token htoken => ?_, fun token htoken => ?_⟩
      (.inl hissued)
    · exact absurd (hfree.symm.trans htoken) (TokenSetup.issue_of_unissued hissued token)
    · exact absurd (hbound.symm.trans htoken) (TokenSetup.issue_of_unissued hissued token)
    · exact absurd (hbound.symm.trans htoken) (TokenSetup.issue_of_unissued hissued token)
  · have htext := TokenSetup.issue_eq hnonce hscope hissued
    constructor
    · intro hagrees
      have haccepted := hagrees.bound _ (hbound.trans htext)
      rw [policyId_of_find? hcached] at haccepted
      exact .inr (readBack_of_accepted hcached hparts hnew hfresh hunforgeable haccepted)
    · intro hread
      have hread := hread.resolve_left hissued
      refine ⟨fun token htoken => ?_, fun token htoken => ?_, fun token htoken cmd' hne => ?_⟩
      · refine accepted_of_readBack hcached hissued hread hnonce hnew hfresh ?_
          (hfree.symm.trans htoken)
        rintro _ ⟨⟩
      · refine accepted_of_readBack hcached hissued hread hnonce hnew hfresh ?_
          (hbound.symm.trans htoken)
        rintro _ ⟨⟩
        rfl
      · rw [hbound, htext] at htoken
        cases htoken
        exact not_accepted_of_ne hparts hne

end

/-- A secret whose MAC is the length of the text, and a hash that is the length of the command's id. -/
def exampleTokenSetup : TokenSetup where
  hmac := some fun payload => List.replicate 32 (UInt8.ofNat payload.length)
  sha256 scope := List.replicate 32 (UInt8.ofNat scope.commandId.length)
  length_hmac mac h payload := by
    cases h
    exact List.length_replicate
  length_sha256 scope := List.length_replicate

/-- A client with one policy, a second ago. -/
def exampleClient (policyId : String) (requireSignedToken : Bool) : PolicyClient where
  policies := [{ IndexedPolicyClient.examplePolicy policyId "ls" with requireSignedToken }]
  lastUpdated := 0
  ttlSeconds := PolicyClient.defaultTtlSeconds
  validatedTokens := []

/-- A nonce. -/
def exampleNonce : List Char := "0123456789abcdef0123456789abcdef".toList

theorem issued_token_accepted_signed :
    Agrees exampleTokenSetup (exampleClient "pol-1" true) second "pol-1" exampleNonce
      (exampleCommand "") := by
  refine (issued_token_accepted_iff rfl ⟨rfl, by decide +kernel⟩ ?_ (by decide) ?_).mpr
    (.inr ⟨by decide, by decide, .inl (by decide)⟩)
  · intro entry hentry
    cases hentry
  · rintro mac ⟨⟩ -
    decide +kernel

/-- The token of the policy `team:pol-1` is read as one of a policy `team` with the nonce `pol-1`. -/
theorem token_of_team_refused :
    ¬ ∀ (setup : TokenSetup) (client : PolicyClient) (now : Int) (policyId : String)
        (policy : ExecutionPolicy) (nonce : List Char) (cmd : AutomationCommand),
      client.policies.find? (·.policyId == policyId) = some policy → SimpleUuid nonce →
      FreshNonce client nonce → client.remainingTtl now ≠ 0 →
      Unforgeable setup policyId.toList nonce (setup.computeCommandScopeHash cmd) →
        Agrees setup client now policyId nonce cmd := by
  intro hall
  have hnew : FreshNonce (exampleClient "team:pol-1" false) exampleNonce := by
    intro entry hentry
    cases hentry
  have hagrees := hall exampleTokenSetup (exampleClient "team:pol-1" false) second "team:pol-1" _
    exampleNonce (exampleCommand "") rfl ⟨rfl, by decide +kernel⟩ hnew (by decide)
    (by rintro mac ⟨⟩ -; decide +kernel)
  obtain ⟨parsed, policy, hseen⟩ := exists_accepts
    (hagrees.free ("team:pol-1:".toList ++ exampleNonce) (by decide +kernel))
  have hparse : parsePolicyToken ((exampleCommand "").withToken
      ("team:pol-1:".toList ++ exampleNonce)).token =
        some ⟨"team".toList, "pol-1".toList, none, some exampleNonce⟩ := by
    decide +kernel
  cases hseen.parse.symm.trans hparse
  exact absurd hseen.nonce (by decide)

end Oneshim.Automation
