/-
  Execution policies and their tokens (`oneshim-automation/src/policy/`, `resolver.rs`).

  A command carries a policy TOKEN, `policy_id:nonce` with an optional command hash and signature.
  `validate_command` accepts a token once, for a policy that is in the cache; it looks at the cache
  in three separate locks and at the tokens used so far in a fourth.

  1. **Tokens** — `parsePolicyToken`, and the policy that a token names.

  2. **The client** — the cache and its updates.

  3. **Spelling** (`getPolicyForToken_trim`) — the token as it was sent and the trimmed token that
     `validate_command` works with name the same policy.

  Signatures (HMAC) and command hashes (SHA-256 of the serialized command) are left open as
  `PolicyServices`.  Nothing here reads `allowed_processes`, which `IndexedPolicyClient` has.
-/
import Mathlib.Algebra.Group.Int.Defs
import Oneshim.Lib.Text

namespace Oneshim.Automation

open Lib Lib.Text

/-! ## Data -/

/-- `AuditLevel`. -/
inductive AuditLevel where
  | none | basic | detailed | full
  deriving DecidableEq

/-- `AuditLevel` as `{:?}` prints it. -/
def AuditLevel.debug : AuditLevel → String
  | .none => "None"
  | .basic => "Basic"
  | .detailed => "Detailed"
  | .full => "Full"

/-- `SandboxProfile`. -/
inductive SandboxProfile where
  | permissive | standard | strict
  deriving DecidableEq

/-- `ConfirmationRequirement`. -/
inductive ConfirmationRequirement where
  | auto | confirm | block
  deriving DecidableEq

/-- `SandboxConfig`. -/
structure SandboxConfig where
  enabled : Bool
  profile : SandboxProfile
  allowedReadPaths : List String
  allowedWritePaths : List String
  allowNetwork : Bool
  maxMemoryBytes : Nat
  maxCpuTimeMs : Nat
  deriving DecidableEq

/-- `ExecutionPolicy`, without the process hash. -/
structure ExecutionPolicy where
  policyId : String
  processName : String
  allowedArgs : List String
  requiresSudo : Bool
  maxExecutionTimeMs : Nat
  auditLevel : AuditLevel
  sandboxProfile : Option SandboxProfile
  allowedPaths : List String
  allowNetwork : Option Bool
  requireSignedToken : Bool
  confirmation : ConfirmationRequirement
  deriving DecidableEq

/-- `AutomationAction`. -/
inductive AutomationAction where
  | mouseMove (x y : Int)
  | mouseClick (button : String) (x y : Int)
  | keyType (text : String)
  | keyPress (key : String)
  | keyRelease (key : String)
  | hotkey (keys : List String)
  deriving DecidableEq

/-- `AutomationCommand`. -/
structure AutomationCommand where
  commandId : String
  sessionId : String
  action : AutomationAction
  timeoutMs : Option Nat
  policyToken : String
  deriving DecidableEq

/-- `AutomationError`, the variants that are built here. -/
inductive AutomationError where
  | configMissing (message : String)
  | policyDenied (message : String)
  | internal (message : String)

/-! ## The sandbox of a policy -/

/-- `resolve_sandbox_profile`. -/
def resolveSandboxProfile (policy : ExecutionPolicy) : SandboxProfile :=
  match policy.sandboxProfile with
  | some profile => profile
  | none =>
    match policy.auditLevel with
    | .none => if policy.requiresSudo then .standard else .permissive
    | .basic => .standard
    | .detailed => .strict
    | .full => .strict

/-- `resolve_sandbox_config`. -/
def resolveSandboxConfig (policy : ExecutionPolicy) (baseConfig : SandboxConfig) : SandboxConfig :=
  let profile := resolveSandboxProfile policy
  { enabled := baseConfig.enabled
    profile
    allowedReadPaths := policy.allowedPaths.foldl
      (fun paths path => if paths.contains path then paths else paths ++ [path])
      baseConfig.allowedReadPaths
    allowedWritePaths := baseConfig.allowedWritePaths
    allowNetwork := policy.allowNetwork.getD (profile == .permissive)
    maxMemoryBytes := baseConfig.maxMemoryBytes
    maxCpuTimeMs :=
      if policy.maxExecutionTimeMs > 0 then policy.maxExecutionTimeMs else baseConfig.maxCpuTimeMs }

/-- `default_strict_config`. -/
def defaultStrictConfig (baseConfig : SandboxConfig) : SandboxConfig :=
  { baseConfig with profile := .strict, allowedWritePaths := [], allowNetwork := false }

/-! ## Tokens -/

/-- `ParsedPolicyToken`. -/
structure ParsedPolicyToken where
  policyId : List Char
  nonce : List Char
  commandHash : Option (List Char)
  signature : Option (List Char)
  deriving DecidableEq

/-- `char::is_ascii_hexdigit`. -/
def isAsciiHexdigit (c : Char) : Bool :=
  c.isDigit || ('a' ≤ c && c ≤ 'f') || ('A' ≤ c && c ≤ 'F')

/-- `is_valid_hash`. -/
def isValidHash (hash : List Char) : Bool := hash.length == 64 && hash.all isAsciiHexdigit

/-- `parse_command_hash_segment`. -/
def parseCommandHashSegment : List Char → Option (List Char)
  | 'h' :: hash => if isValidHash hash then some hash else none
  | _ => none

/-- The parts of a token. -/
def policyTokenParts : List (List Char) → Option ParsedPolicyToken
  | [policyId, nonce] => some ⟨policyId, nonce, none, none⟩
  | [policyId, nonce, third] =>
    match parseCommandHashSegment third with
    | some commandHash => some ⟨policyId, nonce, some commandHash, none⟩
    | none => some ⟨policyId, nonce, none, some third⟩
  | [policyId, nonce, third, fourth] =>
    (parseCommandHashSegment third).map fun commandHash =>
      ⟨policyId, nonce, some commandHash, some fourth⟩
  | _ => none

/-- `parse_policy_token`. -/
def parsePolicyToken (token : List Char) : Option ParsedPolicyToken :=
  (policyTokenParts ((split ':' token).map trim)).filter fun parsed =>
    !(parsed.policyId.isEmpty || parsed.nonce.isEmpty) &&
      !parsed.commandHash.any (!isValidHash ·) && !parsed.signature.any List.isEmpty

/-- `is_valid_nonce`; all of its characters are ASCII, so its length is its number of bytes. -/
def isValidNonce (nonce : List Char) : Bool :=
  nonce.length ≥ 8 && nonce.all fun c => c.isAlphanum || c == '-' || c == '_'

/-- What the tokens are checked against. -/
structure PolicyServices where
  /-- `verify_policy_token_signature`. -/
  verifySignature : List Char → List Char → Option (List Char) → List Char → Bool
  /-- `compute_command_scope_hash`. -/
  scopeHash : AutomationCommand → Except AutomationError (List Char)

/-- `get_policy_for_token` over the policies of the cache. -/
def getPolicyForToken (policies : List ExecutionPolicy) (policyToken : List Char) :
    Option ExecutionPolicy :=
  let policyId :=
    match parsePolicyToken policyToken with
    | some token => token.policyId
    | none => policyToken
  policies.find? fun policy => policy.policyId.toList == policyId

/-- The checks of `validate_command` between the lookup of the policy and the lock on the used
    tokens. -/
def checkToken (services : PolicyServices) (cmd : AutomationCommand) (policy : ExecutionPolicy)
    (parsed : ParsedPolicyToken) : Except AutomationError Bool :=
  let signed :=
    !policy.requireSignedToken ||
      parsed.signature.any fun signature => isValidHash signature &&
        services.verifySignature parsed.policyId parsed.nonce parsed.commandHash signature
  if signed then
    match parsed.commandHash with
    | none => .ok true
    | some commandHash =>
      (services.scopeHash cmd).map fun expected => lower commandHash == lower expected
  else .ok false

/-! ## The client -/

/-- The nanoseconds of a second. -/
def second : Int := 1000000000

/-- `signed_duration_since(..).num_seconds()`, times in nanoseconds. -/
def secondsBetween (later earlier : Int) : Int := (later - earlier).tdiv second

/-- `PolicyClient`, the cache with its locks opened. -/
structure PolicyClient where
  policies : List ExecutionPolicy
  lastUpdated : Int
  ttlSeconds : Nat
  validatedTokens : List (List Char × Int)

namespace PolicyClient

/-- The `ttl_seconds` of `PolicyCache::default`. -/
def defaultTtlSeconds : Nat := 300

/-- `PolicyClient::new`. -/
def new (now : Int) : PolicyClient := ⟨[], now, defaultTtlSeconds, []⟩

/-- The `ttl_seconds` that is left, zero when the cache has expired; a negative age wraps. -/
def remainingTtl (now : Int) (self : PolicyClient) : Nat :=
  if (secondsBetween now self.lastUpdated % 2 ^ 64).toNat ≥ self.ttlSeconds then 0
  else self.ttlSeconds

/-- The tokens that still count as used; the age is compared as an `i64`. -/
def retained (now : Int) (ttlSeconds : Nat) (self : PolicyClient) : List (List Char × Int) :=
  self.validatedTokens.filter fun entry =>
    secondsBetween now entry.2 < Int.bmod ttlSeconds (2 ^ 64)

/-- `update_policies`. -/
def updatePolicies (now : Int) (policies : List ExecutionPolicy) (self : PolicyClient) :
    PolicyClient :=
  { self with policies, lastUpdated := now, validatedTokens := [] }

/-- `add_policy`. -/
def addPolicy (now : Int) (policy : ExecutionPolicy) (self : PolicyClient) : PolicyClient :=
  { self with
    policies := self.policies.filter (·.policyId ≠ policy.policyId) ++ [policy], lastUpdated := now }

/-- `remove_policy`. -/
def removePolicy (now : Int) (policyId : String) (self : PolicyClient) : PolicyClient :=
  let policies := self.policies.filter (·.policyId ≠ policyId)
  if policies.length < self.policies.length then { self with policies, lastUpdated := now }
  else { self with policies }

end PolicyClient

/-! ## Spelling -/

/-- A token and the trimmed token are the same. -/
theorem parsePolicyToken_trim (token : List Char) :
    parsePolicyToken (trim token) = parsePolicyToken token := by
  unfold parsePolicyToken
  rw [map_trim_split_trim (by decide)]

/-- A token that can be read names the same policy, however it is spelled. -/
theorem getPolicyForToken_trim {token : List Char} {parsed : ParsedPolicyToken}
    (h : parsePolicyToken token = some parsed) (policies : List ExecutionPolicy) :
    getPolicyForToken policies (trim token) = getPolicyForToken policies token := by
  unfold getPolicyForToken
  rw [parsePolicyToken_trim, h]

end Oneshim.Automation
