/-
  Policies across the port (`oneshim-automation/src/controller/port_impl.rs`).

  The settings page lists the policies and saves them again.  On the way the enumerations are text:
  what `{:?}` prints, and what a match with a catch-all reads.

  1. **Code** — the two conversions, `list_execution_policies`, `add_execution_policy` and the
     resolved audit level.

  2. **The way there and back** (`dtoToPolicy_policyToDto`) — everything comes back but the audit
     level, and of the audit levels `Full` comes back as `Basic`.

  3. **Decisions** (`same_decisions_iff`) — a policy that is saved as it was listed changes no
     decision about a command, except for a `Full` one that the command resolves to.
-/
import Oneshim.Automation.PolicyTokens

namespace Oneshim.Automation

open Lib Lib.Text

/-! ## The code -/

/-- `SandboxProfile` as `{:?}` prints it. -/
def SandboxProfile.debug : SandboxProfile → String
  | .permissive => "Permissive"
  | .standard => "Standard"
  | .strict => "Strict"

/-- `ConfirmationRequirement` as `{:?}` prints it. -/
def ConfirmationRequirement.debug : ConfirmationRequirement → String
  | .auto => "Auto"
  | .confirm => "Confirm"
  | .block => "Block"

/-- `ExecutionPolicyDto`, without the process hash. -/
structure ExecutionPolicyDto where
  policyId : String
  processName : String
  allowedArgs : List String
  requiresSudo : Bool
  maxExecutionTimeMs : Nat
  auditLevel : String
  sandboxProfile : Option String
  allowedPaths : List String
  allowNetwork : Option Bool
  requireSignedToken : Bool
  confirmation : String
  deriving DecidableEq

/-- `policy_to_dto`. -/
def policyToDto (p : ExecutionPolicy) : ExecutionPolicyDto where
  policyId := p.policyId
  processName := p.processName
  allowedArgs := p.allowedArgs
  requiresSudo := p.requiresSudo
  maxExecutionTimeMs := p.maxExecutionTimeMs
  auditLevel := p.auditLevel.debug
  sandboxProfile := p.sandboxProfile.map SandboxProfile.debug
  allowedPaths := p.allowedPaths
  allowNetwork := p.allowNetwork
  requireSignedToken := p.requireSignedToken
  confirmation := p.confirmation.debug

/-- The match on the audit level. -/
def readAuditLevel (s : String) : AuditLevel :=
  if s = "None" then .none
  else if s = "Detailed" then .detailed
  else .basic

/-- The match on the sandbox profile. -/
def readSandboxProfile (s : String) : Option SandboxProfile :=
  if s = "Permissive" then some .permissive
  else if s = "Standard" then some .standard
  else if s = "Strict" then some .strict
  else none

/-- The match on the confirmation requirement. -/
def readConfirmation (s : String) : ConfirmationRequirement :=
  if s = "Auto" then .auto
  else if s = "Block" then .block
  else .confirm

/-- `dto_to_policy`. -/
def dtoToPolicy (d : ExecutionPolicyDto) : ExecutionPolicy where
  policyId := d.policyId
  processName := d.processName
  allowedArgs := d.allowedArgs
  requiresSudo := d.requiresSudo
  maxExecutionTimeMs := d.maxExecutionTimeMs
  auditLevel := readAuditLevel d.auditLevel
  sandboxProfile := d.sandboxProfile.bind readSandboxProfile
  allowedPaths := d.allowedPaths
  allowNetwork := d.allowNetwork
  requireSignedToken := d.requireSignedToken
  confirmation := readConfirmation d.confirmation

namespace PolicyClient

/-- `list_execution_policies`. -/
def listExecutionPolicies (self : PolicyClient) : List ExecutionPolicyDto :=
  self.policies.map policyToDto

/-- `add_execution_policy`. -/
def addExecutionPolicy (now : Int) (policy : ExecutionPolicyDto) (self : PolicyClient) :
    PolicyClient :=
  self.addPolicy now (dtoToPolicy policy)

/-- The token counts as used. -/
def usedUp (now : Int) (self : PolicyClient) (token : List Char) : Bool :=
  (self.retained now (self.remainingTtl now)).any (·.1 == token)

end PolicyClient

/-- The requirement that `execute_command` looks up. -/
def confirmationFor (policies : List ExecutionPolicy) (cmd : AutomationCommand) :
    Option ConfirmationRequirement :=
  (getPolicyForToken policies cmd.policyToken.toList).map (·.confirmation)

/-- `resolve_for_command`, the audit level. -/
def resolveAuditLevel (policies : List ExecutionPolicy) (cmd : AutomationCommand) : AuditLevel :=
  if usesInternalPolicyToken cmd.policyToken then .basic
  else
    match getPolicyForToken policies cmd.policyToken.toList with
    | some policy => policy.auditLevel
    | none => .basic

/-! ## The way there and back -/

/-- What an audit level comes back as. -/
def AuditLevel.reread : AuditLevel → AuditLevel
  | .none => .none
  | .basic => .basic
  | .detailed => .detailed
  | .full => .basic

theorem AuditLevel.reread_eq_self_iff (level : AuditLevel) :
    level.reread = level ↔ level ≠ .full := by
  cases level with
  | none => decide
  | basic => decide
  | detailed => decide
  | full => decide

theorem readAuditLevel_debug (level : AuditLevel) : readAuditLevel level.debug = level.reread := by
  cases level with
  | none => decide
  | basic => decide
  | detailed => decide
  | full => decide

theorem readSandboxProfile_debug (profile : SandboxProfile) :
    readSandboxProfile profile.debug = some profile := by
  cases profile with
  | permissive => decide
  | standard => decide
  | strict => decide

theorem readConfirmation_debug (requirement : ConfirmationRequirement) :
    readConfirmation requirement.debug = requirement := by
  cases requirement with
  | auto => decide
  | confirm => decide
  | block => decide

/-- What a policy comes back as. -/
def ExecutionPolicy.reread (p : ExecutionPolicy) : ExecutionPolicy :=
  { p with auditLevel := p.auditLevel.reread }

/-- **What comes back of a listed policy.** -/
theorem dtoToPolicy_policyToDto (p : ExecutionPolicy) :
    dtoToPolicy (policyToDto p) = p.reread := by
  have hprofile : (p.sandboxProfile.map SandboxProfile.debug).bind readSandboxProfile =
      p.sandboxProfile := by
    cases p.sandboxProfile with
    | none => rfl
    | some profile => exact readSandboxProfile_debug profile
  unfold dtoToPolicy policyToDto ExecutionPolicy.reread
  simp only [readAuditLevel_debug, readConfirmation_debug, hprofile]

theorem ExecutionPolicy.reread_of_ne {p : ExecutionPolicy} (h : p.auditLevel ≠ .full) :
    p.reread = p := by
  unfold ExecutionPolicy.reread
  rw [(p.auditLevel.reread_eq_self_iff).mpr h]

/-! ## Decisions -/

/-- The policy of an id after one has been added in the place of `p`. -/
theorem find?_add {policies : List ExecutionPolicy}
    (hdistinct : (policies.map (·.policyId)).Nodup) {p : ExecutionPolicy} (hp : p ∈ policies)
    (q : ExecutionPolicy) (hid : q.policyId = p.policyId) (policyId : List Char) :
    (policies.filter (·.policyId ≠ q.policyId) ++ [q]).find? (·.policyId.toList == policyId) =
      (policies.find? (·.policyId.toList == policyId)).map fun found =>
        if found = p then q else found := by
  rw [hid, List.find?_append, List.find?_filter]
  by_cases hnamed : p.policyId.toList = policyId
  · -- the token names the policy that is replaced
    have hothers : policies.find? (fun policy =>
        decide (decide (policy.policyId ≠ p.policyId) = true ∧
          (policy.policyId.toList == policyId) = true)) = none := by
      apply List.find?_eq_none.mpr
      intro policy _
      simp only [decide_eq_true_eq, beq_iff_eq, not_and]
      intro hne hsame
      exact hne (String.toList_inj.mp (hsame.trans hnamed.symm))
    have hfound : policies.find? (·.policyId.toList == policyId) = some p := by
      cases hfind : policies.find? (·.policyId.toList == policyId) with
      | none =>
        have hnot := List.find?_eq_none.mp hfind p hp
        simp only [beq_iff_eq] at hnot
        exact absurd hnamed hnot
      | some found =>
        have hsame : found.policyId.toList = policyId := by simpa using List.find?_some hfind
        have hmem := List.mem_of_find?_eq_some hfind
        exact congrArg some (List.inj_on_of_nodup_map hdistinct hmem hp
          (String.toList_inj.mp (hsame.trans hnamed.symm)))
    rw [hothers, hfound, Option.none_or, Option.map_some, if_pos rfl,
      List.find?_cons_of_pos (by simpa [hid] using hnamed)]
  · have hothers : (fun policy : ExecutionPolicy =>
        decide (decide (policy.policyId ≠ p.policyId) = true ∧
          (policy.policyId.toList == policyId) = true)) =
        fun policy => policy.policyId.toList == policyId := by
      funext policy
      by_cases hsame : policy.policyId.toList = policyId
      · have hne : policy.policyId ≠ p.policyId := fun h => hnamed (h ▸ hsame)
        simp [hne, hsame]
      · simp [hsame]
    rw [hothers, List.find?_cons_of_neg (by simpa [hid] using hnamed), List.find?_nil,
      Option.or_none]
    cases hfind : policies.find? (·.policyId.toList == policyId) with
    | none => rfl
    | some found =>
      have hsame : found.policyId.toList = policyId := by simpa using List.find?_some hfind
      have hne : found ≠ p := fun h => hnamed (h ▸ hsame)
      rw [Option.map_some, if_neg hne]

/-- What is decided about a command: the confirmation that is asked for, the sandbox and the audit
    level it runs with, and whether its token is accepted, at the same time since the refresh of the
    policies and with the token as used or unused. -/
structure SameDecisions (services : PolicyServices) (baseConfig : SandboxConfig)
    (cmd : AutomationCommand) (before after : PolicyClient) : Prop where
  confirmation : confirmationFor after.policies cmd = confirmationFor before.policies cmd
  sandbox : resolveForCommand after.policies baseConfig cmd =
    resolveForCommand before.policies baseConfig cmd
  auditLevel : resolveAuditLevel after.policies cmd = resolveAuditLevel before.policies cmd
  accepted : ∀ now now' : Int,
    secondsBetween now' after.lastUpdated = secondsBetween now before.lastUpdated →
    after.usedUp now' cmd.token = before.usedUp now cmd.token →
    validateCommand services after now' cmd = validateCommand services before now cmd

section

variable {client : PolicyClient} {p : ExecutionPolicy} {time : Int} {cmd : AutomationCommand}

/-- What a token names after a listed policy has been saved again. -/
theorem getPolicyForToken_addExecutionPolicy (time : Int)
    (hdistinct : (client.policies.map (·.policyId)).Nodup) (hp : p ∈ client.policies)
    (token : List Char) :
    getPolicyForToken (client.addExecutionPolicy time (policyToDto p)).policies token =
      (getPolicyForToken client.policies token).map fun found =>
        if found = p then p.reread else found := by
  have hadd : (client.addExecutionPolicy time (policyToDto p)).policies =
      client.policies.filter (·.policyId ≠ (dtoToPolicy (policyToDto p)).policyId) ++
        [dtoToPolicy (policyToDto p)] := rfl
  rw [hadd, dtoToPolicy_policyToDto]
  exact find?_add hdistinct hp p.reread rfl _

/-- The audit level is the only thing that can be another one. -/
theorem sameDecisions_iff_auditLevel (services : PolicyServices) (baseConfig : SandboxConfig)
    (hdistinct : (client.policies.map (·.policyId)).Nodup) (hp : p ∈ client.policies) :
    SameDecisions services baseConfig cmd client
        (client.addExecutionPolicy time (policyToDto p)) ↔
      resolveAuditLevel (client.addExecutionPolicy time (policyToDto p)).policies cmd =
          resolveAuditLevel client.policies cmd ∧
        resolveForCommand (client.addExecutionPolicy time (policyToDto p)).policies baseConfig cmd =
          resolveForCommand client.policies baseConfig cmd := by
  have hnamed := getPolicyForToken_addExecutionPolicy time hdistinct hp
  constructor
  · exact fun h => ⟨h.auditLevel, h.sandbox⟩
  · rintro ⟨haudit, hsandbox⟩
    refine ⟨?_, hsandbox, haudit, ?_⟩
    · unfold confirmationFor
      rw [hnamed, Option.map_map]
      congr 1
      funext found
      show (if found = p then _ else found).confirmation = found.confirmation
      by_cases hsame : found = p
      · rw [if_pos hsame, hsame]
        rfl
      · rw [if_neg hsame]
    · intro now now' hage hused
      have hremaining : (client.addExecutionPolicy time (policyToDto p)).remainingTtl now' =
          client.remainingTtl now := by
        unfold PolicyClient.remainingTtl
        rw [hage]
        rfl
      have hchecks : ∀ (found : ExecutionPolicy) (parsed : ParsedPolicyToken),
          checkToken services cmd (if found = p then p.reread else found) parsed =
            checkToken services cmd found parsed := by
        intro found parsed
        by_cases hsame : found = p
        · rw [if_pos hsame, hsame]
          rfl
        · rw [if_neg hsame]
      have httl : (client.addExecutionPolicy time (policyToDto p)).ttlSeconds =
          client.ttlSeconds := rfl
      simp only [PolicyClient.usedUp, hremaining] at hused
      simp only [validateCommand, TokenService.turn, TokenService.validate, httl]
      by_cases hzero : client.ttlSeconds = 0
      · simp only [if_pos hzero]
      · simp only [if_neg hzero]
        cases hparsed : parsePolicyToken cmd.token with
        | none => rfl
        | some parsed =>
          simp only [hremaining]
          by_cases hrefused : (cmd.token.isEmpty || !isValidNonce parsed.nonce ||
              client.remainingTtl now == 0) = true
          · simp only [if_pos hrefused]
          · simp only [if_neg hrefused, hparsed, hnamed]
            cases getPolicyForToken client.policies cmd.token with
            | none => rfl
            | some found =>
              simp only [Option.map_some, hchecks]
              cases checkToken services cmd found parsed with
              | error error => rfl
              | ok accepted =>
                cases accepted with
                | false => rfl
                | true =>
                  -- only the used tokens are left to be looked at
                  simp only [hused]
                  split <;> rfl

end

/-- **Saving a listed policy again changes no decision** about a command, unless the policy asks for
    a full audit and the command resolves to it. -/
theorem same_decisions_iff (services : PolicyServices) (baseConfig : SandboxConfig)
    (client : PolicyClient) (hdistinct : (client.policies.map (·.policyId)).Nodup)
    (dto : ExecutionPolicyDto) (hdto : dto ∈ client.listExecutionPolicies) (time : Int)
    (cmd : AutomationCommand) :
    SameDecisions services baseConfig cmd client (client.addExecutionPolicy time dto) ↔
      ¬ ∃ p, policyToDto p = dto ∧ p.auditLevel = .full ∧
        usesInternalPolicyToken cmd.policyToken = false ∧
        getPolicyForToken client.policies cmd.policyToken.toList = some p := by
  obtain ⟨p, hp, rfl⟩ := List.mem_map.mp hdto
  rw [sameDecisions_iff_auditLevel services baseConfig hdistinct hp]
  have hnamed := getPolicyForToken_addExecutionPolicy time hdistinct hp
    cmd.policyToken.toList
  have hsame : ∀ q, policyToDto q = policyToDto p →
      getPolicyForToken client.policies cmd.policyToken.toList = some q → q = p := by
    intro q hdto hfind
    exact List.inj_on_of_nodup_map hdistinct (List.mem_of_find?_eq_some hfind) hp
      (congrArg ExecutionPolicyDto.policyId hdto)
  by_cases hlost : p.auditLevel = .full ∧ usesInternalPolicyToken cmd.policyToken = false ∧
      getPolicyForToken client.policies cmd.policyToken.toList = some p
  · -- the audit level that is resolved is another one
    obtain ⟨hfull, hexternal, hfind⟩ := hlost
    refine iff_of_false (fun h => ?_) (fun h => h ⟨p, rfl, hfull, hexternal, hfind⟩)
    have haudit := h.1
    unfold resolveAuditLevel at haudit
    rw [hnamed, hfind, hexternal, Option.map_some, if_pos rfl] at haudit
    have hbasic : p.auditLevel.reread = p.auditLevel := haudit
    rw [AuditLevel.reread_eq_self_iff] at hbasic
    exact hbasic hfull
  · refine iff_of_true ?_ ?_
    · unfold resolveAuditLevel resolveForCommand
      by_cases hinternal : usesInternalPolicyToken cmd.policyToken = true
      · simp only [if_pos hinternal, and_self]
      · have hkept : (getPolicyForToken client.policies cmd.policyToken.toList).map
            (fun found => if found = p then p.reread else found) =
            getPolicyForToken client.policies cmd.policyToken.toList := by
          cases hfind : getPolicyForToken client.policies cmd.policyToken.toList with
          | none => rfl
          | some found =>
            rw [Option.map_some]
            by_cases hsame : found = p
            · rw [if_pos hsame, hsame, ExecutionPolicy.reread_of_ne]
              intro hfull
              exact hlost ⟨hfull, by simpa using hinternal, hsame ▸ hfind⟩
            · rw [if_neg hsame]
        rw [hnamed, hkept]
        exact ⟨rfl, rfl⟩
    · rintro ⟨q, hdto, hfull, hexternal, hfind⟩
      obtain rfl := hsame q hdto hfind
      exact hlost ⟨hfull, hexternal, hfind⟩

/-- Nothing is signed and every command has the empty hash. -/
def unsignedServices : PolicyServices := ⟨fun _ _ _ _ => false, fun _ => .ok []⟩

/-- A sandbox without paths and limits. -/
def openSandbox : SandboxConfig := ⟨true, .standard, [], [], false, 0, 0⟩

/-- A policy that asks for a full audit. -/
def fullAuditClient : PolicyClient :=
  ⟨[⟨"pol-1", "git", [], false, 0, .full, none, [], none, false, .auto⟩], 0, 300, []⟩

/-- A command with a token for it. -/
def fullAuditCommand : AutomationCommand :=
  ⟨"cmd-1", "sess-1", .keyPress "a", none, "pol-1:nonce-0001"⟩

/-- The policy as it is listed. -/
def fullAuditDto : ExecutionPolicyDto :=
  ⟨"pol-1", "git", [], false, 0, "Full", none, [], none, false, "Auto"⟩

theorem fullAuditDto_listed : fullAuditDto ∈ fullAuditClient.listExecutionPolicies := by
  decide

theorem same_decisions_iff_fullAudit :
    SameDecisions unsignedServices openSandbox fullAuditCommand fullAuditClient
        (fullAuditClient.addExecutionPolicy 1 fullAuditDto) ↔
      ¬ ∃ p, policyToDto p = fullAuditDto ∧ p.auditLevel = .full ∧
        usesInternalPolicyToken fullAuditCommand.policyToken = false ∧
        getPolicyForToken fullAuditClient.policies fullAuditCommand.policyToken.toList = some p :=
  same_decisions_iff unsignedServices openSandbox fullAuditClient (by decide) fullAuditDto
    fullAuditDto_listed 1 fullAuditCommand

/-- **A full audit is lost**, and with it the strict sandbox that is derived from it. -/
theorem full_audit_lost :
    ¬ ∀ (services : PolicyServices) (baseConfig : SandboxConfig) (client : PolicyClient),
      (client.policies.map (·.policyId)).Nodup → ∀ dto ∈ client.listExecutionPolicies,
      ∀ (time : Int) (cmd : AutomationCommand),
        SameDecisions services baseConfig cmd client (client.addExecutionPolicy time dto) := by
  intro h
  have hsame := h unsignedServices openSandbox fullAuditClient (by decide) fullAuditDto
    fullAuditDto_listed 1 fullAuditCommand
  exact absurd hsame.sandbox (by decide +kernel)

end Oneshim.Automation
