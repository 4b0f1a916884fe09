/-
  What precedes a dispatch (`oneshim-automation/src/controller/`, `policy/mod.rs`).

  1. **Authority** — `Authorised`: the policy of the token was looked up and allowed the command, and
     `validate_command` accepted the token.  The two lookups are separate; where the policies were
     the same at both, the accepting policy itself allows the command.

  2. **The invariant** — `AutomationCall.Known` says of each call what its place in the code implies,
     and every dispatch in the record has its authority there (`Dispatches`).

  3. **The result** (`dispatch_needs_authority`) — for every run.  A command with an internal token is
     dispatched without validation, in the default strict sandbox, and an intent with any other token
     drives the input of the executor directly (`unauthorised_dispatch`).
-/
import Oneshim.Automation.Controller

namespace Oneshim.Automation

open Lib

/-! ## Authority -/

/-- The user approved the request that this call has made for the command. -/
def ApprovedByUser (s : AutomationController) (caller : Nat) (cmd : AutomationCommand) : Prop :=
  ∃ confirmation : PendingConfirmation, confirmation.commandId = cmd.commandId ∧
    ApprovedWhileWaiting s.confirmations.log caller confirmation

/-- What a policy asks for before the command is run has been given. -/
def Allows (s : AutomationController) (caller : Nat) (cmd : AutomationCommand)
    (policy : ExecutionPolicy) : Prop :=
  policy.confirmation = .auto ∨ (policy.confirmation = .confirm ∧ ApprovedByUser s caller cmd)

/-- The policy that was looked up for the token, if there was one, allows the command. -/
def Cleared (s : AutomationController) (caller : Nat) (cmd : AutomationCommand)
    (seen : List ExecutionPolicy) : Prop :=
  .looked caller cmd seen ∈ s.log ∧
    ∀ policy, getPolicyForToken seen cmd.policyToken.toList = some policy →
      Allows s caller cmd policy

/-- `validate_command` has accepted the token under a policy of the cache. -/
def Accepted (s : AutomationController) (caller : Nat) (cmd : AutomationCommand)
    (policies : List ExecutionPolicy) : Prop :=
  .accepted caller cmd policies ∈ s.log ∧
    (parsePolicyToken cmd.policyToken.toList).isSome ∧
    ∃ policy, getPolicyForToken policies cmd.token = some policy

/-- **The authority** of a dispatch: both lookups; and if nothing changed in between, the policy
    under which the token was accepted allows the command. -/
def Authorised (s : AutomationController) (caller : Nat) (cmd : AutomationCommand) : Prop :=
  ∃ seen policies policy, Cleared s caller cmd seen ∧ .accepted caller cmd policies ∈ s.log ∧
    getPolicyForToken policies cmd.token = some policy ∧
    (seen = policies → Allows s caller cmd policy)

variable {cmd : AutomationCommand}

/-- One lookup speaks for the other where the policies are the same. -/
theorem authorised_of_accepted {s : AutomationController} {caller : Nat}
    {seen policies : List ExecutionPolicy} (hcleared : Cleared s caller cmd seen)
    (haccepted : Accepted s caller cmd policies) : Authorised s caller cmd := by
  obtain ⟨hmem, hparsed, policy, hpolicy⟩ := haccepted
  refine ⟨seen, policies, policy, hcleared, hmem, hpolicy, fun heq => hcleared.2 policy ?_⟩
  obtain ⟨parsed, hparsed⟩ := Option.isSome_iff_exists.mp hparsed
  rw [heq, ← getPolicyForToken_trim hparsed]
  exact hpolicy

/-! ## The record grows -/

/-- Later in a run. -/
structure Later (s s' : AutomationController) : Prop where
  enabled : s'.enabled = s.enabled
  base : s'.baseSandboxConfig = s.baseSandboxConfig
  log : ∃ events, s'.log = events ++ s.log
  confirmations : ∃ events, s'.confirmations.log = events ++ s.confirmations.log

section

variable {s s' : AutomationController} {caller : Nat} {cmd : AutomationCommand}

theorem Later.refl (s : AutomationController) : Later s s := ⟨rfl, rfl, ⟨[], rfl⟩, ⟨[], rfl⟩⟩

theorem Later.mem (h : Later s s') {event : AutomationEvent} (hmem : event ∈ s.log) :
    event ∈ s'.log := by
  obtain ⟨events, hlog⟩ := h.log
  rw [hlog]
  exact List.mem_append_right _ hmem

theorem Later.allows (h : Later s s') {policy : ExecutionPolicy}
    (hallows : Allows s caller cmd policy) : Allows s' caller cmd policy := by
  rcases hallows with hauto | ⟨hconfirm, confirmation, hid, happroved⟩
  · exact .inl hauto
  · obtain ⟨events, hlog⟩ := h.confirmations
    refine .inr ⟨hconfirm, confirmation, hid, ?_⟩
    rw [hlog]
    exact happroved.append events

theorem Later.cleared (h : Later s s') {seen : List ExecutionPolicy}
    (hcleared : Cleared s caller cmd seen) : Cleared s' caller cmd seen :=
  ⟨h.mem hcleared.1, fun policy hpolicy => h.allows (hcleared.2 policy hpolicy)⟩

theorem Later.accepted (h : Later s s') {policies : List ExecutionPolicy}
    (haccepted : Accepted s caller cmd policies) : Accepted s' caller cmd policies :=
  ⟨h.mem haccepted.1, haccepted.2⟩

theorem Later.authorised (h : Later s s') (hauthorised : Authorised s caller cmd) :
    Authorised s' caller cmd := by
  obtain ⟨seen, policies, policy, hcleared, hmem, hpolicy, hsame⟩ := hauthorised
  exact ⟨seen, policies, policy, h.cleared hcleared, h.mem hmem, hpolicy,
    fun heq => h.allows (hsame heq)⟩

theorem later_gated (client : PolicyClient) (event : Option AutomationEvent) :
    Later s (s.gated client event) :=
  ⟨rfl, rfl, ⟨_, rfl⟩, ⟨[], rfl⟩⟩

end

/-! ## The gate -/

/-- What the place of the gate implies. -/
def GateCall.Known (s : AutomationController) (caller : Nat) (cmd : AutomationCommand) :
    GateCall → Prop
  | .recording _ _ policies => (parsePolicyToken cmd.policyToken.toList).isSome ∧
      ∃ policy, getPolicyForToken policies cmd.token = some policy
  | .resolving => usesInternalPolicyToken cmd.policyToken = false →
      ∃ policies, Accepted s caller cmd policies
  | .dispatching config =>
    (usesInternalPolicyToken cmd.policyToken = false → ∃ policies, Accepted s caller cmd policies) ∧
    (usesInternalPolicyToken cmd.policyToken = true →
      config = defaultStrictConfig s.baseSandboxConfig)
  | _ => True

section

variable {services : PolicyServices} {s s' : AutomationController} {caller : Nat}
  {cmd : AutomationCommand} {answer : AutomationAnswer} {call : GateCall}

/-- What is known of a call stays so as others go on. -/
theorem Later.known (h : Later s s') (hknown : call.Known s caller cmd) :
    call.Known s' caller cmd := by
  cases call with
  | resolving =>
    intro hexternal
    obtain ⟨policies, haccepted⟩ := hknown hexternal
    exact ⟨policies, h.accepted haccepted⟩
  | dispatching config =>
    refine ⟨fun hexternal => ?_, fun hinternal => ?_⟩
    · obtain ⟨policies, haccepted⟩ := hknown.1 hexternal
      exact ⟨policies, h.accepted haccepted⟩
    · rw [h.base]
      exact hknown.2 hinternal
  | recording now ttlSeconds policies => exact hknown
  | _ => trivial

/-- The controller after a turn of the gate. -/
def AutomationController.afterGate (services : PolicyServices) (s : AutomationController)
    (caller : Nat) (answer : AutomationAnswer) (cmd : AutomationCommand) (call : GateCall) :
    AutomationController :=
  s.gated (call.turn services s.baseSandboxConfig s.policyClient caller answer cmd).1
    (call.turn services s.baseSandboxConfig s.policyClient caller answer cmd).2.2

/-- **One turn of the gate**: its next place implies what it should. -/
theorem GateCall.Known.turn (hknown : call.Known s caller cmd) :
    (call.turn services s.baseSandboxConfig s.policyClient caller answer cmd).2.1.Known
      (s.afterGate services caller answer cmd call) caller cmd := by
  cases call with
  | entering =>
    unfold GateCall.turn
    dsimp only
    cases hinternal : usesInternalPolicyToken cmd.policyToken with
    | true =>
      rw [if_pos rfl]
      exact fun hexternal => by rw [hinternal] at hexternal; cases hexternal
    | false =>
      rw [if_neg (by simp)]
      split <;> trivial
  | expiring =>
    simp only [GateCall.turn]
    split
    · trivial
    · split <;> trivial
  | finding now ttlSeconds =>
    simp only [GateCall.turn]
    split
    · next parsed policy hparsed hpolicy =>
      split
      · rw [AutomationCommand.token, parsePolicyToken_trim] at hparsed
        exact ⟨Option.isSome_iff_exists.mpr ⟨parsed, hparsed⟩, policy, hpolicy⟩
      · trivial
      · trivial
    · trivial
  | recording now ttlSeconds policies =>
    unfold AutomationController.afterGate
    simp only [GateCall.turn]
    split
    · trivial
    · exact fun _ => ⟨policies, List.mem_cons_self, hknown⟩
  | resolving =>
    refine ⟨fun hexternal => ?_, fun hinternal => ?_⟩
    · obtain ⟨policies, haccepted⟩ := hknown hexternal
      exact ⟨policies, (later_gated _ _).accepted haccepted⟩
    · exact if_pos hinternal
  | dispatching config => trivial
  | awaiting config =>
    simp only [GateCall.turn]
    split
    · trivial
    · split <;> trivial
  | finished result => trivial

/-- The event of a turn of the gate: an acceptance, or the dispatch. -/
theorem GateCall.event_cases {event : AutomationEvent}
    (h : event ∈ (s.afterGate services caller answer cmd call).log) :
    event ∈ s.log ∨ (∃ policies, event = .accepted caller cmd policies) ∨
      ∃ config, call = .dispatching config ∧ event = .dispatched caller cmd config := by
  rcases List.mem_append.mp h with hnew | hold
  · refine .inr ?_
    cases call with
    | recording now ttlSeconds policies =>
      simp only [GateCall.turn] at hnew
      split at hnew
      · cases hnew
      · exact .inl ⟨policies, List.mem_singleton.mp hnew⟩
    | dispatching config => exact .inr ⟨config, rfl, List.mem_singleton.mp hnew⟩
    | entering =>
      simp only [GateCall.turn] at hnew
      split at hnew
      · cases hnew
      · split at hnew <;> cases hnew
    | expiring =>
      simp only [GateCall.turn] at hnew
      split at hnew
      · cases hnew
      · split at hnew <;> cases hnew
    | finding now ttlSeconds =>
      simp only [GateCall.turn] at hnew
      split at hnew
      · split at hnew <;> cases hnew
      · cases hnew
    | resolving => cases hnew
    | awaiting config =>
      simp only [GateCall.turn] at hnew
      split at hnew
      · cases hnew
      · split at hnew <;> cases hnew
    | finished result => cases hnew
  · exact .inl hold

end

/-! ## The calls -/

/-- The confirmation is about the command. -/
def ConfirmationCall.About (cmd : AutomationCommand) : ConfirmationCall → Prop
  | .requesting confirmation => confirmation.commandId = cmd.commandId
  | .waiting confirmation => confirmation.commandId = cmd.commandId
  | .removing confirmation => confirmation.commandId = cmd.commandId
  | .answered confirmation _ => confirmation.commandId = cmd.commandId
  | _ => False

/-- The caller has made no request for confirmation yet. -/
def NeverAsked (s : RecordedConfirmations) (caller : Nat) : Prop :=
  (∀ confirmation, .registered caller confirmation ∉ s.log) ∧ .ended caller ∉ s.log

/-- The policy that was looked up asks for confirmation. -/
def AsksUser (s : AutomationController) (caller : Nat) (cmd : AutomationCommand) : Prop :=
  ∃ seen policy, .looked caller cmd seen ∈ s.log ∧
    getPolicyForToken seen cmd.policyToken.toList = some policy ∧ policy.confirmation = .confirm

/-- What the place of a call implies. -/
def AutomationCall.Known (s : AutomationController) (caller : Nat) : AutomationCall → Prop
  | .executing _ => NeverAsked s.confirmations caller
  | .confirming cmd call => s.enabled = true ∧ call.Sound s.confirmations caller ∧ call.About cmd ∧
      AsksUser s caller cmd
  | .gating cmd call => s.enabled = true ∧ (∃ seen, Cleared s caller cmd seen) ∧
      call.Known s caller cmd
  | .attempting _ _ => s.enabled = true
  | .driving _ _ _ => s.enabled = true
  | .gatingIntent cmd _ _ action call => s.enabled = true ∧
      usesInternalPolicyToken cmd.policyToken = true ∧ action.policyToken = cmd.policyToken ∧
      call.Known s caller action
  | .answering call => call.Sound s.confirmations caller
  | _ => True

/-- What is known of everything that was dispatched or driven. -/
structure Dispatches (s : AutomationController) : Prop where
  dispatched : ∀ caller cmd config, .dispatched caller cmd config ∈ s.log → s.enabled = true ∧
    (usesInternalPolicyToken cmd.policyToken = true →
      config = defaultStrictConfig s.baseSandboxConfig) ∧
    (usesInternalPolicyToken cmd.policyToken = false → Authorised s caller cmd)
  drove : ∀ caller cmd action, .drove caller cmd action ∈ s.log → s.enabled = true ∧
    usesInternalPolicyToken cmd.policyToken = false

section

variable {services : PolicyServices} {s : AutomationController} {caller n : Nat}
  {answer : AutomationAnswer} {call : AutomationCall}

/-- Nothing new was dispatched. -/
theorem Dispatches.later {s' : AutomationController} (h : Dispatches s) (hlater : Later s s')
    (hdispatched : ∀ caller cmd config, .dispatched caller cmd config ∈ s'.log →
      .dispatched caller cmd config ∈ s.log ∨
      (s.enabled = true ∧ (usesInternalPolicyToken cmd.policyToken = true →
        config = defaultStrictConfig s.baseSandboxConfig) ∧
        (usesInternalPolicyToken cmd.policyToken = false → Authorised s caller cmd)))
    (hdrove : ∀ caller cmd action, .drove caller cmd action ∈ s'.log →
      .drove caller cmd action ∈ s.log ∨
      (s.enabled = true ∧ usesInternalPolicyToken cmd.policyToken = false)) : Dispatches s' where
  dispatched caller cmd config hmem := by
    rw [hlater.enabled, hlater.base]
    have hold := (hdispatched caller cmd config hmem).elim (h.dispatched caller cmd config) id
    exact ⟨hold.1, hold.2.1, fun hexternal => hlater.authorised (hold.2.2 hexternal)⟩
  drove caller cmd action hmem := by
    rw [hlater.enabled]
    exact (hdrove caller cmd action hmem).elim (h.drove caller cmd action) id

/-- The gate dispatches what is known to have its authority. -/
theorem Dispatches.afterGate {gate : GateCall} (h : Dispatches s) (henabled : s.enabled = true)
    (hknown : gate.Known s caller cmd)
    (hexternal : usesInternalPolicyToken cmd.policyToken = false → ∃ seen, Cleared s caller cmd seen) :
    Dispatches (s.afterGate services caller answer cmd gate) := by
  refine h.later (later_gated _ _) (fun i cmd' config hmem => ?_) (fun i cmd' action hmem => ?_)
  · rcases GateCall.event_cases hmem with hold | ⟨policies, hevent⟩ | ⟨config', rfl, hevent⟩
    · exact .inl hold
    · cases hevent
    · cases hevent
      refine .inr ⟨henabled, hknown.2, fun hext => ?_⟩
      obtain ⟨seen, hcleared⟩ := hexternal hext
      obtain ⟨policies, haccepted⟩ := hknown.1 hext
      exact authorised_of_accepted hcleared haccepted
  · rcases GateCall.event_cases hmem with hold | ⟨policies, hevent⟩ | ⟨config', rfl, hevent⟩
    · exact .inl hold
    · cases hevent
    · cases hevent

variable (services s caller answer) in
/-- The controller after a turn of a gated call does not depend on where the call goes on. -/
theorem turn_gating (cmd : AutomationCommand) (gate : GateCall) :
    (AutomationController.turn services s caller answer (.gating cmd gate)).1 =
        s.afterGate services caller answer cmd gate ∧
    ((∃ result, (AutomationController.turn services s caller answer (.gating cmd gate)).2 =
        .returned result) ∨
      (AutomationController.turn services s caller answer (.gating cmd gate)).2 =
        .gating cmd (gate.turn services s.baseSandboxConfig s.policyClient caller answer cmd).2.1) := by
  unfold AutomationController.afterGate
  simp only [AutomationController.turn]
  generalize gate.turn services s.baseSandboxConfig s.policyClient caller answer cmd = next
  obtain ⟨client, call, event⟩ := next
  cases call with
  | finished result => exact ⟨rfl, .inl ⟨result, rfl⟩⟩
  | _ => exact ⟨rfl, .inr rfl⟩

variable (services s caller answer) in
/-- The same for an action of an intent. -/
theorem turn_gatingIntent (cmd : IntentCommand) (attempt : IntentAttempt)
    (rest : List AutomationAction) (action : AutomationCommand) (gate : GateCall) :
    (AutomationController.turn services s caller answer
        (.gatingIntent cmd attempt rest action gate)).1 =
        s.afterGate services caller answer action gate ∧
    ((AutomationController.turn services s caller answer
        (.gatingIntent cmd attempt rest action gate)).2 = .driving cmd attempt rest ∨
      (AutomationController.turn services s caller answer
        (.gatingIntent cmd attempt rest action gate)).2 = cmd.retry attempt ∨
      (AutomationController.turn services s caller answer
        (.gatingIntent cmd attempt rest action gate)).2 =
        .gatingIntent cmd attempt rest action
          (gate.turn services s.baseSandboxConfig s.policyClient caller answer action).2.1) := by
  unfold AutomationController.afterGate
  simp only [AutomationController.turn]
  generalize gate.turn services s.baseSandboxConfig s.policyClient caller answer action = next
  obtain ⟨client, call, event⟩ := next
  cases call with
  | finished result =>
    cases result with
    | error error => exact ⟨rfl, .inr (.inl rfl)⟩
    | ok result =>
      cases result with
      | success => exact ⟨rfl, .inl rfl⟩
      | _ => exact ⟨rfl, .inr (.inl rfl)⟩
  | _ => exact ⟨rfl, .inr (.inr rfl)⟩

/-- A turn leaves the confirmations alone, or is a turn of the confirmation of its call. -/
theorem confirmations_turn (hknown : call.Known s caller) :
    (AutomationController.turn services s caller answer call).1.confirmations = s.confirmations ∨
    ∃ confirmation : ConfirmationCall, confirmation.Sound s.confirmations caller ∧
      (AutomationController.turn services s caller answer call).1.confirmations =
        (s.confirmations.turn caller answer.elapsed confirmation).1 := by
  cases call with
  | executing cmd =>
    refine .inl ?_
    simp only [AutomationController.turn]
    split <;> rfl
  | confirming cmd confirmation => exact .inr ⟨confirmation, hknown.2.1, rfl⟩
  | gating cmd gate => exact .inl (by rw [(turn_gating services s caller answer cmd gate).1]; rfl)
  | returned result => exact .inl rfl
  | intending cmd =>
    refine .inl ?_
    simp only [AutomationController.turn]
    split
    · split <;> rfl
    · rfl
  | attempting cmd attempt =>
    refine .inl ?_
    simp only [AutomationController.turn]
    split <;> rfl
  | driving cmd attempt actions =>
    refine .inl ?_
    cases actions with
    | nil => rfl
    | cons action rest =>
      simp only [AutomationController.turn]
      split <;> rfl
  | gatingIntent cmd attempt rest action gate =>
    exact .inl (by rw [(turn_gatingIntent services s caller answer cmd attempt rest action gate).1]; rfl)
  | intended result => exact .inl rfl
  | updating update => exact .inl rfl
  | updated => exact .inl rfl
  | answering confirmation => exact .inr ⟨confirmation, hknown, rfl⟩

/-- Every turn leads on in the run. -/
theorem later_turn : Later s (AutomationController.turn services s caller answer call).1 := by
  cases call with
  | executing cmd =>
    simp only [AutomationController.turn]
    split
    · exact ⟨rfl, rfl, ⟨[_], rfl⟩, ⟨[], rfl⟩⟩
    · exact .refl s
  | confirming cmd confirmation => exact ⟨rfl, rfl, ⟨[], rfl⟩, ⟨_, rfl⟩⟩
  | gating cmd gate =>
    rw [(turn_gating services s caller answer cmd gate).1]
    exact later_gated _ _
  | returned result => exact .refl s
  | intending cmd =>
    simp only [AutomationController.turn]
    split
    · split <;> exact .refl s
    · exact .refl s
  | attempting cmd attempt =>
    simp only [AutomationController.turn]
    split <;> exact .refl s
  | driving cmd attempt actions =>
    cases actions with
    | nil => exact .refl s
    | cons action rest =>
      simp only [AutomationController.turn]
      split
      · exact .refl s
      · exact ⟨rfl, rfl, ⟨[_], rfl⟩, ⟨[], rfl⟩⟩
  | gatingIntent cmd attempt rest action gate =>
    rw [(turn_gatingIntent services s caller answer cmd attempt rest action gate).1]
    exact later_gated _ _
  | intended result => exact .refl s
  | updating update => exact ⟨rfl, rfl, ⟨[], rfl⟩, ⟨[], rfl⟩⟩
  | updated => exact .refl s
  | answering confirmation => exact ⟨rfl, rfl, ⟨[], rfl⟩, ⟨_, rfl⟩⟩

/-- **One turn** dispatches and drives only what it may. -/
theorem Dispatches.turn (h : Dispatches s) (hknown : call.Known s caller) :
    Dispatches (AutomationController.turn services s caller answer call).1 := by
  have hsame : ∀ s' : AutomationController, Later s s' → s'.log = s.log → Dispatches s' := by
    intro s' hlater hlog
    exact h.later hlater (fun _ _ _ hmem => .inl (hlog ▸ hmem)) (fun _ _ _ hmem => .inl (hlog ▸ hmem))
  cases call with
  | executing cmd =>
    simp only [AutomationController.turn]
    split
    · refine h.later ⟨rfl, rfl, ⟨[_], rfl⟩, ⟨[], rfl⟩⟩ (fun i cmd' config hmem => ?_)
        (fun i cmd' action hmem => ?_)
      · rcases List.mem_cons.mp hmem with hnew | hold
        · cases hnew
        · exact .inl hold
      · rcases List.mem_cons.mp hmem with hnew | hold
        · cases hnew
        · exact .inl hold
    · exact h
  | confirming cmd confirmation => exact hsame _ later_turn rfl
  | gating cmd gate =>
    rw [(turn_gating services s caller answer cmd gate).1]
    exact h.afterGate hknown.1 hknown.2.2 (fun _ => hknown.2.1)
  | returned result => exact h
  | intending cmd =>
    simp only [AutomationController.turn]
    split
    · split <;> exact h
    · exact h
  | attempting cmd attempt =>
    simp only [AutomationController.turn]
    split <;> exact h
  | driving cmd attempt actions =>
    cases actions with
    | nil => exact h
    | cons action rest =>
      simp only [AutomationController.turn]
      split
      · exact h
      · next hexternal =>
        refine h.later ⟨rfl, rfl, ⟨[_], rfl⟩, ⟨[], rfl⟩⟩ (fun i cmd' config hmem => ?_)
          (fun i cmd' action' hmem => ?_)
        · rcases List.mem_cons.mp hmem with hnew | hold
          · cases hnew
          · exact .inl hold
        · rcases List.mem_cons.mp hmem with hnew | hold
          · cases hnew
            exact .inr ⟨hknown, eq_false_of_ne_true hexternal⟩
          · exact .inl hold
  | gatingIntent cmd attempt rest action gate =>
    rw [(turn_gatingIntent services s caller answer cmd attempt rest action gate).1]
    refine h.afterGate hknown.1 hknown.2.2.2 (fun hexternal => ?_)
    rw [hknown.2.2.1, hknown.2.1] at hexternal
    cases hexternal
  | intended result => exact h
  | updating update => exact hsame _ later_turn rfl
  | updated => exact h
  | answering confirmation => exact hsame _ later_turn rfl

/-- What a confirmation goes on to is about the same command. -/
theorem about_turn {confirmation : ConfirmationCall} (pending : RecordedConfirmations)
    (caller : Nat) (elapsed : Bool) (habout : confirmation.About cmd) :
    (pending.turn caller elapsed confirmation).2.About cmd := by
  cases confirmation with
  | requesting asked => exact habout
  | waiting asked =>
    show (pending.pending.turn caller elapsed (.waiting asked)).2.About cmd
    rcases pending.pending.turn_waiting_cases caller elapsed asked with
      ⟨-, -, hturn⟩ | ⟨approved, -, hturn⟩ | ⟨-, hturn⟩ | ⟨-, -, hturn⟩ <;> rw [hturn] <;>
      exact habout
  | _ => exact habout

theorem known_retry (henabled : s.enabled = true) (cmd : IntentCommand) (attempt : IntentAttempt) :
    (cmd.retry attempt).Known s caller := by
  unfold IntentCommand.retry
  split
  · trivial
  · exact henabled

/-- `execute_command` goes on to the gate only when the policy that it sees allows the command. -/
theorem known_startCommand (henabled : s.enabled = true)
    (hasked : NeverAsked s.confirmations caller) :
    (s.startCommand answer cmd).Known
      { s with log := .looked caller cmd s.policyClient.policies :: s.log } caller := by
  unfold AutomationController.startCommand
  cases hpolicy : getPolicyForToken s.policyClient.policies cmd.policyToken.toList with
  | none =>
    refine ⟨henabled, ⟨s.policyClient.policies, List.mem_cons_self, fun policy hsome => ?_⟩, trivial⟩
    cases hpolicy.symm.trans hsome
  | some policy =>
    dsimp only
    cases hconfirmation : policy.confirmation with
    | block => trivial
    | confirm => exact ⟨henabled, hasked, rfl, s.policyClient.policies, policy, List.mem_cons_self,
        hpolicy, hconfirmation⟩
    | auto =>
      refine ⟨henabled, ⟨s.policyClient.policies, List.mem_cons_self, fun policy' hsome => ?_⟩,
        trivial⟩
      cases hpolicy.symm.trans hsome
      exact .inl hconfirmation

/-- **One turn**: where a call goes on implies what it should. -/
theorem AutomationCall.Known.turn (hknown : call.Known s caller)
    (hinvariant : ConfirmationInvariant s.confirmations n) :
    (AutomationController.turn services s caller answer call).2.Known
      (AutomationController.turn services s caller answer call).1 caller := by
  cases call with
  | executing cmd =>
    simp only [AutomationController.turn]
    split
    · next henabled => exact known_startCommand henabled hknown
    · trivial
  | confirming cmd confirmation =>
    obtain ⟨henabled, hsound, habout, seen, policy, hlooked, hpolicy, hconfirm⟩ := hknown
    have hnext : (s.confirmations.turn caller answer.elapsed confirmation).2.Sound
        (s.confirmations.turn caller answer.elapsed confirmation).1 caller := hsound.turn hinvariant
    have habout' := about_turn s.confirmations caller answer.elapsed habout
    simp only [AutomationController.turn]
    generalize s.confirmations.turn caller answer.elapsed confirmation = next at hnext habout' ⊢
    obtain ⟨confirmations, call⟩ := next
    have hasks : AutomationCall.Known { s with confirmations := confirmations } caller
        (.confirming cmd call) :=
      ⟨henabled, hnext, habout', seen, policy, hlooked, hpolicy, hconfirm⟩
    cases call with
    | answered asked approved =>
      cases approved with
      | false => trivial
      | true =>
        refine ⟨henabled, ⟨seen, hlooked, fun policy' hsome => ?_⟩, trivial⟩
        cases hpolicy.symm.trans hsome
        exact .inr ⟨hconfirm, asked, habout', hnext rfl⟩
    | _ => exact hasks
  | gating cmd gate =>
    obtain ⟨henabled, ⟨seen, hcleared⟩, hgate⟩ := hknown
    obtain ⟨hcontroller, ⟨result, hreturned⟩ | hnext⟩ :=
      turn_gating services s caller answer cmd gate
    · rw [hreturned]
      trivial
    · rw [hnext, hcontroller]
      exact ⟨henabled, ⟨seen, (later_gated _ _).cleared hcleared⟩, hgate.turn⟩
  | returned result => trivial
  | intending cmd =>
    simp only [AutomationController.turn]
    split
    · next henabled =>
      split
      · trivial
      · exact henabled
    · trivial
  | attempting cmd attempt =>
    simp only [AutomationController.turn]
    split
    · exact known_retry hknown cmd attempt
    · exact hknown
  | driving cmd attempt actions =>
    cases actions with
    | nil => trivial
    | cons action rest =>
      simp only [AutomationController.turn]
      split
      · next hinternal => exact ⟨hknown, hinternal, rfl, trivial⟩
      · split
        · exact hknown
        · exact known_retry (by exact hknown) cmd attempt
  | gatingIntent cmd attempt rest action gate =>
    obtain ⟨henabled, hinternal, htoken, hgate⟩ := hknown
    obtain ⟨hcontroller, hnext | hnext | hnext⟩ :=
      turn_gatingIntent services s caller answer cmd attempt rest action gate
    · rw [hnext, hcontroller]
      exact henabled
    · rw [hnext, hcontroller]
      exact known_retry ((later_gated _ _).enabled.trans henabled) cmd attempt
    · rw [hnext, hcontroller]
      exact ⟨henabled, hinternal, htoken, hgate.turn⟩
  | intended result => trivial
  | updating update => trivial
  | updated => trivial
  | answering confirmation =>
    have hsound : confirmation.Sound s.confirmations caller := hknown
    exact hsound.turn hinvariant

/-- The turn of another call leaves what is known of a call. -/
theorem AutomationCall.Known.turn_other {j : Nat} {other : AutomationCall} (hne : j ≠ caller)
    (hother : other.Known s j) (hknown : call.Known s caller) :
    other.Known (AutomationController.turn services s caller answer call).1 j := by
  have hlater : Later s (AutomationController.turn services s caller answer call).1 := later_turn
  have hsound : ∀ confirmation : ConfirmationCall, confirmation.Sound s.confirmations j →
      confirmation.Sound
        (AutomationController.turn services s caller answer call).1.confirmations j := by
    intro confirmation hown
    rcases @confirmations_turn services s caller answer call hknown with
      hsame | ⟨turned, -, hturned⟩
    · rwa [hsame]
    · rw [hturned]
      exact hown.turn_other hne
  cases other with
  | executing cmd => exact hsound (.requesting ⟨"", "", "", [], "", 0⟩) hother
  | confirming cmd confirmation =>
    obtain ⟨henabled, hown, habout, seen, policy, hlooked, hpolicy⟩ := hother
    exact ⟨hlater.enabled.trans henabled, hsound confirmation hown, habout, seen, policy,
      hlater.mem hlooked, hpolicy⟩
  | gating cmd gate =>
    obtain ⟨henabled, ⟨seen, hcleared⟩, hgate⟩ := hother
    exact ⟨hlater.enabled.trans henabled, ⟨seen, hlater.cleared hcleared⟩, hlater.known hgate⟩
  | attempting cmd attempt => exact hlater.enabled.trans hother
  | driving cmd attempt actions => exact hlater.enabled.trans hother
  | gatingIntent cmd attempt rest action gate =>
    obtain ⟨henabled, hinternal, htoken, hgate⟩ := hother
    exact ⟨hlater.enabled.trans henabled, hinternal, htoken, hlater.known hgate⟩
  | answering confirmation => exact hsound confirmation hother
  | _ => trivial

end

/-! ## Runs -/

/-- The invariant of the controller and its calls. -/
def AutomationSystem.Invariant (s : AutomationSystem) : Prop :=
  (ConfirmationInvariant s.shared.confirmations s.calls.length ∧ Dispatches s.shared) ∧
    ∀ (i : Nat) call, s.calls[i]? = some call → call.Known s.shared i

/-- **One move** keeps the invariant. -/
theorem AutomationSystem.Invariant.step {services : PolicyServices} {s : AutomationSystem}
    {m : AutomationMove} (h : s.Invariant) :
    AutomationSystem.Invariant ((automationCalls services).step s m) := by
  refine (automationCalls services).step_invariant
    (P := fun s n => ConfirmationInvariant s.confirmations n ∧ Dispatches s)
    (Q := fun s i call => call.Known s i)
    (fun request hshared => ⟨⟨hshared.1.enter, hshared.2⟩, ?_⟩)
    (fun index answer call hm hcall => ?_) h.1 h.2
  · cases request with
    | executeCommand cmd =>
      exact hshared.1.sound_call (.request ⟨"", "", "", [], "", 0⟩)
    | _ => trivial
  · have hknown : call.Known s.shared index := h.2 index call hcall
    have hlt : index < s.calls.length := (List.getElem?_eq_some_iff.mp hcall).1
    refine ⟨⟨?_, h.1.2.turn hknown⟩, hknown.turn h.1.1, fun j other hne _ hother =>
      hother.turn_other hne hknown⟩
    rcases @confirmations_turn services s.shared index answer call hknown with
      hsame | ⟨turned, hsound, hturned⟩
    · show ConfirmationInvariant (AutomationController.turn _ _ _ _ _).1.confirmations _
      rw [hsame]
      exact h.1.1
    · show ConfirmationInvariant (AutomationController.turn _ _ _ _ _).1.confirmations _
      rw [hturned]
      exact h.1.1.turn hlt hsound

/-- **What precedes a dispatch.**  In every run, of any calls with any tokens and in any order with
    policy updates: whatever is dispatched or driven was so while automation is enabled; a command
    with an external token has its authority, one with an internal token the default strict sandbox,
    and only intents with an external token drive the input directly. -/
theorem dispatch_needs_authority (services : PolicyServices) (enabled : Bool)
    (baseSandboxConfig : SandboxConfig) (intentExecutor : Option IntentConfig)
    (policyClient : PolicyClient) (moves : List AutomationMove) :
    ∀ s ∈ states (automationCalls services).step
      (AutomationSystem.start enabled baseSandboxConfig intentExecutor policyClient) moves,
      Dispatches s.shared := by
  have hstart : AutomationSystem.Invariant
      (.start enabled baseSandboxConfig intentExecutor policyClient) :=
    ⟨⟨.start, ⟨fun _ _ _ hmem => (by cases hmem), fun _ _ _ hmem => (by cases hmem)⟩⟩,
      fun _ _ hcall => (by cases hcall)⟩
  have hrun : ∀ s ∈ states (automationCalls services).step
      (AutomationSystem.start enabled baseSandboxConfig intentExecutor policyClient) moves,
      AutomationSystem.Invariant s := states_always (fun _ _ h => h.step) hstart
  exact fun s hs => (hrun s hs).1.2

/-- The answer that every turn of the runs below gets. -/
def plainAnswer : AutomationAnswer := ⟨0, "", false, some none, some .success, true⟩

/-- Nothing is signed and every command has the empty hash. -/
def noServices : PolicyServices := ⟨fun _ _ _ _ => false, fun _ => .ok []⟩

/-- A sandbox without paths and limits. -/
def plainSandbox : SandboxConfig := ⟨false, .standard, [], [], false, 0, 0⟩

/-- A policy that asks for nothing, and a command with a token for it. -/
def autoPolicy : ExecutionPolicy :=
  ⟨"pol-1", "git", [], false, 0, .basic, none, [], none, false, .auto⟩

/-- The token is spelled with a blank. -/
def tokenCommand : AutomationCommand :=
  ⟨"cmd-1", "sess-1", .keyPress "a", none, " pol-1:nonce-0001"⟩

/-- It goes through the gate. -/
def commandThroughGate : List AutomationMove :=
  .request (.executeCommand tokenCommand) :: List.replicate 8 (.turn 0 plainAnswer)

/-- The command is dispatched, and has its authority. -/
theorem command_through_gate_authorised :
    Authorised (commandThroughGate.foldl (automationCalls noServices).step
      (AutomationSystem.start true plainSandbox none ⟨[autoPolicy], 0, 300, []⟩)).shared 0
      tokenCommand :=
  ((dispatch_needs_authority noServices true plainSandbox none ⟨[autoPolicy], 0, 300, []⟩
    commandThroughGate _ (foldl_mem_states _ _)).dispatched 0 tokenCommand
      (resolveSandboxConfig autoPolicy plainSandbox) (by decide +kernel)).2.2 (by decide +kernel)

/-! ## Internal tokens and intents -/

/-- Every dispatch and every drive has been validated, under a policy that allows the command. -/
def OnlyValidated (s : AutomationController) : Prop :=
  (∀ caller cmd config, .dispatched caller cmd config ∈ s.log → s.enabled = true ∧
    ∃ policies policy, .accepted caller cmd policies ∈ s.log ∧
      getPolicyForToken policies cmd.token = some policy ∧ Allows s caller cmd policy) ∧
  (∀ caller cmd action, .drove caller cmd action ∈ s.log → s.enabled = true ∧
    ∃ validated policies policy, .accepted caller validated policies ∈ s.log ∧
      validated.policyToken = cmd.policyToken ∧
      getPolicyForToken policies validated.token = some policy ∧ Allows s caller validated policy)

/-- Enabled, with an intent executor and no policies. -/
def controllerWithoutPolicies : AutomationSystem :=
  .start true plainSandbox (some ⟨0⟩) ⟨[], 0, 300, []⟩

/-- A client gives a command the token of the GUI sessions. -/
def commandWithInternalToken : List AutomationMove :=
  [.request (.executeCommand ⟨"cmd-1", "sess-1", .keyPress "a", none, "gui-session"⟩),
    .turn 0 plainAnswer, .turn 0 plainAnswer, .turn 0 plainAnswer, .turn 0 plainAnswer]

/-- A client gives an intent a token that no policy knows. -/
def intentWithUnknownToken : List AutomationMove :=
  [.request (.executeIntent ⟨"cmd-2", "sess-1", .executeHotkey ["Ctrl", "C"], none, none, "token"⟩),
    .turn 0 plainAnswer, .turn 0 plainAnswer, .turn 0 plainAnswer]

/-- Neither is validated: the first is dispatched, the second drives the input. -/
theorem unauthorised_dispatch :
    (¬ ∀ s ∈ states (automationCalls noServices).step controllerWithoutPolicies
        commandWithInternalToken, OnlyValidated s.shared) ∧
      ¬ ∀ s ∈ states (automationCalls noServices).step controllerWithoutPolicies
        intentWithUnknownToken, OnlyValidated s.shared := by
  constructor
  · intro h
    have hlog : (commandWithInternalToken.foldl (automationCalls noServices).step
        controllerWithoutPolicies).shared.log =
        [.dispatched 0 ⟨"cmd-1", "sess-1", .keyPress "a", none, "gui-session"⟩
            ⟨false, .strict, [], [], false, 0, 0⟩,
          .looked 0 ⟨"cmd-1", "sess-1", .keyPress "a", none, "gui-session"⟩ []] := by
      decide +kernel
    have hvalidated := h _ (foldl_mem_states _ _)
    obtain ⟨-, policies, policy, hmem, -⟩ :=
      hvalidated.1 _ _ _ (by rw [hlog]; exact List.mem_cons_self)
    rw [hlog] at hmem
    simp at hmem
  · intro h
    have hlog : (intentWithUnknownToken.foldl (automationCalls noServices).step
        controllerWithoutPolicies).shared.log =
        [.drove 0 ⟨"cmd-2", "sess-1", .executeHotkey ["Ctrl", "C"], none, none, "token"⟩
          (.hotkey ["Ctrl", "C"])] := by
      decide +kernel
    have hvalidated := h _ (foldl_mem_states _ _)
    obtain ⟨-, validated, policies, policy, hmem, -⟩ :=
      hvalidated.2 _ _ _ (by rw [hlog]; exact List.mem_cons_self)
    rw [hlog] at hmem
    simp at hmem

end Oneshim.Automation
