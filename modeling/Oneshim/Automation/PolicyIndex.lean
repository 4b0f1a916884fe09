/-
  The processes that policies allow (`oneshim-automation/src/policy/mod.rs`).

  Beside the cached policies the client keeps the set of their process names.  `update_policies` and
  `remove_policy` build it anew; `add_policy` only adds the name of the new policy, also when the new
  policy replaces one with another name.

  1. **Code** — the three operations; each takes the lock on the cache first, so they are one after
     the other.

  2. **The result** (`process_index_iff`) — the set is the one of the cached policies all along a run
     exactly when no `add_policy` takes a name away.
-/
import Mathlib.Data.Finset.Lattice.Lemmas
import Oneshim.Automation.Controller

namespace Oneshim.Automation

open Lib

/-- `PolicyClient`, with `allowed_processes`. -/
structure IndexedPolicyClient where
  client : PolicyClient
  allowedProcesses : Finset String

/-- The process names of policies. -/
def processNames (policies : List ExecutionPolicy) : Finset String :=
  (policies.map (·.processName)).toFinset

@[simp] theorem mem_processNames {policies : List ExecutionPolicy} {name : String} :
    name ∈ processNames policies ↔ ∃ policy ∈ policies, policy.processName = name := by
  simp [processNames]

namespace IndexedPolicyClient

/-! ## Code -/

/-- `PolicyClient::new`. -/
def new (now : Int) : IndexedPolicyClient := ⟨.new now, ∅⟩

/-- `update_policies`. -/
def updatePolicies (now : Int) (policies : List ExecutionPolicy) (self : IndexedPolicyClient) :
    IndexedPolicyClient :=
  { client := self.client.updatePolicies now policies
    allowedProcesses := policies.foldl (fun allowed policy => insert policy.processName allowed) ∅ }

/-- `add_policy`. -/
def addPolicy (now : Int) (policy : ExecutionPolicy) (self : IndexedPolicyClient) :
    IndexedPolicyClient :=
  { client := self.client.addPolicy now policy
    allowedProcesses := insert policy.processName self.allowedProcesses }

/-- `remove_policy`. -/
def removePolicy (now : Int) (policyId : String) (self : IndexedPolicyClient) :
    IndexedPolicyClient :=
  let client := self.client.removePolicy now policyId
  { client
    allowedProcesses :=
      if client.policies.length < self.client.policies.length then processNames client.policies
      else self.allowedProcesses }

/-- `is_process_allowed`. -/
def isProcessAllowed (processName : String) (self : IndexedPolicyClient) : Bool :=
  processName ∈ self.allowedProcesses

/-- `get_policy_for_process`. -/
def getPolicyForProcess (processName : String) (self : IndexedPolicyClient) :
    Option ExecutionPolicy :=
  self.client.policies.find? (·.processName == processName)

/-- An operation, at a point of time. -/
def step (self : IndexedPolicyClient) : Int × PolicyUpdate → IndexedPolicyClient
  | (now, .updatePolicies policies) => self.updatePolicies now policies
  | (now, .addPolicy policy) => self.addPolicy now policy
  | (now, .removePolicy policyId) => self.removePolicy now policyId

/-! ## The index -/

/-- **The property**: the allowed processes are those of the cached policies. -/
def Indexed (self : IndexedPolicyClient) : Prop :=
  self.allowedProcesses = processNames self.client.policies

/-- An operation that takes no name away: a policy that is replaced has the name of the new one, or
    of another policy that stays. -/
def TakesNoName (self : IndexedPolicyClient) : Int × PolicyUpdate → Prop
  | (_, .addPolicy policy) => ∀ old ∈ self.client.policies, old.policyId = policy.policyId →
    old.processName = policy.processName ∨
    ∃ other ∈ self.client.policies, other.policyId ≠ policy.policyId ∧
      other.processName = old.processName
  | _ => True

variable {self : IndexedPolicyClient}

theorem foldl_insert_processName (policies : List ExecutionPolicy) (allowed : Finset String) :
    policies.foldl (fun allowed policy => insert policy.processName allowed) allowed =
      allowed ∪ processNames policies := by
  induction policies generalizing allowed with
  | nil => simp [processNames]
  | cons policy rest ih =>
    rw [List.foldl_cons, ih]
    ext name
    simp only [Finset.mem_union, Finset.mem_insert, mem_processNames, List.mem_cons,
      exists_eq_or_imp]
    rw [eq_comm (a := name), or_assoc, or_left_comm]

/-- `update_policies` builds the index. -/
theorem indexed_updatePolicies (now : Int) (policies : List ExecutionPolicy) :
    (self.updatePolicies now policies).Indexed := by
  have hfold := foldl_insert_processName policies ∅
  rw [Finset.empty_union] at hfold
  exact hfold

/-- `remove_policy` builds it when it removes anything. -/
theorem Indexed.removePolicy (h : self.Indexed) (now : Int) (policyId : String) :
    (self.removePolicy now policyId).Indexed := by
  simp only [Indexed, IndexedPolicyClient.removePolicy]
  split
  · rfl
  · next hsame =>
    have hpolicies : (self.client.removePolicy now policyId).policies =
        self.client.policies.filter (·.policyId ≠ policyId) := by
      simp only [PolicyClient.removePolicy]
      split <;> rfl
    rw [hpolicies] at hsame ⊢
    have hlength := Nat.le_antisymm (List.length_filter_le _ _) (Nat.le_of_not_lt hsame)
    rw [List.filter_sublist.eq_of_length hlength]
    exact h

/-- **`add_policy`** keeps the index exactly when it takes no name away. -/
theorem indexed_addPolicy_iff (h : self.Indexed) (now : Int) (policy : ExecutionPolicy) :
    (self.addPolicy now policy).Indexed ↔ self.TakesNoName (now, .addPolicy policy) := by
  have hmem : ∀ name, name ∈ (self.addPolicy now policy).allowedProcesses ↔
      name = policy.processName ∨ ∃ old ∈ self.client.policies, old.processName = name := by
    intro name
    rw [IndexedPolicyClient.addPolicy, Finset.mem_insert, h, mem_processNames]
  have hnames : ∀ name, name ∈ processNames (self.addPolicy now policy).client.policies ↔
      name = policy.processName ∨ ∃ other ∈ self.client.policies,
        other.policyId ≠ policy.policyId ∧ other.processName = name := by
    intro name
    simp only [IndexedPolicyClient.addPolicy, PolicyClient.addPolicy, mem_processNames,
      List.mem_append, List.mem_filter, List.mem_singleton, decide_eq_true_eq, or_and_right,
      exists_or, exists_eq_left, and_assoc]
    rw [or_comm, eq_comm]
  constructor
  · intro hindexed old hold hid
    have hin := (hmem old.processName).mpr (.inr ⟨old, hold, rfl⟩)
    rw [hindexed] at hin
    exact (hnames old.processName).mp hin
  · intro hkeeps
    refine Finset.ext fun name => ?_
    rw [hmem, hnames]
    refine or_congr_right' fun hname => ⟨?_, ?_⟩
    · rintro ⟨old, hold, rfl⟩
      by_cases hid : old.policyId = policy.policyId
      · exact (hkeeps old hold hid).resolve_left hname
      · exact ⟨old, hold, hid, rfl⟩
    · rintro ⟨other, hother, -, hname⟩
      exact ⟨other, hother, hname⟩

/-- **One operation.** -/
theorem indexed_step_iff (h : self.Indexed) (m : Int × PolicyUpdate) :
    (self.step m).Indexed ↔ self.TakesNoName m := by
  obtain ⟨now, update⟩ := m
  cases update with
  | updatePolicies policies => exact iff_of_true (indexed_updatePolicies now policies) trivial
  | addPolicy policy => exact indexed_addPolicy_iff h now policy
  | removePolicy policyId => exact iff_of_true (h.removePolicy now policyId) trivial

/-- With the index a process is allowed exactly when there is a policy for it. -/
theorem Indexed.isProcessAllowed_iff (h : self.Indexed) (processName : String) :
    self.isProcessAllowed processName = (self.getPolicyForProcess processName).isSome := by
  rw [isProcessAllowed, h, getPolicyForProcess, Bool.eq_iff_iff, List.find?_isSome]
  simp

/-! ## The result -/

/-- **The index is the one of the cached policies** in every state of a run exactly when no operation
    of the run takes a name away. -/
theorem process_index_iff (now : Int) (moves : List (Int × PolicyUpdate)) :
    (∀ self ∈ states step (new now) moves, self.Indexed) ↔
      Along step TakesNoName (new now) moves := by
  have hstart : (new now).Indexed := by
    rw [Indexed, new, processNames]
    rfl
  have hkeeps : ∀ self m, Indexed self → TakesNoName self m → (step self m).Indexed :=
    fun self m h hm => (indexed_step_iff h m).mpr hm
  have hneeds : ∀ self m, Indexed self → (step self m).Indexed → TakesNoName self m :=
    fun self m h hgood => (indexed_step_iff h m).mp hgood
  exact ⟨along_of_states hkeeps hneeds hstart, states_invariant hkeeps hstart⟩

/-- A policy for a process. -/
def examplePolicy (policyId processName : String) : ExecutionPolicy where
  policyId := policyId
  processName := processName
  allowedArgs := []
  requiresSudo := false
  maxExecutionTimeMs := 0
  auditLevel := .basic
  sandboxProfile := none
  allowedPaths := []
  allowNetwork := none
  requireSignedToken := false
  confirmation := .auto

/-- **The fast check agrees with the lookup** in every state of a run that takes no name away. -/
theorem isProcessAllowed_agrees (now : Int) (moves : List (Int × PolicyUpdate))
    (h : Along step TakesNoName (new now) moves) :
    ∀ self ∈ states step (new now) moves, ∀ processName,
      isProcessAllowed processName self = (getPolicyForProcess processName self).isSome := by
  have hstart : (new now).Indexed := by
    rw [Indexed, new, processNames]
    rfl
  have hkeeps : ∀ self m, Indexed self → TakesNoName self m → (step self m).Indexed :=
    fun self m h hm => (indexed_step_iff h m).mpr hm
  intro self hself processName
  exact (states_invariant hkeeps hstart h self hself).isProcessAllowed_iff processName

theorem isProcessAllowed_agrees_ls :
    let moves := [(0, .addPolicy (examplePolicy "pol-1" "ls")), (0, .removePolicy "pol-1")]
    let self := moves.foldl step (new 0)
    isProcessAllowed "ls" self = (getPolicyForProcess "ls" self).isSome :=
  isProcessAllowed_agrees 0
    [(0, .addPolicy (examplePolicy "pol-1" "ls")), (0, .removePolicy "pol-1")]
    ⟨fun _ h => absurd h List.not_mem_nil, trivial, trivial⟩ _ (foldl_mem_states _ _) "ls"

/-- A policy is replaced by one for another process; the old process stays allowed. -/
theorem replaced_process_allowed :
    ¬ ∀ (now : Int) (moves : List (Int × PolicyUpdate)),
      ∀ self ∈ states step (new now) moves, self.Indexed := by
  intro hall
  have hindexed := hall 0 [(0, .addPolicy (examplePolicy "pol-1" "ls")),
    (0, .addPolicy (examplePolicy "pol-1" "cat"))] _ (foldl_mem_states _ _)
  have hallowed : "ls" ∈ processNames [examplePolicy "pol-1" "cat"] :=
    hindexed ▸ (by decide : "ls" ∈ insert "cat" (insert "ls" (∅ : Finset String)))
  exact absurd hallowed (by decide)

end IndexedPolicyClient

end Oneshim.Automation
