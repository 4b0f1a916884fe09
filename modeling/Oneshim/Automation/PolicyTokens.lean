/-
  How often a policy token is accepted (`oneshim-automation/src/policy/mod.rs`).

  `validate_command` keeps the tokens it has accepted, by their text, until they are as old as the
  cache lives or the policies are updated.

  1. **Code** — `validate_command` from lock to lock, next to the calls that change the policies;
     any number of them, interleaved.

  2. **The used tokens** (`live`) — what the client has kept is what has happened says: the
     acceptances since the last update that no later reading of the clock has outdated.

  3. **The result** (`accepted_once_a_period`) — a token is accepted again only after an update or
     when the time is over; then it is (`token_accepted_again`).
-/
import Oneshim.Automation.PolicyIndex

namespace Oneshim.Automation

open Lib Lib.Text

/-! ## Code -/

/-- Where `validate_command` stands. -/
inductive ValidateStage where
  | entering
  /-- Before it reads the age of the cache. -/
  | expiring
  /-- Before it looks up the policy. -/
  | finding (now : Int) (ttlSeconds : Nat)
  /-- Before it takes the lock on the used tokens. -/
  | recording (now : Int) (ttlSeconds : Nat)

/-- A call of the client. -/
inductive PolicyCall where
  | validating (cmd : AutomationCommand) (stage : ValidateStage)
  | validated (cmd : AutomationCommand) (result : Except AutomationError Bool)
  | updating (update : PolicyUpdate)
  | updated

/-- What has happened to the used tokens: `now` is the reading of the clock they were sorted out
    with. -/
inductive PolicyEvent where
  | accepted (token : List Char) (now : Int)
  | refused (now : Int)
  | cleared
  deriving DecidableEq

/-- The client, and what has happened, the newest first. -/
structure TokenService where
  client : PolicyClient
  history : List PolicyEvent

namespace TokenService

/-- `PolicyClient::new`. -/
def new (now : Int) : TokenService := ⟨.new now, []⟩

/-- `validate_command` up to its next lock. -/
def validate (services : PolicyServices) (self : TokenService) (now : Int)
    (cmd : AutomationCommand) : ValidateStage → TokenService × PolicyCall
  | .entering =>
    if self.client.ttlSeconds = 0 then (self, .validated cmd (.ok false))
    else (self, .validating cmd .expiring)
  | .expiring =>
    match parsePolicyToken cmd.token with
    | none => (self, .validated cmd (.ok false))
    | some parsed =>
      if cmd.token.isEmpty || !isValidNonce parsed.nonce || self.client.remainingTtl now == 0 then
        (self, .validated cmd (.ok false))
      else (self, .validating cmd (.finding now (self.client.remainingTtl now)))
  | .finding now ttlSeconds =>
    match parsePolicyToken cmd.token, getPolicyForToken self.client.policies cmd.token with
    | some parsed, some policy =>
      match checkToken services cmd policy parsed with
      | .ok true => (self, .validating cmd (.recording now ttlSeconds))
      | .ok false => (self, .validated cmd (.ok false))
      | .error error => (self, .validated cmd (.error error))
    | _, _ => (self, .validated cmd (.ok false))
  | .recording now ttlSeconds =>
    let validated := self.client.retained now ttlSeconds
    if validated.any (·.1 == cmd.token) then
      (⟨{ self.client with validatedTokens := validated }, .refused now :: self.history⟩,
        .validated cmd (.ok false))
    else
      (⟨{ self.client with validatedTokens := validated ++ [(cmd.token, now)] },
          .accepted cmd.token now :: self.history⟩,
        .validated cmd (.ok true))

/-- `update_policies`, `add_policy` and `remove_policy`. -/
def update (self : TokenService) (now : Int) : PolicyUpdate → TokenService
  | .updatePolicies policies =>
    ⟨self.client.updatePolicies now policies, .cleared :: self.history⟩
  | .addPolicy policy => { self with client := self.client.addPolicy now policy }
  | .removePolicy policyId => { self with client := self.client.removePolicy now policyId }

/-- A call up to its next lock, with a reading of the clock. -/
def turn (services : PolicyServices) (self : TokenService) (_ : Nat) (now : Int) :
    PolicyCall → TokenService × PolicyCall
  | .validating cmd stage => self.validate services now cmd stage
  | .validated cmd result => (self, .validated cmd result)
  | .updating update => (self.update now update, .updated)
  | .updated => (self, .updated)

end TokenService

/-- `validate_command` from its start to its end, with no other call in between. -/
def validateCommand (services : PolicyServices) (client : PolicyClient) (now : Int)
    (cmd : AutomationCommand) : PolicyCall :=
  let turn := fun (self : TokenService × PolicyCall) => self.1.turn services 0 now self.2
  (turn (turn (turn (turn (⟨client, []⟩, .validating cmd .entering))))).2

/-- What the client is asked for. -/
inductive PolicyRequest where
  | validateCommand (cmd : AutomationCommand)
  | update (update : PolicyUpdate)

/-- The calls over the client. -/
def policyCalls (services : PolicyServices) :
    CallSystem TokenService PolicyRequest Int PolicyCall where
  enter
    | .validateCommand cmd => .validating cmd .entering
    | .update update => .updating update
  turn := TokenService.turn services

/-- The client and its callers. -/
abbrev PolicySystem := Calls TokenService PolicyCall

/-- A new client. -/
def PolicySystem.start (now : Int) : PolicySystem := ⟨.new now, []⟩

/-! ## The used tokens -/

/-- Whether a used token still counts at a reading of the clock. -/
def young (now : Int) (entry : List Char × Int) : Bool :=
  secondsBetween now entry.2 < PolicyClient.defaultTtlSeconds

/-- The tokens that count as used, from what has happened. -/
def live : List PolicyEvent → List (List Char × Int)
  | [] => []
  | .cleared :: _ => []
  | .refused now :: older => (live older).filter (young now)
  | .accepted token now :: older => (live older).filter (young now) ++ [(token, now)]

/-- What ends the time of a token accepted at `now`: an update, or a reading of the clock that is too
    late. -/
def Outdates (now : Int) : PolicyEvent → Prop
  | .cleared => True
  | .accepted _ later | .refused later =>
    (PolicyClient.defaultTtlSeconds : Int) ≤ secondsBetween later now

/-- Until then the token counts as used. -/
theorem mem_live {token : List Char} {now : Int} {between older : List PolicyEvent}
    (h : ∀ e ∈ between, ¬ Outdates now e) :
    (token, now) ∈ live (between ++ .accepted token now :: older) := by
  induction between with
  | nil => exact List.mem_append_right _ (List.mem_singleton_self _)
  | cons e between ih =>
    have hrest := ih fun e' he' => h e' (List.mem_cons_of_mem _ he')
    have he := h e List.mem_cons_self
    cases e with
    | cleared => exact absurd trivial he
    | refused later =>
      exact List.mem_filter.mpr ⟨hrest, decide_eq_true (not_le.mp he)⟩
    | accepted token' later =>
      exact List.mem_append_left _ (List.mem_filter.mpr ⟨hrest, decide_eq_true (not_le.mp he)⟩)

/-- No token is accepted that counts as used. -/
def NoneTwice : List PolicyEvent → Prop
  | [] => True
  | .accepted token now :: older =>
    (∀ entry ∈ live older, young now entry = true → entry.1 ≠ token) ∧ NoneTwice older
  | .refused _ :: older | .cleared :: older => NoneTwice older

theorem NoneTwice.of_append {later history : List PolicyEvent} (h : NoneTwice (later ++ history)) :
    NoneTwice history := by
  induction later with
  | nil => exact h
  | cons e later ih =>
    cases e with
    | accepted token now => exact ih h.2
    | refused now => exact ih h
    | cleared => exact ih h

/-- **The property**: between two acceptances of a token, or at the second, the time of the first is
    over. -/
def OncePerPeriod (history : List PolicyEvent) : Prop :=
  ∀ later between older token now now',
    history = later ++ .accepted token now' :: (between ++ .accepted token now :: older) →
      ∃ e ∈ PolicyEvent.accepted token now' :: between, Outdates now e

theorem NoneTwice.oncePerPeriod {history : List PolicyEvent} (h : NoneTwice history) :
    OncePerPeriod history := by
  rintro later between older token now now' rfl
  by_contra hnone
  push Not at hnone
  have hlive : (token, now) ∈ live (between ++ .accepted token now :: older) :=
    mem_live fun e he => hnone e (List.mem_cons_of_mem _ he)
  have hyoung : young now' (token, now) = true :=
    decide_eq_true (not_le.mp (hnone _ List.mem_cons_self))
  exact h.of_append.1 _ hlive hyoung rfl

/-! ## Runs -/

/-- What a call has read of the age of the cache. -/
def PolicyCall.TtlOk : PolicyCall → Prop
  | .validating _ (.finding _ ttlSeconds) | .validating _ (.recording _ ttlSeconds) =>
    ttlSeconds = PolicyClient.defaultTtlSeconds
  | _ => True

/-- What is so of the client. -/
structure TokensKept (service : TokenService) : Prop where
  tokens : service.client.validatedTokens = live service.history
  ttl : service.client.ttlSeconds = PolicyClient.defaultTtlSeconds
  once : NoneTwice service.history

theorem PolicyClient.retained_default (client : PolicyClient) (now : Int) :
    client.retained now PolicyClient.defaultTtlSeconds =
      client.validatedTokens.filter (young now) := by
  have hbmod : Int.bmod PolicyClient.defaultTtlSeconds (2 ^ 64) = PolicyClient.defaultTtlSeconds := by
    decide
  simp only [PolicyClient.retained, hbmod]
  rfl

theorem PolicyClient.remainingTtl_eq {client : PolicyClient} {now : Int}
    (h : client.remainingTtl now ≠ 0) : client.remainingTtl now = client.ttlSeconds := by
  simp only [PolicyClient.remainingTtl] at h ⊢
  split at h
  · exact absurd rfl h
  · next hlt => rw [if_neg hlt]

/-- **One turn** of `validate_command`. -/
theorem TokensKept.validate {services : PolicyServices} {service : TokenService}
    (h : TokensKept service) {now : Int} {cmd : AutomationCommand} {stage : ValidateStage}
    (httl : (PolicyCall.validating cmd stage).TtlOk) :
    TokensKept (service.validate services now cmd stage).1 ∧
      (service.validate services now cmd stage).2.TtlOk := by
  cases stage with
  | entering =>
    simp only [TokenService.validate]
    split <;> exact ⟨h, trivial⟩
  | expiring =>
    simp only [TokenService.validate]
    split
    · exact ⟨h, trivial⟩
    split
    · exact ⟨h, trivial⟩
    next hfresh =>
      have hne : service.client.remainingTtl now ≠ 0 := fun heq => hfresh (by simp [heq])
      exact ⟨h, (PolicyClient.remainingTtl_eq hne).trans h.ttl⟩
  | finding read ttlSeconds =>
    simp only [TokenService.validate]
    split
    · split
      · exact ⟨h, httl⟩
      · exact ⟨h, trivial⟩
      · exact ⟨h, trivial⟩
    · exact ⟨h, trivial⟩
  | recording read ttlSeconds =>
    cases httl
    simp only [TokenService.validate, PolicyClient.retained_default, h.tokens]
    split
    · exact ⟨⟨rfl, h.ttl, h.once⟩, trivial⟩
    next hunused =>
      refine ⟨⟨rfl, h.ttl, fun entry hentry hyoung heq => hunused ?_, h.once⟩, trivial⟩
      exact List.any_eq_true.mpr
        ⟨entry, List.mem_filter.mpr ⟨hentry, hyoung⟩, beq_iff_eq.mpr heq⟩

/-- **One update.** -/
theorem TokensKept.update {service : TokenService} (h : TokensKept service) (now : Int)
    (update : PolicyUpdate) : TokensKept (service.update now update) := by
  cases update with
  | updatePolicies policies => exact ⟨rfl, h.ttl, h.once⟩
  | addPolicy policy => exact ⟨h.tokens, h.ttl, h.once⟩
  | removePolicy policyId =>
    simp only [TokenService.update, PolicyClient.removePolicy]
    split <;> exact ⟨h.tokens, h.ttl, h.once⟩

/-- **One turn.** -/
theorem TokensKept.turn {services : PolicyServices} {service : TokenService}
    (h : TokensKept service) (index : Nat) (now : Int) {call : PolicyCall} (httl : call.TtlOk) :
    TokensKept (service.turn services index now call).1 ∧
      (service.turn services index now call).2.TtlOk := by
  cases call with
  | validating cmd stage => exact h.validate httl
  | validated cmd result => exact ⟨h, trivial⟩
  | updating update => exact ⟨h.update now update, trivial⟩
  | updated => exact ⟨h, trivial⟩

/-- What is so of the client and its callers. -/
def SystemKept (s : PolicySystem) : Prop :=
  TokensKept s.shared ∧ ∀ (j : Nat) call, s.calls[j]? = some call → call.TtlOk

theorem SystemKept.step {services : PolicyServices} {s : PolicySystem} (h : SystemKept s)
    (m : CallMove PolicyRequest Int) : SystemKept ((policyCalls services).step s m) := by
  refine (policyCalls services).step_invariant (m := m) (P := fun service _ => TokensKept service)
    (Q := fun _ _ call => call.TtlOk) ?_ ?_ h.1 h.2
  · refine fun request hkept => ⟨hkept, ?_⟩
    cases request <;> trivial
  · rintro index now call rfl hcall
    have hturn : TokensKept (s.shared.turn services index now call).1 ∧
        (s.shared.turn services index now call).2.TtlOk := h.1.turn index now (h.2 index call hcall)
    exact ⟨hturn.1, hturn.2, fun _ _ _ _ hother => hother⟩

/-! ## The result -/

/-- **A token is accepted once a period**: in every interleaving of any calls, with any readings of
    the clock, it is accepted again only after an update or a reading that is late enough. -/
theorem accepted_once_a_period (services : PolicyServices) (now : Int)
    (moves : List (CallMove PolicyRequest Int)) :
    ∀ s ∈ states (policyCalls services).step (PolicySystem.start now) moves,
      OncePerPeriod s.shared.history := by
  have hstart : SystemKept (PolicySystem.start now) := by
    refine ⟨⟨rfl, rfl, trivial⟩, fun j call hcall => ?_⟩
    cases hcall
  have hstep : ∀ s m, SystemKept s → SystemKept ((policyCalls services).step s m) :=
    fun s m h => h.step m
  exact fun s hs => (states_always hstep hstart s hs).1.once.oncePerPeriod

/-- No two accepted tokens carry one policy and one nonce. -/
def SingleUse (history : List PolicyEvent) : Prop :=
  ∀ later between older token token' now now' parsed parsed',
    history = later ++ .accepted token' now' :: (between ++ .accepted token now :: older) →
    parsePolicyToken token = some parsed → parsePolicyToken token' = some parsed' →
    parsed.policyId = parsed'.policyId → parsed.nonce ≠ parsed'.nonce

/-- No signature is right, and every command has the same scope. -/
def exampleServices : PolicyServices where
  verifySignature _ _ _ _ := false
  scopeHash _ := .ok []

/-- A command with a token. -/
def exampleCommand (policyToken : String) : AutomationCommand :=
  ⟨"command", "session", .keyPress "a", none, policyToken⟩

/-- A call of `validate_command` from its start to its end. -/
def validates (index : Nat) (now : Int) : List (CallMove PolicyRequest Int) :=
  .request (.validateCommand (exampleCommand "pol-1:nonce-01")) ::
    List.replicate 4 (.turn index (now * second))

/-- A token is accepted after one second; after 299 another policy is added, which makes the cache
    fresh again. -/
def acceptedTwice : List (CallMove PolicyRequest Int) :=
  [.request (.update (.updatePolicies [IndexedPolicyClient.examplePolicy "pol-1" "ls"])), .turn 0 0] ++
    validates 1 1 ++
  [.request (.update (.addPolicy (IndexedPolicyClient.examplePolicy "pol-2" "cat"))),
    .turn 2 (299 * second)] ++ validates 3 302

theorem accepted_once_a_period_twice :
    OncePerPeriod (acceptedTwice.foldl (policyCalls exampleServices).step
      (PolicySystem.start 0)).shared.history :=
  accepted_once_a_period exampleServices 0 acceptedTwice _ (foldl_mem_states _ _)

/-- After 302 seconds the token is accepted again. -/
theorem token_accepted_again :
    ¬ ∀ (services : PolicyServices) (now : Int) (moves : List (CallMove PolicyRequest Int)),
      ∀ s ∈ states (policyCalls services).step (PolicySystem.start now) moves,
        SingleUse s.shared.history := by
  intro hall
  have hsingle := hall exampleServices 0 acceptedTwice _ (foldl_mem_states _ _)
  have hhistory : (acceptedTwice.foldl (policyCalls exampleServices).step
      (PolicySystem.start 0)).shared.history =
        [] ++ .accepted "pol-1:nonce-01".toList (302 * second) ::
          ([] ++ .accepted "pol-1:nonce-01".toList (1 * second) :: [.cleared]) := by
    decide +kernel
  have hparsed : parsePolicyToken "pol-1:nonce-01".toList =
      some ⟨"pol-1".toList, "nonce-01".toList, none, none⟩ := by
    decide +kernel
  exact hsingle [] [] _ _ _ _ _ _ _ hhistory hparsed hparsed rfl rfl

end Oneshim.Automation
