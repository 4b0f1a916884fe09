/-
  Plans of an interaction session.

  A call of `prepare_execution` looks at the confirmed action, asks for the focus without the lock and
  commits under it again.  What it asks again there is the nonce of the ticket, and nothing else.

  1. **Going on** (`Stage.Goes`) — how a request goes on after a block: what makes it come to a commit
     and what makes it return a plan.

  2. **Nonces** (`plan_once`) — a nonce that has been used in a session stays used, so no two calls
     return a plan for it.

  3. **Commits** (`committed_as_checked`) — a plan is committed in the state that was checked as long
     as nothing comes between; a cancelled session is executed all the same
     (`cancelled_session_executes`).
-/
import Oneshim.Automation.GuiStates

namespace Oneshim.Gui

open Lib (Along CallMove CallSystem Table states states_invariant foldl_mem_states)

variable {setup : GuiSetup} {answer : GuiAnswer} {sessionId : String} {stored stored' : StoredSession}

/-! ## Going on -/

/-- Where a request goes when its token is the one of the session. -/
def Stage.afterToken : Stage → Option Stage
  | .getting _ => some .gettingStored
  | .highlighting _ candidateIds => some (.choosingTargets candidateIds)
  | .confirming _ req => some (.choosing req)
  | .preparing _ ticket => some (.checking ticket)
  | .cancelling _ => some .cancellingStored
  | _ => none

/-- How a request goes on after its block. -/
inductive Stage.Goes (setup : GuiSetup) (answer : GuiAnswer) (stored : StoredSession) :
    Stage → Next → Prop where
  | returns {stage : Stage} {result : GuiResult} (h : ∀ plan, result ≠ .plan plan) :
      Goes setup answer stored stage (.return result)
  | admits {stage next : Stage} (h : stage.afterToken = some next) :
      Goes setup answer stored stage (.stage next)
  | shows {candidateIds : Option (List String)} {sceneId : String}
      {targets : List HighlightTarget} {previous : Option String} :
      Goes setup answer stored (.choosingTargets candidateIds)
        (.stage (.showing sceneId targets previous))
  | chooses {req : GuiConfirmRequest} {candidate : GuiCandidate}
      (h : candidate.elementId = req.candidateId) :
      Goes setup answer stored (.choosing req)
        (.stage (.issuing req stored.session.focus candidate stored.session.sceneId))
  | checks {ticket : GuiExecutionTicket} {confirmedAction : ConfirmedAction}
      {hmac : List Char → List UInt8} (hmac_eq : setup.hmac = some hmac)
      (hstate : stored.session.state = .confirmed)
      (haction : stored.confirmedAction = some confirmedAction)
      (h : checkTicket hmac stored.id ticket confirmedAction answer.later = .ok ()) :
      Goes setup answer stored (.checking ticket)
        (.stage (.committing ticket stored.session.focus confirmedAction))
  | plans {ticket : GuiExecutionTicket} {sessionFocus : FocusSnapshot}
      {confirmedAction : ConfirmedAction} {plan : GuiExecutionPlan}
      (h : ticket.nonce ∉ stored.usedTicketNonces) (hsession : plan.sessionId = stored.id)
      (hticket : plan.ticket = ticket) :
      Goes setup answer stored (.committing ticket sessionFocus confirmedAction)
        (.return (.plan plan))

/-- A failed request does not return a plan. -/
theorem Stage.Goes.failed (stage : Stage) (e : GuiInteractionError) :
    stage.Goes setup answer stored (.return (.failed e)) := by
  refine .returns fun plan h => ?_
  cases h

theorem assertCapabilityToken_goes {stage next : Stage} (h : stage.afterToken = some next)
    (capabilityToken : String) :
    stage.Goes setup answer stored (assertCapabilityToken stored capabilityToken next).next := by
  simp only [assertCapabilityToken]
  split
  · exact .failed stage _
  · exact .admits h

/-- A check of a ticket ends in a stage that its outcome allows. -/
theorem prepareCheck_goes {hmac : List Char → List UInt8} (hmac_eq : setup.hmac = some hmac)
    (ticket : GuiExecutionTicket) :
    (Stage.checking ticket).Goes setup answer stored
      (prepareCheck hmac stored answer ticket).next := by
  simp only [prepareCheck]
  split
  · exact .failed _ _
  · next confirmedAction haction =>
    split
    · exact .failed _ _
    split
    · exact .failed _ _
    · next hstate =>
      split
      · exact .failed _ _
      · next hchecked => exact .checks hmac_eq (not_not.mp hstate) haction hchecked

theorem confirmChoose_goes (req : GuiConfirmRequest) :
    (Stage.choosing req).Goes setup answer stored (confirmChoose stored answer req).next := by
  simp only [confirmChoose]
  split
  · exact .failed _ _
  split
  · exact .failed _ _
  · next candidate hfound =>
    split
    · exact .failed _ _
    · have hid := List.find?_some hfound
      exact .chooses (beq_iff_eq.mp hid)

theorem highlightChoose_goes (candidateIds : Option (List String)) :
    (Stage.choosingTargets candidateIds).Goes setup answer stored
      (highlightChoose stored answer candidateIds).next := by
  simp only [highlightChoose]
  split
  · exact .failed _ _
  split
  · exact .failed _ _
  · exact .shows

theorem prepareCommit_goes (ticket : GuiExecutionTicket) (sessionFocus : FocusSnapshot)
    (confirmedAction : ConfirmedAction) :
    (Stage.committing ticket sessionFocus confirmedAction).Goes setup answer stored
      (prepareCommit stored answer ticket confirmedAction).next := by
  simp only [prepareCommit]
  split
  · exact .failed _ _
  · next hfresh => exact .plans hfresh rfl rfl

/-- How a request goes on is one of these. -/
theorem Stage.block_goes {stage : Stage} {block : StoredSession → Block}
    (h : stage.block setup answer sessionId = .ok block) (stored : StoredSession) :
    stage.Goes setup answer stored (block stored).next := by
  cases stage with
  | getting capabilityToken =>
    cases h
    exact assertCapabilityToken_goes rfl capabilityToken
  | gettingStored =>
    cases h
    exact .returns (by intro plan hplan; cases hplan)
  | highlighting capabilityToken candidateIds =>
    cases h
    exact assertCapabilityToken_goes rfl capabilityToken
  | choosingTargets candidateIds =>
    cases h
    exact highlightChoose_goes candidateIds
  | showing sceneId targets previous =>
    obtain ⟨handleId, -, rfl⟩ := block_showing h
    exact .returns (by intro plan hplan; cases hplan)
  | confirming capabilityToken req =>
    rw [block_confirming h]
    exact assertCapabilityToken_goes rfl capabilityToken
  | choosing req =>
    cases h
    exact confirmChoose_goes req
  | issuing req sessionFocus candidate sceneId =>
    obtain ⟨hmac, confirmedAction, -, -, rfl⟩ := block_issuing h
    exact .returns (by intro plan hplan; cases hplan)
  | preparing capabilityToken ticket =>
    rw [block_preparing h]
    exact assertCapabilityToken_goes rfl capabilityToken
  | checking ticket =>
    obtain ⟨hmac, hsecret, rfl⟩ := block_checking h
    exact prepareCheck_goes hsecret ticket
  | committing ticket sessionFocus confirmedAction =>
    obtain ⟨-, rfl⟩ := block_committing h
    exact prepareCommit_goes ticket sessionFocus confirmedAction
  | completing succeeded detail stepsCompleted totalSteps =>
    cases h
    exact .returns (by intro plan hplan; cases hplan)
  | cancelling capabilityToken =>
    cases h
    exact assertCapabilityToken_goes rfl capabilityToken
  | cancellingStored =>
    cases h
    exact .returns (by intro plan hplan; cases hplan)

/-! ## Nonces -/

/-- A nonce that has been used in a session that was made, and is used as long as it is there. -/
def Used (self : GuiService) (sessionId nonce : String) : Prop :=
  .created sessionId ∈ self.history ∧
    ∀ stored, self.sessions.find? sessionId = some stored → nonce ∈ stored.usedTicketNonces

/-- A call that has returned a plan has used its nonce. -/
def PlanUsed (self : GuiService) : GuiCall → Prop
  | .done (.plan plan) => Used self plan.sessionId plan.ticket.nonce
  | _ => True

/-- A block forgets no nonce. -/
theorem Stage.Does.used_subset {stage : Stage} {events : List GuiEvent}
    (h : stage.Does setup answer sessionId stored stored' events) {nonce : String}
    (hused : nonce ∈ stored.usedTicketNonces) : nonce ∈ stored'.usedTicketNonces := by
  cases h with
  | reads => exact hused
  | marks => exact hused
  | alive => exact hused
  | highlights => exact hused
  | confirms => exact hused
  | commits hfocus hfresh =>
    rw [prepareCommit, if_neg hfresh]
    exact List.mem_cons_of_mem _ hused
  | _ => exact hused

variable {self : GuiService} {call : GuiCall}

theorem Used.turn {nonce : String} (h : Used self sessionId nonce) {index : Nat}
    (hnew : NewIds self index answer call) :
    Used (GuiService.turn setup self index answer call).1 sessionId nonce := by
  refine ⟨mem_history_turn h.1 index call, fun stored' hstored' => ?_⟩
  obtain ⟨stored, hstored, rfl | ⟨stage, events, -, hdoes⟩⟩ :=
    find?_turn_of_created h.1 hnew hstored'
  · exact h.2 _ hstored
  · exact hdoes.used_subset (h.2 stored hstored)

/-- **Returning a plan**: the call commits, with a nonce that is not used and then is. -/
theorem turn_plan (hreg : Registered self) (index : Nat) {plan : GuiExecutionPlan}
    (h : (GuiService.turn setup self index answer call).2 = .done (.plan plan)) :
    call = .done (.plan plan) ∨
    ((∃ stored, self.sessions.find? plan.sessionId = some stored ∧
        plan.ticket.nonce ∉ stored.usedTicketNonces) ∧
      Used (GuiService.turn setup self index answer call).1 plan.sessionId plan.ticket.nonce) := by
  cases call with
  | creating ttl =>
    simp only [GuiService.turn, GuiService.createSession] at h
    split at h <;> cases h
  | session sessionId stage =>
    simp only [GuiService.turn] at h ⊢
    cases hblock : stage.block setup answer sessionId with
    | error e =>
      rw [hblock] at h
      cases h
    | ok block =>
      rw [hblock] at h
      cases hfound : self.sessions.find? sessionId with
      | none =>
        simp only [GuiService.onSession_of_none hfound] at h
        cases h
      | some stored =>
        simp only [GuiService.onSession_of_some hfound] at h ⊢
        have hgoes := Stage.block_goes hblock stored
        have hid := (Table.find?_eq_some_iff.mp hfound).2
        cases hnext : (block stored).next with
        | stage next =>
          rw [hnext] at h
          cases h
        | «return» result =>
          rw [hnext] at h hgoes
          cases h
          cases hgoes with
          | returns hno => exact absurd rfl (hno plan)
          | plans hfresh hsession hticket =>
            obtain ⟨-, rfl⟩ := Stage.block_committing hblock
            have hdoes := Stage.block_does hblock stored
            rw [hsession, hid, hticket]
            refine .inr ⟨⟨stored, hfound, hfresh⟩,
              List.mem_append_right _ (hreg sessionId stored hfound), fun after hafter => ?_⟩
            rw [find?_onSession hfound hdoes.id_eq sessionId, if_pos rfl] at hafter
            cases hafter
            rw [prepareCommit, if_neg hfresh]
            exact List.mem_cons_self
  | expiring => cases h
  | done result => exact .inl h

/-- What is so of the sessions, and of a call by itself. -/
structure PlanInvariant (s : GuiSystem) : Prop where
  /-- Every session there is has been made. -/
  registered : Registered s.shared
  /-- What a call has returned a plan for is used. -/
  used : ∀ (j : Nat) call, s.calls[j]? = some call → PlanUsed s.shared call

theorem PlanUsed.turn {other : GuiCall} (h : PlanUsed self other) {index : Nat}
    (hnew : NewIds self index answer call) :
    PlanUsed (GuiService.turn setup self index answer call).1 other := by
  cases other with
  | done result =>
    cases result with
    | plan plan => exact Used.turn h hnew
    | _ => trivial
  | _ => trivial

/-- Every turn of a call keeps the invariant of the plans. -/
theorem PlanInvariant.step {s : GuiSystem} (h : PlanInvariant s)
    {m : CallMove GuiRequest GuiAnswer} (hnew : CallSystem.OnTurn NewIds s m) :
    PlanInvariant ((guiCalls setup).step s m) := by
  have hkept := (guiCalls setup).step_invariant (m := m) (P := fun self _ => Registered self)
    (Q := fun self _ call => PlanUsed self call) ?_ ?_ h.registered h.used
  · exact ⟨hkept.1, hkept.2⟩
  · refine fun request hreg => ⟨hreg, ?_⟩
    cases request <;> trivial
  · rintro index answer call rfl hcall
    have hnew := hnew call hcall
    refine ⟨h.registered.turn index call, ?_, fun _ other _ _ hother => hother.turn hnew⟩
    cases hreturned : ((guiCalls setup).turn s.shared index answer call).2 with
    | done result =>
      cases result with
      | plan plan =>
        rcases turn_plan h.registered index hreturned with rfl | ⟨-, hused⟩
        · exact PlanUsed.turn (h.used index _ hcall) hnew
        · exact hused
      | _ => trivial
    | _ => trivial

/-- No two calls have returned a plan for one nonce of one session. -/
def PlanOnce (s : GuiSystem) : Prop :=
  ∀ (i j : Nat) (p q : GuiExecutionPlan), s.calls[i]? = some (.done (.plan p)) →
    s.calls[j]? = some (.done (.plan q)) → p.sessionId = q.sessionId →
      p.ticket.nonce = q.ticket.nonce → i = j

/-- A call that returns a plan now is not the second one. -/
theorem not_used_of_turn_plan {s : GuiSystem} (h : PlanInvariant s) (index : Nat) {j : Nat}
    {answer : GuiAnswer} {p q : GuiExecutionPlan}
    (hreturned : (GuiService.turn setup s.shared index answer call).2 = .done (.plan p))
    (hcall : call ≠ .done (.plan p)) (hj : s.calls[j]? = some (.done (.plan q)))
    (hsession : p.sessionId = q.sessionId) : p.ticket.nonce ≠ q.ticket.nonce := by
  intro hnonce
  obtain ⟨⟨stored, hfound, hfresh⟩, -⟩ := (turn_plan h.registered index hreturned).resolve_left hcall
  have hused := (h.used j _ hj).2 stored (hsession ▸ hfound)
  exact hfresh (hnonce ▸ hused)

/-- **One move** returns no second plan. -/
theorem PlanOnce.step {s : GuiSystem} (hinv : PlanInvariant s) (h : PlanOnce s)
    (m : CallMove GuiRequest GuiAnswer) : PlanOnce ((guiCalls setup).step s m) := by
  rcases (guiCalls setup).step_cases s m with
    ⟨request, rfl, hs⟩ | ⟨index, answer, rfl, ⟨-, hs⟩ | ⟨call, hcall, hs⟩⟩ <;> rw [hs]
  · -- a request that enters has returned nothing
    have hentered : ∀ plan, (guiCalls setup).enter request ≠ .done (.plan plan) := by
      intro plan
      cases request <;> exact fun heq => by cases heq
    intro i j p q hi hj
    rcases CallSystem.getElem?_concat_cases hi with ⟨-, hbad⟩ | hi
    · exact absurd hbad.symm (hentered p)
    rcases CallSystem.getElem?_concat_cases hj with ⟨-, hbad⟩ | hj
    · exact absurd hbad.symm (hentered q)
    · exact h i j p q hi hj
  · exact h
  · intro i j p q hi hj hsession hnonce
    rcases CallSystem.getElem?_set_cases hi with ⟨rfl, hp⟩ | ⟨hine, hp⟩ <;>
      rcases CallSystem.getElem?_set_cases hj with ⟨heq, hq⟩ | ⟨hjne, hq⟩
    · exact heq.symm
    · by_cases hdone : call = .done (.plan p)
      · exact h i j p q (hdone ▸ hcall) hq hsession hnonce
      · exact absurd hnonce (not_used_of_turn_plan hinv i hp.symm hdone hq hsession)
    · subst heq
      by_cases hdone : call = .done (.plan q)
      · exact h i j p q hp (hdone ▸ hcall) hsession hnonce
      · exact absurd hnonce.symm (not_used_of_turn_plan hinv j hq.symm hdone hp hsession.symm)
    · exact h i j p q hp hq hsession hnonce

theorem GuiSystem.planInvariant_start : PlanInvariant GuiSystem.start := by
  refine ⟨fun sessionId stored hstored => ?_, fun j call hcall => ?_⟩
  · cases hstored
  · cases hcall

/-- **A ticket is used once.**  In every interleaving of any number of requests no two calls return a
    plan for one nonce of one session. -/
theorem plan_once {moves : List (CallMove GuiRequest GuiAnswer)}
    (hnew : Along (guiCalls setup).step (CallSystem.OnTurn NewIds) GuiSystem.start moves) :
    ∀ s ∈ states (guiCalls setup).step GuiSystem.start moves, PlanOnce s := by
  have hstep : ∀ s m, PlanInvariant s ∧ PlanOnce s → CallSystem.OnTurn NewIds s m →
      PlanInvariant ((guiCalls setup).step s m) ∧ PlanOnce ((guiCalls setup).step s m) :=
    fun s m h hnew => ⟨h.1.step hnew, h.2.step h.1 m⟩
  have hstart : PlanOnce GuiSystem.start := by
    intro i j p q hi
    cases hi
  exact fun s hs =>
    (states_invariant hstep ⟨GuiSystem.planInvariant_start, hstart⟩ hnew s hs).2

/-- A ticket is confirmed and presented by two calls that both check it before one commits. -/
def presentedTwice : List (CallMove GuiRequest GuiAnswer) :=
  openedAndConfirmed ++ [
    .request (.prepareExecution "session0" "token" (exampleTicket 1 "1")),
    .request (.prepareExecution "session0" "token" (exampleTicket 1 "1")),
    .turn 2 (exampleAnswer 2 "2"), .turn 2 (exampleAnswer 2 "2"),
    .turn 3 (exampleAnswer 2 "3"), .turn 3 (exampleAnswer 2 "3"),
    .turn 2 (exampleAnswer 3 "4"), .turn 3 (exampleAnswer 3 "5")]

/-- The plan a call has returned. -/
def GuiCall.plan? : GuiCall → Option GuiExecutionPlan
  | .done (.plan plan) => some plan
  | _ => none

theorem plan_once_presentedTwice :
    ((presentedTwice.foldl (guiCalls exampleSetup).step GuiSystem.start).calls.filterMap
      GuiCall.plan?).length = 1 ∧
    ∀ s ∈ states (guiCalls exampleSetup).step GuiSystem.start presentedTwice, PlanOnce s :=
  ⟨by decide +kernel, plan_once (by decide +kernel)⟩

/-! ## Commits -/

/-- Whether a block takes a confirmed session from under a ticket that waits to be committed: it
    writes another state, or enters another ticket. -/
def Stage.disturbs (setup : GuiSetup) (answer : GuiAnswer) (sessionId : String)
    (stored : StoredSession) (nonce : String) : Stage → Bool
  | .gettingStored | .choosingTargets _ | .choosing _ =>
    isExpired stored.session.expiresAt answer.now
  | .showing _ _ _ => answer.highlights.isOk
  | .issuing req sessionFocus candidate sceneId =>
    match setup.hmac with
    | some hmac =>
      (issueTicket setup hmac answer sessionId req sessionFocus candidate sceneId).isOk
    | none => false
  | .committing ticket sessionFocus _ => ticket.nonce != nonce &&
    !stored.usedTicketNonces.contains ticket.nonce && (validFocus answer sessionFocus).isOk
  | .completing succeeded _ _ _ => succeeded
  | .cancellingStored => true
  | _ => false

/-- The nonce a call waits to commit in a session. -/
def GuiCall.waitingNonce (sessionId : String) : GuiCall → Option String
  | .session sessionId' (.committing ticket _ _) =>
    if sessionId' = sessionId then some ticket.nonce else none
  | _ => none

/-- The nonces other calls wait to commit. -/
def waitingNonces (calls : List GuiCall) (index : Nat) (sessionId : String) : List String :=
  (calls.zipIdx.filter (·.2 != index)).filterMap fun call => call.1.waitingNonce sessionId

/-- Whether a move disturbs no other call waiting to commit with a nonce that is not used. -/
def undisturbed (setup : GuiSetup) (s : GuiSystem) : CallMove GuiRequest GuiAnswer → Bool
  | .request _ => true
  | .turn index answer =>
    match s.calls[index]? with
    | some (.session sessionId stage) => (s.shared.sessions.find? sessionId).all fun stored =>
      (waitingNonces s.calls index sessionId).all fun nonce =>
        stored.usedTicketNonces.contains nonce ||
          !stage.disturbs setup answer sessionId stored nonce
    | _ => true

variable {ticket : GuiExecutionTicket} {confirmedAction : ConfirmedAction}

/-- So a call that waits with a nonce of its own is not disturbed. -/
theorem quiet_of_undisturbed {s : GuiSystem} {index j : Nat} {stage : Stage}
    (h : undisturbed setup s (.turn index answer) = true)
    (hcall : s.calls[index]? = some (.session sessionId stage)) (hj : j ≠ index)
    {sessionFocus : FocusSnapshot}
    (hother : s.calls[j]? = some
      (.session sessionId (.committing ticket sessionFocus confirmedAction)))
    (hfound : s.shared.sessions.find? sessionId = some stored)
    (hfresh : ticket.nonce ∉ stored.usedTicketNonces) :
    stage.disturbs setup answer sessionId stored ticket.nonce = false := by
  have hwaiting : ticket.nonce ∈ waitingNonces s.calls index sessionId := by
    have hin := List.mk_mem_zipIdx_iff_getElem?.mpr hother
    have hne : (j != index) = true := bne_iff_ne.mpr hj
    exact List.mem_filterMap.mpr ⟨_, List.mem_filter.mpr ⟨hin, hne⟩, if_pos rfl⟩
  simp only [undisturbed, hcall, hfound, Option.all_some, List.all_eq_true] at h
  have hquiet := h ticket.nonce hwaiting
  rw [List.contains_eq_mem, decide_eq_false hfresh, Bool.false_or, Bool.not_eq_true'] at hquiet
  exact hquiet

/-- The session is confirmed, and the ticket is for the action that it is confirmed with. -/
structure ConfirmedFor (stored : StoredSession) (ticket : GuiExecutionTicket)
    (confirmedAction : ConfirmedAction) : Prop where
  state : stored.session.state = .confirmed
  action : stored.confirmedAction = some confirmedAction
  ticketId : ticket.ticketId = confirmedAction.ticket.ticketId
  elementId : ticket.elementId = confirmedAction.candidateId
  actionHash : ticket.actionHash = confirmedAction.actionHash

/-- What a call waiting to commit relies on. -/
def Waits (self : GuiService) : GuiCall → Prop
  | .session sessionId (.committing ticket _ confirmedAction) =>
    .created sessionId ∈ self.history ∧ ∀ stored, self.sessions.find? sessionId = some stored →
      ticket.nonce ∈ stored.usedTicketNonces ∨ ConfirmedFor stored ticket confirmedAction
  | _ => True

/-- Every plan was committed in a session confirmed for its ticket. -/
def CommittedAsChecked (self : GuiService) : Prop :=
  ∀ sessionId ticket stored, .planned sessionId ticket stored ∈ self.history →
    ∃ confirmedAction, ConfirmedFor stored ticket confirmedAction

/-- What `checkTicket` has seen. -/
theorem checkTicket_eq_ok {hmac : List Char → List UInt8} {now : Int}
    (h : checkTicket hmac sessionId ticket confirmedAction now = .ok ()) :
    verifyTicket hmac ticket = .ok () ∧ ticket.sessionId = sessionId ∧
      ticket.ticketId = confirmedAction.ticket.ticketId ∧
      ticket.elementId = confirmedAction.candidateId ∧
      ticket.actionHash = confirmedAction.actionHash ∧
      isExpiredPastGrace ticket.expiresAt ticketExpiryGraceSecs now = false := by
  simp only [checkTicket, bind, Except.bind] at h
  cases hverified : verifyTicket hmac ticket with
  | error e =>
    rw [hverified] at h
    cases h
  | ok =>
    rw [hverified] at h
    by_cases h1 : ticket.sessionId ≠ sessionId
    · simp [h1] at h
    by_cases h2 : ticket.ticketId ≠ confirmedAction.ticket.ticketId
    · simp [h1, h2] at h
    by_cases h3 : ticket.elementId ≠ confirmedAction.candidateId
    · simp [h1, h2, h3] at h
    by_cases h4 : ticket.actionHash ≠ confirmedAction.actionHash
    · simp [h1, h2, h3, h4] at h
    by_cases h5 : isExpiredPastGrace ticket.expiresAt ticketExpiryGraceSecs now
    · simp [h1, h2, h3, h4, h5] at h
    exact ⟨rfl, not_not.mp h1, not_not.mp h2, not_not.mp h3, not_not.mp h4,
      Bool.eq_false_iff.mpr h5⟩

/-- **One block** leaves a session confirmed for a ticket, unless it disturbs. -/
theorem Stage.Does.confirmedFor {stage : Stage} {events : List GuiEvent}
    (h : stage.Does setup answer sessionId stored stored' events)
    (hready : ConfirmedFor stored ticket confirmedAction)
    (hquiet : stage.disturbs setup answer sessionId stored ticket.nonce = false) :
    ticket.nonce ∈ stored'.usedTicketNonces ∨ ConfirmedFor stored' ticket confirmedAction := by
  cases h with
  | reads => exact .inr hready
  | marks hmarks hexpired =>
    refine absurd (hquiet.symm.trans ?_) Bool.false_ne_true
    cases stage <;> first | exact hexpired | cases hmarks
  | alive => exact .inr hready
  | highlights hshown =>
    rw [Stage.disturbs, hshown] at hquiet
    cases hquiet
  | confirms hsecret hissued =>
    simp only [Stage.disturbs, hsecret, hissued] at hquiet
    cases hquiet
  | @commits other _ _ hfocus hfresh =>
    refine .inl ?_
    by_contra hunused
    have hne : other.nonce ≠ ticket.nonce := by
      intro heq
      rw [prepareCommit, if_neg hfresh] at hunused
      exact hunused (heq ▸ List.mem_cons_self)
    simp [Stage.disturbs, hne, hfresh, hfocus, Except.isOk, Except.toBool] at hquiet
  | replayed => exact .inr hready
  | @completes succeeded =>
    cases succeeded with
    | true => cases hquiet
    | false => exact .inr ⟨rfl, hready.action, hready.ticketId, hready.elementId, hready.actionHash⟩
  | cancels => cases hquiet

/-- **Coming to a stage**: from another one of the same session, through its block. -/
theorem turn_stage (index : Nat) {next : Stage}
    (h : (GuiService.turn setup self index answer call).2 = .session sessionId next) :
    ∃ stage block stored, call = .session sessionId stage ∧
      stage.block setup answer sessionId = .ok block ∧
      self.sessions.find? sessionId = some stored ∧ (block stored).next = .stage next ∧
      (GuiService.turn setup self index answer call).1 =
        ⟨self.sessions.replace (block stored).stored, (block stored).events ++ self.history⟩ := by
  cases call with
  | creating ttl =>
    simp only [GuiService.turn, GuiService.createSession] at h
    split at h <;> cases h
  | session sessionId' stage =>
    simp only [GuiService.turn] at h ⊢
    cases hblock : stage.block setup answer sessionId' with
    | error e =>
      rw [hblock] at h
      cases h
    | ok block =>
      rw [hblock] at h
      cases hfound : self.sessions.find? sessionId' with
      | none =>
        simp only [GuiService.onSession_of_none hfound] at h
        cases h
      | some stored =>
        simp only [GuiService.onSession_of_some hfound] at h ⊢
        cases hnext : (block stored).next with
        | stage stage' =>
          rw [hnext] at h
          cases h
          exact ⟨stage, block, stored, rfl, hblock, hfound, hnext, rfl⟩
        | «return» result =>
          rw [hnext] at h
          cases h
  | expiring => cases h
  | done result => cases h

/-- **Coming to the commit**: the call has checked its ticket against a confirmed session, and
    changed nothing. -/
theorem turn_committing (index : Nat) {sessionFocus : FocusSnapshot}
    (h : (GuiService.turn setup self index answer call).2 =
      .session sessionId (.committing ticket sessionFocus confirmedAction)) :
    ∃ hmac stored, call = .session sessionId (.checking ticket) ∧ setup.hmac = some hmac ∧
      self.sessions.find? sessionId = some stored ∧
      (GuiService.turn setup self index answer call).1.history = self.history ∧
      (GuiService.turn setup self index answer call).1.sessions.find? sessionId = some stored ∧
      verifyTicket hmac ticket = .ok () ∧ ticket.sessionId = sessionId ∧
      ConfirmedFor stored ticket confirmedAction := by
  obtain ⟨stage, block, stored, rfl, hblock, hfound, hnext, hs⟩ := turn_stage index h
  have hgoes := Stage.block_goes hblock stored
  rw [hnext] at hgoes
  cases hgoes with
  | admits hafter => cases stage <;> cases hafter
  | checks hsecret hstate haction hchecked =>
    obtain ⟨hmac, -, rfl⟩ := Stage.block_checking hblock
    obtain ⟨hstored, hevents⟩ := prepareCheck_stored hmac stored answer ticket
    obtain ⟨hverified, hsession, hticketId, helementId, hactionHash, -⟩ :=
      checkTicket_eq_ok hchecked
    have hid := (Table.find?_eq_some_iff.mp hfound).2
    rw [hs]
    refine ⟨_, stored, rfl, hsecret, hfound, ?_, ?_, hverified, hsession.trans hid,
      hstate, haction, hticketId, helementId, hactionHash⟩
    · rw [hevents]
      rfl
    · rw [hstored, find?_onSession hfound rfl sessionId, if_pos rfl]

/-- What a call waits for is kept by the turns of others. -/
theorem Waits.turn {other : GuiCall} (h : Waits self other) {index : Nat}
    (hnew : NewIds self index answer call)
    (hquiet : ∀ sessionId ticket sessionFocus confirmedAction stage,
      other = .session sessionId (.committing ticket sessionFocus confirmedAction) →
      call = .session sessionId stage →
      ∀ stored, self.sessions.find? sessionId = some stored →
        ticket.nonce ∉ stored.usedTicketNonces →
        stage.disturbs setup answer sessionId stored ticket.nonce = false) :
    Waits (GuiService.turn setup self index answer call).1 other := by
  cases other with
  | session sessionId stage =>
    cases stage with
    | committing ticket sessionFocus confirmedAction =>
      refine ⟨mem_history_turn h.1 index call, fun stored' hstored' => ?_⟩
      obtain ⟨stored, hstored, rfl | ⟨stage, events, rfl, hdoes⟩⟩ :=
        find?_turn_of_created h.1 hnew hstored'
      · exact h.2 _ hstored
      · by_cases hused : ticket.nonce ∈ stored.usedTicketNonces
        · exact .inl (hdoes.used_subset hused)
        · have hready := (h.2 stored hstored).resolve_left hused
          exact hdoes.confirmedFor hready (hquiet _ _ _ _ _ rfl rfl stored hstored hused)
    | _ => trivial
  | _ => trivial

/-- A plan is entered in the history by the commit it was committed in. -/
theorem planned_turn_cases (index : Nat) {planned : String}
    (h : .planned planned ticket stored ∈ (GuiService.turn setup self index answer call).1.history) :
    .planned planned ticket stored ∈ self.history ∨
    ∃ sessionFocus confirmedAction,
      call = .session planned (.committing ticket sessionFocus confirmedAction) ∧
      self.sessions.find? planned = some stored ∧ ticket.nonce ∉ stored.usedTicketNonces := by
  rcases GuiService.turn_does setup self index answer call with
    hs | ⟨ttl, made, rfl, hmade, hs⟩ | ⟨other, stage, found, after, events, rfl, hfound, hdoes, hs⟩ |
      hs <;> rw [hs] at h
  · exact .inl h
  · rcases List.mem_cons.mp h with hbad | hold
    · cases hbad
    · exact .inl hold
  · rcases List.mem_append.mp h with hnow | hold
    · have hid := (Table.find?_eq_some_iff.mp hfound).2
      cases hdoes with
      | commits hfocus hfresh =>
        cases List.mem_singleton.mp hnow
        exact .inr ⟨_, _, by rw [hid], by rw [hid]; exact hfound, hfresh⟩
      | confirms hsecret hissued => cases List.mem_singleton.mp hnow
      | _ => cases hnow
    · exact .inl hold
  · exact .inl h

/-- What is so of the sessions and of the calls that wait. -/
structure CommitInvariant (s : GuiSystem) : Prop where
  registered : Registered s.shared
  committed : CommittedAsChecked s.shared
  waits : ∀ (j : Nat) call, s.calls[j]? = some call → Waits s.shared call

/-- **One move** that disturbs no waiting call keeps the invariant. -/
theorem CommitInvariant.step {s : GuiSystem} (h : CommitInvariant s)
    {m : CallMove GuiRequest GuiAnswer} (hnew : CallSystem.OnTurn NewIds s m)
    (hquiet : undisturbed setup s m = true) : CommitInvariant ((guiCalls setup).step s m) := by
  have hkept := (guiCalls setup).step_invariant (m := m)
    (P := fun self _ => Registered self ∧ CommittedAsChecked self)
    (Q := fun self _ call => Waits self call) ?_ ?_ ⟨h.registered, h.committed⟩ h.waits
  · exact ⟨hkept.1.1, hkept.1.2, hkept.2⟩
  · refine fun request hshared => ⟨hshared, ?_⟩
    cases request <;> trivial
  · rintro index answer call rfl hcall
    have hnew := hnew call hcall
    refine ⟨⟨h.registered.turn index call, ?_⟩, ?_, ?_⟩
    · -- a plan made now: the call has waited for it
      intro sessionId ticket stored hplanned
      rcases planned_turn_cases index hplanned with
        hold | ⟨sessionFocus, confirmedAction, rfl, hfound, hfresh⟩
      · exact h.committed sessionId ticket stored hold
      · have hwaits := (h.waits index _ hcall).2 stored hfound
        exact ⟨confirmedAction, hwaits.resolve_left hfresh⟩
    · cases hnext : ((guiCalls setup).turn s.shared index answer call).2 with
      | session sessionId stage =>
        cases stage with
        | committing ticket sessionFocus confirmedAction =>
          obtain ⟨hmac, stored, rfl, -, hfound, hhistory, hfind, -, -, hready⟩ :=
            turn_committing index hnext
          refine ⟨mem_history_turn (h.registered sessionId stored hfound) index _, ?_⟩
          intro stored' hstored'
          cases hfind.symm.trans hstored'
          exact .inr hready
        | _ => trivial
      | _ => trivial
    · intro j other hj hother hwaits
      refine hwaits.turn hnew fun sessionId ticket sessionFocus confirmedAction stage hcommitting
        hstage stored hfound hfresh => ?_
      exact quiet_of_undisturbed hquiet (hstage ▸ hcall) hj (hcommitting ▸ hother) hfound hfresh

theorem GuiSystem.commitInvariant_start : CommitInvariant GuiSystem.start := by
  refine ⟨fun sessionId stored hstored => ?_, fun sessionId ticket stored hplanned => ?_,
    fun j call hcall => ?_⟩
  · cases hstored
  · cases hplanned
  · cases hcall

/-- **A plan is committed in the state that was checked**, in every interleaving in which no move
    disturbs a call that waits to commit. -/
theorem committed_as_checked {moves : List (CallMove GuiRequest GuiAnswer)}
    (hrun : Along (guiCalls setup).step
      (fun s m => CallSystem.OnTurn NewIds s m ∧ undisturbed setup s m = true)
      GuiSystem.start moves) :
    ∀ s ∈ states (guiCalls setup).step GuiSystem.start moves, CommittedAsChecked s.shared := by
  have hstep : ∀ s m, CommitInvariant s →
      CallSystem.OnTurn NewIds s m ∧ undisturbed setup s m = true →
        CommitInvariant ((guiCalls setup).step s m) := fun s m h hm => h.step hm.1 hm.2
  exact fun s hs =>
    (states_invariant hstep GuiSystem.commitInvariant_start hrun s hs).committed

theorem committed_as_checked_presentedTwice :
    CommittedAsChecked
      (presentedTwice.foldl (guiCalls exampleSetup).step GuiSystem.start).shared :=
  committed_as_checked (by decide +kernel) _ (foldl_mem_states _ presentedTwice)

/-- A ticket is confirmed and checked; the session is cancelled while the call asks for the focus. -/
def cancelledDuringCheck : List (CallMove GuiRequest GuiAnswer) :=
  openedAndConfirmed ++ [
    .request (.prepareExecution "session0" "token" (exampleTicket 1 "1")),
    .turn 2 (exampleAnswer 2 "2"), .turn 2 (exampleAnswer 2 "2"),
    .request (.cancelSession "session0" "token"),
    .turn 3 (exampleAnswer 3 "3"), .turn 3 (exampleAnswer 3 "3"),
    .turn 2 (exampleAnswer 4 "4")]

/-- The states plans have been committed in. -/
def plannedStates (history : List GuiEvent) : List GuiSessionState :=
  history.filterMap fun
    | .planned _ _ stored => some stored.session.state
    | _ => none

theorem mem_plannedStates {history : List GuiEvent} {state : GuiSessionState}
    (h : state ∈ plannedStates history) :
    ∃ planned ticket stored, .planned planned ticket stored ∈ history ∧
      stored.session.state = state := by
  obtain ⟨event, hevent, hstate⟩ := List.mem_filterMap.mp h
  cases event with
  | planned planned ticket stored => exact ⟨planned, ticket, stored, hevent, Option.some.inj hstate⟩
  | created => cases hstate
  | issued => cases hstate

/-- A plan is returned for the cancelled session. -/
theorem cancelled_session_executes :
    ¬ ∀ (setup : GuiSetup) (moves : List (CallMove GuiRequest GuiAnswer)),
      Along (guiCalls setup).step (CallSystem.OnTurn NewIds) GuiSystem.start moves →
        ∀ s ∈ states (guiCalls setup).step GuiSystem.start moves, CommittedAsChecked s.shared := by
  intro hall
  have hcommitted := hall exampleSetup cancelledDuringCheck (by decide +kernel) _
    (foldl_mem_states _ _)
  have hcancelled : .cancelled ∈ plannedStates
      (cancelledDuringCheck.foldl (guiCalls exampleSetup).step GuiSystem.start).shared.history := by
    decide +kernel
  obtain ⟨planned, ticket, stored, hplanned, hstate⟩ := mem_plannedStates hcancelled
  obtain ⟨confirmedAction, hready⟩ := hcommitted planned ticket stored hplanned
  cases hstate.symm.trans hready.state

end Oneshim.Gui
