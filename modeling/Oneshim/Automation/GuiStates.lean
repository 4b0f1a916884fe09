/-
  The states of an interaction session.

  A session that is executed, cancelled or expired should stay so.  Seven blocks write the state, and
  none of them asks for the state it finds.

  1. **Final states** (`Final`) — the property of a run: a session that is in a final state has that
     state in every later state of the run it is still in.

  2. **Sparing** (`SparesFinal`) — for each block, when it leaves the state of a session in a final
     state as it is.

  3. **The result** (`final_iff`) — final states are final in a run exactly when every turn spares
     them.
-/
import Oneshim.Automation.GuiService

namespace Oneshim.Gui

open Lib (Along CallMove CallSystem Table states states_head_of_pairwise states_invariant
  mem_states_self)

/-! ## Final states -/

/-- The states a session should not leave. -/
def GuiSessionState.final : GuiSessionState → Bool
  | .executed | .cancelled | .expired => true
  | _ => false

/-- A session in a final state has that state later, if it is still there. -/
def KeepsFinal (earlier later : GuiService) : Prop :=
  ∀ sessionId stored stored', earlier.sessions.find? sessionId = some stored →
    stored.session.state.final → later.sessions.find? sessionId = some stored' →
    stored'.session.state = stored.session.state

/-- **The property**: it is so of every two states of a run. -/
def Final (setup : GuiSetup) (moves : List (CallMove GuiRequest GuiAnswer)) : Prop :=
  (states (guiCalls setup).step GuiSystem.start moves).Pairwise fun earlier later =>
    KeepsFinal earlier.shared later.shared

/-! ## Sparing -/

/-- A block that leaves the state of a session in a final state. -/
def Stage.Spares (setup : GuiSetup) (answer : GuiAnswer) (sessionId : String)
    (stored : StoredSession) : Stage → Prop
  | .gettingStored | .choosingTargets _ | .choosing _ =>
    isExpired stored.session.expiresAt answer.now = true → stored.session.state = .expired
  | .showing _ _ _ => ∃ e, answer.highlights = .error e
  | .issuing req sessionFocus candidate sceneId => ∀ hmac, setup.hmac = some hmac →
    ∃ e, issueTicket setup hmac answer sessionId req sessionFocus candidate sceneId = .error e
  | .committing ticket sessionFocus _ =>
    (∃ e, validFocus answer sessionFocus = .error e) ∨ ticket.nonce ∈ stored.usedTicketNonces
  | .completing succeeded _ _ _ => succeeded = true ∧ stored.session.state = .executed
  | .cancellingStored => stored.session.state = .cancelled
  | _ => True

/-- A turn that spares the sessions in a final state. -/
def SparesFinal (setup : GuiSetup) (self : GuiService) (_ : Nat) (answer : GuiAnswer) :
    GuiCall → Prop
  | .session sessionId stage => ∀ stored, self.sessions.find? sessionId = some stored →
    stored.session.state.final → stage.Spares setup answer sessionId stored
  | _ => True

/-- A turn that makes a session gets an id that no session has had. -/
def NewIds (self : GuiService) (_ : Nat) (answer : GuiAnswer) : GuiCall → Prop
  | .creating _ => .created answer.sessionId ∉ self.history
  | _ => True

instance (self : GuiService) (index : Nat) (answer : GuiAnswer) (call : GuiCall) :
    Decidable (NewIds self index answer call) :=
  match call with
  | .creating _ => inferInstanceAs (Decidable (_ ∉ _))
  | .session _ _ | .expiring | .done _ => .isTrue trivial

variable {setup : GuiSetup} {answer : GuiAnswer} {sessionId : String} {stored stored' : StoredSession}

/-- A block spares a session exactly when it leaves its state. -/
theorem Stage.Does.spares_iff {stage : Stage} {events : List GuiEvent}
    (h : stage.Does setup answer sessionId stored stored' events)
    (hfinal : stored.session.state.final) :
    stored'.session.state = stored.session.state ↔
      stage.Spares setup answer sessionId stored := by
  cases h with
  | reads hreads =>
    refine ⟨fun _ => ?_, fun _ => rfl⟩
    cases stage <;> trivial
  | marks hmarks hexpired =>
    have hiff : stored.markExpired.session.state = stored.session.state ↔
        stored.session.state = .expired := eq_comm
    rw [hiff]
    cases stage <;> first
      | exact ⟨fun hstate _ => hstate, fun hspares => hspares hexpired⟩
      | cases hmarks
  | alive hmarks halive =>
    refine ⟨fun _ => ?_, fun _ => rfl⟩
    cases stage <;> first
      | exact fun hexpired => absurd (halive.symm.trans hexpired) Bool.false_ne_true
      | cases hmarks
  | highlights hshown =>
    refine ⟨fun hstate => ?_, fun ⟨e, he⟩ => ?_⟩
    · rw [← hstate] at hfinal
      cases hfinal
    · rw [hshown] at he
      cases he
  | confirms hsecret hissued =>
    refine ⟨fun hstate => ?_, fun hspares => ?_⟩
    · rw [← hstate] at hfinal
      cases hfinal
    · obtain ⟨e, he⟩ := hspares _ hsecret
      rw [hissued] at he
      cases he
  | commits hfocus hfresh =>
    refine ⟨fun hstate => ?_, fun hspares => ?_⟩
    · rw [← hstate, prepareCommit, if_neg hfresh] at hfinal
      cases hfinal
    · rcases hspares with ⟨e, he⟩ | hused
      · rw [hfocus] at he
        cases he
      · exact absurd hused hfresh
  | replayed hused => exact ⟨fun _ => .inr hused, fun _ => rfl⟩
  | completes =>
    rename_i succeeded detail stepsCompleted totalSteps
    cases succeeded with
    | true => exact ⟨fun hstate => ⟨rfl, hstate.symm⟩, fun hspares => hspares.2.symm⟩
    | false =>
      refine ⟨fun hstate => ?_, fun hspares => absurd hspares.1 Bool.false_ne_true⟩
      rw [← hstate] at hfinal
      cases hfinal
  | cancels => exact eq_comm

/-- A request that fails before it takes the lock spares every session. -/
theorem Stage.spares_of_error {stage : Stage} {e : GuiInteractionError}
    (h : stage.block setup answer sessionId = .error e) (stored : StoredSession) :
    stage.Spares setup answer sessionId stored := by
  cases stage with
  | gettingStored => cases h
  | choosingTargets => cases h
  | choosing => cases h
  | showing sceneId targets previous =>
    cases hshown : answer.highlights with
    | error e => exact ⟨e, hshown⟩
    | ok handleId =>
      rw [Stage.block, hshown] at h
      cases h
  | issuing req sessionFocus candidate sceneId =>
    intro hmac hsecret
    cases hissued : issueTicket setup hmac answer sessionId req sessionFocus candidate sceneId with
    | error e => exact ⟨e, rfl⟩
    | ok confirmedAction =>
      simp only [Stage.block, requireHmacSecret, hsecret, bind, Except.bind, hissued] at h
      cases h
  | committing ticket sessionFocus confirmedAction =>
    cases hfocus : validFocus answer sessionFocus with
    | error e => exact .inl ⟨e, hfocus⟩
    | ok =>
      rw [Stage.block, hfocus] at h
      cases h
  | completing => cases h
  | cancellingStored => cases h
  | _ => trivial

/-! ## One turn -/

/-- Every session there is has been made. -/
def Registered (self : GuiService) : Prop :=
  ∀ sessionId stored, self.sessions.find? sessionId = some stored →
    .created sessionId ∈ self.history

theorem KeepsFinal.refl (self : GuiService) : KeepsFinal self self := by
  intro sessionId stored stored' hstored _ hstored'
  rw [hstored] at hstored'
  cases hstored'
  rfl

variable {self : GuiService}

/-- What becomes of the sessions when one goes through a block. -/
theorem find?_onSession (hfound : self.sessions.find? sessionId = some stored)
    (hid : stored'.id = stored.id) (other : String) :
    (self.sessions.replace stored').find? other =
      if other = sessionId then some stored' else self.sessions.find? other := by
  have hkey : stored'.id = sessionId := hid.trans (Table.find?_eq_some_iff.mp hfound).2
  rw [Table.find?_replace, hkey]
  by_cases hother : other = sessionId
  · rw [hother, if_pos rfl, if_pos rfl, hfound]
    rfl
  · rw [if_neg hother, if_neg (Ne.symm hother)]

theorem keepsFinal_expireSessions (self : GuiService) (answer : GuiAnswer) :
    KeepsFinal self (self.expireSessions answer).1 := by
  intro sessionId stored stored' hstored _ hstored'
  obtain ⟨hmem, hkey⟩ := Table.find?_eq_some_iff.mp hstored'
  have hold := Table.find?_eq_some_iff.mpr ⟨(List.mem_filter.mp hmem).1, hkey⟩
  rw [hstored] at hold
  cases hold
  rfl

/-- **One turn** keeps final states exactly when it spares them. -/
theorem keepsFinal_turn_iff (hreg : Registered self) {index : Nat} {call : GuiCall}
    (hnew : NewIds self index answer call) :
    KeepsFinal self (GuiService.turn setup self index answer call).1 ↔
      SparesFinal setup self index answer call := by
  cases call with
  | creating ttl =>
    refine ⟨fun _ => trivial, fun _ => ?_⟩
    simp only [GuiService.turn, GuiService.createSession]
    cases hmade : GuiService.proposeSession setup answer ttl with
    | error e => exact KeepsFinal.refl self
    | ok made =>
      intro sessionId stored stored' hstored _ hstored'
      have hne : sessionId ≠ made.id := by
        rintro rfl
        rw [GuiService.id_of_proposeSession hmade] at hstored
        exact hnew (hreg _ _ hstored)
      rw [Table.find?_upsert, if_neg hne.symm, hstored] at hstored'
      cases hstored'
      rfl
  | session sessionId stage =>
    simp only [GuiService.turn]
    cases hblock : stage.block setup answer sessionId with
    | error e =>
      exact ⟨fun _ stored _ _ => Stage.spares_of_error hblock stored, fun _ => KeepsFinal.refl self⟩
    | ok block =>
      cases hfound : self.sessions.find? sessionId with
      | none =>
        simp only [GuiService.onSession_of_none hfound]
        refine ⟨fun _ stored hstored => ?_, fun _ => KeepsFinal.refl self⟩
        rw [hfound] at hstored
        cases hstored
      | some stored =>
        simp only [GuiService.onSession_of_some hfound]
        have hdoes := Stage.block_does hblock stored
        have hfind := find?_onSession hfound hdoes.id_eq
        constructor
        · intro hkeeps stored₁ hstored₁ hfinal
          rw [hfound] at hstored₁
          cases hstored₁
          have hafter := (hfind sessionId).trans (if_pos rfl)
          exact (hdoes.spares_iff hfinal).mp (hkeeps sessionId stored _ hfound hfinal hafter)
        · intro hspares other stored₁ stored₂ hstored₁ hfinal hstored₂
          have hstored₂ := (hfind other).symm.trans hstored₂
          split at hstored₂
          · next heq =>
            subst heq
            rw [hfound] at hstored₁
            cases hstored₁
            cases hstored₂
            exact (hdoes.spares_iff hfinal).mpr (hspares stored hfound hfinal)
          · rw [hstored₁] at hstored₂
            cases hstored₂
            rfl
  | expiring => exact ⟨fun _ => trivial, fun _ => keepsFinal_expireSessions self answer⟩
  | done result => exact ⟨fun _ => trivial, fun _ => KeepsFinal.refl self⟩

/-! ## Runs -/

/-- Nothing that has happened is forgotten. -/
theorem mem_history_turn {e : GuiEvent} (h : e ∈ self.history) (index : Nat) (call : GuiCall) :
    e ∈ (GuiService.turn setup self index answer call).1.history := by
  rcases GuiService.turn_does setup self index answer call with
    hs | ⟨ttl, made, -, -, hs⟩ | ⟨sessionId, stage, stored, after, events, -, -, -, hs⟩ | hs <;>
    rw [hs]
  · exact h
  · exact List.mem_cons_of_mem _ h
  · exact List.mem_append_right _ h
  · exact h

/-- A session that is there was there before or is made in this turn. -/
theorem find?_turn_cases {index : Nat} {call : GuiCall}
    (h : (GuiService.turn setup self index answer call).1.sessions.find? sessionId = some stored') :
    (∃ stored, self.sessions.find? sessionId = some stored) ∨
    (∃ ttl, call = .creating ttl ∧ sessionId = answer.sessionId ∧
      .created sessionId ∈ (GuiService.turn setup self index answer call).1.history) := by
  rcases GuiService.turn_does setup self index answer call with
    hs | ⟨ttl, made, rfl, hmade, hs⟩ | ⟨other, stage, stored, after, events, rfl, hfound, hdoes, hs⟩ |
      hs <;> rw [hs] at h ⊢
  · exact .inl ⟨stored', h⟩
  · rw [Table.find?_upsert] at h
    split at h
    · next hid =>
      have hgiven := GuiService.id_of_proposeSession hmade
      exact .inr ⟨ttl, rfl, hid ▸ hgiven, hid ▸ List.mem_cons_self⟩
    · exact .inl ⟨stored', h⟩
  · rw [find?_onSession hfound hdoes.id_eq sessionId] at h
    split at h
    · next heq => exact .inl ⟨stored, heq ▸ hfound⟩
    · exact .inl ⟨stored', h⟩
  · obtain ⟨hmem, hkey⟩ := Table.find?_eq_some_iff.mp h
    exact .inl ⟨stored', Table.find?_eq_some_iff.mpr ⟨(List.mem_filter.mp hmem).1, hkey⟩⟩

/-- **A session that has been made**, after a turn: it was there before, and either it is as it was or
    the turn was a block of its own. -/
theorem find?_turn_of_created (hcreated : .created sessionId ∈ self.history) {index : Nat}
    {call : GuiCall} (hnew : NewIds self index answer call)
    (h : (GuiService.turn setup self index answer call).1.sessions.find? sessionId = some stored') :
    ∃ stored, self.sessions.find? sessionId = some stored ∧
      (stored' = stored ∨ ∃ stage events, call = .session sessionId stage ∧
        stage.Does setup answer sessionId stored stored' events) := by
  rcases GuiService.turn_does setup self index answer call with
    hs | ⟨ttl, made, rfl, hmade, hs⟩ | ⟨other, stage, stored, after, events, rfl, hfound, hdoes, hs⟩ |
      hs <;> rw [hs] at h
  · exact ⟨stored', h, .inl rfl⟩
  · have hne : made.id ≠ sessionId := by
      rintro rfl
      rw [GuiService.id_of_proposeSession hmade] at hcreated
      exact hnew hcreated
    rw [Table.find?_upsert, if_neg hne] at h
    exact ⟨stored', h, .inl rfl⟩
  · rw [find?_onSession hfound hdoes.id_eq sessionId] at h
    split at h
    · next heq =>
      subst heq
      cases h
      exact ⟨stored, hfound, .inr ⟨stage, _, rfl, hdoes⟩⟩
    · exact ⟨stored', h, .inl rfl⟩
  · obtain ⟨hmem, hkey⟩ := Table.find?_eq_some_iff.mp h
    exact ⟨stored', Table.find?_eq_some_iff.mpr ⟨(List.mem_filter.mp hmem).1, hkey⟩, .inl rfl⟩

theorem Registered.turn (h : Registered self) (index : Nat) (call : GuiCall) :
    Registered (GuiService.turn setup self index answer call).1 := by
  intro sessionId stored hstored
  rcases find?_turn_cases hstored with ⟨old, hold⟩ | ⟨ttl, -, -, hcreated⟩
  · exact mem_history_turn (h sessionId old hold) index call
  · exact hcreated

/-- A session that has been made and is not there any more. -/
def Gone (sessionId : String) (self : GuiService) : Prop :=
  .created sessionId ∈ self.history ∧ self.sessions.find? sessionId = none

theorem Gone.turn (h : Gone sessionId self) {index : Nat} {call : GuiCall}
    (hnew : NewIds self index answer call) :
    Gone sessionId (GuiService.turn setup self index answer call).1 := by
  refine ⟨mem_history_turn h.1 index call, ?_⟩
  by_contra hsome
  obtain ⟨stored, hstored⟩ := Option.ne_none_iff_exists'.mp hsome
  rcases find?_turn_cases hstored with ⟨old, hold⟩ | ⟨ttl, rfl, rfl, -⟩
  · rw [h.2] at hold
    cases hold
  · exact hnew h.1

/-- What turns keep, moves keep. -/
theorem step_keeps {P : GuiService → Prop} {condition : GuiService → Nat → GuiAnswer → GuiCall → Prop}
    (hturn : ∀ self index answer call, P self → condition self index answer call →
      P (GuiService.turn setup self index answer call).1)
    (s : GuiSystem) (m : CallMove GuiRequest GuiAnswer) (h : P s.shared)
    (hcondition : CallSystem.OnTurn condition s m) : P ((guiCalls setup).step s m).shared := by
  rcases (guiCalls setup).step_cases s m with
    ⟨request, rfl, hs⟩ | ⟨index, answer, rfl, ⟨-, hs⟩ | ⟨call, hcall, hs⟩⟩ <;> rw [hs]
  · exact h
  · exact h
  · exact hturn s.shared index answer call h (hcondition call hcall)

/-- **One move** keeps final states exactly when it spares them. -/
theorem keepsFinal_step_iff {s : GuiSystem} (hreg : Registered s.shared)
    {m : CallMove GuiRequest GuiAnswer} (hnew : CallSystem.OnTurn NewIds s m) :
    KeepsFinal s.shared ((guiCalls setup).step s m).shared ↔
      CallSystem.OnTurn (SparesFinal setup) s m := by
  rcases (guiCalls setup).step_cases s m with
    ⟨request, rfl, hs⟩ | ⟨index, answer, rfl, ⟨hnone, hs⟩ | ⟨call, hcall, hs⟩⟩ <;> rw [hs]
  · exact ⟨fun _ => trivial, fun _ => KeepsFinal.refl s.shared⟩
  · refine ⟨fun _ call hcall => ?_, fun _ => KeepsFinal.refl s.shared⟩
    rw [hnone] at hcall
    cases hcall
  · have hiff : KeepsFinal s.shared ((guiCalls setup).turn s.shared index answer call).1 ↔
        SparesFinal setup s.shared index answer call := keepsFinal_turn_iff hreg (hnew call hcall)
    refine ⟨fun hkeeps call' hcall' => ?_, fun hspares => hiff.mpr (hspares call hcall)⟩
    rw [hcall] at hcall'
    cases hcall'
    exact hiff.mp hkeeps

/-- A session that is gone does not come back, so what is kept twice is kept. -/
theorem KeepsFinal.trans {a b c : GuiService} (hreg : Registered a)
    (hhistory : ∀ e ∈ a.history, e ∈ b.history)
    (hgone : ∀ sessionId, Gone sessionId b → Gone sessionId c) (hab : KeepsFinal a b)
    (hbc : KeepsFinal b c) : KeepsFinal a c := by
  intro sessionId stored stored'' hstored hfinal hstored''
  cases hb : b.sessions.find? sessionId with
  | none =>
    have hlost := hgone sessionId ⟨hhistory _ (hreg sessionId stored hstored), hb⟩
    rw [hlost.2] at hstored''
    cases hstored''
  | some stored' =>
    have hsame := hab sessionId stored stored' hstored hfinal hb
    exact (hbc sessionId stored' stored'' hb (hsame ▸ hfinal) hstored'').trans hsame

/-- By induction on the run; each state is compared with all later ones. -/
theorem pairwise_keepsFinal_iff {s : GuiSystem} (hreg : Registered s.shared)
    {moves : List (CallMove GuiRequest GuiAnswer)}
    (hnew : Along (guiCalls setup).step (CallSystem.OnTurn NewIds) s moves) :
    (states (guiCalls setup).step s moves).Pairwise
        (fun earlier later => KeepsFinal earlier.shared later.shared) ↔
      Along (guiCalls setup).step (CallSystem.OnTurn (SparesFinal setup)) s moves := by
  induction moves generalizing s with
  | nil => exact ⟨fun _ => trivial, fun _ => List.pairwise_singleton _ _⟩
  | cons m ms ih =>
    obtain ⟨hm, hms⟩ := hnew
    have hregNext : Registered ((guiCalls setup).step s m).shared :=
      step_keeps (P := Registered) (fun self index answer call h _ => h.turn index call) s m hreg hm
    have hiff : KeepsFinal s.shared ((guiCalls setup).step s m).shared ↔
        CallSystem.OnTurn (SparesFinal setup) s m := keepsFinal_step_iff hreg hm
    rw [states, List.pairwise_cons, ih hregNext hms, Along]
    refine and_congr_left fun hrest => ⟨fun hall => ?_, fun hspares => ?_⟩
    · exact hiff.mp (hall _ (mem_states_self _ ms))
    · have hhistory : ∀ e ∈ s.shared.history, e ∈ ((guiCalls setup).step s m).shared.history :=
        fun e he => step_keeps (P := fun self => e ∈ self.history)
          (fun self index answer call h _ => mem_history_turn h index call) s m he hm
      intro s' hs'
      have hgone : ∀ sessionId, Gone sessionId ((guiCalls setup).step s m).shared →
          Gone sessionId s'.shared := fun sessionId hlost =>
        states_invariant (step_keeps fun self index answer call h hnew => h.turn hnew) hlost hms s' hs'
      have hlater : KeepsFinal ((guiCalls setup).step s m).shared s'.shared :=
        states_head_of_pairwise (R := fun earlier later => KeepsFinal earlier.shared later.shared)
          (fun s => KeepsFinal.refl s.shared) ((ih hregNext hms).mpr hrest) s' hs'
      exact KeepsFinal.trans hreg hhistory hgone (hiff.mpr hspares) hlater

/-! ## The result -/

/-- **Final states are final** in a run exactly when every turn of it spares the sessions in them. -/
theorem final_iff {moves : List (CallMove GuiRequest GuiAnswer)}
    (hnew : Along (guiCalls setup).step (CallSystem.OnTurn NewIds) GuiSystem.start moves) :
    Final setup moves ↔
      Along (guiCalls setup).step (CallSystem.OnTurn (SparesFinal setup)) GuiSystem.start moves := by
  refine pairwise_keepsFinal_iff ?_ hnew
  intro sessionId stored hstored
  cases hstored

/-- A session is proposed and its action confirmed. -/
def openedAndConfirmed : List (CallMove GuiRequest GuiAnswer) :=
  [.request (.createSession none), .turn 0 (exampleAnswer 0 "0"),
    .request (.confirmCandidate "session0" "token" exampleConfirm),
    .turn 1 (exampleAnswer 1 "1"), .turn 1 (exampleAnswer 1 "1"), .turn 1 (exampleAnswer 1 "1")]

/-- A session from its proposal to its execution; later it is cancelled, after all. -/
def executedAndCancelled : List (CallMove GuiRequest GuiAnswer) :=
  openedAndConfirmed ++ [
    .request (.completeExecution "session0" true none 1 1), .turn 2 (exampleAnswer 2 "2"),
    .request (.cancelSession "session0" "token"),
    .turn 3 (exampleAnswer 3 "3"), .turn 3 (exampleAnswer 3 "3")]

theorem final_iff_executedAndCancelled :
    Final exampleSetup executedAndCancelled ↔
      Along (guiCalls exampleSetup).step (CallSystem.OnTurn (SparesFinal exampleSetup))
        GuiSystem.start executedAndCancelled :=
  final_iff (by decide +kernel)

/-- A session is cancelled; a highlight of it makes it a live one again. -/
def highlightedAfterCancel : List (CallMove GuiRequest GuiAnswer) :=
  [.request (.createSession none), .turn 0 (exampleAnswer 0 "0"),
    .request (.cancelSession "session0" "token"),
    .turn 1 (exampleAnswer 1 "1"), .turn 1 (exampleAnswer 1 "1"),
    .request (.highlightSession "session0" "token" none),
    .turn 2 (exampleAnswer 2 "2"), .turn 2 (exampleAnswer 2 "2"), .turn 2 (exampleAnswer 2 "2")]

/-- The state of a session. -/
def GuiService.stateOf (self : GuiService) (sessionId : String) : Option GuiSessionState :=
  (self.sessions.find? sessionId).map (·.session.state)

/-- After five moves the session is cancelled, after nine it is highlighted. -/
theorem cancelled_session_highlighted :
    ¬ ∀ (setup : GuiSetup) (moves : List (CallMove GuiRequest GuiAnswer)),
      Along (guiCalls setup).step (CallSystem.OnTurn NewIds) GuiSystem.start moves →
        Final setup moves := by
  intro hall
  have hfinal := hall exampleSetup highlightedAfterCancel (by decide +kernel)
  have hcancelled : (((states (guiCalls exampleSetup).step GuiSystem.start
      highlightedAfterCancel)[5]?).bind (·.shared.stateOf "session0")) = some .cancelled := by
    decide +kernel
  have hhighlighted : (((states (guiCalls exampleSetup).step GuiSystem.start
      highlightedAfterCancel)[9]?).bind (·.shared.stateOf "session0")) = some .highlighted := by
    decide +kernel
  obtain ⟨s, hs, hstate⟩ := Option.bind_eq_some_iff.mp hcancelled
  obtain ⟨s', hs', hstate'⟩ := Option.bind_eq_some_iff.mp hhighlighted
  obtain ⟨stored, hstored, hc⟩ := Option.map_eq_some_iff.mp hstate
  obtain ⟨stored', hstored', hh⟩ := Option.map_eq_some_iff.mp hstate'
  obtain ⟨h5, rfl⟩ := List.getElem?_eq_some_iff.mp hs
  obtain ⟨h9, rfl⟩ := List.getElem?_eq_some_iff.mp hs'
  have hkeeps := List.pairwise_iff_getElem.mp hfinal 5 9 h5 h9 (by decide)
  have hsame := hkeeps "session0" stored stored' hstored (by rw [hc]; rfl) hstored'
  rw [hc, hh] at hsame
  cases hsame

end Oneshim.Gui
