/-
  The session coordinator (`oneshim-network/src/integration/session_coordinator.rs`).

  One coordinator holds the session of the device, in memory behind a lock and, when it has a store,
  in the registry of the store.  Its calls await the transport and the store, take the lock again
  after each await, and decide then what to change.  A late answer to a request for an old session
  therefore meets the session that is current by then.

  1. **Code** — `SessionCall` is where a call stands, and `IntegrationSessionCoordinator.turn` what
     it does up to its next await or lock.

  2. **The system** — the coordinator and its calls in flight.  Calls start at any time and take
     their turns in any order, with any answers; a call may be dropped.

  3. **The result** — `heartbeat` and `store_ack_cursor` compare the id under the lock, so only
     their store write can meet another session; `disconnect` compares it and then forgets the
     session whatever its id is.  Where neither happens, a call that names another session than the
     current one changes nothing (`addressed_calls_keep_other_sessions`).
-/
import Oneshim.Integration.StateStore

namespace Oneshim.Integration

/-! ## The code -/

/-- `IntegrationSessionRuntimeProfile`, without what only goes into the request. -/
structure IntegrationSessionRuntimeProfile where
  preferredTransports : List IntegrationTransportKind
  supportedAuthSchemes : List IntegrationAuthScheme

/-- `IntegrationSessionRuntimeProfile::default`. -/
def IntegrationSessionRuntimeProfile.default : IntegrationSessionRuntimeProfile :=
  ⟨[.webSocket, .httpsSse, .httpsLongPoll], [.dpopBearer, .bearerToken]⟩

/-- `IntegrationTransportConnectResponse`. -/
structure IntegrationTransportConnectResponse where
  sessionId : String
  connectedAt : DateTime
  grantedScopes : List IntegrationCapabilityScope
  transportKind : IntegrationTransportKind
  authScheme : IntegrationAuthScheme

/-- `IntegrationSessionCoordinator`; its transport is in the answers of each turn. -/
structure IntegrationSessionCoordinator where
  deviceId : String
  profile : IntegrationSessionRuntimeProfile
  sessionStore : Option FileIntegrationStateInner
  state : Option IntegrationSessionState

/-- Where a call stands: what it does at its next turn.  `connect` and `current_session` share
    `load_persisted_state`, with the scopes of the first; a heartbeat that `connect` makes has the
    scopes to go on with when it fails. -/
inductive SessionCall where
  /-- The read of the lock in `load_persisted_state`. -/
  | reading (scopes : Option (List IntegrationCapabilityScope))
  | loading (scopes : Option (List IntegrationCapabilityScope))
  /-- The write lock of `load_persisted_state`. -/
  | keeping (scopes : Option (List IntegrationCapabilityScope)) (loaded : IntegrationSessionState)
  /-- The lock under which `connect` writes `Connecting`. -/
  | opening (scopes : List IntegrationCapabilityScope)
  | dialing (scopes : List IntegrationCapabilityScope)
  /-- The lock of `set_failed_state`. -/
  | failing (scopes : List IntegrationCapabilityScope) (error : CoreError)
  | storingFailed (state : IntegrationSessionState) (error : CoreError)
  /-- The lock under which `connect` writes `Connected`. -/
  | installing (state : IntegrationSessionState)
  | storingConnected (state : IntegrationSessionState)
  | heartbeat (sessionId : String) (resume : Option (List IntegrationCapabilityScope))
  /-- The lock after a heartbeat that failed. -/
  | degrading (sessionId : String) (error : CoreError)
      (resume : Option (List IntegrationCapabilityScope))
  /-- The lock after a heartbeat that was answered. -/
  | beating (sessionId : String) (heartbeatAt : DateTime)
      (resume : Option (List IntegrationCapabilityScope))
  | storingBeat (sessionId : String) (updated : IntegrationSessionState)
      (resume : Option (List IntegrationCapabilityScope))
  | storeAckCursor (sessionId : String) (cursor : IntegrationAckCursor)
  | storingCursor (sessionId : String) (updated : IntegrationSessionState)
  | disconnect (sessionId : String)
  /-- The lock of `disconnect`. -/
  | dropping (sessionId : String)
  | clearing (sessionId : String)
  | returned (result : Except CoreError (Option IntegrationSessionState))

/-- The answers a call may get at a turn. -/
structure SessionAnswers where
  /-- How the thread that loads the session ends. -/
  load : Except CoreError Unit
  connect : Except CoreError IntegrationTransportConnectResponse
  heartbeat : Except CoreError DateTime
  disconnect : Except CoreError Unit
  disk : Except StorageError Unit

/-- `scopes_satisfied`. -/
def scopesSatisfied (state : IntegrationSessionState)
    (requestedScopes : List IntegrationCapabilityScope) : Bool :=
  requestedScopes.all fun scope => state.grantedScopes.contains scope

/-- The error of a call that names a session that is not there. -/
def sessionNotFound (sessionId : String) : CoreError := .notFound "integration_session" sessionId

/-- The update of `ack_cursors` in `store_ack_cursor`. -/
def putAckCursor (cursor : IntegrationAckCursor) : List IntegrationAckCursor →
    List IntegrationAckCursor
  | [] => [cursor]
  | existing :: cursors =>
    if existing.streamId = cursor.streamId then cursor :: cursors
    else existing :: putAckCursor cursor cursors

namespace SessionCall

/-- `connect` with the session that is there. -/
def reuse (scopes : List IntegrationCapabilityScope) (existing : IntegrationSessionState) :
    SessionCall :=
  if scopesSatisfied existing scopes then
    match existing.status with
    | .connected => .returned (.ok (some existing))
    | .degraded =>
      if !existing.sessionId.isEmpty then .heartbeat existing.sessionId (some scopes)
      else .opening scopes
    | _ => .opening scopes
  else .opening scopes

/-- After `load_persisted_state`. -/
def loaded : Option (List IntegrationCapabilityScope) → Option IntegrationSessionState → SessionCall
  | none, existing => .returned (.ok existing)
  | some scopes, some existing => reuse scopes existing
  | some scopes, none => .opening scopes

/-- A heartbeat that fails: `connect` goes on to open a session. -/
def heartbeatFailed (error : CoreError) : Option (List IntegrationCapabilityScope) → SessionCall
  | none => .returned (.error error)
  | some scopes => .opening scopes

/-- The result of a heartbeat after its store write. -/
def heartbeatStored (updated : IntegrationSessionState)
    (resume : Option (List IntegrationCapabilityScope)) : Except CoreError Unit → SessionCall
  | .ok () => .returned (.ok (some updated))
  | .error error => heartbeatFailed error resume

end SessionCall

namespace IntegrationSessionCoordinator

/-- `persist_state`. -/
def persistState (self : IntegrationSessionCoordinator) (disk : Except StorageError Unit)
    (state : IntegrationSessionState) : Except CoreError Unit × IntegrationSessionCoordinator :=
  match self.sessionStore with
  | none => (.ok (), self)
  | some store =>
    let (stored, store) := store.storeSessionSync disk state
    (stored.mapError StorageError.toCore, { self with sessionStore := some store })

/-- `clear_persisted_state`. -/
def clearPersistedState (self : IntegrationSessionCoordinator) (disk : Except StorageError Unit) :
    Except CoreError Unit × IntegrationSessionCoordinator :=
  match self.sessionStore with
  | none => (.ok (), self)
  | some store =>
    let (cleared, store) := store.clearSessionSync disk
    (cleared.mapError StorageError.toCore, { self with sessionStore := some store })

/-- The state that `connect` writes first. -/
def connectingState (self : IntegrationSessionCoordinator)
    (scopes : List IntegrationCapabilityScope) : IntegrationSessionState where
  sessionId := ""
  deviceId := self.deviceId
  status := .connecting
  transportKind := self.profile.preferredTransports.head?.getD .webSocket
  authScheme := self.profile.supportedAuthSchemes.getLast?.getD .bearerToken
  connectedAt := none
  lastHeartbeatAt := none
  requestedScopes := scopes
  grantedScopes := []
  ackCursors := []

/-- The state of `set_failed_state`. -/
def failedState (self : IntegrationSessionCoordinator)
    (scopes : List IntegrationCapabilityScope) : IntegrationSessionState where
  sessionId := ""
  deviceId := self.deviceId
  status := .failed
  transportKind := .webSocket
  authScheme := .bearerToken
  connectedAt := none
  lastHeartbeatAt := none
  requestedScopes := scopes
  grantedScopes := []
  ackCursors := []

/-- The state that `connect` makes of the response. -/
def connectedState (self : IntegrationSessionCoordinator)
    (scopes : List IntegrationCapabilityScope) (response : IntegrationTransportConnectResponse) :
    IntegrationSessionState where
  sessionId := response.sessionId
  deviceId := self.deviceId
  status := .connected
  transportKind := response.transportKind
  authScheme := response.authScheme
  connectedAt := some response.connectedAt
  lastHeartbeatAt := some response.connectedAt
  requestedScopes := scopes
  grantedScopes := response.grantedScopes
  ackCursors := []

/-- What the call does at its turn, and where it stands then. -/
def turn (self : IntegrationSessionCoordinator) (answers : SessionAnswers) :
    SessionCall → IntegrationSessionCoordinator × SessionCall
  -- `load_persisted_state`
  | .reading scopes =>
    match self.state, self.sessionStore with
    | some existing, _ => (self, .loaded scopes (some existing))
    | none, none => (self, .loaded scopes none)
    | none, some _ => (self, .loading scopes)
  | .loading scopes =>
    match answers.load, self.sessionStore.bind (·.loadSessionSync) with
    | .error error, _ => (self, .returned (.error error))
    | .ok (), some state => (self, .keeping scopes state)
    | .ok (), none => (self, .loaded scopes none)
  | .keeping scopes state =>
    -- another call may have set the session meanwhile; what was loaded is returned all the same
    (match self.state with
      | none => { self with state := some state }
      | some _ => self, .loaded scopes (some state))
  -- `connect`
  | .opening scopes => ({ self with state := some (self.connectingState scopes) }, .dialing scopes)
  | .dialing scopes =>
    match answers.connect with
    | .ok response => (self, .installing (self.connectedState scopes response))
    | .error error => (self, .failing scopes error)
  | .failing scopes error =>
    ({ self with state := some (self.failedState scopes) },
      .storingFailed (self.failedState scopes) error)
  | .storingFailed state error =>
    -- an error of this store write is only logged
    ((self.persistState answers.disk state).2, .returned (.error error))
  | .installing state => ({ self with state := some state }, .storingConnected state)
  | .storingConnected state =>
    let (stored, self) := self.persistState answers.disk state
    (self, .returned (stored.map fun () => some state))
  -- `heartbeat`
  | .heartbeat sessionId resume =>
    match answers.heartbeat with
    | .ok heartbeatAt => (self, .beating sessionId heartbeatAt resume)
    | .error error => (self, .degrading sessionId error resume)
  | .degrading sessionId error resume =>
    (match self.state with
      | some state =>
        if state.sessionId = sessionId then
          { self with state := some { state with status := .degraded } }
        else self
      | none => self, .heartbeatFailed error resume)
  | .beating sessionId heartbeatAt resume =>
    match self.state with
    | none => (self, .heartbeatFailed (sessionNotFound sessionId) resume)
    | some state =>
      if state.sessionId ≠ sessionId then
        (self, .heartbeatFailed (sessionNotFound sessionId) resume)
      else
        let updated := { state with status := .connected, lastHeartbeatAt := some heartbeatAt }
        ({ self with state := some updated }, .storingBeat sessionId updated resume)
  | .storingBeat _ updated resume =>
    let (stored, self) := self.persistState answers.disk updated
    (self, .heartbeatStored updated resume stored)
  -- `store_ack_cursor`
  | .storeAckCursor sessionId cursor =>
    match self.state with
    | none => (self, .returned (.error (sessionNotFound sessionId)))
    | some state =>
      if state.sessionId ≠ sessionId then
        (self, .returned (.error (sessionNotFound sessionId)))
      else
        let updated := { state with ackCursors := putAckCursor cursor state.ackCursors }
        ({ self with state := some updated }, .storingCursor sessionId updated)
  | .storingCursor _ updated =>
    let (stored, self) := self.persistState answers.disk updated
    (self, .returned (stored.map fun () => some updated))
  -- `disconnect`
  | .disconnect sessionId =>
    match answers.disconnect with
    | .ok () => (self, .dropping sessionId)
    | .error error => (self, .returned (.error error))
  | .dropping sessionId =>
    -- a session with this id is first marked `Disconnected`; then any session is dropped
    ({ self with state := none }, .clearing sessionId)
  | .clearing _ =>
    let (cleared, self) := self.clearPersistedState answers.disk
    (self, .returned (cleared.map fun () => none))
  | .returned result => (self, .returned result)

end IntegrationSessionCoordinator

/-! ## The system -/

/-- A call as its caller makes it. -/
inductive SessionRequest where
  | connect (requestedScopes : List IntegrationCapabilityScope)
  | currentSession
  | heartbeat (sessionId : String)
  | storeAckCursor (sessionId : String) (cursor : IntegrationAckCursor)
  | disconnect (sessionId : String)

/-- Where a new call stands. -/
def SessionRequest.call : SessionRequest → SessionCall
  | .connect requestedScopes => .reading (some requestedScopes)
  | .currentSession => .reading none
  | .heartbeat sessionId => .heartbeat sessionId none
  | .storeAckCursor sessionId cursor => .storeAckCursor sessionId cursor
  | .disconnect sessionId => .disconnect sessionId

/-- The coordinator and its calls, those that have returned included. -/
structure SessionSystem where
  coordinator : IntegrationSessionCoordinator
  calls : List SessionCall

/-- What can happen next. -/
inductive SessionEvent where
  | request (request : SessionRequest)
  | turn (i : Nat) (answers : SessionAnswers)
  /-- The caller drops the call. -/
  | cancel (i : Nat)

/-- `new_with_profile_and_store`, before any call. -/
def SessionSystem.start (deviceId : String) (profile : IntegrationSessionRuntimeProfile)
    (sessionStore : Option FileIntegrationStateInner) : SessionSystem :=
  ⟨⟨deviceId, profile, sessionStore, none⟩, []⟩

namespace SessionSystem

/-- One event. -/
def step (self : SessionSystem) : SessionEvent → SessionSystem
  | .request request => { self with calls := self.calls ++ [request.call] }
  | .turn i answers =>
    match self.calls[i]? with
    | none => self
    | some call =>
      let (coordinator, call) := self.coordinator.turn answers call
      ⟨coordinator, self.calls.set i call⟩
  | .cancel i => { self with calls := self.calls.eraseIdx i }

/-- A run. -/
def run (self : SessionSystem) (events : List SessionEvent) : SessionSystem := events.foldl step self

end SessionSystem

/-! ## Calls that name a session -/

/-- The session that is current: the one in memory, and before it is loaded the one in the store. -/
def IntegrationSessionCoordinator.current (self : IntegrationSessionCoordinator) :
    Option IntegrationSessionState :=
  self.state.or (self.sessionStore.bind (·.loadSessionSync))

/-- There is a session, and it is not the one named. -/
def isOther (session : Option IntegrationSessionState) (sessionId : String) : Bool :=
  session.any fun session => session.sessionId != sessionId

namespace SessionCall

/-- The session named by a `heartbeat`, `store_ack_cursor` or `disconnect` that has not changed
    memory. -/
def addressee : SessionCall → Option String
  | .heartbeat sessionId _ => some sessionId
  | .degrading sessionId _ _ => some sessionId
  | .beating sessionId _ _ => some sessionId
  | .storeAckCursor sessionId _ => some sessionId
  | .disconnect sessionId => some sessionId
  | .dropping sessionId => some sessionId
  | _ => none

/-- The session named by a call that has changed memory and has its store write ahead. -/
def pending : SessionCall → Option String
  | .storingBeat sessionId _ _ => some sessionId
  | .storingCursor sessionId _ => some sessionId
  | .clearing sessionId => some sessionId
  | _ => none

/-- The call names another session than the current one.  Once it has changed memory, memory alone
    says which session is current: what a `disconnect` has left in the store is its own. -/
def namesOther (coordinator : IntegrationSessionCoordinator) (call : SessionCall) : Bool :=
  call.addressee.any (isOther coordinator.current) || call.pending.any (isOther coordinator.state)

/-- The id of the session that the call puts into memory at its turn. -/
def installs (coordinator : IntegrationSessionCoordinator) : SessionCall → Option String
  | .keeping _ loaded => if coordinator.state.isNone then some loaded.sessionId else none
  | .opening _ => some ""
  | .failing _ _ => some ""
  | .installing state => some state.sessionId
  | _ => none

end SessionCall

namespace SessionSystem

/-- The turn of a call that names another session than the current one leaves memory and store as
    they are. -/
def SparesOthers (s : SessionSystem) : SessionEvent → Prop
  | .turn i answers => ∀ call, s.calls[i]? = some call → call.namesOther s.coordinator →
      (s.step (.turn i answers)).coordinator = s.coordinator
  | _ => True

/-- A `disconnect` at its lock does not name another session than the current one, and no session
    is put into memory while a call that names another one has its store write ahead. -/
def orderly (s : SessionSystem) : SessionEvent → Bool
  | .turn i _ =>
    match s.calls[i]? with
    | none => true
    | some (.dropping sessionId) => !isOther s.coordinator.current sessionId
    | some call =>
      (call.installs s.coordinator).all fun installed =>
        s.calls.all fun other => other.pending.all fun sessionId => sessionId == installed
  | _ => true

/-- All events of a run. -/
def orderlyAll : SessionSystem → List SessionEvent → Bool
  | _, [] => true
  | s, event :: events => s.orderly event && orderlyAll (s.step event) events

end SessionSystem

/-! ## What a turn can do -/

theorem isOther_some {session : IntegrationSessionState} {sessionId : String} :
    isOther (some session) sessionId = true ↔ session.sessionId ≠ sessionId := by
  unfold isOther
  rw [Option.any_some, bne_iff_ne]

/-- Everything a turn can do, as far as the session goes. -/
inductive SessionCall.Effect (coordinator : IntegrationSessionCoordinator) (call : SessionCall) :
    IntegrationSessionCoordinator → SessionCall → Prop
  | nothing {next : SessionCall} (idle : next.pending = none) : Effect coordinator call coordinator next
  /-- A store write. -/
  | stores {after : IntegrationSessionCoordinator} {next : SessionCall}
      (unaddressed : call.addressee = none) (memory : after.state = coordinator.state)
      (idle : next.pending = none) : Effect coordinator call after next
  | installs {next : SessionCall} (session : IntegrationSessionState)
      (unaddressed : call.addressee = none)
      (installed : call.installs coordinator = some session.sessionId) (idle : next.pending = none) :
      Effect coordinator call { coordinator with state := some session } next
  /-- A `heartbeat` or `store_ack_cursor` changes the session it names. -/
  | updates {next : SessionCall} (session updated : IntegrationSessionState)
      (addressed : call.addressee = some session.sessionId)
      (memory : coordinator.state = some session) (same : updated.sessionId = session.sessionId)
      (names : ∀ sessionId ∈ next.pending, sessionId = session.sessionId) :
      Effect coordinator call { coordinator with state := some updated } next
  | drops (sessionId : String) (dropping : call = .dropping sessionId) :
      Effect coordinator call { coordinator with state := none } (.clearing sessionId)

namespace SessionCall

@[simp] theorem pending_reuse (scopes : List IntegrationCapabilityScope)
    (existing : IntegrationSessionState) : (reuse scopes existing).pending = none := by
  unfold reuse
  split
  · split
    · rfl
    · split
      · rfl
      · rfl
    · rfl
  · rfl

@[simp] theorem pending_loaded (scopes : Option (List IntegrationCapabilityScope))
    (existing : Option IntegrationSessionState) : (loaded scopes existing).pending = none := by
  cases scopes with
  | none => rfl
  | some scopes =>
    cases existing with
    | none => rfl
    | some existing => exact pending_reuse scopes existing

@[simp] theorem pending_heartbeatFailed (error : CoreError)
    (resume : Option (List IntegrationCapabilityScope)) :
    (heartbeatFailed error resume).pending = none := by
  cases resume with
  | none => rfl
  | some scopes => rfl

@[simp] theorem pending_heartbeatStored (updated : IntegrationSessionState)
    (resume : Option (List IntegrationCapabilityScope)) (stored : Except CoreError Unit) :
    (heartbeatStored updated resume stored).pending = none := by
  cases stored with
  | ok => rfl
  | error error => exact pending_heartbeatFailed error resume

end SessionCall

namespace IntegrationSessionCoordinator

variable (self : IntegrationSessionCoordinator)

@[simp] theorem state_persistState (disk : Except StorageError Unit)
    (state : IntegrationSessionState) : (self.persistState disk state).2.state = self.state := by
  unfold persistState
  split
  · rfl
  · rfl

@[simp] theorem state_clearPersistedState (disk : Except StorageError Unit) :
    (self.clearPersistedState disk).2.state = self.state := by
  unfold clearPersistedState
  split
  · rfl
  · rfl

/-- One turn, of any call. -/
theorem turn_effect (answers : SessionAnswers) (call : SessionCall) :
    call.Effect self (self.turn answers call).1 (self.turn answers call).2 := by
  cases call with
  | reading scopes =>
    simp only [turn]
    split
    · exact .nothing (SessionCall.pending_loaded _ _)
    · exact .nothing (SessionCall.pending_loaded _ _)
    · exact .nothing rfl
  | loading scopes =>
    simp only [turn]
    split
    · exact .nothing rfl
    · exact .nothing rfl
    · exact .nothing (SessionCall.pending_loaded _ _)
  | keeping scopes state =>
    simp only [turn]
    split
    · next hstate =>
      refine .installs state rfl ?_ (SessionCall.pending_loaded _ _)
      simp [SessionCall.installs, hstate]
    · exact .nothing (SessionCall.pending_loaded _ _)
  | opening scopes => exact .installs _ rfl rfl rfl
  | dialing scopes =>
    simp only [turn]
    split
    · exact .nothing rfl
    · exact .nothing rfl
  | failing scopes error => exact .installs _ rfl rfl rfl
  | storingFailed state error => exact .stores rfl (self.state_persistState _ _) rfl
  | installing state => exact .installs state rfl rfl rfl
  | storingConnected state => exact .stores rfl (self.state_persistState _ _) rfl
  | heartbeat sessionId resume =>
    simp only [turn]
    split
    · exact .nothing rfl
    · exact .nothing rfl
  | degrading sessionId error resume =>
    simp only [turn]
    split
    · next session hstate =>
      split
      · next hid =>
        refine .updates session _ (congrArg some hid.symm) hstate rfl ?_
        simp
      · exact .nothing (SessionCall.pending_heartbeatFailed _ _)
    · exact .nothing (SessionCall.pending_heartbeatFailed _ _)
  | beating sessionId heartbeatAt resume =>
    simp only [turn]
    split
    · exact .nothing (SessionCall.pending_heartbeatFailed _ _)
    · next session hstate =>
      split
      · exact .nothing (SessionCall.pending_heartbeatFailed _ _)
      · next hid =>
        have hid := not_not.mp hid
        refine .updates session _ (congrArg some hid.symm) hstate rfl ?_
        intro named hnamed
        exact (Option.some.inj hnamed).symm.trans hid.symm
  | storingBeat sessionId updated resume =>
    exact .stores rfl (self.state_persistState _ _) (SessionCall.pending_heartbeatStored _ _ _)
  | storeAckCursor sessionId cursor =>
    simp only [turn]
    split
    · exact .nothing rfl
    · next session hstate =>
      split
      · exact .nothing rfl
      · next hid =>
        have hid := not_not.mp hid
        refine .updates session _ (congrArg some hid.symm) hstate rfl ?_
        intro named hnamed
        exact (Option.some.inj hnamed).symm.trans hid.symm
  | storingCursor sessionId updated => exact .stores rfl (self.state_persistState _ _) rfl
  | disconnect sessionId =>
    simp only [turn]
    split
    · exact .nothing rfl
    · exact .nothing rfl
  | dropping sessionId => exact .drops sessionId rfl
  | clearing sessionId => exact .stores rfl (self.state_clearPersistedState _) rfl
  | returned result => exact .nothing rfl

end IntegrationSessionCoordinator

/-! ## Runs -/

namespace SessionSystem

/-- A call with its store write ahead names the session in memory, if there is one. -/
def Addressed (s : SessionSystem) : Prop :=
  ∀ call ∈ s.calls, ∀ sessionId ∈ call.pending, ∀ session ∈ s.coordinator.state,
    session.sessionId = sessionId

theorem addressed_start (deviceId : String) (profile : IntegrationSessionRuntimeProfile)
    (sessionStore : Option FileIntegrationStateInner) :
    (start deviceId profile sessionStore).Addressed :=
  fun _ hmem => absurd hmem List.not_mem_nil

theorem pending_request (request : SessionRequest) : request.call.pending = none := by
  cases request with
  | connect requestedScopes => rfl
  | currentSession => rfl
  | heartbeat sessionId => rfl
  | storeAckCursor sessionId cursor => rfl
  | disconnect sessionId => rfl

variable {s : SessionSystem} {i : Nat} {answers : SessionAnswers} {call : SessionCall}

/-- A turn of the system is a turn of one call. -/
theorem step_effect (answers : SessionAnswers) (hcall : s.calls[i]? = some call) :
    ∃ after next, s.step (.turn i answers) = ⟨after, s.calls.set i next⟩ ∧
      call.Effect s.coordinator after next := by
  refine ⟨_, _, ?_, s.coordinator.turn_effect answers call⟩
  simp only [step, hcall]

/-- No session is put into memory while a call that names another one has its store write ahead. -/
theorem orderly_installs {installed : String} (hcall : s.calls[i]? = some call)
    (h : s.orderly (.turn i answers) = true)
    (hinstalled : call.installs s.coordinator = some installed) :
    ∀ other ∈ s.calls, ∀ sessionId ∈ other.pending, sessionId = installed := by
  simp only [orderly, hcall] at h
  split at h
  · next hdropping => nomatch hdropping
  · next hdropping =>
    cases hdropping
    nomatch hinstalled
  · next hothers =>
    cases hothers
    rw [hinstalled, Option.all_some, List.all_eq_true] at h
    intro other hmem sessionId hpending
    have hother := h other hmem
    rw [Option.mem_def.mp hpending, Option.all_some] at hother
    exact beq_iff_eq.mp hother

/-- A `disconnect` at its lock does not name another session. -/
theorem orderly_dropping {sessionId : String} (hcall : s.calls[i]? = some (.dropping sessionId))
    (h : s.orderly (.turn i answers) = true) : isOther s.coordinator.current sessionId = false := by
  simpa [orderly, hcall] using h

/-- A turn keeps the invariant. -/
theorem addressed_turn (hs : s.Addressed) (hcall : s.calls[i]? = some call)
    (horderly : s.orderly (.turn i answers) = true) :
    (s.step (.turn i answers)).Addressed := by
  obtain ⟨after, next, hstep, heffect⟩ := step_effect answers hcall
  rw [hstep]
  intro other hother sessionId hpending session hsession
  have hcases := List.mem_or_eq_of_mem_set hother
  cases heffect with
  | nothing hidle =>
    obtain hmem | rfl := hcases
    · exact hs other hmem sessionId hpending session hsession
    · rw [hidle] at hpending
      nomatch hpending
  | stores _ hmemory hidle =>
    obtain hmem | rfl := hcases
    · exact hs other hmem sessionId hpending session (hmemory ▸ hsession)
    · rw [hidle] at hpending
      nomatch hpending
  | installs installed _ hinstalled hidle =>
    obtain rfl : installed = session := Option.some.inj hsession
    obtain hmem | rfl := hcases
    · exact (orderly_installs hcall horderly hinstalled other hmem sessionId hpending).symm
    · rw [hidle] at hpending
      nomatch hpending
  | updates old updated _ hmemory hsame hnames =>
    obtain rfl : updated = session := Option.some.inj hsession
    obtain hmem | rfl := hcases
    · rw [hsame]
      exact hs other hmem sessionId hpending old hmemory
    · rw [hsame, hnames sessionId hpending]
  | drops named _ => nomatch hsession

/-- **Step.** Every orderly event keeps the invariant. -/
theorem addressed_step (hs : s.Addressed) (event : SessionEvent) (horderly : s.orderly event = true) :
    (s.step event).Addressed := by
  cases event with
  | request request =>
    intro call hmem sessionId hpending
    rcases List.mem_append.mp hmem with hmem | hmem
    · exact hs call hmem sessionId hpending
    · rw [List.mem_singleton.mp hmem, pending_request] at hpending
      nomatch hpending
  | turn i answers =>
    cases hcall : s.calls[i]? with
    | none =>
      simp only [step, hcall]
      exact hs
    | some call => exact addressed_turn hs hcall horderly
  | cancel i => exact fun call hmem => hs call (List.mem_of_mem_eraseIdx hmem)

/-- **One turn.** A call that names another session changes nothing. -/
theorem sparesOthers_of_addressed (hs : s.Addressed) (event : SessionEvent)
    (horderly : s.orderly event = true) : s.SparesOthers event := by
  cases event with
  | request request => trivial
  | cancel i => trivial
  | turn i answers =>
    intro call hcall hother
    rw [SessionCall.namesOther, Bool.or_eq_true] at hother
    -- past its change of memory, the call names the session in memory
    have hpending : call.pending.any (isOther s.coordinator.state) = false := by
      rw [Bool.eq_false_iff]
      intro hany
      obtain ⟨sessionId, hpending, hany⟩ := Option.any_eq_true _ _ |>.mp hany
      obtain ⟨session, hsession, hne⟩ := Option.any_eq_true _ _ |>.mp hany
      exact bne_iff_ne.mp hne
        (hs call (List.mem_of_getElem? hcall) sessionId hpending session hsession)
    rw [hpending] at hother
    have haddressed := hother.resolve_right Bool.false_ne_true
    obtain ⟨after, next, hstep, heffect⟩ := step_effect answers hcall
    rw [hstep]
    cases heffect with
    | nothing hidle => rfl
    | stores hunaddressed _ _ =>
      rw [hunaddressed] at haddressed
      nomatch haddressed
    | installs installed hunaddressed _ _ =>
      rw [hunaddressed] at haddressed
      nomatch haddressed
    | updates session updated hnamed hmemory _ _ =>
      -- the current session is the one in memory, which is the one named
      rw [hnamed, Option.any_some, IntegrationSessionCoordinator.current, hmemory, Option.some_or]
        at haddressed
      exact absurd rfl (isOther_some.mp haddressed)
    | drops sessionId hdropping =>
      subst hdropping
      have hnot := orderly_dropping hcall horderly
      rw [SessionCall.addressee, Option.any_some, hnot] at haddressed
      nomatch haddressed

theorem run_cons (s : SessionSystem) (event : SessionEvent) (events : List SessionEvent) :
    s.run (event :: events) = (s.step event).run events := rfl

/-- **Runs.** From a state with the invariant, every event of an orderly run spares the sessions
    that are not named. -/
theorem sparesOthers_of_orderlyAll {events : List SessionEvent} (hs : s.Addressed)
    (horderly : s.orderlyAll events = true) {before after : List SessionEvent}
    {event : SessionEvent} (hsplit : events = before ++ event :: after) :
    (s.run before).SparesOthers event := by
  -- along the events before it, with the invariant
  induction before generalizing s events with
  | nil =>
    subst hsplit
    exact sparesOthers_of_addressed hs event (Bool.and_eq_true_iff.mp horderly).1
  | cons first before ih =>
    subst hsplit
    obtain ⟨hfirst, hrest⟩ := Bool.and_eq_true_iff.mp horderly
    rw [run_cons]
    exact ih (addressed_step hs first hfirst) hrest rfl

end SessionSystem

/-! ## Calls that name a session touch no other -/

/-- **Another session is left alone.** Whatever the calls and their answers, in whatever order they
    take their turns: a turn of a `heartbeat`, `store_ack_cursor` or `disconnect` that names another
    session than the current one changes neither memory nor the store, in every run in which no
    `disconnect` at its lock names another session and no session is put into memory while a call
    that names another one is between its change in memory and its store write. -/
theorem addressed_calls_keep_other_sessions (deviceId : String)
    (profile : IntegrationSessionRuntimeProfile) (sessionStore : Option FileIntegrationStateInner)
    (events : List SessionEvent)
    (horderly : (SessionSystem.start deviceId profile sessionStore).orderlyAll events = true)
    (before : List SessionEvent) (event : SessionEvent) (after : List SessionEvent)
    (hsplit : events = before ++ event :: after) :
    ((SessionSystem.start deviceId profile sessionStore).run before).SparesOthers event :=
  SessionSystem.sparesOthers_of_orderlyAll (SessionSystem.addressed_start _ _ _) horderly hsplit

/-- A device with a file store in which nothing is stored. -/
def sampleSystem : SessionSystem :=
  .start "device-1" .default (some (.opened .default none))

/-- Answers without an error; the transport gives the session `session-1`. -/
def sampleAnswers : SessionAnswers where
  load := .ok ()
  connect := .ok ⟨"session-1", 10, [.promptRead], .webSocket, .dpopBearer⟩
  heartbeat := .ok 20
  disconnect := .ok ()
  disk := .ok ()

/-- A `connect` that installs `session-1`, and a `heartbeat` for an old session after it. -/
def lateHeartbeat : List SessionEvent :=
  .request (.connect [.promptRead]) :: List.replicate 6 (.turn 0 sampleAnswers) ++
    [.request (.heartbeat "session-0"), .turn 1 sampleAnswers, .turn 1 sampleAnswers]

theorem late_heartbeat_spares_session :
    sampleSystem.orderlyAll lateHeartbeat = true ∧
      (sampleSystem.run lateHeartbeat.dropLast).SparesOthers (.turn 1 sampleAnswers) :=
  ⟨by decide +kernel,
    addressed_calls_keep_other_sessions "device-1" .default (some (.opened .default none))
      lateHeartbeat (by decide +kernel) lateHeartbeat.dropLast (.turn 1 sampleAnswers) [] rfl⟩

/-- The same with a `disconnect` for the old session. -/
def lateDisconnect : List SessionEvent :=
  .request (.connect [.promptRead]) :: List.replicate 6 (.turn 0 sampleAnswers) ++
    [.request (.disconnect "session-0"), .turn 1 sampleAnswers, .turn 1 sampleAnswers,
      .turn 1 sampleAnswers]

/-- The `disconnect` forgets `session-1`, in memory and in the store. -/
theorem late_disconnect_drops_session :
    ((sampleSystem.run (lateDisconnect.take 7)).coordinator.state.map (·.sessionId) =
        some "session-1" ∧
      (sampleSystem.run lateDisconnect).coordinator.current = none) ∧
    ¬ ∀ before event after, lateDisconnect = before ++ event :: after →
      (sampleSystem.run before).SparesOthers event := by
  refine ⟨by decide +kernel, fun h => ?_⟩
  have hspares := h (lateDisconnect.take 9) (.turn 1 sampleAnswers) [.turn 1 sampleAnswers] rfl
  have hsame := congrArg (fun coordinator => coordinator.state.isSome)
    (hspares (.dropping "session-0") (by rfl) (by decide +kernel))
  revert hsame
  decide +kernel

end Oneshim.Integration
