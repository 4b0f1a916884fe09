/-
  The LAN peer server (`oneshim-network/src/sync/lan_server/`): challenge, response, session.

  A peer asks for a nonce, answers it with an HMAC under the shared passphrase, and gets a bearer
  token for `pull` and `push`.  Nonces live a minute and sessions an hour; both tables are bounded,
  and a full one evicts its oldest entry.

  1. **Code** — `SessionStore` (`session.rs`) and the handlers (`handlers.rs`).  The HMAC check is a
     parameter: nothing is assumed about it.

  2. **System** — any number of handlers run at once.  Each operation of the store is atomic (it
     holds a lock), so a run is a list of events in any order, with any readings of the clock.  A
     `verify` is TWO events: it takes its nonce, and later, if the response was right, it creates
     its session; between the two it is in flight.  What the server has issued is logged; nothing
     reads the log.

  3. **Security** — `Inv` says where everything in the two tables and everything in flight comes
     from; it holds in every reachable state (`inv_run`).  `lan_challenge_response` reads off what a
     valid token proves.
-/
import Oneshim.Lib.ExpiringTable
import Oneshim.Lib.Hex
import Oneshim.Network.CompositePull

namespace Oneshim

open Lib

/-! ## The session store -/

/-- `NONCE_TTL`: 60 seconds; an `Instant` is a number of nanoseconds. -/
def nonceTtl : Nat := 60 * 10 ^ 9

/-- `SESSION_TTL`: 1 hour. -/
def sessionTtl : Nat := 3600 * 10 ^ 9

/-- `MAX_PENDING_NONCES`. -/
def maxPendingNonces : Nat := 200

/-- `MAX_SESSIONS`. -/
def maxSessions : Nat := 100

/-- `PendingNonce`, with its key in the map. -/
structure PendingNonce where
  nonceHex : String
  nonceBytes : List UInt8
  peerDeviceId : String
  createdAt : Nat
deriving DecidableEq

/-- `Session`, with its key in the map. -/
structure Session where
  tokenHex : String
  peerDeviceId : String
  createdAt : Nat

/-- `SessionStore`. -/
structure SessionStore where
  pending : Table PendingNonce.nonceHex
  sessions : Table Session.tokenHex

namespace SessionStore

/-- `new`. -/
def new : SessionStore := ⟨Table.empty, Table.empty⟩

/-- `create_nonce`, with the random bytes, the reading it evicts at and the one it stores. -/
def createNonce (self : SessionStore) (peerDeviceId : String) (nonce : List UInt8)
    (now createdAt : Nat) (iteration : Iteration PendingNonce) : SessionStore :=
  { self with
    pending := self.pending.enroll PendingNonce.createdAt nonceTtl maxPendingNonces now iteration
      ⟨Hex.encodeLower nonce, nonce, peerDeviceId, createdAt⟩ }

/-- `take_nonce`: the entry is removed, expired or not. -/
def takeNonce (self : SessionStore) (nonceHex : String) (now : Nat) :
    Option PendingNonce × SessionStore :=
  match self.pending.find? nonceHex with
  | none => (none, self)
  | some entry =>
    let self := { self with pending := self.pending.remove nonceHex }
    if nonceTtl ≤ now - entry.createdAt then (none, self) else (some entry, self)

/-- `create_session`, with the random bytes and the two readings. -/
def createSession (self : SessionStore) (peerDeviceId : String) (token : List UInt8)
    (now createdAt : Nat) (iteration : Iteration Session) : SessionStore :=
  { self with
    sessions := self.sessions.enroll Session.createdAt sessionTtl maxSessions now iteration
      ⟨Hex.encodeLower token, peerDeviceId, createdAt⟩ }

/-- `validate_token`. -/
def validateToken (self : SessionStore) (token : String) (now : Nat) : Bool :=
  match self.sessions.find? token with
  | some session => decide (now - session.createdAt < sessionTtl)
  | none => false

end SessionStore

/-! ## The handlers -/

/-- `VerifyRequest`. -/
structure VerifyRequest where
  deviceId : String
  nonce : String
  response : String
deriving DecidableEq

/-- A response of the server. -/
inductive Reply where
  | nonce (nonce : String)
  | session (token : String) (expiresInSecs : Nat)
  | changesets (newer : List ChangeSet)
  | status (code : Nat)
  | error (code : Nat) (message : String)

/-- The parts of `ServerState` that do not change, and the HMAC check: nonce, response, passphrase,
    local and peer device. -/
structure ServerConfig where
  deviceId : String
  passphrase : String
  verifyChallengeResponse :
    List UInt8 → List UInt8 → String → String → String → Except CoreError Bool

/-- `handle_challenge`. -/
def handleChallenge (deviceId : String) (nonce : List UInt8) (now createdAt : Nat)
    (iteration : Iteration PendingNonce) (store : SessionStore) : Reply × SessionStore :=
  if deviceId = "" then (.error 400 "device_id required", store)
  else (.nonce (Hex.encodeLower nonce), store.createNonce deviceId nonce now createdAt iteration)

/-- `handle_verify` up to the session: the nonce the response was right for. -/
def checkResponse (config : ServerConfig) (req : VerifyRequest) (now : Nat)
    (store : SessionStore) : Except Reply PendingNonce × SessionStore :=
  if req.deviceId = "" ∨ req.nonce = "" ∨ req.response = "" then
    (.error (.error 400 "device_id, nonce, and response required"), store)
  else
    -- consume the pending nonce (one-time use)
    match store.takeNonce req.nonce now with
    | (none, store) => (.error (.error 401 "invalid or expired nonce"), store)
    | (some entry, store) =>
      if req.deviceId ≠ entry.peerDeviceId then
        (.error (.error 401 "device_id mismatch"), store)
      else
        match Hex.decode req.response with
        | none => (.error (.error 400 "invalid hex response"), store)
        | some responseBytes =>
          match config.verifyChallengeResponse entry.nonceBytes responseBytes config.passphrase
            config.deviceId req.deviceId with
          | .error _ => (.error (.error 500 "verification error"), store)
          | .ok false => (.error (.error 401 "authentication failed"), store)
          | .ok true => (.ok entry, store)

/-- The token of an `Authorization: Bearer` header, empty when there is none. -/
def bearerToken (authorization : Option String) : String :=
  let authHeader := (authorization.getD "").toList
  if "Bearer ".toList.isPrefixOf authHeader then
    String.ofList (authHeader.drop "Bearer ".toList.length)
  else ""

/-- `extract_session_token`: is the request authenticated? -/
def extractSessionToken (authorization : Option String) (now : Nat) (store : SessionStore) :
    Bool :=
  bearerToken authorization != "" && store.validateToken (bearerToken authorization) now

/-- `MAX_BODY_SIZE`: 16 MiB. -/
def maxBodySize : Nat := 16 * 1024 * 1024

/-- The body of a push: its length, and what decrypting and deserializing it gives. -/
structure PushBody where
  length : Nat
  decrypted : Except CoreError (Except String ChangeSet)

/-- `handle_push`: the reply, and the changesets received. -/
def handleLanPush (authorization : Option String) (now : Nat) (body : PushBody)
    (store : SessionStore) (received : List ChangeSet) : Reply × List ChangeSet :=
  if extractSessionToken authorization now store then
    if maxBodySize < body.length then
      (.error 413 "payload exceeds 16 MiB limit", received)
    else if body.length = 0 then (.error 400 "empty body", received)
    else
      match body.decrypted with
      | .error _ => (.error 400 "decryption failed", received)
      | .ok (.error _) => (.error 400 "invalid changeset JSON", received)
      | .ok (.ok changeset) => (.status 200, received ++ [changeset])
  else (.error 401 "unauthorized", received)

/-! ## The system -/

/-- A `verify` whose response was right: the request, the nonce it took, and when. -/
structure Verified where
  request : VerifyRequest
  nonce : PendingNonce
  takenAt : Nat
deriving DecidableEq

/-- A session token that was issued. -/
structure Grant where
  verified : Verified
  token : String
  issuedAt : Nat

/-- The server, the requests it is working on, and what it has issued so far. -/
structure LanServer where
  store : SessionStore
  outbound : List ChangeSet
  received : List ChangeSet
  /-- Verified requests that have no session yet. -/
  inFlight : List Verified
  /-- Log: the nonces issued. -/
  challenges : List PendingNonce
  /-- Log: the tokens issued. -/
  grants : List Grant

/-- What happens at the server. -/
inductive LanEvent where
  | challenge (deviceId : String) (nonce : List UInt8) (now createdAt : Nat)
      (iteration : Iteration PendingNonce)
  /-- The first half of a `verify`. -/
  | verify (request : VerifyRequest) (now : Nat)
  /-- The second half: a request in flight gets its session. -/
  | issue (verified : Verified) (token : List UInt8) (now createdAt : Nat)
      (iteration : Iteration Session)
  | pull (authorization : Option String) (now : Nat) (since : Hlc)
  | push (authorization : Option String) (now : Nat) (body : PushBody)
  /-- The engine queues a changeset for the peers. -/
  | enqueue (changeset : ChangeSet)

namespace LanServer

/-- A server that has just been started. -/
def start : LanServer := ⟨SessionStore.new, [], [], [], [], []⟩

/-- One event. -/
def step (config : ServerConfig) (self : LanServer) : LanEvent → LanServer
  | .challenge deviceId nonce now createdAt iteration =>
    { self with
      store := (handleChallenge deviceId nonce now createdAt iteration self.store).2
      challenges := self.challenges ++
        if deviceId = "" then [] else [⟨Hex.encodeLower nonce, nonce, deviceId, createdAt⟩] }
  | .verify request now =>
    match checkResponse config request now self.store with
    | (.error _, store) => { self with store }
    | (.ok nonce, store) =>
      { self with store, inFlight := ⟨request, nonce, now⟩ :: self.inFlight }
  | .issue verified token now createdAt iteration =>
    if verified ∈ self.inFlight then
      { self with
        store := self.store.createSession verified.request.deviceId token now createdAt iteration
        inFlight := self.inFlight.erase verified
        grants := self.grants ++ [⟨verified, Hex.encodeLower token, createdAt⟩] }
    else self
  | .pull _ _ _ => self
  | .push authorization now body =>
    { self with received := (handleLanPush authorization now body self.store self.received).2 }
  | .enqueue changeset => { self with outbound := self.outbound ++ [changeset] }

/-- The server after a list of events. -/
def run (config : ServerConfig) (events : List LanEvent) : LanServer :=
  events.foldl (step config) start

/-- The bearer token of a request is accepted. -/
def Accepts (self : LanServer) (authorization : Option String) (now : Nat) : Prop :=
  extractSessionToken authorization now self.store = true

/-! ## What the checks establish -/

/-- The store has lost pending nonces, if anything. -/
structure Consumes (store store' : SessionStore) : Prop where
  sessions : store'.sessions = store.sessions
  pending : ∀ p ∈ store'.pending.rows, p ∈ store.pending.rows
  length_le : store'.pending.rows.length ≤ store.pending.rows.length

theorem Consumes.refl (store : SessionStore) : Consumes store store :=
  ⟨rfl, fun _ hp => hp, Nat.le_refl _⟩

theorem takeNonce_consumes (store : SessionStore) (nonceHex : String) (now : Nat) :
    Consumes store (store.takeNonce nonceHex now).2 := by
  have hremove : Consumes store { store with pending := store.pending.remove nonceHex } :=
    ⟨rfl, fun p hp => (Table.mem_remove.mp hp).1, List.length_filter_le _ _⟩
  unfold SessionStore.takeNonce
  split
  · exact Consumes.refl store
  · dsimp only
    split
    · exact hremove
    · exact hremove

/-- What is taken was pending under its own text, is less than a minute old, and is gone. -/
theorem takeNonce_some {store store' : SessionStore} {nonceHex : String} {now : Nat}
    {entry : PendingNonce} (h : store.takeNonce nonceHex now = (some entry, store')) :
    entry ∈ store.pending.rows ∧ entry.nonceHex = nonceHex ∧ now - entry.createdAt < nonceTtl ∧
      ∀ p ∈ store'.pending.rows, p.nonceHex ≠ nonceHex := by
  unfold SessionStore.takeNonce at h
  split at h
  · nomatch (Prod.mk.inj h).1
  · next e hfind =>
    obtain ⟨hmem, hkey⟩ := Table.find?_eq_some_iff.mp hfind
    dsimp only at h
    split at h
    · nomatch (Prod.mk.inj h).1
    · next hage =>
      cases h
      exact ⟨hmem, hkey, not_le.mp hage, fun p hp => (Table.mem_remove.mp hp).2⟩

/-! ## Where everything comes from -/

variable (config : ServerConfig)

/-- The request presented, for a nonce issued to the same device less than a minute before, a
    response that the HMAC check accepts. -/
structure Valid (v : Verified) : Prop where
  nonce : v.request.nonce = v.nonce.nonceHex
  device : v.request.deviceId = v.nonce.peerDeviceId
  response : ∃ bytes, Hex.decode v.request.response = some bytes ∧
    config.verifyChallengeResponse v.nonce.nonceBytes bytes config.passphrase config.deviceId
      v.request.deviceId = .ok true
  fresh : v.takenAt - v.nonce.createdAt < nonceTtl

/-- The verified requests, with a session and without. -/
def verified (self : LanServer) : List Verified := self.inFlight ++ self.grants.map Grant.verified

/-- The invariant: what is pending was issued, what is verified answered an issued nonce, what is a
    session was granted; and the tables are within their bounds. -/
structure Inv (server : LanServer) : Prop where
  pending : ∀ p ∈ server.store.pending.rows, p ∈ server.challenges
  verified : ∀ v ∈ server.verified, Valid config v ∧ v.nonce ∈ server.challenges
  sessions : ∀ x ∈ server.store.sessions.rows,
    ∃ g ∈ server.grants, g.token = x.tokenHex ∧ g.issuedAt = x.createdAt
  pending_le : server.store.pending.rows.length ≤ maxPendingNonces
  sessions_le : server.store.sessions.rows.length ≤ maxSessions

variable {config}

/-- A response that is checked uses up its nonce, whatever comes out. -/
theorem checkResponse_consumes (req : VerifyRequest) (now : Nat) (store : SessionStore) :
    Consumes store (checkResponse config req now store).2 := by
  unfold checkResponse
  split
  · exact Consumes.refl store
  · -- only `take_nonce` touches the store
    have htake := takeNonce_consumes store req.nonce now
    cases htaken : store.takeNonce req.nonce now with
    | mk taken store₁ =>
      rw [htaken] at htake
      cases taken with
      | none => exact htake
      | some entry =>
        dsimp only
        repeat' split
        all_goals exact htake

/-- **What `handle_verify` checks** before it creates a session. -/
theorem checkResponse_ok {store store' : SessionStore} {req : VerifyRequest} {now : Nat}
    {nonce : PendingNonce} (h : checkResponse config req now store = (.ok nonce, store')) :
    nonce ∈ store.pending.rows ∧ Valid config ⟨req, nonce, now⟩ ∧
      ∀ p ∈ store'.pending.rows, p.nonceHex ≠ nonce.nonceHex := by
  unfold checkResponse at h
  split at h
  · nomatch (Prod.mk.inj h).1
  · split at h
    · nomatch (Prod.mk.inj h).1
    · next entry store₁ htake =>
      obtain ⟨hmem, hkey, hage, hgone⟩ := takeNonce_some htake
      split at h
      · nomatch (Prod.mk.inj h).1
      · next hdevice =>
        split at h
        · nomatch (Prod.mk.inj h).1
        · next bytes hbytes =>
          split at h
          · nomatch (Prod.mk.inj h).1
          · nomatch (Prod.mk.inj h).1
          · next hmac =>
            cases h
            rw [← hkey] at hgone
            exact ⟨hmem, ⟨hkey.symm, not_not.mp hdevice, ⟨bytes, hbytes, hmac⟩, hage⟩, hgone⟩

theorem inv_start : Inv config start where
  pending := fun _ h => (nomatch h)
  verified := fun _ h => (nomatch h)
  sessions := fun _ h => (nomatch h)
  pending_le := Nat.zero_le _
  sessions_le := Nat.zero_le _

/-- An issued session moves a request from the flight to the log. -/
theorem verified_issue {inFlight : List Verified} {v : Verified} (hv : v ∈ inFlight)
    (grants : List Grant) (token : String) (issuedAt : Nat) :
    (inFlight.erase v ++ (grants ++ [Grant.mk v token issuedAt]).map Grant.verified).Perm
      (inFlight ++ grants.map Grant.verified) := by
  rw [List.map_append, List.map_singleton, ← List.append_assoc]
  refine List.perm_append_comm.trans ?_
  exact (List.perm_cons_erase hv).symm.append_right _

/-- **The step lemma.** -/
theorem Inv.step {self : LanServer} (h : Inv config self) (event : LanEvent) :
    Inv config (self.step config event) := by
  cases event with
  | challenge deviceId nonce now createdAt iteration =>
    by_cases hempty : deviceId = ""
    · simp only [LanServer.step, handleChallenge, if_pos hempty, List.append_nil]
      exact h
    · simp only [LanServer.step, handleChallenge, if_neg hempty]
      refine ⟨fun p hp => ?_, fun v hv => ?_, h.sessions, ?_, h.sessions_le⟩
      · rcases Table.mem_enroll hp with rfl | hold
        · exact List.mem_append_right _ (List.mem_singleton_self _)
        · exact List.mem_append_left _ (h.pending p hold)
      · exact ⟨(h.verified v hv).1, List.mem_append_left _ (h.verified v hv).2⟩
      · exact Table.length_enroll_le (by decide) h.pending_le
  | verify request now =>
    have hconsumes := @checkResponse_consumes config request now self.store
    cases hcheck : checkResponse config request now self.store with
    | mk result store =>
      rw [hcheck] at hconsumes
      have hpending : ∀ p ∈ store.pending.rows, p ∈ self.challenges :=
        fun p hp => h.pending p (hconsumes.pending p hp)
      have hsessions : ∀ x ∈ store.sessions.rows,
          ∃ g ∈ self.grants, g.token = x.tokenHex ∧ g.issuedAt = x.createdAt := by
        rw [hconsumes.sessions]
        exact h.sessions
      have hsessions_le : store.sessions.rows.length ≤ maxSessions := by
        rw [hconsumes.sessions]
        exact h.sessions_le
      have hpending_le := hconsumes.length_le.trans h.pending_le
      cases result with
      | error reply =>
        simp only [LanServer.step, hcheck]
        exact ⟨hpending, h.verified, hsessions, hpending_le, hsessions_le⟩
      | ok nonce =>
        obtain ⟨hmem, hvalid, -⟩ := checkResponse_ok hcheck
        simp only [LanServer.step, hcheck]
        refine ⟨hpending, fun v hv => ?_, hsessions, hpending_le, hsessions_le⟩
        rcases List.mem_cons.mp hv with rfl | hold
        · exact ⟨hvalid, h.pending nonce hmem⟩
        · exact h.verified v hold
  | issue v token now createdAt iteration =>
    by_cases hflight : v ∈ self.inFlight
    · simp only [LanServer.step, if_pos hflight]
      refine ⟨h.pending, fun w hw => ?_, fun x hx => ?_, h.pending_le, ?_⟩
      · exact h.verified w ((verified_issue hflight self.grants _ _).mem_iff.mp hw)
      · rcases Table.mem_enroll hx with rfl | hold
        · exact ⟨_, List.mem_append_right _ (List.mem_singleton_self _), rfl, rfl⟩
        · obtain ⟨g, hg, heq⟩ := h.sessions x hold
          exact ⟨g, List.mem_append_left _ hg, heq⟩
      · exact Table.length_enroll_le (by decide) h.sessions_le
    · simp only [LanServer.step, if_neg hflight]
      exact h
  | pull authorization now since => exact h
  | push authorization now body =>
    exact ⟨h.pending, h.verified, h.sessions, h.pending_le, h.sessions_le⟩
  | enqueue changeset => exact ⟨h.pending, h.verified, h.sessions, h.pending_le, h.sessions_le⟩

/-- **The run lemma**: the invariant holds in every reachable state. -/
theorem inv_run (events : List LanEvent) : Inv config (run config events) := by
  induction events using List.reverseRecOn with
  | nil => exact inv_start
  | append_singleton events event ih =>
    rw [run, List.foldl_append]
    exact ih.step event

/-! ## Each nonce is used once -/

/-- The nonces that were verified are different from each other, and none of them is pending. -/
structure SingleUse (server : LanServer) : Prop where
  nodup : (server.verified.map (fun v => v.nonce.nonceHex)).Nodup
  consumed : ∀ p ∈ server.store.pending.rows, ∀ v ∈ server.verified,
    p.nonceHex ≠ v.nonce.nonceHex

/-- The step lemma, where the new nonce is none that was issued before. -/
theorem SingleUse.step {self : LanServer} (h : SingleUse self) (hinv : Inv config self)
    (event : LanEvent)
    (hfresh : ((self.step config event).challenges.map PendingNonce.nonceHex).Nodup) :
    SingleUse (self.step config event) := by
  cases event with
  | challenge deviceId nonce now createdAt iteration =>
    by_cases hempty : deviceId = ""
    · simp only [LanServer.step, handleChallenge, if_pos hempty, List.append_nil]
      exact h
    · simp only [LanServer.step, handleChallenge, if_neg hempty] at hfresh ⊢
      refine ⟨h.nodup, fun p hp v hv => ?_⟩
      rcases Table.mem_enroll hp with rfl | hold
      · -- the verified nonces were issued before this one
        rw [List.map_append, List.map_singleton, List.nodup_append] at hfresh
        intro heq
        have hissued := List.mem_map_of_mem (f := PendingNonce.nonceHex) (hinv.verified v hv).2
        exact hfresh.2.2 _ hissued _ (List.mem_singleton_self _) heq.symm
      · exact h.consumed p hold v hv
  | verify request now =>
    have hconsumes := @checkResponse_consumes config request now self.store
    cases hcheck : checkResponse config request now self.store with
    | mk result store =>
      rw [hcheck] at hconsumes
      cases result with
      | error reply =>
        simp only [LanServer.step, hcheck]
        exact ⟨h.nodup, fun p hp => h.consumed p (hconsumes.pending p hp)⟩
      | ok nonce =>
        obtain ⟨hmem, -, hgone⟩ := checkResponse_ok hcheck
        simp only [LanServer.step, hcheck]
        constructor
        · show (nonce.nonceHex :: self.verified.map (fun v => v.nonce.nonceHex)).Nodup
          refine List.nodup_cons.mpr ⟨fun hin => ?_, h.nodup⟩
          obtain ⟨v, hv, heq⟩ := List.mem_map.mp hin
          exact h.consumed nonce hmem v hv heq.symm
        · intro p hp v hv
          rcases List.mem_cons.mp hv with rfl | hold
          · exact hgone p hp
          · exact h.consumed p (hconsumes.pending p hp) v hold
  | issue v token now createdAt iteration =>
    by_cases hflight : v ∈ self.inFlight
    · simp only [LanServer.step, if_pos hflight]
      have hperm := verified_issue hflight self.grants (Hex.encodeLower token) createdAt
      refine ⟨(hperm.map _).nodup_iff.mpr h.nodup, fun p hp w hw => ?_⟩
      exact h.consumed p hp w (hperm.mem_iff.mp hw)
    · simp only [LanServer.step, if_neg hflight]
      exact h
  | pull authorization now since => exact h
  | push authorization now body => exact ⟨h.nodup, h.consumed⟩
  | enqueue changeset => exact ⟨h.nodup, h.consumed⟩

/-! ## Fresh nonces and tokens -/

/-- The random bytes of a challenge that is answered with a nonce. -/
def nonce? : LanEvent → Option (List UInt8)
  | .challenge deviceId nonce _ _ _ => if deviceId = "" then none else some nonce
  | _ => none

/-- The random bytes of a session token. -/
def token? : LanEvent → Option (List UInt8)
  | .issue _ token _ _ _ => some token
  | _ => none

/-- No random value is drawn twice. -/
structure Fresh (events : List LanEvent) : Prop where
  nonces : (events.filterMap nonce?).Nodup
  tokens : (events.filterMap token?).Nodup

theorem Fresh.of_append {events : List LanEvent} {event : LanEvent}
    (h : Fresh (events ++ [event])) : Fresh events := by
  obtain ⟨hnonces, htokens⟩ := h
  rw [List.filterMap_append] at hnonces htokens
  exact ⟨hnonces.of_append_left, htokens.of_append_left⟩

theorem run_concat (events : List LanEvent) (event : LanEvent) :
    run config (events ++ [event]) = (run config events).step config event := by
  rw [run, List.foldl_append]
  rfl

/-- The log of nonces is what was drawn. -/
theorem challenges_run (events : List LanEvent) :
    (run config events).challenges.map PendingNonce.nonceHex
      = (events.filterMap nonce?).map Hex.encodeLower := by
  induction events using List.reverseRecOn with
  | nil => rfl
  | append_singleton events event ih =>
    rw [run_concat, List.filterMap_append, List.map_append, ← ih]
    cases event with
    | challenge deviceId nonce now createdAt iteration =>
      by_cases hempty : deviceId = ""
      · simp [step, nonce?, hempty]
      · simp [step, nonce?, hempty]
    | verify request now =>
      simp only [step]
      split
      · simp [nonce?]
      · simp [nonce?]
    | issue v token now createdAt iteration =>
      simp only [step]
      split
      · simp [nonce?]
      · simp [nonce?]
    | _ => simp [step, nonce?]

/-- The log of tokens is drawn, too. -/
theorem grants_run (events : List LanEvent) :
    ((run config events).grants.map Grant.token).Sublist
      ((events.filterMap token?).map Hex.encodeLower) := by
  induction events using List.reverseRecOn with
  | nil => exact List.Sublist.slnil
  | append_singleton events event ih =>
    rw [run_concat, List.filterMap_append, List.map_append]
    have hkeep : ∀ rest, ((run config events).grants.map Grant.token).Sublist
        ((events.filterMap token?).map Hex.encodeLower ++ rest) :=
      fun rest => ih.trans (List.sublist_append_left _ rest)
    cases event with
    | verify request now =>
      simp only [step]
      split
      · exact hkeep _
      · exact hkeep _
    | issue v token now createdAt iteration =>
      simp only [step]
      split
      · rw [List.map_append]
        exact ih.append (List.Sublist.refl _)
      · exact hkeep _
    | _ => exact hkeep _

/-- **Each nonce is used once**, in every run with fresh nonces. -/
theorem singleUse_run {events : List LanEvent} (hfresh : Fresh events) :
    SingleUse (run config events) := by
  induction events using List.reverseRecOn with
  | nil => exact ⟨List.nodup_nil, fun _ hp => (nomatch hp)⟩
  | append_singleton events event ih =>
    have hnodup : ((run config (events ++ [event])).challenges.map PendingNonce.nonceHex).Nodup := by
      rw [challenges_run]
      exact hfresh.nonces.map Hex.encodeLower_injective
    rw [run_concat] at hnodup ⊢
    exact (ih hfresh.of_append).step (inv_run events) event hnodup

/-! ## What a token proves -/

theorem authorization_of_bearerToken {authorization : Option String}
    (h : bearerToken authorization ≠ "") :
    authorization = some ("Bearer " ++ bearerToken authorization) := by
  cases authorization with
  | none => exact absurd rfl h
  | some header =>
    unfold bearerToken at h ⊢
    simp only [Option.getD_some] at h ⊢
    split at h
    · next hprefix =>
      rw [if_pos hprefix]
      obtain ⟨rest, hrest⟩ := List.isPrefixOf_iff_prefix.mp hprefix
      have hdrop : header.toList.drop "Bearer ".toList.length = rest := by
        rw [← hrest, List.drop_left]
      rw [hdrop]
      refine congrArg some (String.toList_injective (hrest.symm.trans ?_))
      rw [String.toList_append, @String.toList_ofList rest]
    · exact absurd rfl h

/-- An accepted request carries the token of a session less than an hour old. -/
theorem accepts_session {self : LanServer} {authorization : Option String} {now : Nat}
    (h : self.Accepts authorization now) :
    ∃ x ∈ self.store.sessions.rows, authorization = some ("Bearer " ++ x.tokenHex) ∧
      now - x.createdAt < sessionTtl := by
  obtain ⟨hne, hvalid⟩ := Bool.and_eq_true_iff.mp h
  have htoken := authorization_of_bearerToken (by simpa using hne)
  unfold SessionStore.validateToken at hvalid
  split at hvalid
  · next x hfind =>
    obtain ⟨hmem, hkey⟩ := Table.find?_eq_some_iff.mp hfind
    rw [← hkey] at htoken
    exact ⟨x, hmem, htoken, of_decide_eq_true hvalid⟩
  · nomatch hvalid

/-- **LAN challenge-response.**  In every run with fresh nonces and tokens: an accepted token was
    granted for a right response to a nonce issued to the same device less than a minute before it;
    it is not accepted an hour or more after it was issued; a nonce leads to at most one grant; and
    the tables stay within their bounds. -/
theorem lan_challenge_response (config : ServerConfig) (events : List LanEvent)
    (hfresh : Fresh events) :
    (∀ authorization now, (run config events).Accepts authorization now →
      ∃ g ∈ (run config events).grants, authorization = some ("Bearer " ++ g.token) ∧
        ∃ c ∈ (run config events).challenges, g.verified.request.nonce = c.nonceHex ∧
          g.verified.request.deviceId = c.peerDeviceId ∧
          g.verified.takenAt - c.createdAt < nonceTtl ∧
          ∃ bytes, Hex.decode g.verified.request.response = some bytes ∧
            config.verifyChallengeResponse c.nonceBytes bytes config.passphrase config.deviceId
              g.verified.request.deviceId = .ok true) ∧
    (∀ authorization now, (run config events).Accepts authorization now →
      ∀ g ∈ (run config events).grants, authorization = some ("Bearer " ++ g.token) →
        now - g.issuedAt < sessionTtl) ∧
    ((run config events).grants.map (fun g => g.verified.request.nonce)).Nodup ∧
    (run config events).store.pending.rows.length ≤ maxPendingNonces ∧
    (run config events).store.sessions.rows.length ≤ maxSessions := by
  have hinv : Inv config (run config events) := inv_run events
  have hvalid : ∀ g ∈ (run config events).grants, Valid config g.verified ∧
      g.verified.nonce ∈ (run config events).challenges :=
    fun g hg => hinv.verified _ (List.mem_append_right _ (List.mem_map_of_mem hg))
  refine ⟨fun authorization now h => ?_, fun authorization now h g hg htoken => ?_, ?_,
    hinv.pending_le, hinv.sessions_le⟩
  · obtain ⟨x, hx, htoken, -⟩ := accepts_session h
    obtain ⟨g, hg, hgx, -⟩ := hinv.sessions x hx
    obtain ⟨hv, hissued⟩ := hvalid g hg
    rw [← hgx] at htoken
    exact ⟨g, hg, htoken, g.verified.nonce, hissued, hv.nonce, hv.device, hv.fresh, hv.response⟩
  · obtain ⟨x, hx, hxtoken, hage⟩ := accepts_session h
    obtain ⟨g', hg', hgx, hat⟩ := hinv.sessions x hx
    -- the token was granted once, so this is the grant the session comes from
    have hnodup : ((run config events).grants.map Grant.token).Nodup :=
      (hfresh.tokens.map Hex.encodeLower_injective).sublist (grants_run events)
    have hsame : g.token = g'.token := by
      have heq := Option.some.inj (htoken.symm.trans hxtoken)
      have hlist := congrArg String.toList heq
      rw [String.toList_append, String.toList_append, List.append_cancel_left_eq] at hlist
      rw [String.toList_injective hlist, hgx]
    rw [List.inj_on_of_nodup_map hnodup hg hg' hsame, hat]
    exact hage
  · have hall := (@singleUse_run config events hfresh).nodup
    rw [verified, List.map_append] at hall
    have hgrants := hall.of_append_right
    rw [List.map_map] at hgrants
    have hnonce : (run config events).grants.map (fun g => g.verified.request.nonce)
        = (run config events).grants.map ((fun v => v.nonce.nonceHex) ∘ Grant.verified) :=
      List.map_congr_left (fun g hg => (hvalid g hg).1.nonce)
    rw [hnonce]
    exact hgrants

/-- A server that takes the reversed nonce for the right response. -/
def sampleServer : ServerConfig :=
  { deviceId := "server", passphrase := "passphrase"
    verifyChallengeResponse := fun nonce response _ _ _ => .ok (response == nonce.reverse) }

/-- Device `a` asks for a nonce, answers it after five seconds and gets a session. -/
def sampleHandshake : List LanEvent :=
  [.challenge "a" [1, 2] 0 0 (Iteration.id _),
    .verify ⟨"a", "0102", "0201"⟩ (5 * 10 ^ 9),
    .issue ⟨⟨"a", "0102", "0201"⟩, ⟨"0102", [1, 2], "a", 0⟩, 5 * 10 ^ 9⟩ [3] (6 * 10 ^ 9)
      (6 * 10 ^ 9) (Iteration.id _)]

theorem lan_challenge_response_handshake :
    (run sampleServer sampleHandshake).Accepts (some "Bearer 03") (7 * 10 ^ 9) ∧
      (∃ g ∈ (run sampleServer sampleHandshake).grants,
        some "Bearer 03" = some ("Bearer " ++ g.token)) ∧
      (run sampleServer sampleHandshake).store.sessions.rows.length ≤ maxSessions := by
  have haccepts : (run sampleServer sampleHandshake).Accepts (some "Bearer 03") (7 * 10 ^ 9) := by
    unfold Accepts
    decide
  obtain ⟨hgranted, -, -, -, hbound⟩ :=
    lan_challenge_response sampleServer sampleHandshake ⟨by decide, by decide⟩
  obtain ⟨g, hg, htoken, -⟩ := hgranted _ _ haccepts
  exact ⟨haccepts, ⟨g, hg, htoken⟩, hbound⟩

end LanServer

end Oneshim
