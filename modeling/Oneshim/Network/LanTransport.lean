/-
  The LAN transport (`oneshim-network/src/sync/lan_transport/`): a push goes to every peer that is
  known, one after the other, and what the peers make of it does not change its result.

  A peer is an oracle as in `Network.RemoteTransport`: how a handshake with it ends, and how the
  POST and its repetition after a 401 end.  The peer server of this device holds a queue of outbound
  changesets for other devices to pull; a push does not touch it.
-/
import Oneshim.Lib.Table
import Oneshim.Network.RemoteTransport

namespace Oneshim

open Lib

/-- `LanPeerInfo`, as far as a push reads it. -/
structure LanPeerInfo where
  deviceId : String
  host : String
  port : Nat

/-- Peers by device id. -/
abbrev LanPeers := Table LanPeerInfo.deviceId

/-- How the exchanges with one peer end. -/
structure PeerExchange where
  /-- The challenge-response handshake, when there is no valid token. -/
  authentication : Except CoreError String
  post : Exchange
  /-- The handshake after a 401. -/
  reauthentication : Except CoreError String
  retry : Exchange

/-- The mutable parts of `LanSyncTransport`: verified peers, the valid session tokens, and the
    outbound queue of its server. -/
structure LanState where
  verifiedPeers : LanPeers
  tokenCache : String → Option String
  outboundChangesets : List ChangeSet

/-- `LanSyncTransport`; `encrypt` serializes and encrypts. -/
structure LanSyncTransport (β : Type) where
  encrypt : ChangeSet → Except CoreError β

namespace LanSyncTransport

/-- `refresh_peers`: add what was discovered; while discovery runs and sees somebody, drop the
    rest. -/
def refreshPeers (discovered : LanPeers) (isRunning : Bool) (verified : LanPeers) : LanPeers :=
  let merged := discovered.rows.foldl Table.upsert verified
  if isRunning && !discovered.rows.isEmpty then
    merged.filterRows (fun p => (discovered.find? p.deviceId).isSome)
  else merged

/-- `status.is_success()`. -/
def isSuccess (status : Nat) : Bool := decide (200 ≤ status) && decide (status < 300)

/-- `get_session_token`: a cached token, or a handshake. -/
def getSessionToken (tokens : String → Option String) (peer : LanPeerInfo) (x : PeerExchange) :
    Except CoreError String × (String → Option String) :=
  match tokens peer.deviceId with
  | some token => (.ok token, tokens)
  | none =>
    match x.authentication with
    | .ok token => (.ok token, Function.update tokens peer.deviceId (some token))
    | .error e => (.error e, tokens)

/-- The POST with a session, repeated once after a 401. -/
def postWithRetry (tokens : String → Option String) (peer : LanPeerInfo) (x : PeerExchange) :
    Bool × (String → Option String) × List Exchange :=
  match x.post.result with
  | .response status _ _ _ =>
    if isSuccess status then (true, tokens, [x.post])
    else if status = 401 then
      -- the token was rejected: drop it and get a new one
      match x.reauthentication with
      | .error _ => (false, Function.update tokens peer.deviceId none, [x.post])
      | .ok token =>
        let tokens := Function.update tokens peer.deviceId (some token)
        match x.retry.result with
        | .response status _ _ _ => (isSuccess status, tokens, [x.post, x.retry])
        | _ => (false, tokens, [x.post, x.retry])
    else (false, tokens, [x.post])
  | _ => (false, tokens, [x.post])

/-- `push_to_peer`: whether it succeeded, the tokens, and the requests that were made. -/
def pushToPeer (tokens : String → Option String) (peer : LanPeerInfo) (x : PeerExchange) :
    Bool × (String → Option String) × List Exchange :=
  match getSessionToken tokens peer x with
  | (.error _, tokens) => (false, tokens, [])
  | (.ok _, tokens) => postWithRetry tokens peer x

/-- The fan-out: success and failure counts, the tokens, and the requests that were made. -/
def pushToPeers (lan : LanPeerInfo → PeerExchange) : List LanPeerInfo →
    (String → Option String) → (Nat × Nat) × (String → Option String) × List Exchange
  | [], tokens => ((0, 0), tokens, [])
  | peer :: peers, tokens =>
    let (succeeded, tokens, requests) := pushToPeer tokens peer (lan peer)
    let ((successCount, failCount), tokens, rest) := pushToPeers lan peers tokens
    (if succeeded then (successCount + 1, failCount) else (successCount, failCount + 1), tokens,
      requests ++ rest)

/-- `push`: the result, the state, and the requests that were made. -/
def push {β : Type} (self : LanSyncTransport β) (discovered : LanPeers) (isRunning : Bool)
    (lan : LanPeerInfo → PeerExchange) (changes : ChangeSet) (state : LanState) :
    Except CoreError Unit × LanState × List Exchange :=
  let peers := refreshPeers discovered isRunning state.verifiedPeers
  let state := { state with verifiedPeers := peers }
  if peers.rows.isEmpty then (.ok (), state, [])
  else
    match self.encrypt changes with
    | .error e => (.error e, state, [])
    | .ok _ =>
      let (_, tokens, requests) := pushToPeers lan peers.rows state.tokenCache
      (.ok (), { state with tokenCache := tokens }, requests)

/-! ## What reaches a peer -/

/-- The peer rejects the session. -/
def unauthorized : SendResult → Bool
  | .response status _ _ _ => status == 401
  | _ => false

/-- The peer gives a session. -/
def HasSession (tokens : String → Option String) (peer : LanPeerInfo) (x : PeerExchange) : Prop :=
  (tokens peer.deviceId).isSome = true ∨ ∃ token, x.authentication = .ok token

/-- The peer stores the body of the POST or, after a 401 and a new session, of the second one. -/
def StoresPost (x : PeerExchange) : Prop :=
  x.post.stored = true ∨
    (unauthorized x.post.result = true ∧ (∃ token, x.reauthentication = .ok token) ∧
      x.retry.stored = true)

variable {tokens : String → Option String}

theorem getSessionToken_ok_iff {peer : LanPeerInfo} {x : PeerExchange} :
    (∃ token, (getSessionToken tokens peer x).1 = .ok token) ↔ HasSession tokens peer x := by
  unfold getSessionToken HasSession
  cases tokens peer.deviceId with
  | some token => exact ⟨fun _ => .inl rfl, fun _ => ⟨token, rfl⟩⟩
  | none =>
    cases x.authentication with
    | ok token => exact ⟨fun _ => .inr ⟨token, rfl⟩, fun _ => ⟨token, rfl⟩⟩
    | error e =>
      refine ⟨fun ⟨_, h⟩ => (nomatch h), ?_⟩
      rintro (h | ⟨_, h⟩)
      · nomatch h
      · nomatch h

/-- Some request of the list was stored. -/
def AnyStored (requests : List Exchange) : Prop := ∃ r ∈ requests, r.stored = true

theorem anyStored_singleton {r : Exchange} : AnyStored [r] ↔ r.stored = true := by
  simp [AnyStored]

theorem anyStored_append {xs ys : List Exchange} :
    AnyStored (xs ++ ys) ↔ AnyStored xs ∨ AnyStored ys := by
  simp only [AnyStored, List.mem_append, or_and_right, exists_or]

/-- Where the body of a POST has been stored. -/
theorem postWithRetry_stored_iff {peer : LanPeerInfo} {x : PeerExchange} :
    AnyStored (postWithRetry tokens peer x).2.2 ↔ StoresPost x := by
  -- one request, and no 401 that another one could follow
  have hone : (unauthorized x.post.result = true → ∀ token, x.reauthentication ≠ .ok token) →
      (AnyStored [x.post] ↔ StoresPost x) := by
    intro hno
    rw [anyStored_singleton]
    refine ⟨.inl, ?_⟩
    rintro (h | ⟨h401, ⟨token, h⟩, -⟩)
    · exact h
    · exact absurd h (hno h401 token)
  cases hpost : x.post.result with
  | timeout =>
    simp only [postWithRetry, hpost]
    exact hone (fun h => by rw [hpost] at h; nomatch h)
  | failed message =>
    simp only [postWithRetry, hpost]
    exact hone (fun h => by rw [hpost] at h; nomatch h)
  | response status text retryAfter body =>
    simp only [postWithRetry, hpost]
    by_cases h401 : status = 401
    · have hfail : isSuccess status = false := by rw [h401]; rfl
      rw [if_neg (by rw [hfail]; exact Bool.false_ne_true), if_pos h401]
      cases hre : x.reauthentication with
      | error e => exact hone (fun _ token h => by rw [hre] at h; nomatch h)
      | ok token =>
        have hboth : AnyStored [x.post, x.retry] ↔ StoresPost x := by
          rw [show [x.post, x.retry] = [x.post] ++ [x.retry] from rfl, anyStored_append,
            anyStored_singleton, anyStored_singleton, StoresPost, hpost]
          have hun : unauthorized (.response status text retryAfter body) = true := by
            rw [h401]; rfl
          exact or_congr_right ⟨fun h => ⟨hun, ⟨token, hre⟩, h⟩, fun h => h.2.2⟩
        dsimp only
        split
        · exact hboth
        · exact hboth
    · have hnot : unauthorized x.post.result = false := by
        rw [hpost]
        exact beq_eq_false_iff_ne.mpr h401
      split
      · exact hone (fun h => by rw [hnot] at h; nomatch h)
      · exact hone (fun h => by rw [hnot] at h; nomatch h)

/-- **What one peer stores** of the requests made to it. -/
theorem pushToPeer_stored_iff {peer : LanPeerInfo} {x : PeerExchange} :
    AnyStored (pushToPeer tokens peer x).2.2 ↔ HasSession tokens peer x ∧ StoresPost x := by
  rw [← getSessionToken_ok_iff]
  unfold pushToPeer
  split
  · next tokens' hsession =>
    rw [hsession]
    exact ⟨fun ⟨_, h, _⟩ => (nomatch h), fun ⟨⟨_, h⟩, _⟩ => (nomatch h)⟩
  · next token tokens' hsession =>
    rw [hsession, postWithRetry_stored_iff]
    exact ⟨fun h => ⟨⟨token, rfl⟩, h⟩, fun h => h.2⟩

/-- A push to one peer leaves the sessions with the others alone. -/
theorem pushToPeer_tokens {peer : LanPeerInfo} {x : PeerExchange} {other : String}
    (hne : other ≠ peer.deviceId) :
    (pushToPeer tokens peer x).2.1 other = tokens other := by
  have hsession : (getSessionToken tokens peer x).2 other = tokens other := by
    unfold getSessionToken
    split
    · rfl
    · split
      · exact Function.update_of_ne hne _ _
      · rfl
  have hpost : ∀ tokens', (postWithRetry tokens' peer x).2.1 other = tokens' other := by
    intro tokens'
    unfold postWithRetry
    split
    · split
      · rfl
      · split
        · split
          · exact Function.update_of_ne hne _ _
          · dsimp only
            split
            · exact Function.update_of_ne hne _ _
            · exact Function.update_of_ne hne _ _
        · rfl
    · rfl
  unfold pushToPeer
  split
  · next tokens' heq =>
    rw [heq] at hsession
    exact hsession
  · next token tokens' heq =>
    rw [heq] at hsession
    exact (hpost tokens').trans hsession

/-- **What the peers store** of a fan-out. -/
theorem pushToPeers_stored_iff {lan : LanPeerInfo → PeerExchange} {peers : List LanPeerInfo}
    (hnodup : (peers.map LanPeerInfo.deviceId).Nodup) :
    AnyStored (pushToPeers lan peers tokens).2.2 ↔
      ∃ p ∈ peers, HasSession tokens p (lan p) ∧ StoresPost (lan p) := by
  induction peers generalizing tokens with
  | nil => exact ⟨fun ⟨_, h, _⟩ => (nomatch h), fun ⟨_, h, _⟩ => (nomatch h)⟩
  | cons p peers ih =>
    obtain ⟨hfresh, hrest⟩ := List.nodup_cons.mp hnodup
    show AnyStored ((pushToPeer tokens p (lan p)).2.2 ++
      (pushToPeers lan peers (pushToPeer tokens p (lan p)).2.1).2.2) ↔ _
    rw [anyStored_append, pushToPeer_stored_iff, ih hrest, List.exists_mem_cons_iff]
    refine or_congr_right (exists_congr (fun q => and_congr_right (fun hq => ?_)))
    have hne : q.deviceId ≠ p.deviceId :=
      fun h => hfresh (h ▸ List.mem_map_of_mem hq)
    rw [HasSession, pushToPeer_tokens hne, HasSession]

end LanSyncTransport
end Oneshim
