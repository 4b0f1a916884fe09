/-
  Is a push that returns `Ok` an acknowledgement?

  The engine takes it for one: it moves its push position past the rows of the changeset and never
  sends them again.  The two network transports return `Ok` also when nothing was stored:

  * the remote transport on 409, expecting the engine to pull again, which it does not do;
  * the LAN transport always, whatever the peers answer and when there is none, while nothing fills
    the outbound queue that other devices could pull from.

  `pushes_acknowledged_iff` is the exact condition, for both.
-/
import Oneshim.Network.LanTransport

namespace Oneshim

open Lib RemoteSyncTransport LanSyncTransport

variable {β : Type}

/-! ## The remote transport -/

/-- A destination that acknowledges has stored the changeset. -/
def Honest (server : Nat → Exchange) : Prop :=
  ∀ n, acknowledged (server n).result = true → (server n).stored = true

/-- `Ok` means that one of the requests was stored. -/
def RemoteAcknowledged (t : RemoteSyncTransport β) (changes : ChangeSet)
    (server : Nat → Exchange) : Prop :=
  (t.push changes server).1 = .ok () →
    ∃ n < (t.push changes server).2, (server n).stored = true

/-- No conflict ends the push of something that was not stored: the first answer that is not tried
    again is no 409, or one of the requests up to it was stored. -/
def NoLostConflict (t : RemoteSyncTransport β) (server : Nat → Exchange) : Prop :=
  ∀ k ≤ t.maxRetries, (∀ i < k, t.retried (server i).result = true) →
    conflict (server k).result = true → ∃ n ≤ k, (server n).stored = true

/-- **The remote transport**: the changeset cannot be sealed, or no conflict got lost. -/
theorem remoteAcknowledged_iff (t : RemoteSyncTransport β) (changes : ChangeSet)
    {server : Nat → Exchange} (hhonest : Honest server) :
    RemoteAcknowledged t changes server ↔
      (∃ e, t.encrypt changes = .error e) ∨ NoLostConflict t server := by
  unfold RemoteAcknowledged RemoteSyncTransport.push
  cases hseal : t.encrypt changes with
  | error e => exact ⟨fun _ => .inl ⟨e, rfl⟩, fun _ h => (nomatch h)⟩
  | ok data =>
    obtain ⟨k, hk, hbefore, hstop, heq⟩ :=
      t.pushLoop_decided server t.maxRetries 0 (.internal "push failed")
    simp only [Nat.zero_add] at hbefore hstop heq
    dsimp only
    rw [heq, t.answer_ok_iff]
    constructor
    · intro hack
      refine .inr (fun k' hk' hbefore' hconflict => ?_)
      -- the conflict is the answer that decided
      have hok : t.answer (.internal "push failed") (server k').result = .ok () :=
        t.answer_ok_iff.mpr (.inr hconflict)
      have hnot := t.retried_eq_false_of_ok hok
      have hsame : k' = k := by
        rcases Nat.lt_trichotomy k k' with hlt | heq' | hgt
        · rcases hstop with hlast | hstop
          · omega
          · rw [hbefore' k hlt] at hstop
            nomatch hstop
        · exact heq'.symm
        · rw [hbefore k' hgt] at hnot
          nomatch hnot
      obtain ⟨n, hn, hstored⟩ := hack (.inr (hsame ▸ hconflict))
      exact ⟨n, by omega, hstored⟩
    · rintro (⟨_, h⟩ | hcond) (hacked | hconflict)
      · nomatch h
      · nomatch h
      · exact ⟨k, Nat.lt_succ_self k, hhonest k hacked⟩
      · obtain ⟨n, hn, hstored⟩ := hcond k hk hbefore hconflict
        exact ⟨n, Nat.lt_succ_of_le hn, hstored⟩

/-! ## The LAN transport -/

/-- `Ok` means that a peer stored one of the requests, or that the changeset is queued. -/
def LanAcknowledged (t : LanSyncTransport β) (discovered : LanPeers) (isRunning : Bool)
    (lan : LanPeerInfo → PeerExchange) (changes : ChangeSet) (state : LanState) : Prop :=
  (t.push discovered isRunning lan changes state).1 = .ok () →
    AnyStored (t.push discovered isRunning lan changes state).2.2 ∨
      changes ∈ (t.push discovered isRunning lan changes state).2.1.outboundChangesets

/-- **The LAN transport**: the changeset is queued, cannot be sealed, or a peer stores it. -/
theorem lanAcknowledged_iff (t : LanSyncTransport β) (discovered : LanPeers) (isRunning : Bool)
    (lan : LanPeerInfo → PeerExchange) (changes : ChangeSet) (state : LanState) :
    let peers := refreshPeers discovered isRunning state.verifiedPeers
    LanAcknowledged t discovered isRunning lan changes state ↔
      changes ∈ state.outboundChangesets ∨
      (peers.rows ≠ [] ∧ ∃ e, t.encrypt changes = .error e) ∨
      ∃ p ∈ peers.rows, HasSession state.tokenCache p (lan p) ∧ StoresPost (lan p) := by
  intro peers
  have hpeers : refreshPeers discovered isRunning state.verifiedPeers = peers := rfl
  unfold LanAcknowledged LanSyncTransport.push
  rw [hpeers]
  cases hrows : peers.rows with
  | nil =>
    -- nobody is known
    simp only [hrows, List.isEmpty_nil, if_true]
    constructor
    · intro hack
      rcases hack trivial with ⟨_, h, _⟩ | hqueued
      · nomatch h
      · exact .inl hqueued
    · rintro (hqueued | ⟨hne, -⟩ | ⟨_, h, -⟩) _
      · exact .inr hqueued
      · exact absurd rfl hne
      · nomatch h
  | cons q qs =>
    simp only [hrows, List.isEmpty_cons, Bool.false_eq_true, if_false]
    cases hseal : t.encrypt changes with
    | error e =>
      exact ⟨fun _ => .inr (.inl ⟨List.cons_ne_nil q qs, e, rfl⟩), fun _ h => (nomatch h)⟩
    | ok data =>
      have hnodup : ((q :: qs).map LanPeerInfo.deviceId).Nodup := hrows ▸ peers.nodup
      have hstored : AnyStored (pushToPeers lan (q :: qs) state.tokenCache).2.2 ↔ _ :=
        pushToPeers_stored_iff hnodup
      constructor
      · intro hack
        rcases hack rfl with hany | hqueued
        · exact .inr (.inr (hstored.mp hany))
        · exact .inl hqueued
      · rintro (hqueued | ⟨-, _, h⟩ | hpeer) _
        · exact .inr hqueued
        · nomatch h
        · exact .inl (hstored.mpr hpeer)

/-! ## Both -/

/-- **When a push that returns `Ok` is an acknowledgement**, for each of the two transports. -/
theorem pushes_acknowledged_iff :
    (∀ (t : RemoteSyncTransport β) (changes : ChangeSet) (server : Nat → Exchange),
      Honest server → (RemoteAcknowledged t changes server ↔
        (∃ e, t.encrypt changes = .error e) ∨ NoLostConflict t server)) ∧
    (∀ (t : LanSyncTransport β) (discovered : LanPeers) (isRunning : Bool)
      (lan : LanPeerInfo → PeerExchange) (changes : ChangeSet) (state : LanState),
      LanAcknowledged t discovered isRunning lan changes state ↔
        changes ∈ state.outboundChangesets ∨
        ((refreshPeers discovered isRunning state.verifiedPeers).rows ≠ [] ∧
          ∃ e, t.encrypt changes = .error e) ∨
        ∃ p ∈ (refreshPeers discovered isRunning state.verifiedPeers).rows,
          HasSession state.tokenCache p (lan p) ∧ StoresPost (lan p)) :=
  ⟨fun t changes _ hhonest => remoteAcknowledged_iff t changes hhonest, lanAcknowledged_iff⟩

/-- A transport whose encryption does nothing. -/
def plainRemote : RemoteSyncTransport ChangeSet := ⟨Except.ok, 3, 30000⟩

/-- Unavailable at the first request; afterwards it stores and acknowledges. -/
def secondTime : Nat → Exchange
  | 0 => ⟨.response 503 "503 Service Unavailable" 0 "", false⟩
  | _ => ⟨.response 200 "200 OK" 0 "", true⟩

theorem secondTime_honest : Honest secondTime
  | 0, h => nomatch h
  | _ + 1, _ => rfl

theorem secondTime_noLostConflict : NoLostConflict plainRemote secondTime
  | 0, _, _, h => nomatch h
  | _ + 1, _, _, h => nomatch h

/-- A peer that has a session and stores what it gets. -/
def peerB : LanPeerInfo := ⟨"b", "192.168.0.2", 7000⟩

/-- The exchanges of `peerB`. -/
def storing : PeerExchange :=
  ⟨.ok "token", ⟨.response 200 "200 OK" 0 "", true⟩, .ok "token", ⟨.timeout, false⟩⟩

/-- The second request is stored, and so is the POST to a peer that has just been discovered. -/
theorem pushes_acknowledged_stored :
    RemoteAcknowledged plainRemote {} secondTime ∧
    LanAcknowledged (⟨Except.ok⟩ : LanSyncTransport ChangeSet) (Table.empty.upsert peerB) true
      (fun _ => storing) {} ⟨Table.empty, fun _ => none, []⟩ :=
  ⟨(pushes_acknowledged_iff.1 plainRemote {} secondTime secondTime_honest).mpr
      (.inr secondTime_noLostConflict),
    (pushes_acknowledged_iff.2 _ _ _ _ _ _).mpr
      (.inr (.inr ⟨peerB, List.mem_cons_self, .inr ⟨"token", rfl⟩, .inl rfl⟩))⟩

/-- A conflict on something that was not stored is taken for an acknowledgement, and so is a push
    to nobody. -/
theorem push_not_acknowledged :
    (¬ ∀ (t : RemoteSyncTransport ChangeSet) (changes : ChangeSet) (server : Nat → Exchange),
      Honest server → RemoteAcknowledged t changes server) ∧
    (¬ ∀ (t : LanSyncTransport ChangeSet) (discovered : LanPeers) (isRunning : Bool)
      (lan : LanPeerInfo → PeerExchange) (changes : ChangeSet) (state : LanState),
      LanAcknowledged t discovered isRunning lan changes state) := by
  constructor
  · intro hall
    obtain ⟨n, -, hstored⟩ := hall plainRemote {}
      (fun _ => ⟨.response 409 "409 Conflict" 0 "", false⟩) (fun _ h => nomatch h) rfl
    nomatch hstored
  · intro hall
    rcases hall ⟨Except.ok⟩ Table.empty true (fun _ => storing) {}
      ⟨Table.empty, fun _ => none, []⟩ rfl with ⟨_, h, _⟩ | hqueued
    · nomatch h
    · nomatch hqueued

end Oneshim
