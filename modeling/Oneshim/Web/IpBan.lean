/-
  Bans of the external gRPC server (`oneshim-web/src/grpc/external/ip_ban.rs`, `accept_loop.rs`).

  A failed handshake or a refused token is recorded under the address of the peer, an IPv6 address
  under its first half.  From the fifth failure in a window on the address is banned, the longer the
  more failures there are.  Instants and durations are nanoseconds.

  1. **Whose ban it is** (`isBanned_needs_five`) — who is banned has failed five times himself
     within a minute, whatever others do to the table.

  2. **The upper rungs** (`bans_at_most_a_minute`) — the window is a minute, and so is the first
     ban: who is not let in while he is banned comes back to a new window, and never gets to the
     longer bans.
-/
import Mathlib.Algebra.Group.Nat.Defs
import Mathlib.Data.List.Induction
import Oneshim.Lib.Calls
import Oneshim.Lib.LruCache

namespace Oneshim

open Lib

/-! ## Keys -/

/-- `IpAddr`, an IPv6 address by its segments. -/
inductive IpAddr where
  | v4 (address : UInt32)
  | v6 (segments : Fin 8 → UInt16)

/-- `SocketAddr`. -/
structure SocketAddr where
  ip : IpAddr
  port : UInt16

/-- `BanKey`. -/
inductive BanKey where
  | v4 (address : UInt32)
  | v6Prefix64 (half : UInt64)
deriving DecidableEq

namespace BanKey

/-- `BanKey::from_ip`. -/
def fromIp : IpAddr → BanKey
  | .v4 address => .v4 address
  | .v6 segments => .v6Prefix64
      ((segments 0).toUInt64 <<< 48 ||| (segments 1).toUInt64 <<< 32 |||
        (segments 2).toUInt64 <<< 16 ||| (segments 3).toUInt64)

/-- `BanKey::from_socket`. -/
def fromSocket (addr : SocketAddr) : BanKey := fromIp addr.ip

end BanKey

/-! ## The table -/

namespace IpBan

/-- Nanoseconds. -/
def seconds (n : Nat) : Nat := n * 1000000000

/-- `THRESHOLDS`. -/
def thresholds : List (Nat × Nat) :=
  [(5, seconds 60), (10, seconds 600), (20, seconds 3600)]

/-- `WINDOW`. -/
def window : Nat := seconds 60

end IpBan

/-- `BanState`. -/
structure BanState where
  failureCount : Nat
  firstFailureAt : Nat
  bannedUntil : Option Nat

namespace BanState

open IpBan

/-- `banned_until.is_some_and`. -/
def bannedAt (state : BanState) (now : Nat) : Bool :=
  match state.bannedUntil with
  | some instant => decide (now < instant)
  | none => false

/-- `state.failure_count += 1`, a `u32`, and the ladder from its last rung down. -/
def bump (state : BanState) (now : Nat) : BanState :=
  let count := if state.failureCount + 1 < 2 ^ 32 then state.failureCount + 1 else 0
  match thresholds.reverse.find? (fun rung => rung.1 ≤ count) with
  | some rung => { state with failureCount := count, bannedUntil := some (now + rung.2) }
  | none => { state with failureCount := count }

/-- **What the ladder does**: nothing below five failures, and from there on a ban. -/
theorem bump_cases (state : BanState) (now : Nat) :
    ∃ count, count ≤ state.failureCount + 1 ∧
      (state.failureCount + 1 < 2 ^ 32 → count = state.failureCount + 1) ∧
      (bump state now = { state with failureCount := count } ∧ count < 5 ∨
        ∃ duration, bump state now = ⟨count, state.firstFailureAt, some (now + duration)⟩ ∧
          5 ≤ count ∧ duration ≤ seconds 3600 ∧ (count < 10 → duration = seconds 60)) := by
  have hrungs : ∀ rung ∈ thresholds.reverse, 5 ≤ rung.1 ∧ rung.2 ≤ seconds 3600 ∧
      (rung.1 < 10 → rung.2 = seconds 60) := by decide
  unfold bump
  generalize hcount :
    (if state.failureCount + 1 < 2 ^ 32 then state.failureCount + 1 else 0) = count
  refine ⟨count, by split at hcount <;> omega, fun hlt => ?_, ?_⟩
  · rw [← hcount, if_pos hlt]
  cases hfind : thresholds.reverse.find? (fun rung => rung.1 ≤ count) with
  | none =>
    have hfive := List.find?_eq_none.mp hfind (5, seconds 60) (by decide)
    refine .inl ⟨?_, by simpa using hfive⟩
    simp only [hfind]
  | some rung =>
    obtain ⟨hfive, hhour, hminute⟩ := hrungs rung (List.mem_of_find?_eq_some hfind)
    have hle : rung.1 ≤ count := by simpa using List.find?_some hfind
    refine .inr ⟨rung.2, ?_, by omega, hhour, fun hten => hminute (by omega)⟩
    simp only [hfind]

/-- What `record_failure` does to the entry; a difference of instants is not negative. -/
def failedAt (now : Nat) (state : BanState) : BanState :=
  if window < now - state.firstFailureAt then bump ⟨0, now, none⟩ now else bump state now

end BanState

namespace IpBan

variable (lru : LruCache BanKey BanState)

/-- `is_banned_key`. -/
def isBannedKey (cache : lru.Cache) (key : BanKey) (now : Nat) : Bool :=
  match lru.peek cache key with
  | some state => state.bannedAt now
  | none => false

/-- `is_banned`. -/
def isBanned (cache : lru.Cache) (addr : SocketAddr) (now : Nat) : Bool :=
  isBannedKey lru cache (BanKey.fromSocket addr) now

/-- `record_failure`. -/
def recordFailure (cache : lru.Cache) (addr : SocketAddr) (now : Nat) :
    Option BanState × lru.Cache :=
  let key := BanKey.fromSocket addr
  (some (((lru.peek cache key).getD ⟨0, now, none⟩).failedAt now),
    lru.getOrInsertMut cache key ⟨0, now, none⟩ (BanState.failedAt now))

/-- The table after failures, the oldest first. -/
def recorded (fails : List (SocketAddr × Nat)) : lru.Cache :=
  fails.foldl (fun cache fail => (recordFailure lru cache fail.1 fail.2).2) lru.empty

/-- When a key failed. -/
def ownFailures (key : BanKey) (fails : List (SocketAddr × Nat)) : List Nat :=
  (fails.filter (fun fail => BanKey.fromSocket fail.1 = key)).map Prod.snd

/-! ## Whose ban it is -/

variable {lru}

/-- What the table knows of a key is of the last of its own failures, `first` and those after it in
    its window. -/
def Owned (own : List Nat) (state : BanState) : Prop :=
  ∃ earlier rest, own = earlier ++ state.firstFailureAt :: rest ∧
    (∀ t ∈ rest, t ≤ state.firstFailureAt + window) ∧ state.failureCount ≤ rest.length + 1 ∧
    ∀ instant, state.bannedUntil = some instant → 4 ≤ rest.length ∧
      ∃ t ∈ state.firstFailureAt :: rest, instant ≤ t + seconds 3600

theorem failedAt_fresh (now : Nat) : BanState.failedAt now ⟨0, now, none⟩ = ⟨1, now, none⟩ := by
  rw [BanState.failedAt, if_neg (by dsimp only; omega)]
  rfl

/-- **What one failure does to the table**: the entry of the key is new or changed. -/
theorem mem_recordFailure {cache : lru.Cache} {addr : SocketAddr} {now : Nat}
    {entry : BanKey × BanState} (h : entry ∈ lru.entries (recordFailure lru cache addr now).2) :
    entry = (BanKey.fromSocket addr, ⟨1, now, none⟩) ∨
      (∃ state, lru.peek cache (BanKey.fromSocket addr) = some state ∧
        entry = (BanKey.fromSocket addr, state.failedAt now)) ∨
      entry ∈ lru.entries cache ∧ entry.1 ≠ BanKey.fromSocket addr := by
  rcases lru.mem_getOrInsertMut _ _ _ _ entry h with hnew | hold
  · cases hpeek : lru.peek cache (BanKey.fromSocket addr) with
    | none =>
      rw [hpeek, Option.getD_none, failedAt_fresh] at hnew
      exact .inl hnew
    | some state =>
      rw [hpeek, Option.getD_some] at hnew
      exact .inr (.inl ⟨state, rfl, hnew⟩)
  · exact .inr (.inr hold)

/-- Who is banned has an entry with the end of the ban. -/
theorem entry_of_isBanned {cache : lru.Cache} {addr : SocketAddr} {now : Nat}
    (h : isBanned lru cache addr now = true) :
    ∃ state instant, (BanKey.fromSocket addr, state) ∈ lru.entries cache ∧
      state.bannedUntil = some instant ∧ now < instant := by
  unfold isBanned isBannedKey at h
  split at h
  case h_2 => cases h
  case h_1 state hpeek =>
    unfold BanState.bannedAt at h
    split at h
    case h_2 => cases h
    case h_1 instant hinstant =>
      exact ⟨state, instant, lru.mem_of_peek _ _ _ hpeek, hinstant, of_decide_eq_true h⟩

theorem entries_empty_ne (entry : BanKey × BanState) : entry ∉ lru.entries lru.empty := by
  rw [lru.entries_empty]
  exact List.not_mem_nil

theorem owned_fresh (own : List Nat) (now : Nat) : Owned (own ++ [now]) ⟨1, now, none⟩ :=
  ⟨own, [], rfl, fun _ ht => (by cases ht), Nat.le_refl _, fun _ h => (by cases h)⟩

/-- **One more failure** of the key. -/
theorem owned_failedAt {own : List Nat} {state : BanState} (h : Owned own state) (now : Nat) :
    Owned (own ++ [now]) (state.failedAt now) := by
  unfold BanState.failedAt
  split
  case isTrue hstale =>
    exact owned_fresh own now
  case isFalse hwindow =>
    obtain ⟨earlier, rest, rfl, hrest, hcount, hban⟩ := h
    have hnow : now ≤ state.firstFailureAt + window := by omega
    have hlength : (rest ++ [now]).length = rest.length + 1 := by simp
    have hrest' : ∀ t ∈ rest ++ [now], t ≤ state.firstFailureAt + window := by
      intro t ht
      rcases List.mem_append.mp ht with ht | ht
      · exact hrest t ht
      · rwa [List.mem_singleton.mp ht]
    obtain ⟨count, hnext, -, ⟨hbump, -⟩ | ⟨duration, hbump, hfive, hhour, -⟩⟩ :=
      state.bump_cases now
    · rw [hbump]
      refine ⟨earlier, rest ++ [now], by simp, hrest', by dsimp only; omega, fun instant h => ?_⟩
      obtain ⟨hfour, t, ht, hle⟩ := hban instant h
      exact ⟨by omega, t, List.mem_append_left [now] ht, hle⟩
    · rw [hbump]
      refine ⟨earlier, rest ++ [now], by simp, hrest', by dsimp only; omega, fun instant h => ?_⟩
      cases h
      exact ⟨by omega, now, by simp, Nat.add_le_add_left hhour now⟩

theorem ownFailures_concat (key : BanKey) (fails : List (SocketAddr × Nat))
    (fail : SocketAddr × Nat) :
    ownFailures key (fails ++ [fail]) =
      ownFailures key fails ++ if BanKey.fromSocket fail.1 = key then [fail.2] else [] := by
  unfold ownFailures
  rw [List.filter_append, List.map_append]
  by_cases hkey : BanKey.fromSocket fail.1 = key <;> simp [hkey]

/-- What the table knows of a key is of its own failures. -/
theorem owned_recorded (fails : List (SocketAddr × Nat)) :
    ∀ entry ∈ lru.entries (recorded lru fails), Owned (ownFailures entry.1 fails) entry.2 := by
  induction fails using List.reverseRecOn with
  | nil => exact fun entry hentry => absurd hentry (entries_empty_ne entry)
  | append_singleton fails fail ih =>
    intro entry hentry
    rw [recorded, List.foldl_append] at hentry
    rw [ownFailures_concat]
    rcases mem_recordFailure hentry with rfl | ⟨state, hpeek, rfl⟩ | ⟨hold, hother⟩
    · rw [if_pos rfl]
      exact owned_fresh _ _
    · rw [if_pos rfl]
      exact owned_failedAt (ih _ (lru.mem_of_peek _ _ _ hpeek)) fail.2
    · rw [if_neg (Ne.symm hother), List.append_nil]
      exact ih entry hold

/-- **Nobody is banned for others**: who is banned has five failures of his own key within a minute,
    and one within the last hour, however the failures of all the keys are mixed. -/
theorem isBanned_needs_five {fails : List (SocketAddr × Nat)} {addr : SocketAddr} {now : Nat}
    (h : isBanned lru (recorded lru fails) addr now = true) :
    ∃ earlier first rest,
      ownFailures (BanKey.fromSocket addr) fails = earlier ++ first :: rest ∧ 4 ≤ rest.length ∧
        (∀ t ∈ rest, t ≤ first + window) ∧ ∃ t ∈ first :: rest, now < t + seconds 3600 := by
  obtain ⟨state, instant, hentry, hinstant, hlt⟩ := entry_of_isBanned h
  obtain ⟨earlier, rest, hown, hrest, -, hban⟩ := owned_recorded fails _ hentry
  obtain ⟨hfour, t, ht, hle⟩ := hban instant hinstant
  exact ⟨earlier, _, rest, hown, hfour, hrest, t, ht, by omega⟩

/-- A table for two keys. -/
def sampleTable : LruCache BanKey BanState := .listed BanKey BanState 2

def samplePeer (last : UInt32) : SocketAddr := ⟨.v4 (0x0a000000 + last), 443⟩

/-- The fifth failure bans, and it was the fifth within a minute. -/
theorem fifth_failure_bans :
    ∃ earlier first rest,
      ownFailures (BanKey.fromSocket (samplePeer 1)) ((samplePeer 2, 0) ::
        [1, 2, 3, 4, 5].map fun t => (samplePeer 1, t)) = earlier ++ first :: rest ∧
      4 ≤ rest.length ∧ (∀ t ∈ rest, t ≤ first + window) ∧
        ∃ t ∈ first :: rest, 6 < t + seconds 3600 :=
  @isBanned_needs_five sampleTable _ _ 6 (by decide)

/-! ## The upper rungs -/

/-- The table, and when it was last written. -/
structure Watched (lru : LruCache BanKey BanState) where
  cache : lru.Cache
  clock : Nat

/-- A peer that connects, and whose handshake has failed some time later. -/
structure Visit where
  addr : SocketAddr
  acceptedAt : Nat
  failedAt : Nat

/-- One connection of `run_accept_loop` with a handshake that fails: who is banned is not let in. -/
def Watched.visit (s : Watched lru) (v : Visit) : Watched lru :=
  if isBanned lru s.cache v.addr v.acceptedAt then ⟨s.cache, v.acceptedAt⟩
  else ⟨(recordFailure lru s.cache v.addr v.failedAt).2, v.failedAt⟩

/-- One connection after the other. -/
def InTurn (s : Watched lru) (v : Visit) : Prop :=
  s.clock ≤ v.acceptedAt ∧ v.acceptedAt ≤ v.failedAt

instance (s : Watched lru) (v : Visit) : Decidable (InTurn s v) :=
  inferInstanceAs (Decidable (_ ∧ _))

/-- An entry on the first rung at most.  The ban is over when the next failure is recorded, and so
    is the window, but for the failure at the very end of both. -/
structure Low (clock : Nat) (state : BanState) : Prop where
  first_le : state.firstFailureAt ≤ clock
  count_le : state.failureCount ≤ 6
  free : state.failureCount < 5 → state.bannedUntil = none
  banned : 5 ≤ state.failureCount → ∃ last, state.bannedUntil = some (last + seconds 60) ∧
    state.firstFailureAt ≤ last ∧ last ≤ clock ∧
      (state.failureCount = 6 → state.firstFailureAt + window ≤ last)

theorem Low.mono {clock now : Nat} {state : BanState} (h : Low clock state) (hle : clock ≤ now) :
    Low now state where
  first_le := Nat.le_trans h.first_le hle
  count_le := h.count_le
  free := h.free
  banned hfive := by
    obtain ⟨last, hban, hfirst, hlast, hsix⟩ := h.banned hfive
    exact ⟨last, hban, hfirst, Nat.le_trans hlast hle, hsix⟩

theorem low_fresh (now : Nat) : Low now ⟨1, now, none⟩ :=
  ⟨Nat.le_refl _, by dsimp only; omega, fun _ => rfl, fun h => absurd h (by dsimp only; omega)⟩

/-- **One failure of somebody who was let in.** -/
theorem Low.failedAt {clock accepted now : Nat} {state : BanState} (h : Low clock state)
    (hclock : clock ≤ accepted) (hle : accepted ≤ now) (hnot : state.bannedAt accepted = false) :
    Low now (state.failedAt now) := by
  have hfirst := h.first_le
  have hcount := h.count_le
  unfold BanState.failedAt
  split
  case isTrue hstale => exact low_fresh now
  case isFalse hwindow =>
    have hminute : window = seconds 60 := rfl
    have hpos : 0 < seconds 60 := by decide
    -- The ban is over, so a sixth failure comes at the very end of the window and a seventh later.
    have hover : 5 ≤ state.failureCount →
        state.failureCount = 5 ∧ state.firstFailureAt + window ≤ now := by
      intro hfive
      obtain ⟨last, hban, hfirstLast, -, hsix⟩ := h.banned hfive
      have hend : last + seconds 60 ≤ accepted := by
        simpa [BanState.bannedAt, hban] using hnot
      by_cases heq : state.failureCount = 6
      · have := hsix heq
        omega
      · omega
    obtain ⟨count, -, hnext, ⟨hbump, hlow⟩ | ⟨duration, hbump, hfive, -, hsixty⟩⟩ :=
      state.bump_cases now
    · have hnext := hnext (by omega)
      rw [hbump]
      exact ⟨by dsimp only; omega, by dsimp only; omega, fun _ => h.free (by omega),
        fun hfive => absurd hfive (by dsimp only; omega)⟩
    · have hnext := hnext (by omega)
      rw [hbump, hsixty (by omega)]
      refine ⟨by dsimp only; omega, by dsimp only; omega,
        fun hlow => absurd hlow (by dsimp only; omega),
        fun _ => ⟨now, rfl, by dsimp only; omega, Nat.le_refl _, fun hsix => ?_⟩⟩
      exact (hover (by dsimp only at hsix; omega)).2

/-- **The bans of ten minutes and of an hour are out of reach** of those who connect one time after
    the other: they are not let in while they are banned, so nobody is banned for more than a
    minute. -/
theorem bans_at_most_a_minute {clock : Nat} {visits : List Visit}
    (hrun : Along (@Watched.visit lru) InTurn ⟨lru.empty, clock⟩ visits) :
    ∀ s ∈ states Watched.visit ⟨lru.empty, clock⟩ visits, ∀ addr now,
      isBanned lru s.cache addr now = true → now < s.clock + seconds 60 := by
  have hlow : ∀ s ∈ states Watched.visit (⟨lru.empty, clock⟩ : Watched lru) visits,
      ∀ entry ∈ lru.entries s.cache, Low s.clock entry.2 := by
    refine states_invariant (fun s v hs hv => ?_)
      (fun entry hentry => absurd hentry (entries_empty_ne entry)) hrun
    unfold Watched.visit
    split
    case isTrue hbanned => exact fun entry hentry => (hs entry hentry).mono hv.1
    case isFalse hnot =>
      intro entry hentry
      rcases mem_recordFailure hentry with rfl | ⟨state, hpeek, rfl⟩ | ⟨hold, -⟩
      · exact low_fresh v.failedAt
      · rw [isBanned, isBannedKey, hpeek, Bool.not_eq_true] at hnot
        exact (hs _ (lru.mem_of_peek _ _ _ hpeek)).failedAt hv.1 hv.2 hnot
      · exact (hs entry hold).mono (Nat.le_trans hv.1 hv.2)
  intro s hs addr now hbanned
  obtain ⟨state, instant, hentry, hinstant, hlt⟩ := entry_of_isBanned hbanned
  have hstate : Low s.clock state := hlow s hs _ hentry
  by_cases hfive : 5 ≤ state.failureCount
  · obtain ⟨last, hban, -, hlast, -⟩ := hstate.banned hfive
    cases hinstant.symm.trans hban
    omega
  · cases hinstant.symm.trans (hstate.free (by omega))

/-- Five failures at once, one connection that is not let in, and a sixth failure at the end of the
    ban. -/
def sampleVisits : List Visit :=
  [0, 0, 0, 0, 0, seconds 30, seconds 60].map fun t => ⟨samplePeer 1, t, t⟩

/-- The sixth failure bans again, for a minute. -/
theorem sixth_failure_a_minute :
    isBanned sampleTable (sampleVisits.foldl Watched.visit (⟨sampleTable.empty, 0⟩ :
        Watched sampleTable)).cache (samplePeer 1) (seconds 119) = true ∧
      seconds 119 < seconds 60 + seconds 60 :=
  ⟨by decide, @bans_at_most_a_minute sampleTable 0 sampleVisits (by decide) _
    (foldl_mem_states _ _) (samplePeer 1) (seconds 119) (by decide)⟩

end IpBan

end Oneshim
