/-
  The sync engine (`src-tauri/src/sync_engine.rs`): one cycle of consent check, pull and merge,
  extract and push.

  The engine reaches the other devices only through a `SyncTransport`; what the transport talks to
  is a state of an arbitrary type `σ`, so a statement about every transport and every `σ` is a
  statement about every behaviour of the network and of the other devices, pushes that fail
  included.

  The pull loop ends when the transport has nothing more, and a transport may always have more:
  the loop takes FUEL, and running out of it gives no result at all.  Next to its result a cycle
  returns what it did to the outside, in order: the changesets it passed to `apply_changes` and the
  pushes it attempted.
-/
import Oneshim.Core.Consent
import Oneshim.Storage.SyncExtractor
import Oneshim.Storage.SyncMerger

namespace Oneshim

/-- `SyncEngine`, the parts fixed at construction. -/
structure SyncEngine (σ : Type) where
  /-- How a `REAL` column comes out of its decimal text. -/
  jsonReal : F64 → Option F64
  extractor : SqliteSyncExtractor
  /-- The device id of the merger. -/
  mergerDeviceId : String
  transport : SyncTransport σ
  deviceId : String
  deviceName : String

/-- What a running engine works on: the database, the consent manager it was given, the state
    behind the transport, and its own mutable fields. -/
structure World (σ : Type) where
  db : Database
  consentManager : Option ConsentManager
  net : σ
  lastPushWatermark : Hlc
  deletionPushed : Bool := false
  lastSyncAt : Option Nat := none
  lastError : Option CoreError := none

/-- What a cycle does to the outside. -/
inductive SyncEvent where
  /-- The changeset was passed to `apply_changes`. -/
  | applied (changes : ChangeSet)
  /-- The changeset was passed to `push`, which succeeded or failed. -/
  | pushed (changes : ChangeSet) (succeeded : Bool)

/-- The result of an operation of the engine, with the world and the events. -/
abbrev Outcome (σ α : Type) := Except CoreError α × World σ × List SyncEvent

namespace SyncEngine

variable {σ : Type} (self : SyncEngine σ)

/-- `SyncEngine::new`: the push watermark is seeded from the database. -/
def new (db : Database) (consentManager : Option ConsentManager) (net : σ) : World σ where
  db := db
  consentManager := consentManager
  net := net
  lastPushWatermark :=
    match self.extractor.localWatermark db with
    | .ok wm => wm
    | .error _ => Hlc.default

/-- The pull loop: pull after the last applied watermark until there is nothing more. -/
def pullLoop : Nat → Hlc → Option SyncResult → World σ → Option (Outcome σ (Option SyncResult))
  | 0, _, _, _ => none
  | fuel + 1, watermark, mergeResult, w =>
    match self.transport.pull watermark w.net with
    | (.error e, net) => some (.error e, { w with net }, [])
    | (.ok none, net) => some (.ok mergeResult, { w with net }, [])
    | (.ok (some changeset), net) =>
      match applyChanges self.mergerDeviceId changeset w.db with
      | (.error e, db) => some (.error e, { w with net, db }, [.applied changeset])
      | (.ok result, db) =>
        (pullLoop fuel result.newWatermark (some result) { w with net, db }).map
          (fun (r, w', events) => (r, w', .applied changeset :: events))

/-- The push phase: extract what changed since the last successful push, and push it. -/
def pushPhase (w : World σ) : Outcome σ Unit :=
  match self.extractor.getChangesSince self.jsonReal w.lastPushWatermark w.db with
  | (.error e, db) => (.error e, { w with db }, [])
  | (.ok localChanges, db) =>
    if localChanges.isEmpty then (.ok (), { w with db }, [])
    else
      match self.transport.push localChanges w.net with
      | (.error e, net) => (.error e, { w with db, net }, [.pushed localChanges false])
      | (.ok (), net) =>
        (.ok (), { w with db, net, lastPushWatermark := localChanges.watermark },
          [.pushed localChanges true])

/-- The changeset that tells the peers to forget this device. -/
def deletionChangeSet (now : Nat) : ChangeSet :=
  { kind := .deletionEvent, originDeviceId := self.deviceId, originDeviceName := self.deviceName,
    watermark := Hlc.now now self.deviceId }

/-- `push_deletion_event`. -/
def pushDeletionEvent (now : Nat) (w : World σ) : Outcome σ (Option SyncResult) :=
  match self.transport.push (self.deletionChangeSet now) w.net with
  | (.error e, net) => (.error e, { w with net }, [.pushed (self.deletionChangeSet now) false])
  | (.ok (), net) =>
    (.ok none, { w with net, deletionPushed := true }, [.pushed (self.deletionChangeSet now) true])

/-- Gate 1: may this device sync at all?  Without a consent manager it may. -/
def syncPermitted (w : World σ) : Bool :=
  match w.consentManager with
  | none => true
  | some cm => cm.isPermitted (fun p => p.crossDeviceSync)

/-- Gate 2: is there a deletion that this engine has not pushed? -/
def deletionDue (w : World σ) : Bool :=
  !w.deletionPushed && (w.consentManager.map ConsentManager.hasPendingDeletion).getD false

/-- `run_cycle_inner`. -/
def runCycleInner (fuel now : Nat) (w : World σ) : Option (Outcome σ (Option SyncResult)) :=
  if !syncPermitted w then some (.ok none, w, [])
  else if deletionDue w then some (self.pushDeletionEvent now w)
  else
    match self.extractor.localWatermark w.db with
    | .error e => some (.error e, w, [])
    | .ok localWatermark =>
      match self.pullLoop fuel localWatermark none w with
      | none => none
      | some (.error e, w', events) => some (.error e, w', events)
      | some (.ok mergeResult, w', events) =>
        match self.pushPhase w' with
        | (.error e, w'', pushes) => some (.error e, w'', events ++ pushes)
        | (.ok (), w'', pushes) => some (.ok mergeResult, w'', events ++ pushes)

/-- `run_cycle`: the health fields around `run_cycle_inner`. -/
def runCycle (fuel now : Nat) (w : World σ) : Option (Outcome σ (Option SyncResult)) :=
  match self.runCycleInner fuel now w with
  | none => none
  | some (.ok result, w', events) =>
    some (.ok result, { w' with lastSyncAt := some now, lastError := none }, events)
  | some (.error e, w', events) => some (.error e, { w' with lastError := some e }, events)

/-! ## What a cycle can do -/

variable {w w' : World σ} {r : Except CoreError (Option SyncResult)} {events : List SyncEvent}

/-- **Inversion of the pull loop**: one pull, and what follows from its answer. -/
theorem pullLoop_cases {fuel : Nat} {since : Hlc} {m : Option SyncResult}
    (h : self.pullLoop fuel since m w = some (r, w', events)) :
    ∃ fuel', fuel = fuel' + 1 ∧
      ((∃ e net, self.transport.pull since w.net = (.error e, net) ∧ r = .error e ∧
          w' = { w with net } ∧ events = []) ∨
       (∃ net, self.transport.pull since w.net = (.ok none, net) ∧ r = .ok m ∧
          w' = { w with net } ∧ events = []) ∨
       ∃ cs net, self.transport.pull since w.net = (.ok (some cs), net) ∧
        ((∃ e db, applyChanges self.mergerDeviceId cs w.db = (.error e, db) ∧ r = .error e ∧
            w' = { w with net, db } ∧ events = [.applied cs]) ∨
         ∃ result db rest, applyChanges self.mergerDeviceId cs w.db = (.ok result, db) ∧
            self.pullLoop fuel' result.newWatermark (some result) { w with net, db }
              = some (r, w', rest) ∧ events = .applied cs :: rest)) := by
  cases fuel with
  | zero => nomatch h
  | succ fuel' =>
    refine ⟨fuel', rfl, ?_⟩
    unfold pullLoop at h
    split at h
    case h_1 e net hpull =>
      cases h
      exact .inl ⟨e, net, hpull, rfl, rfl, rfl⟩
    case h_2 net hpull =>
      cases h
      exact .inr (.inl ⟨net, hpull, rfl, rfl, rfl⟩)
    case h_3 cs net hpull =>
      refine .inr (.inr ⟨cs, net, hpull, ?_⟩)
      split at h
      case h_1 e db happly =>
        cases h
        exact .inl ⟨e, db, happly, rfl, rfl, rfl⟩
      case h_2 result db happly =>
        obtain ⟨⟨r₀, w₀, rest⟩, hloop, heq⟩ := Option.map_eq_some_iff.mp h
        cases heq
        exact .inr ⟨result, db, rest, happly, hloop, rfl⟩

/-- The pull loop only applies. -/
theorem pullLoop_events {fuel : Nat} {since : Hlc} {m : Option SyncResult}
    (h : self.pullLoop fuel since m w = some (r, w', events)) :
    ∀ e ∈ events, ∃ cs, e = .applied cs := by
  induction fuel generalizing since m w events with
  | zero => nomatch h
  | succ fuel ih =>
    obtain ⟨fuel', hfuel, hcases⟩ := self.pullLoop_cases h
    cases hfuel
    rcases hcases with ⟨_, _, -, -, -, rfl⟩ | ⟨_, -, -, -, rfl⟩ | ⟨cs, net, -, hcases⟩
    · exact fun e he => (nomatch he)
    · exact fun e he => (nomatch he)
    · rcases hcases with ⟨_, _, -, -, -, rfl⟩ | ⟨result, db, rest, -, hrest, rfl⟩
      · exact fun e he => ⟨cs, List.mem_singleton.mp he⟩
      · intro e he
        rcases List.mem_cons.mp he with rfl | he
        · exact ⟨cs, rfl⟩
        · exact ih hrest e he

/-- **Inversion of the push phase**: nothing extracted, nothing to push, or one push. -/
theorem pushPhase_cases {p : Except CoreError Unit} (h : self.pushPhase w = (p, w', events)) :
    (∃ e db, self.extractor.getChangesSince self.jsonReal w.lastPushWatermark w.db
        = (.error e, db) ∧ p = .error e ∧ w' = { w with db } ∧ events = []) ∨
    ∃ cs db, self.extractor.getChangesSince self.jsonReal w.lastPushWatermark w.db
        = (.ok cs, db) ∧
      ((cs.isEmpty = true ∧ p = .ok () ∧ w' = { w with db } ∧ events = []) ∨
       (cs.isEmpty = false ∧ ∃ e net, self.transport.push cs w.net = (.error e, net) ∧
          p = .error e ∧ w' = { w with db, net } ∧ events = [.pushed cs false]) ∨
       (cs.isEmpty = false ∧ ∃ net, self.transport.push cs w.net = (.ok (), net) ∧ p = .ok () ∧
          w' = { w with db, net, lastPushWatermark := cs.watermark } ∧
          events = [.pushed cs true])) := by
  unfold pushPhase at h
  split at h
  case h_1 e db hget =>
    cases h
    exact .inl ⟨e, db, hget, rfl, rfl, rfl⟩
  case h_2 cs db hget =>
    refine .inr ⟨cs, db, hget, ?_⟩
    split at h
    case isTrue hempty =>
      cases h
      exact .inl ⟨hempty, rfl, rfl, rfl⟩
    case isFalse hfull =>
      right
      split at h
      case h_1 e net hpush =>
        cases h
        exact .inl ⟨Bool.not_eq_true _ ▸ hfull, e, net, hpush, rfl, rfl, rfl⟩
      case h_2 net hpush =>
        cases h
        exact .inr ⟨Bool.not_eq_true _ ▸ hfull, net, hpush, rfl, rfl, rfl⟩

/-- The push phase only pushes. -/
theorem pushPhase_events {p : Except CoreError Unit} (h : self.pushPhase w = (p, w', events)) :
    ∀ e ∈ events, ∃ cs b, e = .pushed cs b := by
  intro e he
  rcases self.pushPhase_cases h with ⟨_, _, -, -, -, rfl⟩ | ⟨cs, db, -, hcases⟩
  · nomatch he
  · rcases hcases with ⟨-, -, -, rfl⟩ | ⟨-, _, _, -, -, -, rfl⟩ | ⟨-, _, -, -, -, rfl⟩
    · nomatch he
    · exact ⟨cs, false, List.mem_singleton.mp he⟩
    · exact ⟨cs, true, List.mem_singleton.mp he⟩

/-- **Inversion of the deletion event**: one push, and the flag when it succeeds. -/
theorem pushDeletionEvent_cases {now : Nat} (h : self.pushDeletionEvent now w = (r, w', events)) :
    (∃ e net, self.transport.push (self.deletionChangeSet now) w.net = (.error e, net) ∧
      r = .error e ∧ w' = { w with net } ∧
      events = [.pushed (self.deletionChangeSet now) false]) ∨
    (∃ net, self.transport.push (self.deletionChangeSet now) w.net = (.ok (), net) ∧
      r = .ok none ∧ w' = { w with net, deletionPushed := true } ∧
      events = [.pushed (self.deletionChangeSet now) true]) := by
  unfold pushDeletionEvent at h
  split at h
  case h_1 e net hpush =>
    cases h
    exact .inl ⟨e, net, hpush, rfl, rfl, rfl⟩
  case h_2 net hpush =>
    cases h
    exact .inr ⟨net, hpush, rfl, rfl, rfl⟩

/-- The part of the world a cycle may change beyond the health fields. -/
structure SameState (w w' : World σ) : Prop where
  db : w'.db = w.db
  consentManager : w'.consentManager = w.consentManager
  net : w'.net = w.net
  lastPushWatermark : w'.lastPushWatermark = w.lastPushWatermark
  deletionPushed : w'.deletionPushed = w.deletionPushed

/-- The wrapper only touches the health fields. -/
theorem runCycle_inner {fuel now : Nat} (h : self.runCycle fuel now w = some (r, w', events)) :
    ∃ w₁, self.runCycleInner fuel now w = some (r, w₁, events) ∧ SameState w₁ w' := by
  unfold runCycle at h
  split at h
  case h_1 => nomatch h
  case h_2 result w₁ ev hr =>
    cases h
    exact ⟨w₁, hr, ⟨rfl, rfl, rfl, rfl, rfl⟩⟩
  case h_3 e w₁ ev hr =>
    cases h
    exact ⟨w₁, hr, ⟨rfl, rfl, rfl, rfl, rfl⟩⟩

/-- **Inversion of a cycle**: gated, a deletion event, or pull and push. -/
theorem runCycle_cases {fuel now : Nat} (h : self.runCycle fuel now w = some (r, w', events)) :
    (syncPermitted w = false ∧ r = .ok none ∧ events = [] ∧ SameState w w') ∨
    (syncPermitted w = true ∧ deletionDue w = true ∧ ∃ w₁,
      self.pushDeletionEvent now w = (r, w₁, events) ∧ SameState w₁ w') ∨
    (syncPermitted w = true ∧ deletionDue w = false ∧
      ((∃ e, r = .error e ∧ self.extractor.localWatermark w.db = .error e ∧ events = [] ∧
          SameState w w') ∨
       ∃ wm, self.extractor.localWatermark w.db = .ok wm ∧
        ((∃ e w₁, r = .error e ∧ self.pullLoop fuel wm none w = some (.error e, w₁, events) ∧
            SameState w₁ w') ∨
         ∃ m w₁ pulls w₂ p pushes, self.pullLoop fuel wm none w = some (.ok m, w₁, pulls) ∧
            self.pushPhase w₁ = (p, w₂, pushes) ∧ events = pulls ++ pushes ∧ SameState w₂ w' ∧
            (∀ x, r = .ok x → p = .ok ())))) := by
  obtain ⟨w₁, hin, hw⟩ := self.runCycle_inner h
  unfold runCycleInner at hin
  cases hp : syncPermitted w with
  | false =>
    rw [hp] at hin
    cases hin
    exact .inl ⟨rfl, rfl, rfl, hw⟩
  | true =>
    right
    rw [hp] at hin
    cases hd : deletionDue w with
    | true =>
      rw [hd] at hin
      exact .inl ⟨rfl, rfl, w₁, Option.some.inj hin, hw⟩
    | false =>
      rw [hd] at hin
      refine .inr ⟨rfl, rfl, ?_⟩
      simp only [Bool.not_true, Bool.false_eq_true, if_false] at hin
      split at hin
      case h_1 e hm =>
        cases hin
        exact .inl ⟨e, rfl, hm, rfl, hw⟩
      case h_2 wm hm =>
        refine .inr ⟨wm, hm, ?_⟩
        split at hin
        case h_1 => nomatch hin
        case h_2 e w₂ ev hl =>
          cases hin
          exact .inl ⟨e, w₁, rfl, hl, hw⟩
        case h_3 m w₂ ev hl =>
          right
          split at hin
          case h_1 e w₃ pushes hpush =>
            cases hin
            exact ⟨m, w₂, ev, w₁, _, pushes, hl, hpush, rfl, hw, fun x hx => (nomatch hx)⟩
          case h_2 w₃ pushes hpush =>
            cases hin
            exact ⟨m, w₂, ev, w₁, _, pushes, hl, hpush, rfl, hw, fun _ _ => rfl⟩

end SyncEngine
end Oneshim
