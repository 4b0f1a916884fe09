/-
  Confirmations (`oneshim-automation/src/controller/{mod,port_impl}.rs`).

  A command that needs the user's approval puts an entry into a table and waits, 30 seconds at most,
  on a oneshot channel whose sender is in the entry.  The table is keyed by the COMMAND id, which the
  client chooses; a request is identified by its NONCE.

  1. **Code** — the operations on the table, and `ConfirmationCall`: where a call stands between two
     of its locks and awaits.

  2. **What a turn does** — to the channels (`channels_turn`), to the table (`find?_turn`), and to the
     record of the run (`registered_mem_turn`, `ended_mem_turn`).

  3. **Approval** (`approved_while_waiting`) — in every run a request is approved only through a
     `submit_confirmation` with its own nonce, made while it waited.

  The callback that shows the request to the user is left out: it reads the entry and changes
  nothing.
-/
import Mathlib.Logic.Function.Basic
import Oneshim.Lib.Calls
import Oneshim.Lib.Table

namespace Oneshim.Automation

open Lib

/-! ## The code -/

/-- `PendingConfirmation`; the time is in seconds. -/
structure PendingConfirmation where
  commandId : String
  nonce : String
  processName : String
  args : List String
  auditLevel : String
  requestedAt : Int
  deriving DecidableEq

/-- `CoreError`, the variants that are built here. -/
inductive CoreError where
  | permissionDenied (message : String)
  | notFound (resourceType id : String)

/-- A oneshot channel: nothing sent yet, a value to be received, or one of its ends dropped. -/
inductive Channel where
  | empty
  | value (approved : Bool)
  | closed
  deriving DecidableEq

/-- A row of `pending_confirmations`; a channel has the number of the call that receives from it. -/
structure PendingEntry where
  confirmation : PendingConfirmation
  sender : Nat

/-- The key of a row. -/
def PendingEntry.commandId (entry : PendingEntry) : String := entry.confirmation.commandId

/-- `pending_confirmations` and the channels. -/
structure PendingConfirmations where
  table : Table PendingEntry.commandId
  channels : Nat → Channel

namespace PendingConfirmations

/-- The sender under a command id is dropped: a receiver that still waits learns that there will be
    no answer. -/
def dropSender (commandId : String) (self : PendingConfirmations) : PendingConfirmations :=
  match self.table.find? commandId with
  | none => self
  | some entry =>
    if self.channels entry.sender = .empty then
      { self with channels := Function.update self.channels entry.sender .closed }
    else self

/-- `insert` of the table; an entry that was there is dropped. -/
def insert (entry : PendingEntry) (self : PendingConfirmations) : PendingConfirmations :=
  let self := self.dropSender entry.commandId
  { self with table := self.table.upsert entry }

/-- `remove` of the table, the entry dropped. -/
def remove (commandId : String) (self : PendingConfirmations) : PendingConfirmations :=
  let self := self.dropSender commandId
  { self with table := self.table.remove commandId }

/-- `sender.send`; without a receiver the value is lost. -/
def send (sender : Nat) (approved : Bool) (self : PendingConfirmations) : PendingConfirmations :=
  if self.channels sender = .empty then
    { self with channels := Function.update self.channels sender (.value approved) }
  else self

/-- `list_pending_confirmations`. -/
def listPendingConfirmations (self : PendingConfirmations) : List PendingConfirmation :=
  self.table.rows.map PendingEntry.confirmation

/-- `submit_confirmation`. -/
def submitConfirmation (commandId nonce : String) (approved : Bool) (self : PendingConfirmations) :
    Except CoreError Unit × PendingConfirmations :=
  match self.table.find? commandId with
  | some entry =>
    let removed := { self with table := self.table.remove commandId }
    if entry.confirmation.nonce ≠ nonce then
      (.error (.permissionDenied s!"confirm automation command '{commandId}': nonce mismatch"),
        { removed with table := removed.table.upsert entry })
    else (.ok (), removed.send entry.sender approved)
  | none => (.error (.notFound "PendingConfirmation" commandId), self)

end PendingConfirmations

/-- Where a call stands. -/
inductive ConfirmationCall where
  /-- `request_confirmation` before its insert. -/
  | requesting (confirmation : PendingConfirmation)
  | waiting (confirmation : PendingConfirmation)
  /-- The time is up, or the sender is gone. -/
  | removing (confirmation : PendingConfirmation)
  | answered (confirmation : PendingConfirmation) (approved : Bool)
  | submitting (commandId nonce : String) (approved : Bool)
  | submitted (result : Except CoreError Unit)
  | listing
  | listed (confirmations : List PendingConfirmation)

/-- A call up to its next lock or await; `elapsed` says whether its 30 seconds are over. -/
def PendingConfirmations.turn (self : PendingConfirmations) (caller : Nat) (elapsed : Bool) :
    ConfirmationCall → PendingConfirmations × ConfirmationCall
  | .requesting confirmation =>
    (PendingConfirmations.insert ⟨confirmation, caller⟩
      { self with channels := Function.update self.channels caller .empty }, .waiting confirmation)
  | .waiting confirmation =>
    -- the channel is looked at before the clock
    match self.channels caller with
    | .value approved => (self, .answered confirmation approved)
    | .closed => (self, .removing confirmation)
    | .empty =>
      if elapsed then
        ({ self with channels := Function.update self.channels caller .closed },
          .removing confirmation)
      else (self, .waiting confirmation)
  | .removing confirmation => (self.remove confirmation.commandId, .answered confirmation false)
  | .submitting commandId nonce approved =>
    let (result, self) := self.submitConfirmation commandId nonce approved
    (self, .submitted result)
  | .listing => (self, .listed self.listPendingConfirmations)
  | .answered confirmation approved => (self, .answered confirmation approved)
  | .submitted result => (self, .submitted result)
  | .listed confirmations => (self, .listed confirmations)

/-! ## Runs and what is recorded of them -/

/-- The calls of the port. -/
inductive ConfirmationRequest where
  /-- `request_confirmation`, with the nonce that it draws. -/
  | request (confirmation : PendingConfirmation)
  | submit (commandId nonce : String) (approved : Bool)
  | list

/-- Where a new call stands. -/
def ConfirmationRequest.call : ConfirmationRequest → ConfirmationCall
  | .request confirmation => .requesting confirmation
  | .submit commandId nonce approved => .submitting commandId nonce approved
  | .list => .listing

/-- What a turn leaves in the record of the run. -/
inductive ConfirmationEvent where
  /-- The call is in the table and begins to wait. -/
  | registered (caller : Nat) (confirmation : PendingConfirmation)
  | submitted (commandId nonce : String) (approved : Bool)
  /-- The call has stopped waiting. -/
  | ended (caller : Nat)

/-- The event of a turn. -/
def ConfirmationCall.event (self : PendingConfirmations) (caller : Nat) (elapsed : Bool) :
    ConfirmationCall → Option ConfirmationEvent
  | .requesting confirmation => some (.registered caller confirmation)
  | .waiting _ => if self.channels caller = .empty ∧ !elapsed then none else some (.ended caller)
  | .submitting commandId nonce approved => some (.submitted commandId nonce approved)
  | _ => none

/-- The table, and the events so far, the newest first. -/
structure RecordedConfirmations where
  pending : PendingConfirmations
  log : List ConfirmationEvent

/-- A turn, with its record. -/
def RecordedConfirmations.turn (self : RecordedConfirmations) (caller : Nat) (elapsed : Bool)
    (call : ConfirmationCall) : RecordedConfirmations × ConfirmationCall :=
  (⟨(self.pending.turn caller elapsed call).1,
    (call.event self.pending caller elapsed).toList ++ self.log⟩,
    (self.pending.turn caller elapsed call).2)

/-- The calls over the recorded table. -/
def confirmationCalls : CallSystem RecordedConfirmations ConfirmationRequest Bool
    ConfirmationCall where
  enter := ConfirmationRequest.call
  turn := RecordedConfirmations.turn

/-- The states of the table and its callers. -/
abbrev ConfirmationSystem := Calls RecordedConfirmations ConfirmationCall

/-- What can happen next. -/
abbrev ConfirmationMove := CallMove ConfirmationRequest Bool

/-- An empty table. -/
def RecordedConfirmations.start : RecordedConfirmations := ⟨⟨.empty, fun _ => .closed⟩, []⟩

/-- An empty table, before any call. -/
def ConfirmationSystem.start : ConfirmationSystem := ⟨.start, []⟩

/-- An approving submit with the nonce of the request was made after the request was registered and
    before it stopped waiting. -/
def ApprovedWhileWaiting (log : List ConfirmationEvent) (caller : Nat)
    (confirmation : PendingConfirmation) : Prop :=
  ∃ newer older, log =
      newer ++ .submitted confirmation.commandId confirmation.nonce true :: older ∧
    .registered caller confirmation ∈ older ∧ .ended caller ∉ older

/-! ## What the operations do -/

namespace PendingConfirmations

variable {self : PendingConfirmations} {commandId : String} {i : Nat}

@[simp] theorem table_dropSender : (self.dropSender commandId).table = self.table := by
  unfold dropSender
  cases self.table.find? commandId with
  | none => rfl
  | some entry =>
    show (if _ then _ else _ : PendingConfirmations).table = _
    split <;> rfl

/-- A channel that is not closed by `dropSender` is left alone. -/
theorem channels_dropSender (self : PendingConfirmations) (commandId : String) (i : Nat) :
    (self.dropSender commandId).channels i = self.channels i ∨
      (self.dropSender commandId).channels i = .closed := by
  unfold dropSender
  cases self.table.find? commandId with
  | none => exact .inl rfl
  | some entry =>
    show (if _ then _ else _ : PendingConfirmations).channels i = _ ∨
      (if _ then _ else _ : PendingConfirmations).channels i = _
    split
    · by_cases hi : i = entry.sender
      · subst hi
        exact .inr (Function.update_self _ _ _)
      · exact .inl (Function.update_of_ne hi _ _)
    · exact .inl rfl

/-- A send fills the empty channel it is for, and touches no other. -/
theorem send_channels (sender : Nat) (approved : Bool) :
    (self.send sender approved).channels i =
      if i = sender ∧ self.channels i = .empty then .value approved else self.channels i := by
  unfold send
  by_cases hi : i = sender
  · subst hi
    by_cases hempty : self.channels i = .empty
    · rw [if_pos hempty, if_pos ⟨rfl, hempty⟩]
      exact Function.update_self _ _ _
    · rw [if_neg hempty, if_neg (fun h => hempty h.2)]
  · have hother : ¬ (i = sender ∧ self.channels i = .empty) := fun h => hi h.1
    by_cases hempty : self.channels sender = .empty
    · rw [if_pos hempty, if_neg hother]
      exact Function.update_of_ne hi _ _
    · rw [if_neg hempty, if_neg hother]

@[simp] theorem table_send (sender : Nat) (approved : Bool) :
    (self.send sender approved).table = self.table := by
  unfold send
  split <;> rfl

/-- **What a submit can do**: it is refused and changes nothing, or it has the nonce of the entry
    under its command id, takes the entry out and sends the answer. -/
theorem submit_cases (self : PendingConfirmations) (commandId nonce : String) (approved : Bool) :
    ((∀ k, (self.submitConfirmation commandId nonce approved).2.table.find? k =
        self.table.find? k) ∧
      (self.submitConfirmation commandId nonce approved).2.channels = self.channels) ∨
    ∃ entry, self.table.find? commandId = some entry ∧ entry.confirmation.nonce = nonce ∧
      self.submitConfirmation commandId nonce approved =
        (.ok (), send entry.sender approved { self with table := self.table.remove commandId }) := by
  unfold submitConfirmation
  cases hfind : self.table.find? commandId with
  | none => exact .inl ⟨fun _ => rfl, rfl⟩
  | some entry =>
    by_cases hnonce : entry.confirmation.nonce = nonce
    · refine .inr ⟨entry, rfl, hnonce, ?_⟩
      simp only [hnonce, ne_eq, not_true_eq_false, if_false]
    · refine .inl ⟨fun k => ?_, ?_⟩
      · have hkey : entry.commandId = commandId := (Table.find?_eq_some_iff.mp hfind).2
        simp only [hnonce, ne_eq, not_false_eq_true, if_true, Table.find?_upsert, Table.find?_remove]
        -- the entry goes back under its own key
        by_cases hk : entry.commandId = k
        · rw [if_pos hk, ← hfind, ← hkey, hk]
        · rw [if_neg hk, if_neg (fun h => hk (hkey.trans h.symm))]
      · simp only [hnonce, ne_eq, not_false_eq_true, if_true]

/-- **What a request that waits can do**: go on waiting, take its answer, or stop without one. -/
theorem turn_waiting_cases (self : PendingConfirmations) (caller : Nat) (elapsed : Bool)
    (confirmation : PendingConfirmation) :
    (self.channels caller = .empty ∧ elapsed = false ∧
      self.turn caller elapsed (.waiting confirmation) = (self, .waiting confirmation)) ∨
    (∃ approved, self.channels caller = .value approved ∧
      self.turn caller elapsed (.waiting confirmation) = (self, .answered confirmation approved)) ∨
    (self.channels caller = .closed ∧
      self.turn caller elapsed (.waiting confirmation) = (self, .removing confirmation)) ∨
    (self.channels caller = .empty ∧ elapsed = true ∧
      self.turn caller elapsed (.waiting confirmation) =
        ({ self with channels := Function.update self.channels caller .closed },
          .removing confirmation)) := by
  cases hchannel : self.channels caller with
  | value approved => exact .inr (.inl ⟨approved, rfl, by simp only [turn, hchannel]⟩)
  | closed => exact .inr (.inr (.inl ⟨rfl, by simp only [turn, hchannel]⟩))
  | empty =>
    cases elapsed with
    | false => exact .inl ⟨rfl, rfl, by simp only [turn, hchannel, Bool.false_eq_true, if_false]⟩
    | true => exact .inr (.inr (.inr ⟨rfl, rfl, by simp only [turn, hchannel, if_true]⟩))

/-- **What a turn can do to a channel**: open it for a request that enters the table, close it, send
    the answer of a submit through it, or nothing. -/
theorem channels_turn (self : PendingConfirmations) (caller : Nat) (elapsed : Bool)
    (call : ConfirmationCall) (i : Nat) :
    ((self.turn caller elapsed call).1.channels i = self.channels i ∧
      ∀ confirmation, call = .requesting confirmation → i ≠ caller) ∨
    (self.turn caller elapsed call).1.channels i = .closed ∨
    (∃ commandId nonce approved entry, call = .submitting commandId nonce approved ∧
      self.table.find? commandId = some entry ∧ entry.confirmation.nonce = nonce ∧
      entry.sender = i ∧ self.channels i = .empty ∧
      (self.turn caller elapsed call).1.channels i = .value approved) ∨
    (i = caller ∧ (∃ confirmation, call = .requesting confirmation) ∧
      (self.turn caller elapsed call).1.channels i = .empty) := by
  cases call with
  | requesting confirmation =>
    rcases channels_dropSender { self with channels := Function.update self.channels caller .empty }
      confirmation.commandId i with hsame | hclosed
    · by_cases hi : i = caller
      · subst hi
        exact .inr (.inr (.inr ⟨rfl, ⟨confirmation, rfl⟩,
          hsame.trans (Function.update_self _ _ _)⟩))
      · exact .inl ⟨hsame.trans (Function.update_of_ne hi _ _), fun _ _ => hi⟩
    · exact .inr (.inl hclosed)
  | waiting confirmation =>
    rcases self.turn_waiting_cases caller elapsed confirmation with
      ⟨-, -, h⟩ | ⟨_, -, h⟩ | ⟨-, h⟩ | ⟨-, -, h⟩
    · exact .inl ⟨by rw [h], fun _ hcall => by cases hcall⟩
    · exact .inl ⟨by rw [h], fun _ hcall => by cases hcall⟩
    · exact .inl ⟨by rw [h], fun _ hcall => by cases hcall⟩
    · by_cases hi : i = caller
      · subst hi
        exact .inr (.inl (by rw [h]; exact Function.update_self _ _ _))
      · exact .inl ⟨by rw [h]; exact Function.update_of_ne hi _ _, fun _ _ => hi⟩
  | removing confirmation =>
    rcases channels_dropSender self confirmation.commandId i with hsame | hclosed
    · exact .inl ⟨hsame, fun _ hcall => by cases hcall⟩
    · exact .inr (.inl hclosed)
  | submitting commandId nonce approved =>
    rcases self.submit_cases commandId nonce approved with
      ⟨-, hchannels⟩ | ⟨entry, hfind, hnonce, hsubmit⟩
    · exact .inl ⟨congrFun hchannels i, fun _ hcall => by cases hcall⟩
    · have hsend : (self.turn caller elapsed (.submitting commandId nonce approved)).1.channels i =
          if i = entry.sender ∧ self.channels i = .empty then .value approved
          else self.channels i := by
        show (self.submitConfirmation commandId nonce approved).2.channels i = _
        rw [hsubmit]
        exact send_channels _ _
      by_cases hi : i = entry.sender ∧ self.channels i = .empty
      · exact .inr (.inr (.inl ⟨commandId, nonce, approved, entry, rfl, hfind, hnonce, hi.1.symm,
          hi.2, hsend.trans (if_pos hi)⟩))
      · exact .inl ⟨hsend.trans (if_neg hi), fun _ hcall => by cases hcall⟩
  | _ => exact .inl ⟨rfl, fun _ hcall => by cases hcall⟩

/-- What is in the table after a turn was there, or is the request of the call. -/
theorem find?_turn {caller : Nat} {elapsed : Bool} {call : ConfirmationCall} {k : String}
    {entry : PendingEntry} (h : (self.turn caller elapsed call).1.table.find? k = some entry) :
    self.table.find? k = some entry ∨
      ∃ confirmation, call = .requesting confirmation ∧ entry = ⟨confirmation, caller⟩ := by
  cases call with
  | requesting confirmation =>
    have hfind : (self.table.upsert ⟨confirmation, caller⟩).find? k = some entry := by
      rw [← h]
      show _ = ((dropSender _ _).table.upsert _).find? k
      rw [table_dropSender]
    rw [Table.find?_upsert] at hfind
    split at hfind
    · exact .inr ⟨confirmation, rfl, (Option.some.inj hfind).symm⟩
    · exact .inl hfind
  | waiting confirmation =>
    rcases self.turn_waiting_cases caller elapsed confirmation with
      ⟨-, -, hturn⟩ | ⟨_, -, hturn⟩ | ⟨-, hturn⟩ | ⟨-, -, hturn⟩
    · exact .inl (by rwa [hturn] at h)
    · exact .inl (by rwa [hturn] at h)
    · exact .inl (by rwa [hturn] at h)
    · exact .inl (by rwa [hturn] at h)
  | removing confirmation =>
    have hfind : (self.table.remove confirmation.commandId).find? k = some entry := by
      rw [← h]
      show _ = ((dropSender _ _).table.remove _).find? k
      rw [table_dropSender]
    exact .inl (Table.find?_remove_eq_some_iff.mp hfind).2
  | submitting commandId nonce approved =>
    refine .inl ?_
    have hfind : (self.submitConfirmation commandId nonce approved).2.table.find? k = some entry := h
    rcases self.submit_cases commandId nonce approved with
      ⟨htable, -⟩ | ⟨found, -, -, hsubmit⟩
    · rwa [htable] at hfind
    · rw [hsubmit, table_send] at hfind
      exact (Table.find?_remove_eq_some_iff.mp hfind).2
  | _ => exact .inl h

end PendingConfirmations

/-! ## Approval -/

/-- What is known of a call, whatever the other calls do. -/
def ConfirmationCall.Sound (s : RecordedConfirmations) (caller : Nat) : ConfirmationCall → Prop
  | .requesting _ => (∀ confirmation, .registered caller confirmation ∉ s.log) ∧
      .ended caller ∉ s.log
  | .waiting confirmation => .registered caller confirmation ∈ s.log
  | .answered confirmation approved => approved = true →
      ApprovedWhileWaiting s.log caller confirmation
  | _ => True

/-- What is known of the table, the channels and the record. -/
structure ConfirmationInvariant (s : RecordedConfirmations) (n : Nat) : Prop where
  entries : ∀ k entry, s.pending.table.find? k = some entry →
    .registered entry.sender entry.confirmation ∈ s.log
  waits : ∀ i, s.pending.channels i = .empty → .ended i ∉ s.log
  approved : ∀ i, s.pending.channels i = .value true → ∀ confirmation,
    .registered i confirmation ∈ s.log → ApprovedWhileWaiting s.log i confirmation
  unique : ∀ i c c', .registered i c ∈ s.log → .registered i c' ∈ s.log → c = c'
  registered_lt : ∀ i c, .registered i c ∈ s.log → i < n
  ended_lt : ∀ i, .ended i ∈ s.log → i < n

theorem ApprovedWhileWaiting.append {log : List ConfirmationEvent} {caller : Nat}
    {confirmation : PendingConfirmation} (h : ApprovedWhileWaiting log caller confirmation)
    (events : List ConfirmationEvent) :
    ApprovedWhileWaiting (events ++ log) caller confirmation := by
  obtain ⟨newer, older, rfl, hregistered, hended⟩ := h
  exact ⟨events ++ newer, older, (List.append_assoc ..).symm, hregistered, hended⟩

section

variable {s : RecordedConfirmations} {n caller : Nat} {elapsed : Bool} {call : ConfirmationCall}

/-- A turn records `registered` for a request that enters the table, and nothing else of it. -/
theorem registered_mem_turn {i : Nat} {c : PendingConfirmation}
    (h : ConfirmationEvent.registered i c ∈ (s.turn caller elapsed call).1.log) :
    .registered i c ∈ s.log ∨ (i = caller ∧ call = .requesting c) := by
  rcases List.mem_append.mp h with hevent | hold
  · cases call with
    | requesting confirmation =>
      cases List.mem_singleton.mp hevent
      exact .inr ⟨rfl, rfl⟩
    | waiting confirmation =>
      unfold ConfirmationCall.event at hevent
      dsimp only at hevent
      split at hevent
      · cases hevent
      · cases List.mem_singleton.mp hevent
    | submitting commandId nonce approved => cases List.mem_singleton.mp hevent
    | _ => cases hevent
  · exact .inl hold

/-- A turn records `ended` for a request that stops waiting. -/
theorem ended_mem_turn {i : Nat}
    (h : ConfirmationEvent.ended i ∈ (s.turn caller elapsed call).1.log) :
    .ended i ∈ s.log ∨ (i = caller ∧ (∃ confirmation, call = .waiting confirmation) ∧
      (s.turn caller elapsed call).1.pending.channels caller ≠ .empty) := by
  rcases List.mem_append.mp h with hevent | hold
  · cases call with
    | waiting confirmation =>
      unfold ConfirmationCall.event at hevent
      dsimp only at hevent
      split at hevent
      · cases hevent
      · next hleaves =>
        obtain rfl : i = caller := by cases List.mem_singleton.mp hevent; rfl
        refine .inr ⟨rfl, ⟨confirmation, rfl⟩, ?_⟩
        show (s.pending.turn i elapsed (.waiting confirmation)).1.channels i ≠ .empty
        rcases s.pending.turn_waiting_cases i elapsed confirmation with
          ⟨hempty, hwait, -⟩ | ⟨approved, hvalue, hturn⟩ | ⟨hclosed, hturn⟩ | ⟨-, -, hturn⟩
        · exact absurd ⟨hempty, by rw [hwait]; rfl⟩ hleaves
        · rw [hturn, hvalue]
          exact fun h => by cases h
        · rw [hturn, hclosed]
          exact fun h => by cases h
        · rw [hturn]
          show Function.update _ _ _ _ ≠ _
          rw [Function.update_self]
          exact fun h => by cases h
    | requesting confirmation => cases List.mem_singleton.mp hevent
    | submitting commandId nonce approved => cases List.mem_singleton.mp hevent
    | _ => cases hevent
  · exact .inl hold

/-- The record only grows. -/
theorem mem_log_turn {event : ConfirmationEvent} (h : event ∈ s.log) :
    event ∈ (s.turn caller elapsed call).1.log :=
  List.mem_append_right _ h

/-- **One turn** keeps the invariant. -/
theorem ConfirmationInvariant.turn (h : ConfirmationInvariant s n) (hlt : caller < n)
    (hsound : call.Sound s caller) :
    ConfirmationInvariant (s.turn caller elapsed call).1 n where
  entries k entry hfind := by
    rcases PendingConfirmations.find?_turn hfind with hold | ⟨confirmation, rfl, rfl⟩
    · exact mem_log_turn (h.entries k entry hold)
    · exact List.mem_cons_self
  waits i hempty hended := by
    rcases ended_mem_turn hended with hold | ⟨rfl, -, hleft⟩
    · rcases s.pending.channels_turn caller elapsed call i with
        ⟨hsame, -⟩ | hclosed | ⟨_, _, _, _, -, -, -, -, -, hvalue⟩ | ⟨rfl, ⟨confirmation, rfl⟩, -⟩
      · exact h.waits i (hsame.symm.trans hempty) hold
      · cases hclosed.symm.trans hempty
      · cases hvalue.symm.trans hempty
      · exact hsound.2 hold
    · exact hleft hempty
  approved i hvalue confirmation hregistered := by
    rcases s.pending.channels_turn caller elapsed call i with
      ⟨hsame, hne⟩ | hclosed | ⟨commandId, nonce, approved, entry, rfl, hfind, hnonce, rfl, hempty,
        hsent⟩ | ⟨-, -, hempty⟩
    · rcases registered_mem_turn hregistered with hold | ⟨rfl, hcall⟩
      · exact (h.approved i (hsame.symm.trans hvalue) confirmation hold).append _
      · exact absurd rfl (hne confirmation hcall)
    · cases hclosed.symm.trans hvalue
    · -- the submit has found the entry of this request, with its nonce
      cases hsent.symm.trans hvalue
      have hentry := h.entries commandId entry hfind
      have hold : ConfirmationEvent.registered entry.sender confirmation ∈ s.log := by
        rcases registered_mem_turn hregistered with hold | ⟨-, hcall⟩
        · exact hold
        · cases hcall
      have hsame : confirmation = entry.confirmation := h.unique _ _ _ hold hentry
      have hkey : entry.confirmation.commandId = commandId := (Table.find?_eq_some_iff.mp hfind).2
      subst hsame
      refine ⟨[], s.log, ?_, hold, h.waits _ hempty⟩
      rw [hkey, hnonce]
      rfl
    · cases hempty.symm.trans hvalue
  unique i c c' hc hc' := by
    rcases registered_mem_turn hc with hold | ⟨rfl, rfl⟩
    · rcases registered_mem_turn hc' with hold' | ⟨rfl, rfl⟩
      · exact h.unique i c c' hold hold'
      · exact absurd hold (hsound.1 c)
    · rcases registered_mem_turn hc' with hold' | ⟨-, hcall⟩
      · exact absurd hold' (hsound.1 c')
      · cases hcall
        rfl
  registered_lt i c hc := by
    rcases registered_mem_turn hc with hold | ⟨rfl, -⟩
    · exact h.registered_lt i c hold
    · exact hlt
  ended_lt i hended := by
    rcases ended_mem_turn hended with hold | ⟨rfl, -⟩
    · exact h.ended_lt i hold
    · exact hlt

/-- What a call goes on to is sound. -/
theorem ConfirmationCall.Sound.turn (hsound : call.Sound s caller)
    (h : ConfirmationInvariant s n) :
    (s.turn caller elapsed call).2.Sound (s.turn caller elapsed call).1 caller := by
  cases call with
  | requesting confirmation => exact List.mem_cons_self
  | waiting confirmation =>
    have hnext : (s.turn caller elapsed (.waiting confirmation)).2 =
        (s.pending.turn caller elapsed (.waiting confirmation)).2 := rfl
    rw [hnext]
    rcases s.pending.turn_waiting_cases caller elapsed confirmation with
      ⟨-, -, hturn⟩ | ⟨approved, hvalue, hturn⟩ | ⟨-, hturn⟩ | ⟨-, -, hturn⟩
    · rw [hturn]
      exact mem_log_turn hsound
    · rw [hturn]
      intro htrue
      exact (h.approved caller (by rw [hvalue, htrue]) confirmation hsound).append _
    · rw [hturn]
      trivial
    · rw [hturn]
      trivial
  | removing confirmation => exact fun hfalse => by cases hfalse
  | answered confirmation approved => exact fun htrue => (hsound htrue).append _
  | _ => trivial

/-- The turn of another call leaves a call sound. -/
theorem ConfirmationCall.Sound.turn_other {j : Nat} {other : ConfirmationCall} (hne : j ≠ caller)
    (hsound : other.Sound s j) : other.Sound (s.turn caller elapsed call).1 j := by
  cases other with
  | requesting confirmation =>
    refine ⟨fun c hc => ?_, fun hended => ?_⟩
    · rcases registered_mem_turn hc with hold | ⟨rfl, -⟩
      · exact hsound.1 c hold
      · exact hne rfl
    · rcases ended_mem_turn hended with hold | ⟨rfl, -⟩
      · exact hsound.2 hold
      · exact hne rfl
  | waiting confirmation => exact mem_log_turn hsound
  | answered confirmation approved => exact fun htrue => (hsound htrue).append _
  | _ => trivial

theorem ConfirmationInvariant.enter (h : ConfirmationInvariant s n) :
    ConfirmationInvariant s (n + 1) where
  entries := h.entries
  waits := h.waits
  approved := h.approved
  unique := h.unique
  registered_lt i c hc := Nat.lt_succ_of_lt (h.registered_lt i c hc)
  ended_lt i hended := Nat.lt_succ_of_lt (h.ended_lt i hended)

/-- A call that enters is sound: its number is new. -/
theorem ConfirmationInvariant.sound_call (h : ConfirmationInvariant s n)
    (request : ConfirmationRequest) : request.call.Sound s n := by
  cases request with
  | request confirmation =>
    exact ⟨fun c hc => Nat.lt_irrefl _ (h.registered_lt n c hc),
      fun hended => Nat.lt_irrefl _ (h.ended_lt n hended)⟩
  | submit commandId nonce approved => trivial
  | list => trivial

theorem ConfirmationInvariant.start : ConfirmationInvariant .start n where
  entries k entry hfind := by cases hfind
  waits i hempty := by cases hempty
  approved i hvalue := by cases hvalue
  unique i c c' hc := by cases hc
  registered_lt i c hc := by cases hc
  ended_lt i hended := by cases hended

end

/-- The invariant of every run. -/
def ConfirmationSystem.Recorded (s : ConfirmationSystem) : Prop :=
  ConfirmationInvariant s.shared s.calls.length ∧
    ∀ (i : Nat) call, s.calls[i]? = some call → call.Sound s.shared i

theorem ConfirmationSystem.Recorded.step {s : ConfirmationSystem} {m : ConfirmationMove}
    (h : s.Recorded) : ConfirmationSystem.Recorded (confirmationCalls.step s m) := by
  refine confirmationCalls.step_invariant (P := ConfirmationInvariant)
    (Q := fun s i call => call.Sound s i)
    (fun request hinv => ⟨hinv.enter, hinv.sound_call request⟩)
    (fun index elapsed call hm hcall => ?_) h.1 h.2
  have hlt : index < s.calls.length := (List.getElem?_eq_some_iff.mp hcall).1
  have hsound := h.2 index call hcall
  exact ⟨h.1.turn hlt hsound, hsound.turn h.1, fun j other hne _ hother => hother.turn_other hne⟩

theorem ConfirmationSystem.recorded_start : ConfirmationSystem.start.Recorded :=
  ⟨.start, fun _ _ hcall => (by cases hcall)⟩

/-- **Approval needs no condition**: in every run a request is approved only by a submit with its
    nonce while it waits. -/
theorem approved_while_waiting (moves : List ConfirmationMove) :
    ∀ s ∈ states confirmationCalls.step ConfirmationSystem.start moves, ∀ (caller : Nat) confirmation,
      s.calls[caller]? = some (.answered confirmation true) →
        ApprovedWhileWaiting s.shared.log caller confirmation := by
  have hrecorded : ∀ s ∈ states confirmationCalls.step ConfirmationSystem.start moves,
      ConfirmationSystem.Recorded s :=
    states_always (fun _ _ h => h.step) ConfirmationSystem.recorded_start
  intro s hs caller confirmation hcall
  exact (hrecorded s hs).2 caller _ hcall rfl

/-- A request, and a submit with its nonce. -/
def approvedMoves : List ConfirmationMove :=
  [.request (.request ⟨"cmd-1", "n1", "sh", [], "full", 0⟩), .turn 0 false,
    .request (.submit "cmd-1" "n1" true), .turn 1 false, .turn 0 false]

theorem approved_while_waiting_once :
    ApprovedWhileWaiting
      (approvedMoves.foldl confirmationCalls.step ConfirmationSystem.start).shared.log 0
      ⟨"cmd-1", "n1", "sh", [], "full", 0⟩ :=
  approved_while_waiting approvedMoves _ (foldl_mem_states _ _) 0 _ rfl

end Oneshim.Automation
