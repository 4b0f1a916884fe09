/-
  Confirmations that overlap (`oneshim-automation/src/controller/{mod,port_impl}.rs`).

  A request that waits should be listed, and an answer with its nonce should reach it.  The table has
  ONE entry per command id: a second request for the same id replaces the entry of the first, and a
  request that ends removes whatever stands under its id.

  1. **The promise** (`AnswersReachTheirOwn`) — approval as in `ApprovedWhileWaiting`, and every
     request that waits unanswered is `Answerable`.

  2. **The invariant** — in an orderly run a request that waits has its entry or its answer
     (`ConfirmationCall.Listed`), and a channel is open only for a request that waits on it.

  3. **The result** (`answers_reach_their_own_iff`) — a run keeps the promise in every state exactly
     when no entry is put in or taken out under a command id under which another request waits.
-/
import Oneshim.Automation.Confirmation

namespace Oneshim.Automation

open Lib

/-! ## The promise -/

/-- The request is listed, and an answer with its nonce reaches it. -/
structure Answerable (pending : PendingConfirmations) (caller : Nat)
    (confirmation : PendingConfirmation) : Prop where
  listed : confirmation ∈ pending.listPendingConfirmations
  answered : ∀ approved elapsed,
    (pending.submitConfirmation confirmation.commandId confirmation.nonce approved).1 = .ok () ∧
    ((pending.submitConfirmation confirmation.commandId confirmation.nonce approved).2.turn caller
      elapsed (.waiting confirmation)).2 = .answered confirmation approved

/-- Nobody has answered the request. -/
def PendingConfirmations.Unanswered (self : PendingConfirmations) (caller : Nat) : Prop :=
  ∀ approved, self.channels caller ≠ .value approved

/-- **The promise** of the table. -/
structure AnswersReachTheirOwn (s : ConfirmationSystem) : Prop where
  approved : ∀ (caller : Nat) confirmation, s.calls[caller]? = some (.answered confirmation true) →
    ApprovedWhileWaiting s.shared.log caller confirmation
  waiting : ∀ (caller : Nat) confirmation, s.calls[caller]? = some (.waiting confirmation) →
    s.shared.pending.Unanswered caller → Answerable s.shared.pending caller confirmation

/-- Under the command id no request waits for its answer. -/
def PendingConfirmations.Vacant (self : PendingConfirmations) (commandId : String) : Prop :=
  ∀ entry, self.table.find? commandId = some entry → self.channels entry.sender ≠ .empty

/-- A turn that puts an entry in or takes one out finds no other request waiting under the id. -/
def ConfirmationCall.orderly (s : RecordedConfirmations) (_caller : Nat) (_elapsed : Bool) :
    ConfirmationCall → Prop
  | .requesting confirmation => s.pending.Vacant confirmation.commandId
  | .removing confirmation => s.pending.Vacant confirmation.commandId
  | _ => True

/-- A move of such a turn. -/
def orderlyConfirmation : ConfirmationSystem → ConfirmationMove → Prop :=
  CallSystem.OnTurn ConfirmationCall.orderly

/-! ## Requests that wait -/

section

variable {self : PendingConfirmations} {commandId : String}

/-- Where nobody waits, dropping a sender has no effect. -/
theorem PendingConfirmations.dropSender_of_vacant (h : self.Vacant commandId) :
    self.dropSender commandId = self := by
  unfold dropSender
  cases hfind : self.table.find? commandId with
  | none => rfl
  | some entry => exact if_neg (h entry hfind)

/-- Where somebody waits, the channel is closed. -/
theorem PendingConfirmations.channels_dropSender_of_not_vacant {entry : PendingEntry}
    (hfind : self.table.find? commandId = some entry) (hempty : self.channels entry.sender = .empty) :
    (self.dropSender commandId).channels entry.sender = .closed := by
  unfold dropSender
  rw [hfind]
  show (if _ then _ else _ : PendingConfirmations).channels _ = _
  rw [if_pos hempty]
  exact Function.update_self _ _ _

end

section

variable {s : RecordedConfirmations} {n caller : Nat} {elapsed : Bool} {call : ConfirmationCall}

/-- A request that waits has its entry in the table, or its answer. -/
def ConfirmationCall.Listed (s : RecordedConfirmations) (caller : Nat) : ConfirmationCall → Prop
  | .waiting confirmation =>
    (s.pending.channels caller = .empty ∧
      s.pending.table.find? confirmation.commandId = some ⟨confirmation, caller⟩) ∨
    ∃ approved, s.pending.channels caller = .value approved
  | _ => True

/-- An orderly request replaces no entry of a request that waits. -/
theorem insert_of_vacant (elapsed : Bool) {confirmation : PendingConfirmation}
    (h : ConfirmationInvariant s n)
    (hsound : (ConfirmationCall.requesting confirmation).Sound s caller)
    (hvacant : s.pending.Vacant confirmation.commandId) :
    (s.turn caller elapsed (.requesting confirmation)).1.pending =
      ⟨s.pending.table.upsert ⟨confirmation, caller⟩,
        Function.update s.pending.channels caller .empty⟩ := by
  have hopen : PendingConfirmations.Vacant
      { s.pending with channels := Function.update s.pending.channels caller .empty }
      confirmation.commandId := by
    intro entry hfind hempty
    have hne : entry.sender ≠ caller := by
      intro heq
      exact hsound.1 entry.confirmation (heq ▸ h.entries _ entry hfind)
    exact hvacant entry hfind ((Function.update_of_ne hne _ _).symm.trans hempty)
  show PendingConfirmations.insert _ _ = _
  unfold PendingConfirmations.insert
  have hdrop := PendingConfirmations.dropSender_of_vacant hopen
  show PendingConfirmations.mk ((PendingConfirmations.dropSender confirmation.commandId _).table.upsert
    _) (PendingConfirmations.dropSender confirmation.commandId _).channels = _
  rw [hdrop]

/-- What an orderly call goes on to is listed. -/
theorem ConfirmationCall.Listed.turn (hlisted : call.Listed s caller)
    (h : ConfirmationInvariant s n) (hsound : call.Sound s caller)
    (horderly : call.orderly s caller elapsed) :
    (s.turn caller elapsed call).2.Listed (s.turn caller elapsed call).1 caller := by
  cases call with
  | requesting confirmation =>
    have hpending := insert_of_vacant elapsed h hsound horderly
    refine .inl ⟨?_, ?_⟩
    · rw [hpending]
      exact Function.update_self _ _ _
    · rw [hpending]
      show (s.pending.table.upsert _).find? _ = _
      rw [Table.find?_upsert]
      exact if_pos rfl
  | waiting confirmation =>
    unfold RecordedConfirmations.turn
    rcases s.pending.turn_waiting_cases caller elapsed confirmation with
      ⟨-, -, hturn⟩ | ⟨approved, -, hturn⟩ | ⟨-, hturn⟩ | ⟨-, -, hturn⟩ <;> rw [hturn]
    · exact hlisted
    all_goals trivial
  | _ => trivial

/-- An orderly turn of another call leaves a request listed, or answers it. -/
theorem ConfirmationCall.Listed.turn_other {j : Nat} {other : ConfirmationCall} (hne : j ≠ caller)
    (hlisted : other.Listed s j) (h : ConfirmationInvariant s n) (hsound : call.Sound s caller)
    (horderly : call.orderly s caller elapsed) :
    other.Listed (s.turn caller elapsed call).1 j := by
  cases other with
  | waiting own =>
    cases call with
    | requesting confirmation =>
      have hpending := insert_of_vacant elapsed h hsound horderly
      unfold ConfirmationCall.Listed
      rw [hpending]
      show (Function.update _ _ _ j = _ ∧ (s.pending.table.upsert _).find? _ = _) ∨
        ∃ approved, Function.update _ _ _ j = _
      rw [Function.update_of_ne hne, Table.find?_upsert]
      rcases hlisted with ⟨hempty, hfind⟩ | hvalue
      · -- nobody waits under the id of the new request
        have hid : confirmation.commandId ≠ own.commandId := fun hid =>
          horderly ⟨own, j⟩ (hid ▸ hfind) hempty
        exact .inl ⟨hempty, (if_neg hid).trans hfind⟩
      · exact .inr hvalue
    | removing confirmation =>
      have hdrop : s.pending.dropSender confirmation.commandId = s.pending :=
        PendingConfirmations.dropSender_of_vacant horderly
      unfold ConfirmationCall.Listed
      show ((s.pending.dropSender _).channels j = _ ∧
        ((s.pending.dropSender _).table.remove _).find? _ = _) ∨
        ∃ approved, (s.pending.dropSender _).channels j = _
      rw [hdrop, Table.find?_remove]
      rcases hlisted with ⟨hempty, hfind⟩ | hvalue
      · have hid : own.commandId ≠ confirmation.commandId := fun hid =>
          horderly ⟨own, j⟩ (hid ▸ hfind) hempty
        exact .inl ⟨hempty, (if_neg hid).trans hfind⟩
      · exact .inr hvalue
    | submitting commandId nonce approved =>
      unfold ConfirmationCall.Listed
      show ((s.pending.submitConfirmation commandId nonce approved).2.channels j = _ ∧
        (s.pending.submitConfirmation commandId nonce approved).2.table.find? _ = _) ∨
        ∃ answer, (s.pending.submitConfirmation commandId nonce approved).2.channels j = _
      rcases s.pending.submit_cases commandId nonce approved with
        ⟨htable, hchannels⟩ | ⟨entry, hentry, -, hsubmit⟩
      · rw [htable, hchannels]
        exact hlisted
      · rw [hsubmit, PendingConfirmations.send_channels, PendingConfirmations.table_send,
          Table.find?_remove]
        rcases hlisted with ⟨hempty, hfind⟩ | ⟨answer, hvalue⟩
        · by_cases hid : own.commandId = commandId
          · -- the answer is for this request
            have hown : entry = ⟨own, j⟩ := by
              rw [hid, hentry] at hfind
              exact Option.some.inj hfind
            exact .inr ⟨approved, if_pos ⟨by rw [hown], hempty⟩⟩
          · by_cases hsent : j = entry.sender ∧ s.pending.channels j = .empty
            · exact .inr ⟨approved, if_pos hsent⟩
            · exact .inl ⟨(if_neg hsent).trans hempty, (if_neg hid).trans hfind⟩
        · refine .inr ⟨answer, ?_⟩
          show (if j = entry.sender ∧ s.pending.channels j = .empty then _ else _) = _
          rw [if_neg (fun hsent => by rw [hvalue] at hsent; cases hsent.2)]
          exact hvalue
    | waiting confirmation =>
      unfold RecordedConfirmations.turn
      rcases s.pending.turn_waiting_cases caller elapsed confirmation with
        ⟨-, -, hturn⟩ | ⟨approved, -, hturn⟩ | ⟨-, hturn⟩ | ⟨-, -, hturn⟩ <;> rw [hturn]
      · exact hlisted
      · exact hlisted
      · exact hlisted
      · unfold ConfirmationCall.Listed
        show (Function.update _ _ _ j = _ ∧ _) ∨ ∃ approved, Function.update _ _ _ j = _
        rw [Function.update_of_ne hne]
        exact hlisted
    | _ => exact hlisted
  | _ => trivial

/-- A request that is in the table can be answered. -/
theorem answerable_of_listed {self : PendingConfirmations} {confirmation : PendingConfirmation}
    (hempty : self.channels caller = .empty)
    (hfind : self.table.find? confirmation.commandId = some ⟨confirmation, caller⟩) :
    Answerable self caller confirmation where
  listed := List.mem_map.mpr ⟨_, (Table.find?_eq_some_iff.mp hfind).1, rfl⟩
  answered approved elapsed := by
    have hsubmit : self.submitConfirmation confirmation.commandId confirmation.nonce approved =
        (.ok (), PendingConfirmations.send caller approved
          { self with table := self.table.remove confirmation.commandId }) := by
      simp only [PendingConfirmations.submitConfirmation, hfind, ne_eq, not_true_eq_false, if_false]
    rw [hsubmit]
    refine ⟨rfl, ?_⟩
    have hvalue : (PendingConfirmations.send caller approved
        { self with table := self.table.remove confirmation.commandId }).channels caller =
        .value approved := by
      rw [PendingConfirmations.send_channels]
      exact if_pos ⟨rfl, hempty⟩
    simp only [PendingConfirmations.turn, hvalue]

end

/-! ## Runs -/

/-- The invariant of orderly runs. -/
def ConfirmationSystem.Invariant (s : ConfirmationSystem) : Prop :=
  s.Recorded ∧ (∀ (i : Nat) call, s.calls[i]? = some call → call.Listed s.shared i) ∧
    ∀ i, s.shared.pending.channels i = .empty →
      ∃ confirmation, s.calls[i]? = some (.waiting confirmation)

variable {s : ConfirmationSystem}

/-- A channel is open only for a request that waits on it. -/
theorem waits_step {m : ConfirmationMove}
    (h : ∀ i, s.shared.pending.channels i = .empty →
      ∃ confirmation, s.calls[i]? = some (.waiting confirmation)) (i : Nat)
    (hempty : (confirmationCalls.step s m).shared.pending.channels i = .empty) :
    ∃ confirmation, (confirmationCalls.step s m).calls[i]? = some (.waiting confirmation) := by
  rcases confirmationCalls.step_cases s m with
    ⟨request, rfl, hs⟩ | ⟨index, elapsed, rfl, ⟨-, hs⟩ | ⟨call, hcall, hs⟩⟩
  · rw [hs] at hempty ⊢
    obtain ⟨confirmation, hwaiting⟩ := h i hempty
    refine ⟨confirmation, ?_⟩
    rw [List.getElem?_append_left (List.getElem?_eq_some_iff.mp hwaiting).1]
    exact hwaiting
  · rw [hs] at hempty ⊢
    exact h i hempty
  · rw [hs] at hempty ⊢
    have hlt : index < s.calls.length := (List.getElem?_eq_some_iff.mp hcall).1
    have hnew : (s.shared.pending.turn index elapsed call).1.channels i = .empty := hempty
    show ∃ confirmation, (s.calls.set index (s.shared.pending.turn index elapsed call).2)[i]? = _
    rcases s.shared.pending.channels_turn index elapsed call i with
      ⟨hsame, -⟩ | hclosed | ⟨_, _, _, _, -, -, -, -, -, hvalue⟩ | ⟨rfl, ⟨confirmation, rfl⟩, -⟩
    · obtain ⟨confirmation, hwaiting⟩ := h i (hsame.symm.trans hnew)
      refine ⟨confirmation, ?_⟩
      by_cases hi : index = i
      · -- the request goes on waiting
        subst hi
        cases hcall.symm.trans hwaiting
        rw [List.getElem?_set_self hlt]
        rcases s.shared.pending.turn_waiting_cases index elapsed confirmation with
          ⟨-, -, hturn⟩ | ⟨approved, hvalue, -⟩ | ⟨hclosed, -⟩ | ⟨-, -, hturn⟩
        · rw [hturn]
        · cases hvalue.symm.trans (hsame.symm.trans hnew)
        · cases hclosed.symm.trans (hsame.symm.trans hnew)
        · rw [hturn] at hnew
          cases (Function.update_self _ _ _).symm.trans hnew
      · rw [List.getElem?_set_ne hi]
        exact hwaiting
    · cases hclosed.symm.trans hnew
    · cases hvalue.symm.trans hnew
    · exact ⟨confirmation, List.getElem?_set_self hlt⟩

/-- **One move** of an orderly run. -/
theorem ConfirmationSystem.Invariant.step {m : ConfirmationMove} (h : s.Invariant)
    (horderly : orderlyConfirmation s m) :
    ConfirmationSystem.Invariant (confirmationCalls.step s m) := by
  obtain ⟨hrecorded, hlisted, hwaits⟩ := h
  refine ⟨hrecorded.step, ?_, waits_step hwaits⟩
  refine (confirmationCalls.step_invariant (P := fun _ _ => True)
    (Q := fun s i call => call.Listed s i) (fun request _ => ⟨trivial, ?_⟩)
    (fun index elapsed call hm hcall => ⟨trivial, ?_⟩) trivial hlisted).2
  · cases request <;> trivial
  · subst hm
    have hsound := hrecorded.2 index call hcall
    have horder := horderly call hcall
    exact ⟨(hlisted index call hcall).turn hrecorded.1 hsound horder,
      fun j other hne _ hother => hother.turn_other hne hrecorded.1 hsound horder⟩

/-- The invariant gives the promise. -/
theorem ConfirmationSystem.Invariant.promise (h : s.Invariant) :
    AnswersReachTheirOwn s where
  approved caller confirmation hcall := h.1.2 caller _ hcall rfl
  waiting caller confirmation hcall hunanswered := by
    rcases h.2.1 caller _ hcall with ⟨hempty, hfind⟩ | ⟨approved, hvalue⟩
    · exact answerable_of_listed hempty hfind
    · exact absurd hvalue (hunanswered approved)

/-- A request whose channel is closed gets no answer any more. -/
theorem not_answerable_of_closed {self : PendingConfirmations} {caller : Nat}
    {confirmation : PendingConfirmation} (hclosed : self.channels caller = .closed) :
    ¬ Answerable self caller confirmation := by
  intro h
  have hchannel : (self.submitConfirmation confirmation.commandId confirmation.nonce
      true).2.channels caller = .closed := by
    rcases self.submit_cases confirmation.commandId confirmation.nonce true with
      ⟨-, hchannels⟩ | ⟨entry, -, -, hsubmit⟩
    · rw [hchannels]
      exact hclosed
    · rw [hsubmit, PendingConfirmations.send_channels]
      show (if caller = entry.sender ∧ self.channels caller = .empty then _ else _) = _
      rw [if_neg (fun hsent => by rw [hclosed] at hsent; cases hsent.2)]
      exact hclosed
  have hanswered := (h.answered true true).2
  simp only [PendingConfirmations.turn, hchannel] at hanswered
  cases hanswered

/-- **What a move that is not orderly does**: the request that waits under the id can no longer be
    answered. -/
theorem orderlyConfirmation_of_promise {m : ConfirmationMove} (h : s.Invariant)
    (hkept : AnswersReachTheirOwn (confirmationCalls.step s m)) :
    orderlyConfirmation s m := by
  cases m with
  | request request => trivial
  | turn index elapsed =>
    intro call hcall
    have hstep : confirmationCalls.step s (.turn index elapsed) =
        ⟨(s.shared.turn index elapsed call).1,
          s.calls.set index (s.shared.turn index elapsed call).2⟩ := by
      simp only [CallSystem.step, hcall]
      rfl
    rw [hstep] at hkept
    -- the request of an entry that is dropped still waits, on a closed channel
    have hdropped : ∀ entry : PendingEntry, s.shared.pending.channels entry.sender = .empty →
        (∀ confirmation, call ≠ .waiting confirmation) →
        (s.shared.turn index elapsed call).1.pending.channels entry.sender = .closed → False := by
      intro entry hempty hcaller hclosed
      obtain ⟨confirmation, hwaiting⟩ := h.2.2 entry.sender hempty
      have hne : index ≠ entry.sender := by
        rintro rfl
        cases hcall.symm.trans hwaiting
        exact hcaller confirmation rfl
      refine not_answerable_of_closed hclosed (hkept.waiting entry.sender confirmation ?_ ?_)
      · show (s.calls.set _ _)[_]? = _
        rw [List.getElem?_set_ne hne]
        exact hwaiting
      · intro approved hvalue
        cases hclosed.symm.trans hvalue
    cases call with
    | requesting confirmation =>
      intro entry hfind hempty
      refine hdropped entry hempty (fun _ hcall => by cases hcall) ?_
      have hne : entry.sender ≠ index := by
        intro heq
        exact (h.1.2 index _ hcall).1 entry.confirmation (heq ▸ h.1.1.entries _ entry hfind)
      have hopen : Function.update s.shared.pending.channels index .empty entry.sender = .empty :=
        (Function.update_of_ne hne _ _).trans hempty
      exact @PendingConfirmations.channels_dropSender_of_not_vacant
        { s.shared.pending with
          channels := Function.update s.shared.pending.channels index .empty } _ _ hfind hopen
    | removing confirmation =>
      intro entry hfind hempty
      exact hdropped entry hempty (fun _ hcall => by cases hcall)
        (PendingConfirmations.channels_dropSender_of_not_vacant hfind hempty)
    | _ => trivial

theorem ConfirmationSystem.invariant_start : ConfirmationSystem.start.Invariant :=
  ⟨ConfirmationSystem.recorded_start, fun _ _ hcall => (by cases hcall),
    fun _ hempty => (by cases hempty)⟩

/-- **When answers reach their own request.**  For every interleaving of requests, submits and
    timeouts: in all states of the run exactly when no entry is put in or taken out under a command
    id under which another request waits. -/
theorem answers_reach_their_own_iff (moves : List ConfirmationMove) :
    (∀ s ∈ states confirmationCalls.step ConfirmationSystem.start moves, AnswersReachTheirOwn s) ↔
      Along confirmationCalls.step orderlyConfirmation ConfirmationSystem.start moves := by
  have hstep : ∀ (s : ConfirmationSystem) (m : ConfirmationMove), s.Invariant →
      orderlyConfirmation s m → ConfirmationSystem.Invariant (confirmationCalls.step s m) :=
    fun _ _ h => h.step
  have hstart := ConfirmationSystem.invariant_start
  constructor
  · exact along_of_states hstep (fun s m => orderlyConfirmation_of_promise) hstart
  · intro hrun s hs
    exact (states_invariant hstep hstart hrun s hs).promise

/-- Two requests for one command: the second replaces the entry of the first, and the first, woken by
    the loss of its sender, takes the entry of the second out. -/
def twoRequestsForOneCommand : List ConfirmationMove :=
  [.request (.request ⟨"cmd-1", "nonce-a", "git", [], "Basic", 0⟩), .turn 0 false,
    .request (.request ⟨"cmd-1", "nonce-b", "git", [], "Basic", 1⟩), .turn 1 false,
    .turn 0 false, .turn 0 false]

/-- The second request still waits, but it is not listed. -/
theorem second_request_is_lost :
    ¬ ∀ s ∈ states confirmationCalls.step ConfirmationSystem.start twoRequestsForOneCommand,
      AnswersReachTheirOwn s := by
  intro h
  have hlast := (h _ (foldl_mem_states _ _)).waiting 1 _ rfl (fun approved hvalue => by cases hvalue)
  exact absurd hlast.listed (by decide +kernel)

end Oneshim.Automation
