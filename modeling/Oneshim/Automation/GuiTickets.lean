/-
  Tickets of superseded confirmations.

  A ticket is compared with the confirmed action by its id, its element and the hash of its actions;
  the signature covers everything but the id.  So the id of the latest ticket on the signed part of an
  earlier one passes both.

  1. **Reading the signed text back** (`sameTicket_of_payload`) — fields without the separator are
     determined by it.

  2. **What is assumed** (`Assumed`) — session ids are new, a signature that verifies is on a text the
     service has signed, and no id of a scene, hash of a focus or nonce contains the separator.

  3. **The result** (`latest_ticket_only`) — plans are for the latest ticket as long as no ticket mixes
     its id with the signed text of an earlier one and no confirmation overtakes a commit
     (`OnlyLatest`); a mixed ticket is executed (`superseded_ticket_executes`).
-/
import Oneshim.Automation.GuiPlans

namespace Oneshim.Gui

open Lib (Along CallMove CallSystem Table states states_invariant foldl_mem_states)

variable {setup : GuiSetup} {answer : GuiAnswer} {sessionId : String} {stored stored' : StoredSession}

/-! ## Reading the signed text back -/

/-- A text without the separator. -/
def NoBar (s : String) : Prop := '|' ∉ s.toList

instance (s : String) : Decidable (NoBar s) := inferInstanceAs (Decidable (_ ∉ _))

/-- The signed fields, the times as they are signed. -/
structure SameSigned (a b : GuiExecutionTicket) : Prop where
  sessionId : a.sessionId = b.sessionId
  sceneId : a.sceneId = b.sceneId
  elementId : a.elementId = b.elementId
  actionHash : a.actionHash = b.actionHash
  focusHash : a.focusHash = b.focusHash
  issuedAt : timestampMillis a.issuedAt = timestampMillis b.issuedAt
  expiresAt : timestampMillis a.expiresAt = timestampMillis b.expiresAt
  nonce : a.nonce = b.nonce

/-- The same ticket: its id, and everything that is signed. -/
structure SameTicket (a b : GuiExecutionTicket) : Prop extends SameSigned a b where
  ticketId : a.ticketId = b.ticketId

theorem NoBar.ne {s : String} (h : NoBar s) : ∀ c ∈ s.toList, c ≠ '|' :=
  fun _ hc heq => h (heq ▸ hc)

/-- Two texts that begin with a text without the separator and the separator. -/
theorem NoBar.cut {s t : String} (hs : NoBar s) (ht : NoBar t) {x y : List Char}
    (h : s.toList ++ '|' :: x = t.toList ++ '|' :: y) : s = t ∧ x = y := by
  obtain ⟨hst, hxy⟩ := Lib.Text.append_cons_inj hs.ne ht.ne h
  exact ⟨String.toList_injective hst, hxy⟩

theorem millis_cut {m n : Int} {x y : List Char}
    (h : Lib.Text.signedDecimal m ++ '|' :: x = Lib.Text.signedDecimal n ++ '|' :: y) :
    m = n ∧ x = y := by
  have hne : ∀ k : Int, ∀ c ∈ Lib.Text.signedDecimal k, c ≠ '|' := fun k c hc =>
    Lib.Text.signedDecimal_ne rfl (by decide) hc
  obtain ⟨hmn, hxy⟩ := Lib.Text.append_cons_inj (hne m) (hne n) h
  exact ⟨Lib.Text.signedDecimal_injective hmn, hxy⟩

theorem count_signedDecimal (n : Int) : (Lib.Text.signedDecimal n).count '|' = 0 :=
  List.count_eq_zero.mpr fun h => Lib.Text.signedDecimal_ne rfl (by decide) h rfl

/-- The text field by field. -/
theorem ticketSignaturePayload_eq (ticket : GuiExecutionTicket) :
    ticketSignaturePayload ticket = ticket.sessionId.toList ++ '|' :: (ticket.sceneId.toList ++
      '|' :: (ticket.elementId.toList ++ '|' :: (ticket.actionHash.toList ++
      '|' :: (ticket.focusHash.toList ++
      '|' :: (Lib.Text.signedDecimal (timestampMillis ticket.issuedAt) ++
      '|' :: (Lib.Text.signedDecimal (timestampMillis ticket.expiresAt) ++
      '|' :: ticket.nonce.toList)))))) := by
  simp only [ticketSignaturePayload, List.append_assoc, List.cons_append]

/-- The separators of a signed text that are within fields. -/
theorem count_ticketSignaturePayload (ticket : GuiExecutionTicket) :
    (ticketSignaturePayload ticket).count '|' =
      ticket.sessionId.toList.count '|' + ticket.sceneId.toList.count '|' +
      ticket.elementId.toList.count '|' + ticket.actionHash.toList.count '|' +
      ticket.focusHash.toList.count '|' + ticket.nonce.toList.count '|' + 7 := by
  simp only [ticketSignaturePayload_eq, List.count_append, List.count_cons_self,
    count_signedDecimal]
  omega

/-- **The signed text determines the ticket** once session, element and actions are known to be
    those of a ticket whose other fields do not contain the separator. -/
theorem sameTicket_of_payload {a b : GuiExecutionTicket}
    (h : ticketSignaturePayload a = ticketSignaturePayload b) (hticket : a.ticketId = b.ticketId)
    (hsession : a.sessionId = b.sessionId) (helement : a.elementId = b.elementId)
    (haction : a.actionHash = b.actionHash) (hscene : NoBar b.sceneId) (hfocus : NoBar b.focusHash)
    (hnonce : NoBar b.nonce) : SameTicket a b := by
  have hcount := congrArg (List.count '|') h
  rw [count_ticketSignaturePayload, count_ticketSignaturePayload, hsession, helement, haction,
    List.count_eq_zero.mpr hscene, List.count_eq_zero.mpr hfocus,
    List.count_eq_zero.mpr hnonce] at hcount
  have hscene' : NoBar a.sceneId := List.count_eq_zero.mp (by omega)
  have hfocus' : NoBar a.focusHash := List.count_eq_zero.mp (by omega)
  rw [ticketSignaturePayload_eq, ticketSignaturePayload_eq, hsession, helement, haction] at h
  have h := (List.cons.inj (List.append_cancel_left h)).2
  obtain ⟨hs, h⟩ := hscene'.cut hscene h
  have h := (List.cons.inj (List.append_cancel_left h)).2
  have h := (List.cons.inj (List.append_cancel_left h)).2
  obtain ⟨hf, h⟩ := hfocus'.cut hfocus h
  obtain ⟨hi, h⟩ := millis_cut h
  obtain ⟨he, h⟩ := millis_cut h
  exact ⟨⟨hsession, hs, helement, haction, hf, hi, he, String.toList_injective h⟩, hticket⟩

/-! ## The latest ticket -/

/-- The tickets that have been issued. -/
def issuedTickets (history : List GuiEvent) : List GuiExecutionTicket :=
  history.filterMap fun
    | .issued ticket => some ticket
    | _ => none

/-- The ticket of the latest confirmation of a session. -/
def latestTicket (sessionId : String) : List GuiEvent → Option GuiExecutionTicket
  | [] => none
  | .issued ticket :: older =>
    if ticket.sessionId = sessionId then some ticket else latestTicket sessionId older
  | .created _ :: older | .planned _ _ _ :: older => latestTicket sessionId older

/-- The ticket is the latest one of the session. -/
def IsLatest (history : List GuiEvent) (sessionId : String) (ticket : GuiExecutionTicket) : Prop :=
  ∃ latest, latestTicket sessionId history = some latest ∧ SameTicket ticket latest

/-- **The property**: a plan is made for the ticket of the latest confirmation of its session. -/
def LatestOnly (history : List GuiEvent) : Prop :=
  ∀ later sessionId ticket stored older,
    history = later ++ .planned sessionId ticket stored :: older → IsLatest older sessionId ticket

/-- There is no latest ticket without one. -/
theorem latestTicket_eq_none {history : List GuiEvent}
    (h : ∀ ticket, .issued ticket ∈ history → ticket.sessionId ≠ sessionId) :
    latestTicket sessionId history = none := by
  induction history with
  | nil => rfl
  | cons e older ih =>
    have hrest := ih fun ticket hin => h ticket (List.mem_cons_of_mem _ hin)
    cases e with
    | issued ticket => rw [latestTicket, if_neg (h ticket List.mem_cons_self), hrest]
    | created => exact hrest
    | planned => exact hrest

/-- What is entered next: anything but a plan, or a plan for the latest ticket. -/
theorem LatestOnly.cons {history : List GuiEvent} (h : LatestOnly history) {e : GuiEvent}
    (he : ∀ sessionId ticket stored, e = .planned sessionId ticket stored →
      IsLatest history sessionId ticket) :
    LatestOnly (e :: history) := by
  intro later sessionId ticket stored older heq
  cases later with
  | nil =>
    obtain ⟨rfl, rfl⟩ := List.cons.inj heq
    exact he sessionId ticket stored rfl
  | cons e' later => exact h later sessionId ticket stored older (List.cons.inj heq).2

/-! ## What is assumed -/

/-- A signature that verifies is on a text the service has signed. -/
def unforged (setup : GuiSetup) (self : GuiService) (_ : Nat) (_ : GuiAnswer) : GuiCall → Bool
  | .session _ (.checking ticket) => setup.hmac.all fun hmac =>
    !(verifyTicket hmac ticket).isOk || (issuedTickets self.history).any fun issued =>
      ticketSignaturePayload issued == ticketSignaturePayload ticket
  | _ => true

/-- Ids of scenes, hashes of focuses and nonces do not contain the separator. -/
def plainTexts (_ : GuiService) (_ : Nat) (answer : GuiAnswer) (_ : GuiCall) : Bool :=
  (answer.scene.toOption.all fun scene => decide (NoBar scene.1)) &&
    (answer.currentFocus.toOption.all fun focus => decide (NoBar focus.focusHash)) &&
    decide (NoBar answer.nonce)

/-- What is assumed of a move. -/
structure Assumed (setup : GuiSetup) (s : GuiSystem) (m : CallMove GuiRequest GuiAnswer) : Prop where
  newIds : CallSystem.OnTurn NewIds s m
  unforged : CallSystem.OnTurn (fun self i a c => unforged setup self i a c = true) s m
  plainTexts : CallSystem.OnTurn (fun self i a c => plainTexts self i a c = true) s m

instance (s : GuiSystem) (m : CallMove GuiRequest GuiAnswer) : Decidable (Assumed setup s m) :=
  decidable_of_iff (_ ∧ _ ∧ _) ⟨fun h => ⟨h.1, h.2.1, h.2.2⟩, fun h => ⟨h.1, h.2, h.3⟩⟩

/-! ## What goes wrong -/

/-- Whether a ticket has id, session, element and actions of the latest one, on the signed text of
    another. -/
def mixes (self : GuiService) (sessionId : String) (ticket : GuiExecutionTicket) : Bool :=
  (latestTicket sessionId self.history).any fun latest =>
    ticket.ticketId == latest.ticketId && ticket.sessionId == sessionId &&
      ticket.elementId == latest.elementId && ticket.actionHash == latest.actionHash &&
      ticketSignaturePayload ticket != ticketSignaturePayload latest &&
      (issuedTickets self.history).any fun issued =>
        ticketSignaturePayload issued == ticketSignaturePayload ticket

/-- Whether nothing but the comparison with the latest ticket keeps a ticket from being executed: the
    session is confirmed, neither is expired, the nonce is not used. -/
def ready (stored : StoredSession) (answer : GuiAnswer) (ticket : GuiExecutionTicket) : Bool :=
  stored.session.state == .confirmed && !isExpired stored.session.expiresAt answer.now &&
    !isExpiredPastGrace ticket.expiresAt ticketExpiryGraceSecs answer.later &&
    !stored.usedTicketNonces.contains ticket.nonce

/-- No mixed ticket is checked in a session that is ready for it. -/
def unmixed (self : GuiService) (_ : Nat) (answer : GuiAnswer) : GuiCall → Bool
  | .session sessionId (.checking ticket) => (self.sessions.find? sessionId).all fun stored =>
    !(ready stored answer ticket && mixes self sessionId ticket)
  | _ => true

/-- No confirmation is entered while another call waits to commit a nonce that is not used. -/
def unovertaken (setup : GuiSetup) (s : GuiSystem) : CallMove GuiRequest GuiAnswer → Bool
  | .request _ => true
  | .turn index answer =>
    match s.calls[index]? with
    | some (.session _ (.issuing _ _ _ _)) => undisturbed setup s (.turn index answer)
    | _ => true

/-! ## Blocks -/

/-- What `issue_ticket` has made. -/
theorem issueTicket_eq_ok {hmac : List Char → List UInt8} {req : GuiConfirmRequest}
    {sessionFocus : FocusSnapshot} {candidate : GuiCandidate} {sceneId : String}
    {confirmedAction : ConfirmedAction}
    (h : issueTicket setup hmac answer sessionId req sessionFocus candidate sceneId =
      .ok confirmedAction) :
    confirmedAction.candidateId = req.candidateId ∧
      confirmedAction.ticket.sessionId = sessionId ∧ confirmedAction.ticket.sceneId = sceneId ∧
      confirmedAction.ticket.elementId = candidate.elementId ∧
      confirmedAction.ticket.actionHash = confirmedAction.actionHash ∧
      confirmedAction.ticket.focusHash = sessionFocus.focusHash ∧
      confirmedAction.ticket.nonce = answer.nonce := by
  simp only [issueTicket, bind, Except.bind] at h
  split at h
  · cases h
  split at h
  · cases h
  split at h
  · cases h
  cases h
  exact ⟨rfl, rfl, rfl, rfl, rfl, rfl, rfl⟩

/-- What is so of the action a session is confirmed with. -/
structure ActionOk (sessionId : String) (confirmedAction : ConfirmedAction) : Prop where
  sessionId : confirmedAction.ticket.sessionId = sessionId
  elementId : confirmedAction.ticket.elementId = confirmedAction.candidateId
  actionHash : confirmedAction.ticket.actionHash = confirmedAction.actionHash
  sceneId : NoBar confirmedAction.ticket.sceneId
  focusHash : NoBar confirmedAction.ticket.focusHash
  nonce : NoBar confirmedAction.ticket.nonce

/-- What is so of a session: it is confirmed with its latest ticket. -/
structure SessionOk (history : List GuiEvent) (sessionId : String) (stored : StoredSession) :
    Prop where
  sceneId : NoBar stored.session.sceneId
  focusHash : NoBar stored.session.focus.focusHash
  latest : stored.confirmedAction.map (·.ticket) = latestTicket sessionId history
  action : ∀ confirmedAction, stored.confirmedAction = some confirmedAction →
    ActionOk sessionId confirmedAction

/-- What a confirmation has read of its session. -/
def Stage.ReadOk : Stage → Prop
  | .issuing req sessionFocus candidate sceneId =>
    candidate.elementId = req.candidateId ∧ NoBar sessionFocus.focusHash ∧ NoBar sceneId
  | _ => True

/-- **One block** keeps a session confirmed with its latest ticket. -/
theorem Stage.Does.sessionOk {stage : Stage} {events history : List GuiEvent}
    (h : stage.Does setup answer sessionId stored stored' events)
    (hok : SessionOk history sessionId stored) (hread : stage.ReadOk) (hnonce : NoBar answer.nonce) :
    SessionOk (events ++ history) sessionId stored' := by
  cases h with
  | reads => exact hok
  | marks => exact ⟨hok.sceneId, hok.focusHash, hok.latest, hok.action⟩
  | alive => exact hok
  | highlights => exact ⟨hok.sceneId, hok.focusHash, hok.latest, hok.action⟩
  | @confirms _ _ _ _ _ confirmedAction hsecret hissued =>
    obtain ⟨hcandidate, hsession, hscene, helement, haction, hfocus, hn⟩ := issueTicket_eq_ok hissued
    obtain ⟨hid, hfocusHash, hsceneId⟩ := hread
    refine ⟨hok.sceneId, hok.focusHash, ?_, fun other hother => ?_⟩
    · exact (if_pos hsession).symm
    · cases hother
      exact ⟨hsession, by rw [helement, hid, hcandidate], haction, hscene ▸ hsceneId,
        hfocus ▸ hfocusHash, hn ▸ hnonce⟩
  | commits hfocus hfresh =>
    rw [prepareCommit, if_neg hfresh]
    exact ⟨hok.sceneId, hok.focusHash, hok.latest, hok.action⟩
  | replayed => exact hok
  | completes => exact ⟨hok.sceneId, hok.focusHash, hok.latest, hok.action⟩
  | cancels => exact ⟨hok.sceneId, hok.focusHash, hok.latest, hok.action⟩

/-- What a block enters in the history leaves the latest ticket of a session, unless it issues one. -/
theorem Stage.Does.latestTicket_eq {stage : Stage} {events : List GuiEvent}
    (h : stage.Does setup answer sessionId stored stored' events) {other : String}
    (hother : other = sessionId → ∀ ticket, .issued ticket ∉ events) (history : List GuiEvent) :
    latestTicket other (events ++ history) = latestTicket other history := by
  cases h with
  | confirms hsecret hissued =>
    obtain ⟨-, hsession, -⟩ := issueTicket_eq_ok hissued
    refine if_neg fun heq => ?_
    exact hother (heq.symm.trans hsession) _ (List.mem_singleton_self _)
  | _ => rfl

/-- A ticket a block issues is of its session. -/
theorem Stage.Does.issued {stage : Stage} {events : List GuiEvent}
    (h : stage.Does setup answer sessionId stored stored' events) {ticket : GuiExecutionTicket}
    (hissued : .issued ticket ∈ events) :
    ticket.sessionId = sessionId ∧ (∃ req sessionFocus candidate sceneId,
      stage = .issuing req sessionFocus candidate sceneId) ∧
      ∀ nonce, stage.disturbs setup answer sessionId stored nonce = true := by
  cases h with
  | confirms hsecret hmade =>
    cases List.mem_singleton.mp hissued
    refine ⟨(issueTicket_eq_ok hmade).2.1, ⟨_, _, _, _, rfl⟩, fun nonce => ?_⟩
    simp only [Stage.disturbs, hsecret, hmade]
    rfl
  | commits => cases List.mem_singleton.mp hissued
  | _ => cases hissued

/-! ## Turns -/

/-- What a new session is made of. -/
theorem GuiService.proposeSession_eq_ok {ttl : Option Nat} {made : StoredSession}
    (h : proposeSession setup answer ttl = .ok made) :
    ∃ focus scene, answer.currentFocus = .ok focus ∧ answer.scene = .ok scene ∧
      made = newSession answer ttl focus scene.1 scene.2 := by
  simp only [proposeSession, bind, Except.bind] at h
  split at h
  · cases h
  split at h
  · cases h
  next focus hfocus =>
    split at h
    · cases h
    next scene hscene =>
      split at h
      · cases h
      · cases h
        exact ⟨focus, scene, hfocus, hscene, rfl⟩

/-- The sessions there are, against what has happened. -/
structure Ticketed (service : GuiService) : Prop where
  registered : Registered service
  issued : ∀ ticket, .issued ticket ∈ service.history →
    .created ticket.sessionId ∈ service.history
  sessions : ∀ sessionId stored, service.sessions.find? sessionId = some stored →
    SessionOk service.history sessionId stored

variable {self : GuiService} {call : GuiCall}

/-- A new session has no ticket. -/
theorem Ticketed.newSession (h : Ticketed self) {ttl : Option Nat} {made : StoredSession}
    (hmade : GuiService.proposeSession setup answer ttl = .ok made)
    (hnew : .created answer.sessionId ∉ self.history) {index : Nat}
    (hplain : plainTexts self index answer call = true) : SessionOk self.history made.id made := by
  have hgiven := GuiService.id_of_proposeSession hmade
  obtain ⟨focus, scene, hfocus, hscene, rfl⟩ := GuiService.proposeSession_eq_ok hmade
  simp only [plainTexts, hfocus, hscene, Except.toOption, Option.all_some, Bool.and_eq_true,
    decide_eq_true_eq] at hplain
  have hnone : latestTicket answer.sessionId self.history = none :=
    latestTicket_eq_none fun ticket hissued heq => hnew (heq ▸ h.issued ticket hissued)
  refine ⟨hplain.1.1, hplain.1.2, ?_, fun confirmedAction hnothing => ?_⟩
  · rw [hgiven, hnone]
    rfl
  · cases hnothing

/-- **One turn** keeps the sessions confirmed with their latest tickets. -/
theorem Ticketed.turn (h : Ticketed self) {index : Nat} (hnew : NewIds self index answer call)
    (hplain : plainTexts self index answer call = true)
    (hread : ∀ sessionId stage, call = .session sessionId stage → stage.ReadOk) :
    Ticketed (GuiService.turn setup self index answer call).1 := by
  have hreg : Registered (GuiService.turn setup self index answer call).1 :=
    h.registered.turn index call
  rcases GuiService.turn_does setup self index answer call with
    hs | ⟨ttl, made, rfl, hmade, hs⟩ |
      ⟨sessionId, stage, stored, stored', events, rfl, hfound, hdoes, hs⟩ | hs <;>
    rw [hs] at hreg ⊢
  · exact h
  · have hmadeOk := h.newSession hmade hnew hplain
    refine ⟨hreg, fun ticket hissued => ?_, fun sessionId stored hstored => ?_⟩
    · rcases List.mem_cons.mp hissued with hbad | hold
      · cases hbad
      · exact List.mem_cons_of_mem _ (h.issued ticket hold)
    · rw [Table.find?_upsert] at hstored
      split at hstored
      · next hid =>
        cases hstored
        exact hid ▸ ⟨hmadeOk.sceneId, hmadeOk.focusHash, hmadeOk.latest, hmadeOk.action⟩
      · have hok := h.sessions sessionId stored hstored
        exact ⟨hok.sceneId, hok.focusHash, hok.latest, hok.action⟩
  · refine ⟨hreg, fun ticket hissued => ?_, fun other found hstored => ?_⟩
    · refine List.mem_append_right _ ?_
      rcases List.mem_append.mp hissued with hnow | hold
      · exact (hdoes.issued hnow).1 ▸ h.registered sessionId stored hfound
      · exact h.issued ticket hold
    · rw [find?_onSession hfound hdoes.id_eq other] at hstored
      split at hstored
      · next heq =>
        cases hstored
        have hnonce : NoBar answer.nonce := of_decide_eq_true (Bool.and_eq_true_iff.mp hplain).2
        exact heq ▸ hdoes.sessionOk (h.sessions sessionId stored hfound) (hread _ _ rfl) hnonce
      · next hne =>
        have hok := h.sessions other found hstored
        have hlatest := hdoes.latestTicket_eq (fun heq => absurd heq hne) self.history
        exact ⟨hok.sceneId, hok.focusHash, hok.latest.trans hlatest.symm, hok.action⟩
  · refine ⟨hreg, h.issued, fun sessionId stored hstored => ?_⟩
    obtain ⟨hmem, hkey⟩ := Table.find?_eq_some_iff.mp hstored
    have hold := Table.find?_eq_some_iff.mpr ⟨(List.mem_filter.mp hmem).1, hkey⟩
    exact h.sessions sessionId stored hold

/-- A confirmation reads of a session what is so of it. -/
theorem turn_readOk (h : Ticketed self) (index : Nat) {stage : Stage}
    (hnext : (GuiService.turn setup self index answer call).2 = .session sessionId stage) :
    stage.ReadOk := by
  obtain ⟨stage', block, stored, rfl, hblock, hfound, hgoes, -⟩ := turn_stage index hnext
  have hok := h.sessions sessionId stored hfound
  have hgone := Stage.block_goes hblock stored
  rw [hgoes] at hgone
  cases hgone with
  | admits hafter => cases stage' <;> cases hafter <;> trivial
  | shows => trivial
  | chooses hid => exact ⟨hid, hok.focusHash, hok.sceneId⟩
  | checks => trivial

/-- What a check has seen of the times. -/
theorem prepareCheck_in_time {hmac : List Char → List UInt8} {ticket : GuiExecutionTicket}
    {next : Stage} (h : (prepareCheck hmac stored answer ticket).next = .stage next) :
    isExpired stored.session.expiresAt answer.now = false ∧
      isExpiredPastGrace ticket.expiresAt ticketExpiryGraceSecs answer.later = false := by
  simp only [prepareCheck] at h
  split at h
  · cases h
  split at h
  · cases h
  next halive =>
    split at h
    · cases h
    split at h
    · cases h
    next hchecked =>
      obtain ⟨-, -, -, -, -, hgrace⟩ := checkTicket_eq_ok hchecked
      exact ⟨Bool.eq_false_iff.mpr halive, hgrace⟩

/-- A ticket on the signed text of an issued one that is not mixed is on that of the latest. -/
theorem payload_of_unmixed {service : GuiService} {ticket latest : GuiExecutionTicket}
    (hlatest : latestTicket sessionId service.history = some latest)
    (hticketId : ticket.ticketId = latest.ticketId) (hsession : ticket.sessionId = sessionId)
    (helement : ticket.elementId = latest.elementId)
    (haction : ticket.actionHash = latest.actionHash)
    (hissued : (issuedTickets service.history).any (fun issued =>
      ticketSignaturePayload issued == ticketSignaturePayload ticket) = true)
    (hunmixed : mixes service sessionId ticket = false) :
    ticketSignaturePayload ticket = ticketSignaturePayload latest := by
  by_contra hne
  have hmixes : mixes service sessionId ticket = true := by
    simp only [mixes, hlatest, Option.any_some, hticketId, hsession, helement, haction, hissued,
      beq_self_eq_true, Bool.and_true, Bool.true_and, bne_iff_ne]
    exact hne
  exact Bool.false_ne_true (hunmixed.symm.trans hmixes)

/-- **Coming to the commit**: with a used nonce, or for the latest ticket. -/
theorem turn_committing_isLatest (h : Ticketed self) {index : Nat}
    (hunforged : unforged setup self index answer call = true)
    (hunmixed : unmixed self index answer call = true) {ticket : GuiExecutionTicket}
    {sessionFocus : FocusSnapshot} {confirmedAction : ConfirmedAction}
    (hnext : (GuiService.turn setup self index answer call).2 =
      .session sessionId (.committing ticket sessionFocus confirmedAction))
    (hstored : (GuiService.turn setup self index answer call).1.sessions.find? sessionId =
      some stored) :
    ticket.nonce ∈ stored.usedTicketNonces ∨
      IsLatest (GuiService.turn setup self index answer call).1.history sessionId ticket := by
  obtain ⟨hmac, found, rfl, hsecret, hfound, hhistory, hfind, hverified, hsession, hready⟩ :=
    turn_committing index hnext
  cases hfind.symm.trans hstored
  by_cases hused : ticket.nonce ∈ stored.usedTicketNonces
  · exact .inl hused
  obtain ⟨_, block, _, hcall, hblock, hfound', hgoes, -⟩ := turn_stage index hnext
  cases hcall
  cases hfound.symm.trans hfound'
  obtain ⟨hmac', -, rfl⟩ := Stage.block_checking hblock
  obtain ⟨halive, hgrace⟩ := prepareCheck_in_time hgoes
  have hok := h.sessions sessionId stored hfound
  have hact := hok.action confirmedAction hready.action
  have hlatest : latestTicket sessionId self.history = some confirmedAction.ticket := by
    rw [← hok.latest, hready.action]
    rfl
  have hready' : ready stored answer ticket = true := by
    simp [ready, hready.state, halive, hgrace, hused]
  have hmixes : mixes self sessionId ticket = false := by
    simpa [unmixed, hfound, hready'] using hunmixed
  have hissued : (issuedTickets self.history).any (fun issued =>
      ticketSignaturePayload issued == ticketSignaturePayload ticket) = true := by
    simpa only [unforged, hsecret, hverified, Except.isOk, Except.toBool, Option.all_some,
      Bool.not_true, Bool.false_or] using hunforged
  have helement := hready.elementId.trans hact.elementId.symm
  have haction := hready.actionHash.trans hact.actionHash.symm
  have hpayload := payload_of_unmixed hlatest hready.ticketId hsession helement haction hissued
    hmixes
  rw [hhistory]
  exact .inr ⟨_, hlatest, sameTicket_of_payload hpayload hready.ticketId
    (hsession.trans hact.sessionId.symm) helement haction hact.sceneId hact.focusHash hact.nonce⟩

/-- **One turn** keeps plans to the latest tickets when its call waits for the latest one. -/
theorem LatestOnly.turn (h : LatestOnly self.history) (index : Nat)
    (hwaits : ∀ sessionId ticket sessionFocus confirmedAction,
      call = .session sessionId (.committing ticket sessionFocus confirmedAction) →
      ∀ stored, self.sessions.find? sessionId = some stored →
        ticket.nonce ∉ stored.usedTicketNonces → IsLatest self.history sessionId ticket) :
    LatestOnly (GuiService.turn setup self index answer call).1.history := by
  rcases GuiService.turn_does setup self index answer call with
    hs | ⟨ttl, made, rfl, hmade, hs⟩ |
      ⟨sessionId, stage, stored, stored', events, rfl, hfound, hdoes, hs⟩ | hs <;> rw [hs]
  · exact h
  · exact h.cons fun _ _ _ hbad => by cases hbad
  · cases hdoes with
    | confirms => exact h.cons fun _ _ _ hbad => by cases hbad
    | commits hfocus hfresh =>
      refine h.cons fun _ _ _ heq => ?_
      cases heq
      have hid : stored.id = sessionId := (Table.find?_eq_some_iff.mp hfound).2
      rw [hid]
      exact hwaits sessionId _ _ _ rfl stored hfound hfresh
    | _ => exact h
  · exact h

/-! ## Runs -/

/-- What is so of a call: what a confirmation has read, and what a commit waits with. -/
structure CallOk (service : GuiService) (call : GuiCall) : Prop where
  read : ∀ sessionId stage, call = .session sessionId stage → stage.ReadOk
  waits : ∀ sessionId ticket sessionFocus confirmedAction,
    call = .session sessionId (.committing ticket sessionFocus confirmedAction) →
    .created sessionId ∈ service.history ∧
      ∀ stored, service.sessions.find? sessionId = some stored →
        ticket.nonce ∈ stored.usedTicketNonces ∨ IsLatest service.history sessionId ticket

/-- A turn leaves the latest ticket of a session that is there, unless it issues one. -/
theorem latestTicket_turn {index : Nat}
    (hquiet : ∀ req sessionFocus candidate sceneId stored,
      call = .session sessionId (.issuing req sessionFocus candidate sceneId) →
      self.sessions.find? sessionId = some stored → ∃ nonce,
        (Stage.issuing req sessionFocus candidate sceneId).disturbs setup answer sessionId stored
          nonce = false) :
    latestTicket sessionId (GuiService.turn setup self index answer call).1.history =
      latestTicket sessionId self.history := by
  rcases GuiService.turn_does setup self index answer call with
    hs | ⟨ttl, made, rfl, hmade, hs⟩ |
      ⟨other, stage, stored, stored', events, rfl, hfound, hdoes, hs⟩ | hs <;> rw [hs]
  · rfl
  · refine hdoes.latestTicket_eq (fun heq ticket hissued => ?_) self.history
    subst heq
    obtain ⟨-, ⟨req, sessionFocus, candidate, sceneId, rfl⟩, hdisturbs⟩ := hdoes.issued hissued
    obtain ⟨nonce, hfalse⟩ := hquiet _ _ _ _ stored rfl hfound
    exact Bool.false_ne_true (hfalse.symm.trans (hdisturbs nonce))
  · rfl

/-- What a call waits with is kept by the turns of others. -/
theorem CallOk.turn {other : GuiCall} (h : CallOk self other) {index : Nat}
    (hnew : NewIds self index answer call)
    (hquiet : ∀ sessionId ticket sessionFocus confirmedAction req focus candidate sceneId stored,
      other = .session sessionId (.committing ticket sessionFocus confirmedAction) →
      call = .session sessionId (.issuing req focus candidate sceneId) →
      self.sessions.find? sessionId = some stored → ticket.nonce ∉ stored.usedTicketNonces →
      (Stage.issuing req focus candidate sceneId).disturbs setup answer sessionId stored
        ticket.nonce = false) :
    CallOk (GuiService.turn setup self index answer call).1 other := by
  refine ⟨h.read, fun sessionId ticket sessionFocus confirmedAction hother => ?_⟩
  obtain ⟨hcreated, hwaits⟩ := h.waits sessionId ticket sessionFocus confirmedAction hother
  refine ⟨mem_history_turn hcreated index call, fun stored' hstored' => ?_⟩
  obtain ⟨stored, hstored, hdone⟩ := find?_turn_of_created hcreated hnew hstored'
  by_cases hused : ticket.nonce ∈ stored.usedTicketNonces
  · rcases hdone with rfl | ⟨stage, events, -, hdoes⟩
    · exact .inl hused
    · exact .inl (hdoes.used_subset hused)
  · obtain ⟨latest, hlatest, hsame⟩ := (hwaits stored hstored).resolve_left hused
    refine .inr ⟨latest, ?_, hsame⟩
    rw [latestTicket_turn, hlatest]
    intro req focus candidate sceneId found hcall hfound
    cases hstored.symm.trans hfound
    exact ⟨ticket.nonce, hquiet _ _ _ _ _ _ _ _ stored hother hcall hstored hused⟩

/-- What is so of the sessions, of the plans and of the calls. -/
structure TicketInvariant (s : GuiSystem) : Prop where
  ticketed : Ticketed s.shared
  latestOnly : LatestOnly s.shared.history
  calls : ∀ (j : Nat) call, s.calls[j]? = some call → CallOk s.shared call

/-- The condition on a move: no mixed ticket is checked, and no confirmation overtakes a commit. -/
structure OnlyLatest (setup : GuiSetup) (s : GuiSystem) (m : CallMove GuiRequest GuiAnswer) :
    Prop where
  unmixed : CallSystem.OnTurn (fun self i a c => unmixed self i a c = true) s m
  unovertaken : unovertaken setup s m = true

instance (s : GuiSystem) (m : CallMove GuiRequest GuiAnswer) : Decidable (OnlyLatest setup s m) :=
  decidable_of_iff (_ ∧ _) ⟨fun h => ⟨h.1, h.2⟩, fun h => ⟨h.1, h.2⟩⟩

theorem CallOk.enter (service : GuiService) (request : GuiRequest) :
    CallOk service request.enter := by
  cases request <;> exact ⟨fun _ _ h => by cases h <;> trivial, fun _ _ _ _ h => by cases h⟩

/-- **One move** of those allowed keeps the invariant. -/
theorem TicketInvariant.step {s : GuiSystem} (h : TicketInvariant s)
    {m : CallMove GuiRequest GuiAnswer} (hassumed : Assumed setup s m)
    (honly : OnlyLatest setup s m) : TicketInvariant ((guiCalls setup).step s m) := by
  have hkept := (guiCalls setup).step_invariant (m := m)
    (P := fun service _ => Ticketed service ∧ LatestOnly service.history)
    (Q := fun service _ call => CallOk service call) ?_ ?_ ⟨h.ticketed, h.latestOnly⟩ h.calls
  · exact ⟨hkept.1.1, hkept.1.2, hkept.2⟩
  · exact fun request hshared => ⟨hshared, CallOk.enter s.shared request⟩
  · rintro index answer call rfl hcall
    have hnew := hassumed.newIds call hcall
    have hcallOk := h.calls index call hcall
    have hticketed : Ticketed (GuiService.turn setup s.shared index answer call).1 :=
      h.ticketed.turn hnew (hassumed.plainTexts call hcall) hcallOk.read
    refine ⟨⟨hticketed, ?_⟩, ⟨fun sessionId stage hnext => ?_, ?_⟩, ?_⟩
    · refine h.latestOnly.turn index fun sessionId ticket _ _ hcommitting stored hfound hfresh => ?_
      exact ((hcallOk.waits _ _ _ _ hcommitting).2 stored hfound).resolve_left hfresh
    · exact turn_readOk h.ticketed index hnext
    · intro sessionId ticket sessionFocus confirmedAction hnext
      obtain ⟨hmac, stored, rfl, -, hfound, -⟩ := turn_committing index hnext
      refine ⟨mem_history_turn (h.ticketed.registered sessionId stored hfound) index _, ?_⟩
      intro stored' hstored'
      exact turn_committing_isLatest h.ticketed (hassumed.unforged _ hcall)
        (honly.unmixed _ hcall) hnext hstored'
    · intro j other hj hother hotherOk
      refine hotherOk.turn hnew ?_
      rintro sessionId ticket sessionFocus confirmedAction req focus candidate sceneId stored rfl
        rfl hfound hfresh
      have hundisturbed : undisturbed setup s (.turn index answer) = true := by
        simpa only [unovertaken, hcall] using honly.unovertaken
      exact quiet_of_undisturbed hundisturbed hcall hj hother hfound hfresh

theorem GuiSystem.ticketInvariant_start : TicketInvariant GuiSystem.start := by
  refine ⟨⟨fun sessionId stored hstored => ?_, fun ticket hissued => ?_,
    fun sessionId stored hstored => ?_⟩, fun later sessionId ticket stored older heq => ?_,
    fun j call hcall => ?_⟩
  · cases hstored
  · cases hissued
  · cases hstored
  · exact absurd heq.symm (List.append_ne_nil_of_right_ne_nil later (List.cons_ne_nil _ _))
  · cases hcall

/-! ## The result -/

/-- **Only the latest ticket** of a session is executed, in every interleaving in which no ticket
    mixes the id of the latest one with the signed text of an earlier one and no confirmation
    overtakes a call that has checked its ticket. -/
theorem latest_ticket_only {moves : List (CallMove GuiRequest GuiAnswer)}
    (hrun : Along (guiCalls setup).step (fun s m => Assumed setup s m ∧ OnlyLatest setup s m)
      GuiSystem.start moves) :
    ∀ s ∈ states (guiCalls setup).step GuiSystem.start moves, LatestOnly s.shared.history := by
  have hstep : ∀ s m, TicketInvariant s → Assumed setup s m ∧ OnlyLatest setup s m →
      TicketInvariant ((guiCalls setup).step s m) := fun s m h hm => h.step hm.1 hm.2
  exact fun s hs =>
    (states_invariant hstep GuiSystem.ticketInvariant_start hrun s hs).latestOnly

/-- A session that is confirmed twice, with two tickets for one click. -/
def confirmedTwice : List (CallMove GuiRequest GuiAnswer) :=
  openedAndConfirmed ++ [
    .request (.confirmCandidate "session0" "token" exampleConfirm),
    .turn 2 (exampleAnswer 2 "2"), .turn 2 (exampleAnswer 2 "2"), .turn 2 (exampleAnswer 2 "2")]

/-- A ticket is presented and goes as far as it can. -/
def presents (index : Nat) (ticket : GuiExecutionTicket) : List (CallMove GuiRequest GuiAnswer) :=
  [.request (.prepareExecution "session0" "token" ticket),
    .turn index (exampleAnswer 3 "3"), .turn index (exampleAnswer 3 "3"),
    .turn index (exampleAnswer 3 "3")]

/-- The tickets plans have been made for. -/
def plannedTickets (history : List GuiEvent) : List GuiExecutionTicket :=
  history.filterMap fun
    | .planned _ ticket _ => some ticket
    | _ => none

/-- The earlier ticket is refused, the later one executed. -/
theorem latest_ticket_only_bothPresented :
    plannedTickets ((confirmedTwice ++ presents 3 (exampleTicket 1 "1") ++
        presents 4 (exampleTicket 2 "2")).foldl (guiCalls exampleSetup).step
          GuiSystem.start).shared.history = [exampleTicket 2 "2"] ∧
    ∀ s ∈ states (guiCalls exampleSetup).step GuiSystem.start
      (confirmedTwice ++ presents 3 (exampleTicket 1 "1") ++ presents 4 (exampleTicket 2 "2")),
      LatestOnly s.shared.history :=
  ⟨by decide +kernel, latest_ticket_only (by decide +kernel)⟩

/-- The ticket of the first confirmation, with the id of the second. -/
def mixedTicket : GuiExecutionTicket := { exampleTicket 1 "1" with ticketId := "ticket2" }

/-- The session and the ticket of a plan that has just been made, and the latest ticket before it. -/
def lastPlan? : List GuiEvent → Option (String × GuiExecutionTicket × Option GuiExecutionTicket)
  | .planned sessionId ticket _ :: older =>
    some (sessionId, ticket, latestTicket sessionId older)
  | _ => none

/-- The last plan is one of the latest ticket. -/
theorem LatestOnly.lastPlan {history : List GuiEvent} (h : LatestOnly history)
    {ticket latest : GuiExecutionTicket}
    (hplan : lastPlan? history = some (sessionId, ticket, some latest)) :
    SameTicket ticket latest := by
  cases history with
  | nil => cases hplan
  | cons e older =>
    cases e with
    | planned sessionId' ticket' stored =>
      obtain ⟨latest', hlatest', hsame⟩ := h [] sessionId' ticket' stored older rfl
      rw [lastPlan?, hlatest'] at hplan
      cases hplan
      exact hsame
    | created => cases hplan
    | issued => cases hplan

/-- **A superseded ticket is executed**, under the id of the latest one. -/
theorem superseded_ticket_executes :
    ¬ ∀ (setup : GuiSetup) (moves : List (CallMove GuiRequest GuiAnswer)),
      Along (guiCalls setup).step (Assumed setup) GuiSystem.start moves →
        ∀ s ∈ states (guiCalls setup).step GuiSystem.start moves, LatestOnly s.shared.history := by
  intro hall
  have honly := hall exampleSetup (confirmedTwice ++ presents 3 mixedTicket) (by decide +kernel) _
    (foldl_mem_states _ _)
  have hplan : lastPlan? ((confirmedTwice ++ presents 3 mixedTicket).foldl
      (guiCalls exampleSetup).step GuiSystem.start).shared.history =
        some ("session0", mixedTicket, some (exampleTicket 2 "2")) := by
    decide +kernel
  have hnonce : mixedTicket.nonce = (exampleTicket 2 "2").nonce := (honly.lastPlan hplan).nonce
  exact absurd hnonce (by decide)

end Oneshim.Gui
