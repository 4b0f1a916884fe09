/-
  What the signed text of a ticket says (`gui_interaction/crypto.rs`).

  `ticket_signature_payload` joins eight fields with `|`, the two times among them as milliseconds,
  and escapes nothing.  A field with the separator can be cut in another place.

  1. **Other readings** — a separator in one of the first five fields moves to its neighbour
     (`other_of_bar`); after the times, two printed instants in the nonce, each followed by a
     separator, can be taken for the times (`other_of_readsOn`).

  2. **No other readings** (`same_of_unambiguous`) — of a text without either.

  3. **The result** (`payload_unambiguous_iff`).

  Which counts of milliseconds are instants is a parameter.
-/
import Oneshim.Automation.GuiTickets

namespace Oneshim.Gui

open Lib

/-- The times of the ticket are instants. -/
def Timed (instants : Int → Prop) (ticket : GuiExecutionTicket) : Prop :=
  instants (timestampMillis ticket.issuedAt) ∧ instants (timestampMillis ticket.expiresAt)

/-- The second time and the nonce, as they are signed. -/
def ticketTail (ticket : GuiExecutionTicket) : List Char :=
  Text.signedDecimal (timestampMillis ticket.expiresAt) ++ '|' :: ticket.nonce.toList

/-- From the second time on there are two printed instants, each followed by a separator. -/
def ReadsOn (instants : Int → Prop) (ticket : GuiExecutionTicket) : Prop :=
  ∃ before m n after, instants m ∧ instants n ∧ (before = [] ∨ ∃ front, before = front ++ ['|']) ∧
    ticketTail ticket =
      before ++ (Text.signedDecimal m ++ '|' :: (Text.signedDecimal n ++ '|' :: after))

/-- No separator in the first five fields, and no two instants in the nonce that could be the times.
    -/
structure Unambiguous (instants : Int → Prop) (ticket : GuiExecutionTicket) : Prop where
  sessionId : NoBar ticket.sessionId
  sceneId : NoBar ticket.sceneId
  elementId : NoBar ticket.elementId
  actionHash : NoBar ticket.actionHash
  focusHash : NoBar ticket.focusHash
  readsOn : ¬ ReadsOn instants ticket

section

variable {instants : Int → Prop} {ticket other : GuiExecutionTicket}

/-! ## Other readings -/

/-- A text with the separator, cut there. -/
theorem cut_of_bar {s : String} (h : ¬ NoBar s) :
    ∃ x y : List Char, s.toList = x ++ '|' :: y := by
  obtain ⟨x, y, hxy⟩ := List.append_of_mem (not_not.mp h)
  exact ⟨x, y, hxy⟩

/-- Texts of different lengths are different. -/
theorem ne_of_shorter {s : String} {x y : List Char} (h : s.toList = x ++ '|' :: y) :
    String.ofList x ≠ s := by
  intro heq
  have hlength := congrArg List.length h
  rw [← heq, String.toList_ofList, List.length_append, List.length_cons] at hlength
  omega

/-- **A separator in one of the first five fields** moves to the field beside it. -/
theorem other_of_bar (htimed : Timed instants ticket)
    (hunique : ∀ other, Timed instants other →
      ticketSignaturePayload other = ticketSignaturePayload ticket → SameSigned other ticket) :
    NoBar ticket.sessionId ∧ NoBar ticket.sceneId ∧ NoBar ticket.elementId ∧
      NoBar ticket.actionHash ∧ NoBar ticket.focusHash := by
  refine ⟨?_, ?_, ?_, ?_, ?_⟩ <;> by_contra hbar <;> obtain ⟨x, y, hxy⟩ := cut_of_bar hbar
  case refine_1 =>
    let moved := { ticket with
      sessionId := String.ofList x
      sceneId := String.ofList (y ++ '|' :: ticket.sceneId.toList) }
    have hsame := hunique moved htimed (by simp [ticketSignaturePayload, moved, hxy])
    exact ne_of_shorter hxy hsame.sessionId
  case refine_2 =>
    let moved := { ticket with
      sceneId := String.ofList x
      elementId := String.ofList (y ++ '|' :: ticket.elementId.toList) }
    have hsame := hunique moved htimed (by simp [ticketSignaturePayload, moved, hxy])
    exact ne_of_shorter hxy hsame.sceneId
  case refine_3 =>
    let moved := { ticket with
      elementId := String.ofList x
      actionHash := String.ofList (y ++ '|' :: ticket.actionHash.toList) }
    have hsame := hunique moved htimed (by simp [ticketSignaturePayload, moved, hxy])
    exact ne_of_shorter hxy hsame.elementId
  case refine_4 =>
    let moved := { ticket with
      actionHash := String.ofList x
      focusHash := String.ofList (y ++ '|' :: ticket.focusHash.toList) }
    have hsame := hunique moved htimed (by simp [ticketSignaturePayload, moved, hxy])
    exact ne_of_shorter hxy hsame.actionHash
  case refine_5 =>
    -- the last of the five gives its first part to the one before
    let moved := { ticket with
      actionHash := String.ofList (ticket.actionHash.toList ++ '|' :: x)
      focusHash := String.ofList y }
    have hsame := hunique moved htimed (by simp [ticketSignaturePayload, moved, hxy])
    have hlonger : moved.actionHash.toList = ticket.actionHash.toList ++ '|' :: x := by
      simp [moved]
    have hback := ne_of_shorter hlonger
    rw [String.ofList_toList] at hback
    exact hback hsame.actionHash.symm

/-- A whole number of milliseconds, as a time. -/
theorem timestampMillis_mul (m : Int) : timestampMillis (m * 1000000) = m := by
  rw [timestampMillis]
  omega

/-- **Two instants after the first time** can be taken for the times. -/
theorem other_of_readsOn (h : ReadsOn instants ticket) :
    ∃ other, Timed instants other ∧ ticketSignaturePayload other = ticketSignaturePayload ticket ∧
      ¬ SameSigned other ticket := by
  obtain ⟨before, m, n, after, hm, hn, hbefore, htail⟩ := h
  -- what is before them goes to the focus, without its last separator
  let front := Text.signedDecimal (timestampMillis ticket.issuedAt) ++
    (if before = [] then [] else '|' :: before.dropLast)
  let moved : GuiExecutionTicket := { ticket with
    focusHash := String.ofList (ticket.focusHash.toList ++ '|' :: front)
    issuedAt := m * 1000000
    expiresAt := n * 1000000
    nonce := String.ofList after }
  have hfront : front ++ ['|'] =
      Text.signedDecimal (timestampMillis ticket.issuedAt) ++ '|' :: before := by
    rcases hbefore with rfl | ⟨b, rfl⟩
    · simp [front]
    · simp [front]
  refine ⟨moved, ⟨?_, ?_⟩, ?_, fun hsame => ?_⟩
  · rw [timestampMillis_mul]
    exact hm
  · rw [timestampMillis_mul]
    exact hn
  · have hpayload : ticketSignaturePayload ticket = ticket.sessionId.toList ++ '|' ::
        (ticket.sceneId.toList ++ '|' :: (ticket.elementId.toList ++ '|' ::
        (ticket.actionHash.toList ++ '|' :: (ticket.focusHash.toList ++ '|' ::
        ((front ++ ['|']) ++ (Text.signedDecimal m ++ '|' ::
        (Text.signedDecimal n ++ '|' :: after))))))) := by
      rw [ticketSignaturePayload_eq, hfront]
      simp only [List.append_assoc, List.cons_append, ← htail]
      rfl
    rw [hpayload, ticketSignaturePayload_eq]
    simp [moved, timestampMillis_mul]
  · have hlonger : moved.focusHash.toList = ticket.focusHash.toList ++ '|' :: front := by
      simp [moved]
    have hback := ne_of_shorter hlonger
    rw [String.ofList_toList] at hback
    exact hback hsame.focusHash.symm

/-! ## No other readings -/

/-- Two cuts of one text at a separator: in the same place, or one before the other. -/
theorem cut_cases {a b c d : List Char} (h : a ++ '|' :: b = c ++ '|' :: d) :
    (a = c ∧ b = d) ∨ (∃ y, c = a ++ '|' :: y ∧ b = y ++ '|' :: d) ∨
      ∃ y, a = c ++ '|' :: y ∧ d = y ++ '|' :: b := by
  rcases List.append_eq_append_iff.mp h with ⟨e, hc, hb⟩ | ⟨e, ha, hd⟩
  · cases e with
    | nil =>
      refine .inl ⟨by rw [hc, List.append_nil], ?_⟩
      exact (List.cons.inj hb).2
    | cons x e =>
      obtain ⟨rfl, hrest⟩ := List.cons.inj hb
      exact .inr (.inl ⟨e, hc, hrest⟩)
  · cases e with
    | nil =>
      refine .inl ⟨by rw [ha, List.append_nil], ?_⟩
      exact (List.cons.inj hd).2.symm
    | cons x e =>
      obtain ⟨rfl, hrest⟩ := List.cons.inj hd
      exact .inr (.inr ⟨e, ha, hrest⟩)

/-- The first five fields. -/
def ticketHead (ticket : GuiExecutionTicket) : List Char :=
  ticket.sessionId.toList ++ '|' :: (ticket.sceneId.toList ++ '|' :: (ticket.elementId.toList ++
    '|' :: (ticket.actionHash.toList ++ '|' :: ticket.focusHash.toList)))

theorem ticketSignaturePayload_head (ticket : GuiExecutionTicket) :
    ticketSignaturePayload ticket = ticketHead ticket ++ '|' ::
      (Text.signedDecimal (timestampMillis ticket.issuedAt) ++ '|' :: ticketTail ticket) := by
  rw [ticketSignaturePayload_eq, ticketHead, ticketTail]
  simp only [List.append_assoc, List.cons_append]

theorem count_ticketHead (ticket : GuiExecutionTicket) :
    (ticketHead ticket).count '|' =
      ticket.sessionId.toList.count '|' + ticket.sceneId.toList.count '|' +
      ticket.elementId.toList.count '|' + ticket.actionHash.toList.count '|' +
      ticket.focusHash.toList.count '|' + 4 := by
  simp only [ticketHead, List.count_append, List.count_cons_self]
  omega

/-- **A text without either** is read in one way. -/
theorem same_of_unambiguous (h : Unambiguous instants ticket) (htimed : Timed instants other)
    (hpayload : ticketSignaturePayload other = ticketSignaturePayload ticket) :
    SameSigned other ticket := by
  have hcount := count_ticketHead ticket
  rw [List.count_eq_zero.mpr h.sessionId, List.count_eq_zero.mpr h.sceneId,
    List.count_eq_zero.mpr h.elementId, List.count_eq_zero.mpr h.actionHash,
    List.count_eq_zero.mpr h.focusHash] at hcount
  have hother := count_ticketHead other
  rw [ticketSignaturePayload_head, ticketSignaturePayload_head] at hpayload
  rcases cut_cases hpayload with ⟨hhead, htail⟩ | ⟨y, hhead, -⟩ | ⟨y, hhead, htail⟩
  · -- the first five fields have no separator in the other ticket either
    rw [hhead] at hother
    have hsession : NoBar other.sessionId := List.count_eq_zero.mp (by omega)
    have hscene : NoBar other.sceneId := List.count_eq_zero.mp (by omega)
    have helement : NoBar other.elementId := List.count_eq_zero.mp (by omega)
    have haction : NoBar other.actionHash := List.count_eq_zero.mp (by omega)
    obtain ⟨hs, hrest⟩ := hsession.cut h.sessionId hhead
    obtain ⟨hc, hrest⟩ := hscene.cut h.sceneId hrest
    obtain ⟨he, hrest⟩ := helement.cut h.elementId hrest
    obtain ⟨ha, hf⟩ := haction.cut h.actionHash hrest
    obtain ⟨hi, hrest⟩ := millis_cut htail
    obtain ⟨hx, hn⟩ := millis_cut hrest
    exact ⟨hs, hc, he, ha, String.toList_injective hf, hi, hx, String.toList_injective hn⟩
  · -- the ticket's own first fields have the fewest separators there can be
    have hlonger := congrArg (List.count '|') hhead
    rw [List.count_append, List.count_cons_self] at hlonger
    omega
  · -- the other's first fields end behind the first time of the ticket
    refine absurd ?_ h.readsOn
    have hbar : '|' ∉ Text.signedDecimal (timestampMillis ticket.issuedAt) :=
      List.count_eq_zero.mp (count_signedDecimal _)
    rcases cut_cases htail with ⟨-, hrest⟩ | ⟨z, hy, hrest⟩ | ⟨z, htime, -⟩
    · exact ⟨[], _, _, other.nonce.toList, htimed.1, htimed.2, .inl rfl, hrest⟩
    · refine ⟨z ++ ['|'], _, _, other.nonce.toList, htimed.1, htimed.2, .inr ⟨z, rfl⟩, ?_⟩
      rw [hrest, ticketTail, List.append_assoc]
      rfl
    · exact absurd (htime ▸ List.mem_append_right _ List.mem_cons_self) hbar

end

/-- **When the signed text is unambiguous.**  It is that of tickets with one and the same signed
    fields exactly when the first five have no separator and the nonce no instants that could be the
    times. -/
theorem payload_unambiguous_iff (instants : Int → Prop) (ticket : GuiExecutionTicket)
    (htimed : Timed instants ticket) :
    (∀ other, Timed instants other →
        ticketSignaturePayload other = ticketSignaturePayload ticket → SameSigned other ticket) ↔
      Unambiguous instants ticket := by
  constructor
  · intro hunique
    obtain ⟨hsession, hscene, helement, haction, hfocus⟩ := other_of_bar htimed hunique
    refine ⟨hsession, hscene, helement, haction, hfocus, fun hreads => ?_⟩
    obtain ⟨other, hother, hpayload, hdiffers⟩ := other_of_readsOn hreads
    exact hdiffers (hunique other hother hpayload)
  · exact fun h other hother hpayload => same_of_unambiguous h hother hpayload

/-- A ticket for a button. -/
def buttonTicket : GuiExecutionTicket where
  schemaVersion := "automation.gui.ticket.v1"
  ticketId := "t-1"
  sessionId := "s-1"
  sceneId := "scene"
  elementId := "button"
  actionHash := "a1"
  focusHash := "f1"
  issuedAt := 0
  expiresAt := 30000000000
  nonce := "n1"
  signature := "00"

theorem payload_unambiguous_iff_sample :
    SameSigned { buttonTicket with issuedAt := 999999, signature := "01" } buttonTicket := by
  refine (payload_unambiguous_iff (fun _ => True) buttonTicket ⟨trivial, trivial⟩).mpr
    ⟨by decide, by decide, by decide, by decide, by decide, ?_⟩ _ ⟨trivial, trivial⟩ (by decide)
  rintro ⟨before, m, n, after, -, -, -, htail⟩
  have hcount := congrArg (List.count '|') htail
  simp only [List.count_append, List.count_cons_self, count_signedDecimal] at hcount
  have hone : (ticketTail buttonTicket).count '|' = 1 := by decide
  omega

/-- **A separator in an element's id.**  The element `ok` of the scene `login|form` and the element
    `form|ok` of the scene `login` are signed alike. -/
theorem elements_signed_alike :
    ticketSignaturePayload { buttonTicket with sceneId := "login|form", elementId := "ok" } =
        ticketSignaturePayload { buttonTicket with sceneId := "login", elementId := "form|ok" } ∧
      ¬ SameSigned { buttonTicket with sceneId := "login|form", elementId := "ok" }
        { buttonTicket with sceneId := "login", elementId := "form|ok" } := by
  refine ⟨by decide, fun hsame => ?_⟩
  exact absurd hsame.elementId (by decide)

end Oneshim.Gui
