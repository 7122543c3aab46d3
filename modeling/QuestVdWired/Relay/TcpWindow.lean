import QuestVdWired.Relay.TcpSelection
import Mathlib.Algebra.Group.Int.Defs

/-!
The client's window: how `getRemainingClientWindow` counts across the wrap-around, which data
packets are created, and when `processReceive` is entered. The interests follow every client
packet, but what the selector found ready before the packet does not.
-/

namespace QuestVdWired.Relay
open Transition

/-- How far the end of the client's window lies ahead of a sequence number, modulo `2 ^ 32`. -/
def windowAhead (theirAcknowledgementNumber : Int32) (window : UInt16) (sequenceNumber : Int32) :
    Nat :=
  ((theirAcknowledgementNumber.toInt + window.toNat - sequenceNumber.toInt) % 2 ^ 32).toNat

/-- A sequence number inside the window, with bytes of it to come. -/
def Inside (theirAcknowledgementNumber : Int32) (window : UInt16) (sequenceNumber : Int32) : Prop :=
  0 < windowAhead theirAcknowledgementNumber window sequenceNumber ∧
    windowAhead theirAcknowledgementNumber window sequenceNumber ≤ window.toNat

instance (ack : Int32) (window : UInt16) (seq : Int32) : Decidable (Inside ack window seq) :=
  inferInstanceAs (Decidable (_ ∧ _))

/-- The packet's last byte lies inside the window. -/
def Packet.EndsWithin (p : Packet) (c : TcpConnection) : Prop :=
  p.payload.length ≤ windowAhead c.theirAcknowledgementNumber c.clientWindow p.sequenceNumber ∧
    windowAhead c.theirAcknowledgementNumber c.clientWindow p.sequenceNumber ≤ c.clientWindow.toNat

/-- The remaining window is exact, a read creates a data packet that ends within it, and
`processReceive` finds what it asserts. -/
structure Guarded (c : TcpConnection) : Prop where
  remaining : c.getRemainingClientWindow.toInt =
    if windowAhead c.theirAcknowledgementNumber c.clientWindow c.sequenceNumber ≤
        c.clientWindow.toNat then
      windowAhead c.theirAcknowledgementNumber c.clientWindow c.sequenceNumber
    else 0
  within : ∀ bytes c', bytes ≠ [] → c.closed = false → c.ready.read = true →
    c.step (.receive (.bytes bytes)) = some c' →
    ∃ packet taken, c'.offers = c.offers ++ [(packet, taken)] ∧ packet.payload = bytes ∧
      packet.EndsWithin c
  entered : c.stage = .receive → c.closed = false → c.ready.read = true →
    c.packetForClient = false ∧ 0 < c.getRemainingClientWindow

namespace TcpConnection
variable {c c' : TcpConnection} {packet : ClientPacket}

theorem getRemainingClientWindow_eq (c : TcpConnection) :
    c.getRemainingClientWindow.toInt =
      if windowAhead c.theirAcknowledgementNumber c.clientWindow c.sequenceNumber ≤
          c.clientWindow.toNat then
        windowAhead c.theirAcknowledgementNumber c.clientWindow c.sequenceNumber
      else 0 := by
  have small := c.clientWindow.toNat_lt
  have window : (Int32.ofNat c.clientWindow.toNat).toInt = c.clientWindow.toNat :=
    Int32.toInt_ofNat_of_lt (by omega)
  have remaining : (c.theirAcknowledgementNumber + Int32.ofNat c.clientWindow.toNat -
        c.sequenceNumber).toInt =
      (c.theirAcknowledgementNumber.toInt + c.clientWindow.toNat -
        c.sequenceNumber.toInt).bmod (2 ^ 32) := by
    rw [Int32.toInt_sub, Int32.toInt_add, Int.bmod_sub_bmod, window]
  rw [Int.bmod_def] at remaining
  unfold getRemainingClientWindow windowAhead
  dsimp only
  split
  · rename_i outside
    rw [Int32.lt_iff_toInt_lt, Int32.lt_iff_toInt_lt, window, Int32.toInt_zero] at outside
    rw [Int32.toInt_zero]
    split at remaining <;> split <;> omega
  · rename_i inside
    rw [Int32.lt_iff_toInt_lt, Int32.lt_iff_toInt_lt, window, Int32.toInt_zero] at inside
    split at remaining <;> split <;> omega

theorem getRemainingClientWindow_pos :
    0 < c.getRemainingClientWindow ↔
      Inside c.theirAcknowledgementNumber c.clientWindow c.sequenceNumber := by
  rw [Int32.lt_iff_toInt_lt, getRemainingClientWindow_eq, Inside, Int32.toInt_zero]
  split <;> omega

theorem offerPacket_offers (c : TcpConnection) :
    ∃ taken, c.offerPacket.offers = c.offers ++ [(c.get.networkToClient, taken)] := by
  unfold offerPacket
  rw [sendToClient_eq]
  by_cases full : c.get.room < c.get.networkToClient.rawLength
  · refine ⟨false, ?_⟩
    simp only [full, not_true_eq_false, decide_false]
    rfl
  · refine ⟨true, ?_⟩
    simp only [full, not_false_eq_true, decide_true, next, updateInterests]
    split <;> rfl

/-- The channel fills no more than the remaining window. -/
theorem receive_within {bytes : List UInt8} (some' : bytes ≠ []) (live : c.closed = false)
    (ready : c.ready.read = true) (taken : c.step (.receive (.bytes bytes)) = some c') :
    ∃ packet accepted, c'.offers = c.offers ++ [(packet, accepted)] ∧ packet.payload = bytes ∧
      packet.EndsWithin c := by
  cases handling : c.stage with
  | connect => simp [step, handling] at taken
  | send => simp [step, handling] at taken
  | receive =>
      simp only [step, handling, live, ready, Bool.not_false, Bool.and_true, if_true] at taken
      obtain ⟨after, received, rfl⟩ := Option.map_eq_some_iff.mp taken
      unfold processReceive at received
      dsimp only at received
      split at received
      · rename_i fits
        cases received
        obtain ⟨accepted, offers⟩ := offerPacket_offers
          { c with
            networkToClient :=
              ⟨{ psh := true, ack := true }, c.sequenceNumber, c.acknowledgementNumber, bytes⟩
            packetForClient := true
            received := c.received ++ bytes }
        refine ⟨_, accepted, offers, rfl, ?_⟩
        have begun := List.length_pos_iff.mpr some'
        have exact' := c.getRemainingClientWindow_eq
        simp only [get, Packet.EndsWithin]
        split at exact' <;> omega
      · cases received

/-- The packet's FIN is answered at once, by one that takes a sequence number. -/
def answersFin (c : TcpConnection) (packet : ClientPacket) : Bool :=
  packet.flags.fin && c.state = some .established && (c.takePayload packet).clientToNetwork.isEmpty

/-- The packet acknowledges the FIN, also one that it is answered with. -/
def acksFin (c : TcpConnection) (packet : ClientPacket) : Bool :=
  (c.state = some .lastAck && c.finSequenceNumber.any (packet.acknowledgementNumber = · + 1)) ||
    (c.answersFin packet && packet.acknowledgementNumber = c.sequenceNumber + 1)

end TcpConnection

/-- While a read that the selector found is still to be handled, a packet that is taken leaves
the sequence number inside the window it advertises, or ends the connection. -/
def LeavesWindow (c : TcpConnection) : TcpAction → Prop
  | .packet packet _ =>
      c.closed = false → c.ready.read = true → packet.flags.syn = false →
        packet.sequenceNumber = c.expectedPacket → packet.flags.rst = false →
        c.acksFin packet = true ∨ Inside packet.acknowledgementNumber packet.window
          (if c.answersFin packet then c.sequenceNumber + 1 else c.sequenceNumber)
  | _ => True

instance (c : TcpConnection) : ∀ action, Decidable (LeavesWindow c action)
  | .packet _ _ => inferInstanceAs (Decidable (_ → _ → _ → _ → _ → _))
  | .clientBuffer _ | .processPending | .select _ | .connect _ | .receive _ | .send _ =>
      inferInstanceAs (Decidable True)

/-- What the remaining window is counted from. -/
structure SameWindow (c c' : TcpConnection) : Prop where
  theirs : c'.theirAcknowledgementNumber = c.theirAcknowledgementNumber
  window : c'.clientWindow = c.clientWindow

namespace TcpConnection
variable {c : TcpConnection} {packet : ClientPacket} {fin : Int32}

theorem takeFin_answers (fin : packet.flags.fin = true) (open' : c.state = some .established)
    (empty : c.clientToNetwork.isEmpty = true) :
    SameWindow c (c.takeFin packet) ∧ (c.takeFin packet).sequenceNumber = c.sequenceNumber + 1 ∧
      (c.takeFin packet).finSequenceNumber = some c.sequenceNumber ∧
      (c.takeFin packet).state = some .lastAck := by
  simp only [takeFin, fin, if_true, handleFin, empty, doHandleFin, open']
  exact ⟨⟨by simp, by simp⟩, by simp, by simp, trivial⟩

theorem takeFin_waits (other : packet.flags.fin = true → c.state = some .established →
      c.clientToNetwork.isEmpty = true → False) :
    SameWindow c (c.takeFin packet) ∧ (c.takeFin packet).sequenceNumber = c.sequenceNumber ∧
      (c.state = some .lastAck → (c.takeFin packet).state = some .lastAck ∧
        (c.takeFin packet).finSequenceNumber = c.finSequenceNumber) := by
  unfold takeFin
  split
  · rename_i fin
    unfold handleFin
    dsimp only
    split
    · rename_i empty
      unfold doHandleFin
      dsimp only
      split
      · rename_i here
        exact (other fin here empty).elim
      · rename_i here
        exact ⟨⟨by simp, by simp⟩, by simp, fun late => by simp [late] at here⟩
      · rename_i here
        refine ⟨⟨?_, ?_⟩, ?_, fun late => by simp [late] at here⟩ <;> simp [close]
      · exact ⟨⟨rfl, rfl⟩, rfl, fun late => ⟨late, rfl⟩⟩
    · exact ⟨⟨rfl, rfl⟩, rfl, fun late => ⟨late, rfl⟩⟩
  · exact ⟨⟨rfl, rfl⟩, rfl, fun late => ⟨late, rfl⟩⟩

theorem takeFinAck_same :
    SameWindow c (c.takeFinAck packet) ∧
      (c.takeFinAck packet).sequenceNumber = c.sequenceNumber := by
  unfold takeFinAck
  split
  · split
    · unfold handleFinAck
      split <;> exact ⟨⟨rfl, rfl⟩, rfl⟩
    · exact ⟨⟨rfl, rfl⟩, rfl⟩
  · exact ⟨⟨rfl, rfl⟩, rfl⟩

theorem takeFinAck_closes (late : c.state = some .lastAck) (sent : c.finSequenceNumber = some fin)
    (acked : packet.acknowledgementNumber = fin + 1) : (c.takeFinAck packet).closed = true := by
  simp only [takeFinAck, sent, acked, if_true, handleFinAck, late, close]

theorem doHandleFin_stage : c.doHandleFin.stage = c.stage := by
  unfold doHandleFin
  dsimp only
  split <;> simp [close]

theorem handlePacket_stage {nextInt : Int32} :
    (c.handlePacket packet nextInt).stage = c.stage := by
  have payload (c : TcpConnection) : (c.takePayload packet).stage = c.stage := by
    rw [takePayload_eq]
  have ended (c : TcpConnection) : (c.takeFin packet).stage = c.stage := by
    unfold takeFin handleFin
    dsimp only
    split
    · split
      · rw [doHandleFin_stage]
      · rfl
    · rfl
  have acked (c : TcpConnection) : (c.takeFinAck packet).stage = c.stage := by
    unfold takeFinAck handleFinAck
    repeat' split
    all_goals rfl
  by_cases begins : c.state = none
  · rw [handlePacket, if_pos begins, handleFirstPacket]
    split <;> simp [resetConnection, close]
  · rw [handlePacket_eq begins, handleDuplicateSyn]
    repeat' split
    all_goals simp [resetConnection, close, takeWindow, payload, ended, acked]

/-- A packet in its place, on a connection with a read to be handled. -/
theorem inside_of_packet (connected : Connected c)
    (leaves : c.acksFin packet = true ∨ Inside packet.acknowledgementNumber packet.window
      (if c.answersFin packet then c.sequenceNumber + 1 else c.sequenceNumber))
    (live : ((((c.takeWindow packet).takePayload packet).takeFin packet).takeFinAck packet).closed =
      false) :
    0 < ((((c.takeWindow packet).takePayload packet).takeFin packet).takeFinAck
      packet).getRemainingClientWindow := by
  have past : c.state ≠ some .synReceived := by
    obtain ⟨state, here, connected⟩ := connected
    rintro early
    rw [early] at here
    cases here
    cases connected
  -- the packet's window and acknowledgement stay, and its payload moves neither number nor state
  obtain ⟨c₁, first⟩ : ∃ c₁, c₁ = (c.takeWindow packet).takePayload packet := ⟨_, rfl⟩
  have theirs : c₁.theirAcknowledgementNumber = packet.acknowledgementNumber := by
    rw [first, takePayload_eq]
    rfl
  have window : c₁.clientWindow = packet.window := by
    rw [first, takePayload_eq]
    rfl
  have number : c₁.sequenceNumber = c.sequenceNumber := by
    rw [first, takePayload_eq]
    rfl
  have sent : c₁.finSequenceNumber = c.finSequenceNumber := by
    rw [first, takePayload_eq]
    rfl
  have state : c₁.state = c.state := by
    rw [first, takePayload_eq]
    simp [takeWindow, past]
  have buffer : c₁.clientToNetwork = (c.takePayload packet).clientToNetwork := by
    rw [first, takePayload_eq, takePayload_eq]
    rfl
  rw [← first] at live ⊢
  obtain ⟨last, numbered⟩ := takeFinAck_same (c := c₁.takeFin packet)
  rw [getRemainingClientWindow_pos, last.theirs, last.window, numbered]
  cases answers : c.answersFin packet with
  | true =>
      have answered := answers
      simp only [answersFin, Bool.and_eq_true, decide_eq_true_iff] at answered
      obtain ⟨⟨fin, open'⟩, empty⟩ := answered
      obtain ⟨same, number', sent', late⟩ := takeFin_answers (c := c₁) fin (state.trans open')
        (by rw [buffer, empty])
      rw [same.theirs, same.window, number', theirs, window, number]
      rcases leaves with acks | inside
      · simp only [acksFin, open', answers, Bool.or_eq_true, Bool.and_eq_true,
          decide_eq_true_iff] at acks
        obtain ⟨other, _⟩ | ⟨_, acked⟩ := acks
        · cases other
        · rw [takeFinAck_closes late sent' (by rw [number, acked])] at live
          cases live
      · simpa [answers] using inside
  | false =>
      obtain ⟨same, number', late⟩ := @takeFin_waits c₁ packet (by
        intro fin open' empty
        rw [state] at open'
        rw [buffer] at empty
        simp [answersFin, fin, open', empty] at answers)
      rw [same.theirs, same.window, number', theirs, window, number]
      rcases leaves with acks | inside
      · simp only [acksFin, answers, Bool.false_and, Bool.or_false, Bool.and_eq_true,
          decide_eq_true_iff, Option.any_eq_true] at acks
        obtain ⟨ending, fin, own, acked⟩ := acks
        obtain ⟨late, kept⟩ := late (state.trans ending)
        rw [takeFinAck_closes late (kept.trans (sent.trans own)) acked] at live
        cases live
      · simpa [answers] using inside

end TcpConnection

/-- A read is asked for, and one that was found still to be handled, only inside the window. -/
structure Windowed (c : TcpConnection) : Prop where
  interests : c.closed = false → c.stage = .connect → c.interests.read = true →
    0 < c.getRemainingClientWindow
  ready : c.closed = false → c.ready.read = true → 0 < c.getRemainingClientWindow
  handled : c.stage = .send → c.ready.read = false

namespace Windowed
variable {c c' : TcpConnection}

theorem updateInterests (ready : c.closed = false → c.ready.read = true →
      0 < c.getRemainingClientWindow) (handled : c.stage = .send → c.ready.read = false) :
    Windowed c.updateInterests := by
  unfold TcpConnection.updateInterests
  split
  · rename_i closed
    exact ⟨fun live => by simp [closed] at live, ready, handled⟩
  · refine ⟨fun _ _ reads => ?_, ready, handled⟩
    simp only [TcpConnection.mayRead] at reads
    split at reads
    · cases reads
    · simp only [Bool.and_eq_true, decide_eq_true_iff] at reads
      exact reads.2

/-- A read that is to be handled is one of a connection to the network. -/
theorem unready (polled : Polled c) (live : c.closed = false) (other : ¬ Connected c) :
    c.ready.read = false := by
  cases reads : c.ready.read with
  | false => rfl
  | true => exact absurd ((polled.ready live).1 reads).2 other

theorem packet {packet : ClientPacket} {nextInt : Int32} (w : Windowed c) (polled : Polled c)
    (live : c.closed = false) (outside : c.stage = .connect)
    (leaves : LeavesWindow c (.packet packet nextInt)) :
    Windowed (c.sendToNetwork packet nextInt) := by
  refine updateInterests ?_ ?_
  · by_cases begins : c.state = none
    · have idle : c.ready.read = false := unready polled live (by
        rintro ⟨state, here, _⟩
        rw [begins] at here
        cases here)
      rw [TcpConnection.handlePacket, if_pos begins, TcpConnection.handleFirstPacket]
      intro live' reads
      split at reads
      · simp [idle] at reads
      · simp [TcpConnection.resetConnection, TcpConnection.close, idle] at reads
    · intro live' reads
      rw [(Continues.handlePacket begins).ready.1] at reads
      have connected := ((polled.ready live).1 reads).2
      have before := w.ready live reads
      rw [TcpConnection.handlePacket_eq begins] at live' ⊢
      split
      · rename_i syn
        rw [if_pos syn] at live'
        unfold TcpConnection.handleDuplicateSyn at live' ⊢
        split
        · exact before
        · rename_i later
          rw [if_neg later] at live'
          split
          · rename_i other
            rw [if_pos other] at live'
            cases live'
          · exact before
      · rename_i syn
        rw [if_neg syn] at live'
        split
        · exact before
        · rename_i place
          rw [if_neg place] at live'
          split
          · rename_i reset
            rw [if_pos reset] at live'
            cases live'
          · rename_i reset
            rw [if_neg reset] at live'
            exact TcpConnection.inside_of_packet connected
              (leaves live reads (Bool.eq_false_iff.mpr syn) (Decidable.not_not.mp place)
                (Bool.eq_false_iff.mpr reset)) live'
  · intro busy
    rw [TcpConnection.handlePacket_stage, outside] at busy
    cases busy

theorem offerPacket (polled : Polled c) (waits : c.packetForClient = true)
    (outside : c.stage = .connect) : Windowed c.offerPacket := by
  have unasked (live : c.closed = false) : c.interests.read = true → False := by
    intro asked
    rw [((polled.interests live outside).1 asked).1] at waits
    cases waits
  have unread (live : c.closed = false) : c.ready.read = true → False := by
    intro reads
    rw [((polled.ready live).1 reads).1] at waits
    cases waits
  unfold TcpConnection.offerPacket
  rw [TcpConnection.sendToClient_eq]
  by_cases full : c.get.room < c.get.networkToClient.rawLength
  · simp only [full, not_true_eq_false, decide_false]
    refine ⟨fun live _ asked => (unasked live asked).elim,
      fun live reads => (unread live reads).elim, fun busy => ?_⟩
    exact nomatch outside.symm.trans busy
  · simp only [full, not_false_eq_true, decide_true]
    refine updateInterests (fun live reads => (unread live reads).elim) fun busy => ?_
    exact nomatch outside.symm.trans busy

theorem step {action : TcpAction} (w : Windowed c) (polled : Polled c)
    (leaves : LeavesWindow c action) (taken : c.step action = some c') : Windowed c' := by
  unfold TcpConnection.step at taken
  split at taken
  · rename_i outside
    split at taken
    · cases taken
    · rename_i open'
      cases taken
      exact w.packet polled (Bool.eq_false_iff.mpr open') outside leaves
  · rename_i outside
    cases taken
    exact ⟨w.interests, w.ready, w.handled⟩
  · rename_i outside
    split at taken
    · rename_i waits
      cases taken
      exact offerPacket polled waits outside
    · cases taken
  · rename_i outside
    split at taken
    · rename_i found
      cases taken
      simp only [Ops.within, Bool.and_eq_true, Bool.not_eq_true', Bool.or_eq_true] at found
      obtain ⟨⟨⟨live, _⟩, ⟨read, _⟩, _⟩, _⟩ := found
      refine ⟨w.interests, fun _ wanted => ?_, fun busy => ?_⟩
      · exact w.interests live outside
          (read.resolve_left fun off => Bool.false_ne_true (off.symm.trans wanted))
      · simp [outside] at busy
    · cases taken
  · rename_i outside
    cases taken
    by_cases connects : (!c.closed && c.ready.connect) = true
    · rw [if_pos connects]
      simp only [Bool.and_eq_true, Bool.not_eq_true'] at connects
      obtain ⟨alive, connects⟩ := connects
      have idle : c.ready.read = false := unready polled alive (by
        rintro ⟨state, here, connected⟩
        rw [(polled.ready alive).2 connects] at here
        cases here
        cases connected)
      refine ⟨by simp, fun _ reads => ?_, by simp⟩
      unfold TcpConnection.processConnect at reads
      split at reads <;> simp [TcpConnection.close, idle] at reads
    · rw [if_neg connects]
      exact ⟨by simp, w.ready, by simp⟩
  · rename_i handling
    split at taken
    · obtain ⟨after, received, rfl⟩ := Option.map_eq_some_iff.mp taken
      exact ⟨by simp, by simp, fun _ => rfl⟩
    · cases taken
      exact ⟨by simp, by simp, fun _ => rfl⟩
  · rename_i handling
    have idle := w.handled handling
    split at taken
    · obtain ⟨after, sent, rfl⟩ := Option.map_eq_some_iff.mp taken
      have still : after.ready.read = false := (Continues.processSend sent).ready.1.trans idle
      exact updateInterests (fun _ reads => by simp [still] at reads) (by simp)
    · cases taken
      exact updateInterests (fun _ reads => by simp [idle] at reads) (by simp)
  · cases taken

end Windowed

theorem windowed_initial (room : Nat) : Windowed (TcpConnection.initial room) :=
  ⟨nofun, nofun, nofun⟩

/-- In every run in which no packet closes the window on a read that was found, the guards hold. -/
theorem receive_guarded {room : Nat} {c : TcpConnection}
    (reached : (tcpSystem room).Reachable LeavesWindow c) : Guarded c := by
  have run := reached.invariant (I := fun c => Polled c ∧ Windowed c)
    ⟨polled_initial room, windowed_initial room⟩ ?_
  · obtain ⟨polled, windowed⟩ := run
    refine ⟨c.getRemainingClientWindow_eq, ?_, ?_⟩
    · exact fun bytes c' begun live reads => TcpConnection.receive_within begun live reads
    · intro _ live reads
      exact ⟨((polled.ready live).1 reads).1, windowed.ready live reads⟩
  · rintro c action c' ⟨polled, windowed⟩ leaves taken
    exact ⟨polled.step taken, windowed.step polled leaves taken⟩

/-! A connection that is established with a window, and a packet before its read is handled. -/

namespace Window

def fromClient (flags : Flags) (sequenceNumber acknowledgementNumber : Int32) (window : UInt16) :
    TcpAction :=
  .packet ⟨flags, sequenceNumber, acknowledgementNumber, window, []⟩ 100

/-- A read is found, and the client then advertises another window. -/
def advertised (window : UInt16) : List TcpAction :=
  [fromClient { syn := true } 10 0 1000, .select { connect := true }, .connect true,
    .receive .eof, .send .failed, fromClient { ack := true } 11 101 1000,
    .select { read := true }, fromClient { ack := true } 11 101 window, .connect true]

end Window

/-- The client shrinks its window to one byte, and the read is still for one. -/
theorem receive_guarded_shrunk :
    ∃ c, (tcpSystem 1000).Reachable LeavesWindow c ∧ c.stage = .receive ∧ c.closed = false ∧
      c.ready.read = true ∧ c.getRemainingClientWindow = 1 ∧ Guarded c := by
  obtain ⟨c, run, stage, live, reads, one⟩ :
      ∃ c, (tcpSystem 1000).Reachable LeavesWindow c ∧ c.stage = .receive ∧ c.closed = false ∧
        c.ready.read = true ∧ c.getRemainingClientWindow = 1 :=
    ⟨_, System.reachable_of_replay (Window.advertised 1) rfl, rfl, rfl, rfl, rfl⟩
  exact ⟨c, run, stage, live, reads, one, receive_guarded run⟩

/-- The client closes its window between the selection and the handling of the read. -/
theorem read_entered_without_window :
    ∃ c, (tcpSystem 1000).Reachable Free c ∧ ¬ Guarded c := by
  obtain ⟨c, run, stage, live, reads, none⟩ :
      ∃ c, (tcpSystem 1000).Reachable Free c ∧ c.stage = .receive ∧ c.closed = false ∧
        c.ready.read = true ∧ c.getRemainingClientWindow = 0 :=
    ⟨_, System.reachable_of_replay (Window.advertised 0) rfl, rfl, rfl, rfl, rfl⟩
  refine ⟨c, run, fun guarded => ?_⟩
  have positive := (guarded.entered stage live reads).2
  rw [none] at positive
  exact absurd positive (by decide)

end QuestVdWired.Relay
