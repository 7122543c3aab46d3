import QuestVdWired.Relay.TcpSelection

/-!
What the network sends is what the client gets: the packets the client accepts carry the bytes
read from the network, in order and at consecutive sequence numbers, as long as nothing is
forged while one of them waits.
-/

namespace QuestVdWired.Relay
open Transition

/-- The sequence numbers that an offered packet takes: one for SYN and for FIN, and its payload
if the client accepts it. -/
def span (offer : Packet × Bool) : Nat :=
  (if offer.1.flags.syn || offer.1.flags.fin then 1 else 0) +
    if offer.2 then offer.1.payload.length else 0

def spans : List (Packet × Bool) → Nat
  | [] => 0
  | offer :: offers => span offer + spans offers

/-- The payload bytes that the client accepted. -/
def acceptedBytes (offers : List (Packet × Bool)) : List UInt8 :=
  offers.flatMap fun offer => if offer.2 then offer.1.payload else []

/-- The packet that waits for the client. -/
def waiting (c : TcpConnection) : List UInt8 :=
  if c.packetForClient then c.networkToClient.payload else []

/-- Every packet is offered at the number reached by those before it, and what was accepted is
what was read. -/
structure Placed (iss : Int32) (c : TcpConnection) : Prop where
  reached : c.sequenceNumber = iss + Int32.ofNat (spans c.offers)
  placed : ∀ before packet accepted after, c.offers = before ++ (packet, accepted) :: after →
    packet.sequenceNumber = iss + Int32.ofNat (spans before)
  bytes : acceptedBytes c.offers ++ waiting c = c.received

/-- The client packet is answered at once: a SYN out of place, or the FIN with nothing left to
write before it. -/
def answered (c : TcpConnection) (packet : ClientPacket) : Bool :=
  if packet.flags.syn then packet.sequenceNumber ≠ c.synSequenceNumber
  else
    packet.sequenceNumber = c.expectedPacket && !packet.flags.rst && packet.flags.fin &&
      c.clientToNetwork.isEmpty && !c.buffers packet &&
      (c.state = some .established || c.state = some .finWait1 || c.state = some .finWait2)

/-- The step forges a packet of its own. -/
def forges (c : TcpConnection) : TcpAction → Bool
  | .packet packet _ => answered c packet
  | .send (.written w) => c.ready.write && 0 < w
  | .send .failed => c.ready.write
  | _ => false

/-- Nothing is forged while a packet waits. -/
def LeavesWaiting (c : TcpConnection) (action : TcpAction) : Prop :=
  c.packetForClient = true → c.closed = false → forges c action = false

instance (c : TcpConnection) (action : TcpAction) : Decidable (LeavesWaiting c action) :=
  inferInstanceAs (Decidable (_ → _ → _))

attribute [local grind =] spans

theorem spans_append (l r : List (Packet × Bool)) : spans (l ++ r) = spans l + spans r := by
  induction l with
  | nil => simp [spans]
  | cons offer l ih =>
      simp only [List.cons_append, spans, ih]
      omega

/-- One more offer at the end. -/
theorem Placed.offer {iss : Int32} {c : TcpConnection} (p : Placed iss c) {packet : Packet}
    {accepted : Bool} (here : packet.sequenceNumber = c.sequenceNumber) :
    ∀ before packet' accepted' after,
      c.offers ++ [(packet, accepted)] = before ++ (packet', accepted') :: after →
        packet'.sequenceNumber = iss + Int32.ofNat (spans before) := by
  intro before packet' accepted' after split
  rcases List.eq_nil_or_concat after with rfl | ⟨rest, last, rfl⟩
  · obtain ⟨same, own⟩ := List.append_inj' split rfl
    cases own
    rw [← same, here, p.reached]
  · rw [List.concat_eq_append, ← List.cons_append, ← List.append_assoc] at split
    obtain ⟨same, _⟩ := List.append_inj' split rfl
    exact p.placed before packet' accepted' rest same

/-- A waiting packet is a data packet at the number reached. -/
structure Intact (iss : Int32) (c : TcpConnection) : Prop extends Placed iss c where
  header : c.packetForClient = true →
    c.networkToClient.flags = { psh := true, ack := true } ∧
      c.networkToClient.sequenceNumber = c.sequenceNumber

section Forging
variable {iss : Int32} {c : TcpConnection} {flags : Flags}

theorem acceptedBytes_append (l r : List (Packet × Bool)) :
    acceptedBytes (l ++ r) = acceptedBytes l ++ acceptedBytes r :=
  List.flatMap_append

theorem acceptedBytes_empty {packet : Packet} {accepted : Bool} (empty : packet.payload = []) :
    acceptedBytes [(packet, accepted)] = [] := by
  simp [acceptedBytes, empty]

/-- An empty packet, forged while none waits, and the number it takes. -/
theorem Intact.forged (p : Intact iss c) (idle : c.packetForClient = false) {c' : TcpConnection}
    (offers : c'.offers = (c.sendEmptyPacketToClient flags).offers)
    (number : c'.sequenceNumber =
      c.sequenceNumber + if flags.syn || flags.fin then 1 else 0)
    (still : c'.packetForClient = false) (received : c'.received = c.received) :
    Intact iss c' := by
  rw [TcpConnection.sendEmptyPacketToClient, TcpConnection.sendToClient_eq] at offers
  dsimp only at offers
  refine ⟨⟨?_, ?_, ?_⟩, ?_⟩
  · rw [number, offers, spans_append, p.reached, Int32.ofNat_add, Int32.add_assoc]
    congr 1
    simp only [spans, span]
    split <;> simp
  · rw [offers]
    exact p.offer rfl
  · rw [offers, received, acceptedBytes_append, acceptedBytes_empty rfl, ← p.bytes]
    simp [waiting, idle, still]
  · simp [still]

/-- A step that leaves the packetizer and the client alone. -/
theorem Intact.same (p : Intact iss c) {c' : TcpConnection} (offers : c'.offers = c.offers)
    (number : c'.sequenceNumber = c.sequenceNumber)
    (packet : c'.networkToClient = c.networkToClient)
    (still : c'.packetForClient = c.packetForClient) (received : c'.received = c.received) :
    Intact iss c' := by
  refine ⟨⟨?_, ?_, ?_⟩, ?_⟩
  · rw [number, offers]
    exact p.reached
  · rw [offers]
    exact p.placed
  · rw [offers, received, waiting, still, packet]
    exact p.bytes
  · rw [still, packet, number]
    exact p.header

theorem Intact.updateInterests (p : Intact iss c) : Intact iss c.updateInterests := by
  unfold TcpConnection.updateInterests
  split
  · exact p
  · exact p.same rfl rfl rfl rfl rfl

/-- The waiting packet is offered, and moves the number on if it is taken. -/
theorem Intact.offerPacket (p : Intact iss c) (waits : c.packetForClient = true) :
    Intact iss c.offerPacket := by
  obtain ⟨flags, number⟩ := p.header waits
  have bytes := p.bytes
  rw [waiting, if_pos waits] at bytes
  have placed (accepted : Bool) :=
    @Placed.offer _ _ p.toPlaced c.get.networkToClient accepted number
  have single (accepted : Bool) : spans [(c.get.networkToClient, accepted)] =
      if accepted then c.networkToClient.payload.length else 0 := by
    simp [spans, span, TcpConnection.get, flags]
  unfold TcpConnection.offerPacket
  rw [TcpConnection.sendToClient_eq]
  by_cases full : c.get.room < c.get.networkToClient.rawLength
  · simp only [full, not_true_eq_false, decide_false]
    refine ⟨⟨?_, placed false, ?_⟩, fun _ => ⟨flags, number⟩⟩
    · have none := single false
      simp only [TcpConnection.get] at none ⊢
      simp only [spans_append, none]
      exact p.reached
    · simp only [TcpConnection.get, acceptedBytes_append, waiting, waits]
      simpa [acceptedBytes] using bytes
  · simp only [full, not_false_eq_true, decide_true]
    apply Intact.updateInterests
    refine ⟨⟨?_, placed true, ?_⟩, fun taken => nomatch taken⟩
    · have all := single true
      simp only [TcpConnection.get] at all ⊢
      simp only [spans_append, all, p.reached, Int32.ofNat_add, Int32.add_assoc]
      rfl
    · simp only [TcpConnection.get, acceptedBytes_append, waiting]
      simpa [acceptedBytes] using bytes

end Forging

/-! A connection that has nothing waiting forges freely. -/

section Idle
variable {iss : Int32} {c : TcpConnection}

theorem Intact.resetConnection (p : Intact iss c) (idle : c.packetForClient = false) :
    Intact iss c.resetConnection := by
  have start : Intact iss { c with state := none } := p.same rfl rfl rfl rfl rfl
  refine start.forged idle rfl ?_ ?_ ?_
  · simp [TcpConnection.resetConnection, TcpConnection.close]
  · simp [TcpConnection.resetConnection, TcpConnection.close, idle]
  · simp [TcpConnection.resetConnection, TcpConnection.close]

theorem Intact.doHandleFin (p : Intact iss c) (idle : c.packetForClient = false) :
    Intact iss c.doHandleFin := by
  have start : Intact iss
      { c with acknowledgementNumber := c.acknowledgementNumber + 1, finHandled := true } :=
    p.same rfl rfl rfl rfl rfl
  unfold TcpConnection.doHandleFin
  dsimp only
  split
  · refine start.forged idle rfl ?_ ?_ ?_ <;> simp [idle]
  · refine start.forged idle rfl ?_ ?_ ?_ <;> simp [idle]
  · refine start.forged idle rfl ?_ ?_ ?_ <;>
      simp [TcpConnection.close, idle]
  · exact start

theorem Intact.handleFin (p : Intact iss c) (idle : c.packetForClient = false) :
    Intact iss c.handleFin := by
  have start : Intact iss { c with finReceived := true } := p.same rfl rfl rfl rfl rfl
  unfold TcpConnection.handleFin
  dsimp only
  split
  · exact start.doHandleFin idle
  · exact start

theorem Intact.handleFinAck (p : Intact iss c) : Intact iss c.handleFinAck := by
  unfold TcpConnection.handleFinAck
  split
  · exact p.same rfl rfl rfl rfl rfl
  · exact p.same rfl rfl rfl rfl rfl
  · exact p.same rfl rfl rfl rfl rfl
  · exact p

theorem Intact.handleDuplicateSyn {packet : ClientPacket} (p : Intact iss c)
    (idle : c.packetForClient = false) : Intact iss (c.handleDuplicateSyn packet) := by
  unfold TcpConnection.handleDuplicateSyn
  split
  · exact p.same rfl rfl rfl rfl rfl
  · split
    · exact p.resetConnection idle
    · exact p

theorem Intact.eof (p : Intact iss c) (idle : c.packetForClient = false) :
    Intact iss c.eof := by
  refine p.forged idle rfl ?_ ?_ ?_ <;>
    simp [TcpConnection.eof, idle]

theorem Intact.processConnect {finished : Bool} (p : Intact iss c)
    (idle : c.packetForClient = false) : Intact iss (c.processConnect finished) := by
  have start : Intact iss { c with state := some .synReceived } := p.same rfl rfl rfl rfl rfl
  unfold TcpConnection.processConnect
  split
  · refine start.forged idle rfl ?_ ?_ ?_ <;> simp [idle]
  · exact p.same rfl rfl rfl rfl rfl

theorem Intact.takePayload {packet : ClientPacket} (p : Intact iss c) :
    Intact iss (c.takePayload packet) := by
  rw [TcpConnection.takePayload_eq]
  exact p.same rfl rfl rfl rfl rfl

theorem Intact.takeFin {packet : ClientPacket} (p : Intact iss c)
    (idle : c.packetForClient = false) : Intact iss (c.takeFin packet) := by
  unfold TcpConnection.takeFin
  split
  · exact p.handleFin idle
  · exact p

theorem Intact.takeFinAck {packet : ClientPacket} (p : Intact iss c) :
    Intact iss (c.takeFinAck packet) := by
  unfold TcpConnection.takeFinAck
  split
  · split
    · exact p.handleFinAck
    · exact p
  · exact p

theorem Intact.handlePacket {packet : ClientPacket} {nextInt : Int32} (p : Intact iss c)
    (idle : c.packetForClient = false) (begun : c.state ≠ none) :
    Intact iss (c.handlePacket packet nextInt) := by
  have window : Intact iss (c.takeWindow packet) := p.same rfl rfl rfl rfl rfl
  rw [TcpConnection.handlePacket_eq begun]
  split
  · exact p.handleDuplicateSyn idle
  · split
    · exact p
    · split
      · exact window.same rfl rfl rfl rfl rfl
      · refine (window.takePayload.takeFin ?_).takeFinAck
        rw [TcpConnection.takePayload_eq]
        exact idle

theorem Intact.processSend {result : WriteResult} {c' : TcpConnection} (p : Intact iss c)
    (idle : c.packetForClient = false) (taken : c.processSend result = some c') :
    Intact iss c' := by
  unfold TcpConnection.processSend at taken
  split at taken
  · rename_i w
    split at taken
    · have sent : Intact iss
          { c with
            clientToNetwork := c.clientToNetwork.writeTo w
            acknowledgementNumber := c.acknowledgementNumber + Int32.ofNat w
            written := c.written ++ c.clientToNetwork.contents.take w } :=
        p.same rfl rfl rfl rfl rfl
      split at taken
      · cases taken
        split
        · exact sent.doHandleFin idle
        · refine sent.forged idle rfl ?_ ?_ ?_ <;> simp [idle]
      · cases taken
        exact p.same rfl rfl rfl rfl rfl
    · cases taken
  · cases taken
    exact p.resetConnection idle

theorem Intact.processReceive {result : ReadResult} {c' : TcpConnection} (p : Intact iss c)
    (idle : c.packetForClient = false) (taken : c.processReceive result = some c') :
    Intact iss c' := by
  unfold TcpConnection.processReceive at taken
  split at taken
  · rename_i bytes
    split at taken
    · cases taken
      refine Intact.offerPacket ⟨⟨p.reached, p.placed, ?_⟩, fun _ => ⟨rfl, rfl⟩⟩ rfl
      have read := p.bytes
      simp only [waiting, idle] at read ⊢
      simp [← read]
    · cases taken
  · cases taken
    exact p.eof idle
  · cases taken
    exact p.resetConnection idle

/-- The first packet numbers the connection. -/
theorem Intact.first {packet : ClientPacket} {nextInt : Int32} (p : Intact iss c)
    (idle : c.packetForClient = false) (fresh : c.offers = []) (begins : c.state = none) :
    ∃ iss, Intact iss (c.handlePacket packet nextInt) := by
  have numbered (number : Int32) : Intact number { c with sequenceNumber := number } := by
    refine ⟨⟨?_, ?_, p.bytes⟩, ?_⟩
    · simp [fresh, spans]
    · intro before packet accepted after split
      rw [fresh] at split
      exact absurd split.symm (by simp)
    · intro waits
      rw [idle] at waits
      cases waits
  unfold TcpConnection.handlePacket
  rw [if_pos begins]
  unfold TcpConnection.handleFirstPacket
  split
  · exact ⟨nextInt, (numbered nextInt).same rfl rfl rfl rfl rfl⟩
  · exact ⟨packet.acknowledgementNumber,
      (numbered packet.acknowledgementNumber).resetConnection idle⟩

end Idle

/-! While a packet waits, the buffer stays as it is. -/

section Waiting
variable {iss : Int32} {c : TcpConnection} {packet : ClientPacket}

theorem readFrom_isEmpty (buffered : c.buffers packet = true) :
    (c.clientToNetwork.readFrom packet.payload).isEmpty = false := by
  simp only [TcpConnection.buffers, Bool.and_eq_true, decide_eq_true_eq] at buffered
  obtain ⟨⟨_, some⟩, fits⟩ := buffered
  apply Bool.eq_false_iff.mpr
  intro empty
  rw [StreamBuffer.isEmpty_iff, StreamBuffer.contents_readFrom, List.append_eq_nil_iff,
    List.take_of_length_le fits] at empty
  exact some empty.2

/-- A FIN that has to wait, or that finds the connection in no state to answer it. -/
theorem Intact.unhandledFin (p : Intact iss c)
    (idle : c.clientToNetwork.isEmpty = false ∨
      c.state ≠ some .established ∧ c.state ≠ some .finWait1 ∧ c.state ≠ some .finWait2) :
    Intact iss c.handleFin := by
  unfold TcpConnection.handleFin
  dsimp only
  split
  · rename_i empty
    rcases idle with some | ⟨established, finWait1, finWait2⟩
    · rw [some] at empty
      cases empty
    · unfold TcpConnection.doHandleFin
      dsimp only
      split
      · contradiction
      · contradiction
      · contradiction
      · exact p.same rfl rfl rfl rfl rfl
  · exact p.same rfl rfl rfl rfl rfl

theorem Intact.unanswered {nextInt : Int32} (p : Intact iss c) {state : TcpState}
    (connected : c.state = some state) (open' : state.isConnected = true)
    (calm : answered c packet = false) : Intact iss (c.handlePacket packet nextInt) := by
  rw [TcpConnection.handlePacket_eq (by simp [connected])]
  unfold answered at calm
  split
  · rename_i syn
    rw [if_pos syn] at calm
    unfold TcpConnection.handleDuplicateSyn
    split
    · exact p.same rfl rfl rfl rfl rfl
    · rw [if_neg (by simpa using calm)]
      exact p
  · rename_i syn
    rw [if_neg syn] at calm
    split
    · exact p
    · split
      · exact p.same rfl rfl rfl rfl rfl
      · apply Intact.takeFinAck
        unfold TcpConnection.takeFin
        have taken : Intact iss ((c.takeWindow packet).takePayload packet) :=
          Intact.takePayload (p.same rfl rfl rfl rfl rfl)
        split
        · rename_i place reset fin
          apply taken.unhandledFin
          by_cases buffered : c.buffers packet = true
          · left
            rw [TcpConnection.takePayload_eq]
            have same : (c.takeWindow packet).buffers packet = true := buffered
            simp only [same]
            exact readFrom_isEmpty buffered
          · have same : (c.takeWindow packet).buffers packet = false :=
              Bool.eq_false_iff.mpr buffered
            have past : c.state ≠ some .synReceived := by
              rw [connected]
              intro early
              cases early
              cases open'
            have unmoved : (c.takeWindow packet).takePayload packet = c.takeWindow packet := by
              rw [TcpConnection.takePayload_eq, same]
              simp [TcpConnection.takeWindow, past]
            rw [unmoved]
            cases empty : c.clientToNetwork.isEmpty with
            | false => exact .inl empty
            | true =>
                right
                simpa [Decidable.not_not.mp place, reset, fin, buffered, empty, and_assoc,
                  TcpConnection.takeWindow] using calm
        · exact taken

end Waiting

section Runs
variable {c c' : TcpConnection} {room : Nat}

/-- A write forges an acknowledgement only if nothing waits. -/
theorem Intact.send {iss : Int32} {result : WriteResult} (intact : Intact iss c)
    (live : c.closed = false) (writes : c.ready.write = true)
    (calm : LeavesWaiting c (.send result)) (sent : c.processSend result = some c') :
    Intact iss { c' with stage := .connect, ready.write := false } := by
  cases waits : c.packetForClient with
  | false => exact (intact.processSend waits sent).same rfl rfl rfl rfl rfl
  | true =>
      cases result with
      | failed =>
          have idle : c.ready.write = false := calm waits live
          rw [idle] at writes
          cases writes
      | written w =>
          have none := calm waits live
          simp only [forges, writes, Bool.true_and, decide_eq_false_iff_not] at none
          cases Nat.eq_zero_of_not_pos none
          simp only [TcpConnection.processSend, Nat.zero_le, if_true] at sent
          cases sent
          exact intact.same rfl rfl rfl rfl rfl

theorem Intact.step {iss : Int32} {action : TcpAction} (intact : Intact iss c) (polled : Polled c)
    (calm : LeavesWaiting c action) (taken : c.step action = some c') :
    ∃ iss, Intact iss c' := by
  unfold TcpConnection.step at taken
  split at taken
  · split at taken
    · cases taken
    · rename_i packet nextInt _ open'
      have live := Bool.eq_false_iff.mpr open'
      cases taken
      by_cases begins : c.state = none
      · obtain ⟨fresh, idle⟩ := polled.fresh live begins
        obtain ⟨iss, first⟩ :=
          intact.first idle fresh begins
        exact ⟨iss, first.updateInterests⟩
      · refine ⟨iss, Intact.updateInterests ?_⟩
        cases waits : c.packetForClient with
        | false => exact intact.handlePacket waits begins
        | true =>
            obtain ⟨state, here, connected⟩ := polled.waits live waits
            exact intact.unanswered here connected (calm waits live)
  · cases taken
    exact ⟨iss, intact.same rfl rfl rfl rfl rfl⟩
  · split at taken
    · rename_i waits
      cases taken
      exact ⟨iss, intact.offerPacket waits⟩
    · cases taken
  · split at taken
    · cases taken
      exact ⟨iss, intact.same rfl rfl rfl rfl rfl⟩
    · cases taken
  · cases taken
    split
    · rename_i connects
      simp only [Bool.and_eq_true, Bool.not_eq_true'] at connects
      obtain ⟨live, connects⟩ := connects
      have idle := polled.idle_of_connecting live ((polled.ready live).2 connects)
      exact ⟨iss, (intact.processConnect idle).same rfl rfl rfl rfl rfl⟩
    · exact ⟨iss, intact.same rfl rfl rfl rfl rfl⟩
  · split at taken
    · rename_i reads
      simp only [Bool.and_eq_true, Bool.not_eq_true'] at reads
      obtain ⟨live, reads⟩ := reads
      obtain ⟨after, received, rfl⟩ := Option.map_eq_some_iff.mp taken
      have idle := ((polled.ready live).1 reads).1
      exact ⟨iss, (intact.processReceive idle received).same rfl rfl rfl rfl rfl⟩
    · cases taken
      exact ⟨iss, intact.same rfl rfl rfl rfl rfl⟩
  · split at taken
    · rename_i writes
      simp only [Bool.and_eq_true, Bool.not_eq_true'] at writes
      obtain ⟨live, writes⟩ := writes
      obtain ⟨after, sent, rfl⟩ := Option.map_eq_some_iff.mp taken
      exact ⟨iss, (intact.send live writes calm sent).updateInterests⟩
    · cases taken
      exact ⟨iss, Intact.updateInterests (intact.same rfl rfl rfl rfl rfl)⟩
  · cases taken

/-- The packets the client accepted carry the bytes read from the network, and every packet
was offered at the number reached by those before it. -/
theorem download_placed (reached : (tcpSystem room).Reachable LeavesWaiting c) :
    ∃ iss, Placed iss c := by
  have start : Intact 0 (TcpConnection.initial room) := by
    refine ⟨⟨rfl, ?_, rfl⟩, nofun⟩
    intro before packet accepted after split
    exact absurd split.symm (by simp [TcpConnection.initial])
  have run := reached.invariant (I := fun c => Polled c ∧ ∃ iss, Intact iss c)
    ⟨polled_initial room, 0, start⟩ ?_
  · obtain ⟨_, iss, intact⟩ := run
    exact ⟨iss, intact.toPlaced⟩
  · rintro c action c' ⟨polled, iss, intact⟩ calm taken
    exact ⟨polled.step taken, intact.step polled calm taken⟩

end Runs

/-! A connection to the network, and one chunk of three bytes read from it. -/

namespace Relayed

def fromClient (flags : Flags) (sequenceNumber acknowledgementNumber : Int32)
    (payload : List UInt8) : TcpAction :=
  .packet ⟨flags, sequenceNumber, acknowledgementNumber, 1000, payload⟩ 100

/-- One turn of the selection handler. -/
def turn (ready : Ops) (read : ReadResult) (written : WriteResult) : List TcpAction :=
  [.select ready, .connect true, .receive read, .send written]

/-- SYN, the network's answer and the client's ACK. -/
def established : List TcpAction :=
  fromClient { syn := true } 10 0 [] :: turn { connect := true } .eof .failed ++
    [fromClient { ack := true } 11 101 []]

/-- Three bytes are read while the client's buffer is full. -/
def full : List TcpAction :=
  established ++ .clientBuffer 0 :: turn { read := true } (.bytes [1, 2, 3]) .failed

end Relayed

/-- The client's buffer drains, and the packet that waited arrives as it was read. -/
theorem download_placed_waiting :
    ∃ c, (tcpSystem 1000).Reachable LeavesWaiting c ∧ c.received = [1, 2, 3] ∧
      acceptedBytes c.offers = [1, 2, 3] ∧ ∃ iss, Placed iss c := by
  obtain ⟨c, run, received, accepted⟩ :
      ∃ c, (tcpSystem 1000).Reachable LeavesWaiting c ∧ c.received = [1, 2, 3] ∧
        acceptedBytes c.offers = [1, 2, 3] :=
    ⟨_, System.reachable_of_replay
      (Relayed.full ++ [.clientBuffer 1000, .processPending]) rfl, rfl, rfl⟩
  exact ⟨c, run, received, accepted, download_placed run⟩

/-- The client sends a byte meanwhile; its ACK is forged in the buffer of the packet that waits,
and the three bytes are gone. -/
theorem acknowledgement_truncates_waiting :
    ∃ c, (tcpSystem 1000).Reachable Free c ∧ c.received = [1, 2, 3] ∧
      ¬ ∃ iss, Placed iss c := by
  obtain ⟨c, run, received, lost⟩ :
      ∃ c, (tcpSystem 1000).Reachable Free c ∧ c.received = [1, 2, 3] ∧
        acceptedBytes c.offers ++ waiting c = [] :=
    ⟨_, System.reachable_of_replay
      (Relayed.full ++ Relayed.fromClient { ack := true } 11 101 [7] ::
        Relayed.turn { write := true } .eof (.written 1) ++
        [.clientBuffer 1000, .processPending]) rfl, rfl, rfl⟩
  refine ⟨c, run, received, ?_⟩
  rintro ⟨iss, placed⟩
  have bytes := placed.bytes
  rw [lost, received] at bytes
  cases bytes

end QuestVdWired.Relay
