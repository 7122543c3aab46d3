import QuestVdWired.Relay.IPv4Packet
import QuestVdWired.Relay.StreamBuffer
import QuestVdWired.Transition.System

/-!
`TCPConnection.java` on the relay's one thread: client packets, the three parts of its
selection handler and the client's calls back for a packet that had to wait. The packetizer
has one buffer, which the waiting packet shares with every empty packet forged meanwhile. Java
assertions are not checked. Sequence numbers are `int` and wrap.
-/

namespace QuestVdWired.Relay
open Transition

def MAX_PAYLOAD_SIZE : Nat := 0x4000 - 20 - 20

inductive TcpState
  | synSent | synReceived | established | closeWait | lastAck | closing | finWait1 | finWait2
  deriving DecidableEq, Repr

namespace TcpState

def isConnected : TcpState → Bool
  | synSent | synReceived => false
  | _ => true

def isClosed : TcpState → Bool
  | finWait1 | finWait2 | closing | lastAck => true
  | _ => false

end TcpState

structure Flags where
  fin : Bool := false
  syn : Bool := false
  rst : Bool := false
  psh : Bool := false
  ack : Bool := false
  deriving DecidableEq, Repr

/-- A packet to the client: a 40 byte header and a payload. -/
structure Packet where
  flags : Flags
  sequenceNumber : Int32
  acknowledgementNumber : Int32
  payload : List UInt8
  deriving DecidableEq, Repr

def Packet.rawLength (p : Packet) : Nat := 40 + p.payload.length

/-- A packet from the client. -/
structure ClientPacket where
  flags : Flags
  sequenceNumber : Int32
  acknowledgementNumber : Int32
  window : UInt16
  payload : List UInt8
  deriving DecidableEq, Repr

structure Ops where
  read : Bool := false
  write : Bool := false
  connect : Bool := false
  deriving DecidableEq, Repr

/-- The next test of the selection handler; outside of it, the first. -/
inductive Stage
  | connect | receive | send
  deriving DecidableEq, Repr

inductive ReadResult
  | bytes (bytes : List UInt8)
  | eof
  | failed
  deriving DecidableEq, Repr

inductive WriteResult
  | written (w : Nat)
  | failed
  deriving DecidableEq, Repr

/-- `networkToClient` is what the packetizer's buffer holds up to its limit;
`packetForClient` tells whether the client has yet to take it. `room` is what the client's own
buffer can take, `ready` what the selector found at its last turn. The last six are ghosts:
the packets offered to the client with its answers, the bytes read from and written to the
network, where the client's bytes begin, whether its FIN is acknowledged, and how often `close`
was called. -/
structure TcpConnection where
  clientToNetwork : StreamBuffer
  networkToClient : Packet
  packetForClient : Bool
  room : Nat
  closed : Bool
  interests : Ops
  ready : Ops
  stage : Stage
  state : Option TcpState
  synSequenceNumber : Int32
  sequenceNumber : Int32
  acknowledgementNumber : Int32
  theirAcknowledgementNumber : Int32
  finSequenceNumber : Option Int32
  finReceived : Bool
  clientWindow : UInt16
  offers : List (Packet × Bool)
  received : List UInt8
  written : List UInt8
  origin : Int32
  finHandled : Bool
  closes : Nat

namespace TcpConnection
variable (c : TcpConnection)

/-- In Java, integer overflow wraps around. -/
def getRemainingClientWindow : Int32 :=
  let window := Int32.ofNat c.clientWindow.toNat
  let remaining := c.theirAcknowledgementNumber + window - c.sequenceNumber
  if remaining < 0 ∨ window < remaining then 0 else remaining

def mayRead : Bool :=
  match c.state with
  | none => false
  | some state =>
      state.isConnected && !state.isClosed && !c.packetForClient &&
        decide (0 < c.getRemainingClientWindow)

def updateInterests : TcpConnection :=
  if c.closed then c
  else
    { c with
      interests :=
        { read := c.mayRead
          write := !c.clientToNetwork.isEmpty
          connect := c.state = some .synSent } }

/-- The key is cancelled and the channel closed. -/
def disconnect : TcpConnection := { c with closed := true }

/-- `disconnect`, and the router forgets the connection. -/
def close : TcpConnection := { c with closed := true, closes := c.closes + 1 }

/-- `Client.sendToClient`. -/
def sendToClient (packet : Packet) : TcpConnection × Bool :=
  if c.room < packet.rawLength then ({ c with offers := c.offers ++ [(packet, false)] }, false)
  else
    ({ c with
      room := c.room - packet.rawLength
      offers := c.offers ++ [(packet, true)] }, true)

/-- The packet is forged in the packetizer's buffer, and dropped if the client cannot take
it. -/
def sendEmptyPacketToClient (flags : Flags) : TcpConnection :=
  let packet : Packet := ⟨flags, c.sequenceNumber, c.acknowledgementNumber, []⟩
  ({ c with networkToClient := packet }.sendToClient packet).1

def resetConnection : TcpConnection :=
  ({ c with state := none }.sendEmptyPacketToClient { rst := true }).close

/-- `get` brings the acknowledgement up to date. -/
def get : TcpConnection :=
  { c with
    networkToClient :=
      { c.networkToClient with acknowledgementNumber := c.acknowledgementNumber } }

def next : TcpConnection :=
  { c with
    sequenceNumber := c.sequenceNumber + Int32.ofNat c.networkToClient.payload.length
    packetForClient := false }.updateInterests

/-- `Client.consume`, and one turn of `Client.processPending`: both offer the packet and leave
it pending if the client cannot take it. -/
def offerPacket : TcpConnection :=
  match c.get.sendToClient c.get.networkToClient with
  | (c, true) => c.next
  | (c, false) => c

def eof : TcpConnection :=
  let c := c.sendEmptyPacketToClient { fin := true, ack := true }
  { c with
    finSequenceNumber := some c.sequenceNumber
    sequenceNumber := c.sequenceNumber + 1
    state := some (if c.state = some .closeWait then .lastAck else .finWait1) }

/-- `none` where the channel cannot give this result: it fills no more than the window. -/
def processReceive (result : ReadResult) : Option TcpConnection :=
  match result with
  | .bytes bytes =>
      if bytes.length ≤ min c.getRemainingClientWindow.toInt.toNat MAX_PAYLOAD_SIZE then
        some (offerPacket { c with
          networkToClient :=
            ⟨{ psh := true, ack := true }, c.sequenceNumber, c.acknowledgementNumber, bytes⟩
          packetForClient := true
          received := c.received ++ bytes })
      else none
  | .eof => some c.eof
  | .failed => some c.resetConnection

/-- The FIN counts for one byte. In the other states it is only logged. -/
def doHandleFin : TcpConnection :=
  let c := { c with acknowledgementNumber := c.acknowledgementNumber + 1, finHandled := true }
  match c.state with
  | some .established =>
      let c := c.sendEmptyPacketToClient { fin := true, ack := true }
      { c with
        finSequenceNumber := some c.sequenceNumber
        sequenceNumber := c.sequenceNumber + 1
        state := some .lastAck }
  | some .finWait1 =>
      { c.sendEmptyPacketToClient { ack := true } with state := some .closing }
  | some .finWait2 => (c.sendEmptyPacketToClient { ack := true }).close
  | _ => c

/-- `none` where the channel cannot take that many bytes. -/
def processSend (result : WriteResult) : Option TcpConnection :=
  match result with
  | .written w =>
      if w ≤ c.clientToNetwork.chunk then
        if 0 < w then
          let c :=
            { c with
              clientToNetwork := c.clientToNetwork.writeTo w
              acknowledgementNumber := c.acknowledgementNumber + Int32.ofNat w
              written := c.written ++ c.clientToNetwork.contents.take w }
          some (if c.finReceived && c.clientToNetwork.isEmpty then c.doHandleFin
            else c.sendEmptyPacketToClient { ack := true })
        else some c.close
      else none
  | .failed => some c.resetConnection

def processConnect (finished : Bool) : TcpConnection :=
  if finished then
    let c := { c with state := some .synReceived }.sendEmptyPacketToClient
      { syn := true, ack := true }
    { c with sequenceNumber := c.sequenceNumber + 1 }
  else c.close

/-- The first packet; `nextInt` is the random initial sequence number. -/
def handleFirstPacket (packet : ClientPacket) (nextInt : Int32) : TcpConnection :=
  if packet.flags.syn then
    { c with
      acknowledgementNumber := packet.sequenceNumber + 1
      synSequenceNumber := packet.sequenceNumber
      sequenceNumber := nextInt
      clientWindow := packet.window
      state := some .synSent
      origin := packet.sequenceNumber + 1
      finHandled := false }
  else { c with sequenceNumber := packet.acknowledgementNumber }.resetConnection

def handleDuplicateSyn (packet : ClientPacket) : TcpConnection :=
  if c.state = some .synSent then
    { c with
      synSequenceNumber := packet.sequenceNumber
      acknowledgementNumber := packet.sequenceNumber + 1
      origin := packet.sequenceNumber + 1
      finHandled := false }
  else if packet.sequenceNumber ≠ c.synSequenceNumber then c.resetConnection
  else c

def handleAck (packet : ClientPacket) : TcpConnection :=
  if c.state = some .synReceived then { c with state := some .established }
  else if packet.payload = [] then c
  else if c.clientToNetwork.remaining < packet.payload.length then c
  else { c with clientToNetwork := c.clientToNetwork.readFrom packet.payload }

def handleFin : TcpConnection :=
  let c := { c with finReceived := true }
  if c.clientToNetwork.isEmpty then c.doHandleFin else c

def handleFinAck : TcpConnection :=
  match c.state with
  | some .lastAck | some .closing => c.close
  | some .finWait1 => { c with state := some .finWait2 }
  | _ => c

/-- The sequence number of the next packet to be taken. -/
def expectedPacket : Int32 :=
  c.acknowledgementNumber + Int32.ofNat c.clientToNetwork.size

def handlePacket (packet : ClientPacket) (nextInt : Int32) : TcpConnection :=
  if c.state = none then c.handleFirstPacket packet nextInt
  else if packet.flags.syn then c.handleDuplicateSyn packet
  else if packet.sequenceNumber ≠ c.expectedPacket then c
  else
    let c :=
      { c with
        clientWindow := packet.window
        theirAcknowledgementNumber := packet.acknowledgementNumber }
    if packet.flags.rst then c.close
    else
      let c := if packet.flags.ack then c.handleAck packet else c
      let c := if packet.flags.fin then c.handleFin else c
      match c.finSequenceNumber with
      | some fin => if packet.acknowledgementNumber = fin + 1 then c.handleFinAck else c
      | none => c

def sendToNetwork (packet : ClientPacket) (nextInt : Int32) : TcpConnection :=
  (c.handlePacket packet nextInt).updateInterests

end TcpConnection

inductive TcpAction
  /-- the router hands over a client packet -/
  | packet (packet : ClientPacket) (nextInt : Int32)
  /-- the client's buffer drained or filled -/
  | clientBuffer (room : Nat)
  /-- the client offers to take the packet that waits -/
  | processPending
  /-- a turn of the selector -/
  | select (ready : Ops)
  | connect (finished : Bool)
  | receive (result : ReadResult)
  | send (result : WriteResult)
  deriving DecidableEq

def Ops.within (ready interests : Ops) : Bool :=
  (!ready.read || interests.read) && (!ready.write || interests.write) &&
    (!ready.connect || interests.connect)

namespace TcpConnection

/-- The constructor registers the channel for OP_CONNECT. -/
def initial (room : Nat) : TcpConnection where
  clientToNetwork := .create (4 * MAX_PACKET_LENGTH)
  networkToClient := ⟨{}, 0, 0, []⟩
  packetForClient := false
  room := room
  closed := false
  interests := { connect := true }
  ready := {}
  stage := .connect
  state := none
  synSequenceNumber := 0
  sequenceNumber := 0
  acknowledgementNumber := 0
  theirAcknowledgementNumber := 0
  finSequenceNumber := none
  finReceived := false
  clientWindow := 0
  offers := []
  received := []
  written := []
  origin := 0
  finHandled := false
  closes := 0

/-- Other events find the relay's thread outside the selection handler. The packet that made
the router create the connection comes before the selector's next turn, and a channel is not
writable before it is connected. A closed connection gets no packets and no selection; its
packet can still wait at the client. -/
def step (action : TcpAction) (c : TcpConnection) : Option TcpConnection :=
  match action, c.stage with
  | .packet packet nextInt, .connect =>
      if c.closed then none else some (c.sendToNetwork packet nextInt)
  | .clientBuffer room, .connect => some { c with room := room }
  | .processPending, .connect => if c.packetForClient then some c.offerPacket else none
  | .select ready, .connect =>
      if !c.closed && c.state.isSome && ready.within c.interests &&
          !(ready.write && c.state = some .synSent) then
        some { c with ready := ready }
      else none
  | .connect finished, .connect =>
      let c' := if !c.closed && c.ready.connect then c.processConnect finished else c
      some { c' with stage := .receive, ready.connect := false }
  | .receive result, .receive =>
      if !c.closed && c.ready.read then
        (c.processReceive result).map fun c => { c with stage := .send, ready.read := false }
      else some { c with stage := .send, ready.read := false }
  | .send result, .send =>
      if !c.closed && c.ready.write then
        (c.processSend result).map fun c =>
          { c with stage := .connect, ready.write := false }.updateInterests
      else some { c with stage := .connect, ready.write := false }.updateInterests
  | _, _ => none

end TcpConnection

def tcpSystem (room : Nat) : System TcpConnection TcpAction where
  init := .initial room
  step := TcpConnection.step

/-! What each part of the handling of a packet leaves alone. -/

namespace TcpConnection
variable {c : TcpConnection} {flags : Flags}

theorem sendToClient_eq (packet : Packet) :
    c.sendToClient packet =
      ({ c with
        room := if c.room < packet.rawLength then c.room else c.room - packet.rawLength
        offers := c.offers ++ [(packet, decide (¬ c.room < packet.rawLength))] },
        decide (¬ c.room < packet.rawLength)) := by
  unfold sendToClient
  split
  · rename_i full
    simp [full]
  · rename_i fits
    simp [fits]

@[simp] theorem sendEmptyPacketToClient_clientToNetwork :
    (c.sendEmptyPacketToClient flags).clientToNetwork = c.clientToNetwork := by
  rw [sendEmptyPacketToClient, sendToClient_eq]

@[simp] theorem sendEmptyPacketToClient_packetForClient :
    (c.sendEmptyPacketToClient flags).packetForClient = c.packetForClient := by
  rw [sendEmptyPacketToClient, sendToClient_eq]

@[simp] theorem sendEmptyPacketToClient_closed :
    (c.sendEmptyPacketToClient flags).closed = c.closed := by
  rw [sendEmptyPacketToClient, sendToClient_eq]

@[simp] theorem sendEmptyPacketToClient_interests :
    (c.sendEmptyPacketToClient flags).interests = c.interests := by
  rw [sendEmptyPacketToClient, sendToClient_eq]

@[simp] theorem sendEmptyPacketToClient_ready :
    (c.sendEmptyPacketToClient flags).ready = c.ready := by
  rw [sendEmptyPacketToClient, sendToClient_eq]

@[simp] theorem sendEmptyPacketToClient_stage :
    (c.sendEmptyPacketToClient flags).stage = c.stage := by
  rw [sendEmptyPacketToClient, sendToClient_eq]

@[simp] theorem sendEmptyPacketToClient_state :
    (c.sendEmptyPacketToClient flags).state = c.state := by
  rw [sendEmptyPacketToClient, sendToClient_eq]

@[simp] theorem sendEmptyPacketToClient_synSequenceNumber :
    (c.sendEmptyPacketToClient flags).synSequenceNumber = c.synSequenceNumber := by
  rw [sendEmptyPacketToClient, sendToClient_eq]

@[simp] theorem sendEmptyPacketToClient_sequenceNumber :
    (c.sendEmptyPacketToClient flags).sequenceNumber = c.sequenceNumber := by
  rw [sendEmptyPacketToClient, sendToClient_eq]

@[simp] theorem sendEmptyPacketToClient_acknowledgementNumber :
    (c.sendEmptyPacketToClient flags).acknowledgementNumber = c.acknowledgementNumber := by
  rw [sendEmptyPacketToClient, sendToClient_eq]

@[simp] theorem sendEmptyPacketToClient_theirAcknowledgementNumber :
    (c.sendEmptyPacketToClient flags).theirAcknowledgementNumber =
      c.theirAcknowledgementNumber := by
  rw [sendEmptyPacketToClient, sendToClient_eq]

@[simp] theorem sendEmptyPacketToClient_clientWindow :
    (c.sendEmptyPacketToClient flags).clientWindow = c.clientWindow := by
  rw [sendEmptyPacketToClient, sendToClient_eq]

@[simp] theorem sendEmptyPacketToClient_finSequenceNumber :
    (c.sendEmptyPacketToClient flags).finSequenceNumber = c.finSequenceNumber := by
  rw [sendEmptyPacketToClient, sendToClient_eq]

@[simp] theorem sendEmptyPacketToClient_finReceived :
    (c.sendEmptyPacketToClient flags).finReceived = c.finReceived := by
  rw [sendEmptyPacketToClient, sendToClient_eq]

@[simp] theorem sendEmptyPacketToClient_received :
    (c.sendEmptyPacketToClient flags).received = c.received := by
  rw [sendEmptyPacketToClient, sendToClient_eq]

@[simp] theorem sendEmptyPacketToClient_written :
    (c.sendEmptyPacketToClient flags).written = c.written := by
  rw [sendEmptyPacketToClient, sendToClient_eq]

@[simp] theorem sendEmptyPacketToClient_origin :
    (c.sendEmptyPacketToClient flags).origin = c.origin := by
  rw [sendEmptyPacketToClient, sendToClient_eq]

@[simp] theorem sendEmptyPacketToClient_finHandled :
    (c.sendEmptyPacketToClient flags).finHandled = c.finHandled := by
  rw [sendEmptyPacketToClient, sendToClient_eq]

@[simp] theorem sendEmptyPacketToClient_closes :
    (c.sendEmptyPacketToClient flags).closes = c.closes := by
  rw [sendEmptyPacketToClient, sendToClient_eq]

variable {packet : ClientPacket}

/-- The client packet fills the buffer towards the network. -/
def buffers (c : TcpConnection) (packet : ClientPacket) : Bool :=
  packet.flags.ack && c.state ≠ some .synReceived && packet.payload ≠ [] &&
    packet.payload.length ≤ c.clientToNetwork.remaining

/-- `handleAck` for a packet with the ACK flag, and nothing for one without. -/
def takePayload (c : TcpConnection) (packet : ClientPacket) : TcpConnection :=
  if packet.flags.ack then c.handleAck packet else c

theorem takePayload_eq :
    c.takePayload packet =
      { c with
        state := if packet.flags.ack && c.state = some .synReceived then some .established
          else c.state
        clientToNetwork := if c.buffers packet then c.clientToNetwork.readFrom packet.payload
          else c.clientToNetwork } := by
  unfold takePayload handleAck buffers
  by_cases ack : packet.flags.ack = true
  · by_cases received : c.state = some .synReceived
    · simp [ack, received]
    · by_cases empty : packet.payload = []
      · simp [ack, received, empty]
      · by_cases full : c.clientToNetwork.remaining < packet.payload.length
        · simp [ack, received, empty, full, Nat.not_le.mpr full]
        · simp [ack, received, empty, full, Nat.not_lt.mp full]
  · simp [ack]

def takeFin (c : TcpConnection) (packet : ClientPacket) : TcpConnection :=
  if packet.flags.fin then c.handleFin else c

def takeFinAck (c : TcpConnection) (packet : ClientPacket) : TcpConnection :=
  match c.finSequenceNumber with
  | some fin => if packet.acknowledgementNumber = fin + 1 then c.handleFinAck else c
  | none => c

/-- What `handlePacket` reads from any packet in its place. -/
def takeWindow (c : TcpConnection) (packet : ClientPacket) : TcpConnection :=
  { c with
    clientWindow := packet.window
    theirAcknowledgementNumber := packet.acknowledgementNumber }

theorem handlePacket_eq (begun : c.state ≠ none) {nextInt : Int32} :
    c.handlePacket packet nextInt =
      if packet.flags.syn then c.handleDuplicateSyn packet
      else if packet.sequenceNumber ≠ c.expectedPacket then c
      else if packet.flags.rst then (c.takeWindow packet).close
      else (((c.takeWindow packet).takePayload packet).takeFin packet).takeFinAck packet := by
  rw [handlePacket, if_neg begun]
  rfl

end TcpConnection
end QuestVdWired.Relay
