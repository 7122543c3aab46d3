import QuestVdWired.Relay.UdpConnection
import Mathlib.Data.List.Nodup

/-!
`Router.java`, the table of a client's connections. A connection that closes itself is removed
from the table, and one that the table drops is disconnected by it. The handlers run on one
thread: an event finds every connection outside of its handler but the one it goes on with.
-/

namespace QuestVdWired.Relay
open Java Transition Wire

namespace TcpConnection
variable {c c' : TcpConnection} {packet : ClientPacket}

@[simp] theorem updateInterests_closed : c.updateInterests.closed = c.closed := by
  unfold updateInterests
  split <;> rfl

@[simp] theorem updateInterests_closes : c.updateInterests.closes = c.closes := by
  unfold updateInterests
  split <;> rfl

theorem resetConnection_closes (live : c.closed = false) :
    ClosesOnce c.closed c.closes c.resetConnection.closed c.resetConnection.closes :=
  .inr ⟨live, rfl, by simp [resetConnection, close]⟩

/-- A FIN closes the connection only in FIN_WAIT_2, which it does not leave. -/
theorem doHandleFin_closes (live : c.closed = false) :
    ClosesOnce c.closed c.closes c.doHandleFin.closed c.doHandleFin.closes ∧
      (c.doHandleFin.closed = true → c.doHandleFin.state = some .finWait2) := by
  unfold doHandleFin
  dsimp only
  split
  · exact ⟨.inl ⟨by simp, by simp⟩, fun closed => by simp [live] at closed⟩
  · exact ⟨.inl ⟨by simp, by simp⟩, fun closed => by simp [live] at closed⟩
  · rename_i here
    exact ⟨.inr ⟨live, rfl, by simp [close]⟩, fun _ => by simp [close, here]⟩
  · exact ⟨.inl ⟨rfl, rfl⟩, fun closed => by simp [live] at closed⟩

theorem takeFin_closes (live : c.closed = false) :
    ClosesOnce c.closed c.closes (c.takeFin packet).closed (c.takeFin packet).closes ∧
      ((c.takeFin packet).closed = true → (c.takeFin packet).state = some .finWait2) := by
  unfold takeFin
  split
  · unfold handleFin
    dsimp only
    split
    · exact doHandleFin_closes (c := { c with finReceived := true }) live
    · exact ⟨.inl ⟨rfl, rfl⟩, fun closed => by simp [live] at closed⟩
  · exact ⟨.inl ⟨rfl, rfl⟩, fun closed => by simp [live] at closed⟩

theorem takeFinAck_closes_once (ended : c.closed = true → c.state = some .finWait2) :
    ClosesOnce c.closed c.closes (c.takeFinAck packet).closed (c.takeFinAck packet).closes := by
  have alive (other : c.state ≠ some .finWait2) : c.closed = false := by
    cases closed : c.closed with
    | false => rfl
    | true => exact absurd (ended closed) other
  unfold takeFinAck
  split
  · split
    · unfold handleFinAck
      split
      · rename_i here
        exact .inr ⟨alive (by simp [here]), rfl, rfl⟩
      · rename_i here
        exact .inr ⟨alive (by simp [here]), rfl, rfl⟩
      · exact .inl ⟨rfl, rfl⟩
      · exact .inl ⟨rfl, rfl⟩
    · exact .inl ⟨rfl, rfl⟩
  · exact .inl ⟨rfl, rfl⟩

/-- A packet closes the connection once at most: the FIN that does is not followed by the ACK
that would. -/
theorem handlePacket_closes (live : c.closed = false) {nextInt : Int32} :
    ClosesOnce c.closed c.closes (c.handlePacket packet nextInt).closed
      (c.handlePacket packet nextInt).closes := by
  by_cases begins : c.state = none
  · rw [handlePacket, if_pos begins, handleFirstPacket]
    split
    · exact .inl ⟨rfl, rfl⟩
    · exact resetConnection_closes live
  · rw [handlePacket_eq begins]
    split
    · unfold handleDuplicateSyn
      split
      · exact .inl ⟨rfl, rfl⟩
      · split
        · exact resetConnection_closes live
        · exact .inl ⟨rfl, rfl⟩
    · split
      · exact .inl ⟨rfl, rfl⟩
      · split
        · exact .inr ⟨live, rfl, rfl⟩
        · have closed : ((c.takeWindow packet).takePayload packet).closed = c.closed := by
            rw [takePayload_eq]
            rfl
          have closes : ((c.takeWindow packet).takePayload packet).closes = c.closes := by
            rw [takePayload_eq]
            rfl
          obtain ⟨fin, ended⟩ := takeFin_closes (closed.trans live)
          have ack := @takeFinAck_closes_once _ packet ended
          rw [closed, closes] at fin
          rcases fin with ⟨closed', closes'⟩ | ⟨_, closed', closes'⟩
          · rwa [closed', closes'] at ack
          · rcases ack with ⟨same, same'⟩ | ⟨open', _⟩
            · exact .inr ⟨live, same.trans closed', same'.trans closes'⟩
            · rw [closed'] at open'
              cases open'

theorem processSend_closes (live : c.closed = false) {result : WriteResult}
    (sent : c.processSend result = some c') :
    ClosesOnce c.closed c.closes c'.closed c'.closes := by
  unfold processSend at sent
  split at sent
  · rename_i w
    split at sent
    · split at sent
      · cases sent
        split
        · exact (doHandleFin_closes (c := { c with
            clientToNetwork := c.clientToNetwork.writeTo w
            acknowledgementNumber := c.acknowledgementNumber + Int32.ofNat w
            written := c.written ++ c.clientToNetwork.contents.take w }) live).1
        · exact .inl ⟨by simp, by simp⟩
      · cases sent
        exact .inr ⟨live, rfl, rfl⟩
    · cases sent
  · cases sent
    exact resetConnection_closes live

theorem offerPacket_closes (c : TcpConnection) :
    c.offerPacket.closed = c.closed ∧ c.offerPacket.closes = c.closes := by
  unfold offerPacket
  rw [sendToClient_eq]
  by_cases full : c.get.room < c.get.networkToClient.rawLength
  · simp only [full, not_true_eq_false, decide_false]
    exact ⟨rfl, rfl⟩
  · simp only [full, not_false_eq_true, decide_true, next, updateInterests_closed,
      updateInterests_closes]
    exact ⟨rfl, rfl⟩

theorem processReceive_closes (live : c.closed = false) {result : ReadResult}
    (received : c.processReceive result = some c') :
    ClosesOnce c.closed c.closes c'.closed c'.closes := by
  unfold processReceive at received
  split at received
  · split at received
    · cases received
      exact .inl (offerPacket_closes _)
    · cases received
  · cases received
    exact .inl ⟨by simp [eof], by simp [eof]⟩
  · cases received
    exact resetConnection_closes live

/-- The validity of the key is asked again before each part of the handler. -/
theorem step_closes {action : TcpAction} (taken : c.step action = some c') :
    ClosesOnce c.closed c.closes c'.closed c'.closes := by
  unfold step at taken
  split at taken
  · split at taken
    · cases taken
    · rename_i open'
      cases taken
      rw [sendToNetwork, updateInterests_closed, updateInterests_closes]
      exact handlePacket_closes (Bool.eq_false_iff.mpr open')
  · cases taken
    exact .inl ⟨rfl, rfl⟩
  · split at taken
    · cases taken
      exact .inl (offerPacket_closes c)
    · cases taken
  · split at taken
    · cases taken
      exact .inl ⟨rfl, rfl⟩
    · cases taken
  · cases taken
    split
    · rename_i connects
      simp only [Bool.and_eq_true, Bool.not_eq_true'] at connects
      unfold processConnect
      split
      · exact .inl ⟨by simp, by simp⟩
      · exact .inr ⟨connects.1, rfl, rfl⟩
    · exact .inl ⟨rfl, rfl⟩
  · split at taken
    · rename_i reads
      simp only [Bool.and_eq_true, Bool.not_eq_true'] at reads
      obtain ⟨after, received, rfl⟩ := Option.map_eq_some_iff.mp taken
      have once := processReceive_closes reads.1 received
      exact once
    · cases taken
      exact .inl ⟨rfl, rfl⟩
  · split at taken
    · rename_i writes
      simp only [Bool.and_eq_true, Bool.not_eq_true'] at writes
      obtain ⟨after, sent, rfl⟩ := Option.map_eq_some_iff.mp taken
      rw [updateInterests_closed, updateInterests_closes]
      have once := processSend_closes writes.1 sent
      exact once
    · cases taken
      rw [updateInterests_closed, updateInterests_closes]
      exact .inl ⟨rfl, rfl⟩
  · cases taken

end TcpConnection

/-- Addresses and ports of a connection. -/
structure Endpoints where
  sourceIp : Nat
  sourcePort : Nat
  destIp : Nat
  destPort : Nat
  deriving DecidableEq, Repr

structure ConnectionId where
  protocol : IPv4Protocol
  endpoints : Endpoints
  deriving DecidableEq, Repr

/-- The protocol of the IPv4 header, by which the transport header was read. -/
def TransportHeader.protocol : TransportHeader → IPv4Protocol
  | .tcp _ => .tcp
  | .udp _ => .udp

/-- `ConnectionId.from`. -/
def ConnectionId.of (ipv4Header : IPv4Header) : TransportHeader → ConnectionId
  | .tcp header =>
      ⟨.tcp, ipv4Header.source, header.sourcePort, ipv4Header.destination, header.destinationPort⟩
  | .udp header =>
      ⟨.udp, ipv4Header.source, header.sourcePort, ipv4Header.destination, header.destinationPort⟩

def IPv4Packet.getPayload (packet : IPv4Packet) (headerLength : Nat) : List UInt8 :=
  packet.raw.drop (packet.ipv4Header.headerLength + headerLength)

/-- The packet is read of bytes that are as many as its total length says. -/
def IPv4Packet.Received (packet : IPv4Packet) : Prop :=
  Field.totalLength packet.raw = packet.raw.length ∧
    IPv4Packet.create (.wrap packet.raw) = .ok packet

/-- A TCP header with a data offset of at least 5. -/
def TransportHeader.Complete : TransportHeader → Prop
  | .tcp header => 20 ≤ header.headerLength
  | .udp _ => True

theorem responseHeader_of_complete {packet : IPv4Packet} {header : TransportHeader}
    (received : packet.Received) (valid : packet.transportHeader = some header)
    (complete : header.Complete) : ∃ response, responseHeader header = .ok response := by
  cases header with
  | udp header => exact ⟨_, rfl⟩
  | tcp header =>
      obtain ⟨_, _, _, transport⟩ := (IPv4Packet.create_eq_ok received.1).mp received.2
      split at transport
      · obtain ⟨own, same, made⟩ := transport
        obtain rfl := Option.some.inj (valid.symm.trans same)
        cases protocol : Field.protocol packet.raw with
        | tcp =>
            rw [protocol, IPv4Packet.createTransportHeader, bind_eq_ok] at made
            obtain ⟨_, created, is⟩ := made
            cases is
            exact (responseHeader_tcp_iff created).mpr complete
        | udp =>
            rw [protocol, IPv4Packet.createTransportHeader, bind_eq_ok] at made
            obtain ⟨_, _, is⟩ := made
            cases is
        | other =>
            rw [protocol] at made
            cases made
      · rw [valid] at transport
        cases transport

/-- What a TCP connection reads of a packet. -/
def IPv4Packet.toClientPacket (packet : IPv4Packet) (header : TCPHeader) : ClientPacket where
  flags :=
    { fin := header.flags % 2 = 1
      syn := header.flags / 2 % 2 = 1
      rst := header.flags / 4 % 2 = 1
      psh := header.flags / 8 % 2 = 1
      ack := header.flags / 16 % 2 = 1 }
  sequenceNumber := Int32.ofNat header.sequenceNumber
  acknowledgementNumber := Int32.ofNat header.acknowledgementNumber
  window := UInt16.ofNat header.window
  payload := packet.getPayload header.headerLength

inductive ConnectionBody
  | tcp (c : TcpConnection)
  | udp (c : UdpConnection)

namespace ConnectionBody

def protocol : ConnectionBody → IPv4Protocol
  | tcp _ => .tcp
  | udp _ => .udp

def closed : ConnectionBody → Bool
  | tcp c => c.closed
  | udp c => c.closed

def closes : ConnectionBody → Nat
  | tcp c => c.closes
  | udp c => c.closes

def stage : ConnectionBody → Stage
  | tcp c => c.stage
  | udp c => c.stage

def disconnect : ConnectionBody → ConnectionBody
  | tcp c => .tcp c.disconnect
  | udp c => .udp c.disconnect

/-- No external timeout for TCP. -/
def isExpired (now : Nat) : ConnectionBody → Bool
  | tcp _ => false
  | udp c => c.isExpired now

def sendToNetwork (packet : IPv4Packet) (header : TransportHeader) (nextInt : Int32) :
    ConnectionBody → Result ConnectionBody
  | tcp c =>
      match header with
      | .tcp header => .ok (.tcp (c.sendToNetwork (packet.toClientPacket header) nextInt))
      | .udp _ => .error .classCast
  | udp c => (c.sendToNetwork (packet.getPayload UDP_HEADER_LENGTH)).map .udp

end ConnectionBody

structure Connection where
  endpoints : Endpoints
  body : ConnectionBody

def Connection.id (c : Connection) : ConnectionId := ⟨c.body.protocol, c.endpoints⟩

/-- `made` are the connections ever made, and a connection is known by its index there.
`unknownRemoved` is the AssertionError of `remove`; `thrown` any other exception. -/
structure Router where
  made : List Connection
  connections : List Nat
  unknownRemoved : Bool
  thrown : Option Throwable

/-- How the making of a connection ends, with the time and the room in the client's buffer. -/
inductive Creation
  | failed
  | succeeded (room now : Nat)
  deriving DecidableEq, Repr

namespace Router
variable (r : Router)

def find (id : ConnectionId) : Option Nat :=
  r.connections.find? fun k => (r.made[k]?).any fun c => c.id = id

/-- The header of the first packet is copied for the packets sent back before there is a channel.
`none` for an IOException. -/
def createConnection (header : TransportHeader) (creation : Creation) :
    Result (Option ConnectionBody) := do
  let _ ← responseHeader header
  match creation, header with
  | .failed, _ => return none
  | .succeeded room _, .tcp _ => return some (.tcp (.initial room))
  | .succeeded room now, .udp _ => return some (.udp (.create room now))

def getConnection (id : ConnectionId) (header : TransportHeader) (creation : Creation) :
    Result (Option (Nat × Router)) :=
  match r.find id with
  | some k => .ok (some (k, r))
  | none =>
      match createConnection header creation with
      | .error e => .error e
      | .ok none => .ok none
      | .ok (some body) =>
          .ok (some (r.made.length,
            { r with
              made := r.made ++ [⟨id.endpoints, body⟩]
              connections := r.connections ++ [r.made.length] }))

def remove (k : Nat) (r : Router) : Router :=
  if k ∈ r.connections then { r with connections := r.connections.erase k }
  else { r with unknownRemoved := true }

/-- The connection goes on as `body`; each of its calls of `close` removed it. -/
def update (k : Nat) (body : Result ConnectionBody) : Router :=
  match body, r.made[k]? with
  | .ok body, some c =>
      Nat.repeat (remove k) (body.closes - c.body.closes)
        { r with made := r.made.set k { c with body := body } }
  | .ok _, none => r
  | .error e, _ => { r with thrown := some e }

/-- An invalid packet is dropped, and one for which no connection can be made. Only an IOException
is caught. -/
def sendToNetwork (packet : IPv4Packet) (creation : Creation) (nextInt : Int32) : Router :=
  match packet.transportHeader with
  | none => r
  | some header =>
      match r.getConnection (.of packet.ipv4Header header) header creation with
      | .error e => { r with thrown := some e }
      | .ok none => r
      | .ok (some (k, r)) =>
          match r.made[k]? with
          | none => r
          | some c => r.update k (c.body.sendToNetwork packet header nextInt)

/-- Those of the connections that `p` holds of are disconnected and taken out of the list. -/
def dropWhere (p : Connection → Bool) : Router :=
  { r with
    made := r.made.mapIdx fun k c =>
      if k ∈ r.connections ∧ p c then { c with body := c.body.disconnect } else c
    connections := r.connections.filter fun k => !(r.made[k]?).any p }

def clear : Router := r.dropWhere fun _ => true

def cleanExpiredConnections (now : Nat) : Router := r.dropWhere fun c => c.body.isExpired now

/-- Every connection but `k` is outside of its handler. -/
def idleBut (k : Option Nat) : Bool :=
  r.made.zipIdx.all fun entry => some entry.2 = k || entry.1.body.stage = .connect

end Router

inductive RouterAction
  | packet (packet : IPv4Packet) (creation : Creation) (nextInt : Int32)
  | tcp (k : Nat) (action : TcpAction)
  | udp (k : Nat) (action : UdpAction)
  | cleanExpiredConnections (now : Nat)
  | clear

/-- The packets of a connection come through the router. -/
def TcpAction.isPacket : TcpAction → Bool
  | .packet _ _ => true
  | _ => false

def Router.step (action : RouterAction) (r : Router) : Option Router :=
  if r.thrown.isSome || r.unknownRemoved then none
  else
    match action with
    | .packet packet creation nextInt =>
        if r.idleBut none then some (r.sendToNetwork packet creation nextInt) else none
    | .tcp k action =>
        match r.made[k]? with
        | some ⟨_, .tcp c⟩ =>
            if r.idleBut (some k) && !action.isPacket then
              (c.step action).map fun c => r.update k (.ok (.tcp c))
            else none
        | _ => none
    | .udp k action =>
        match r.made[k]? with
        | some ⟨_, .udp c⟩ =>
            if r.idleBut (some k) then
              (c.step action).map fun c => r.update k (c.map .udp)
            else none
        | _ => none
    | .cleanExpiredConnections now =>
        if r.idleBut none then some (r.cleanExpiredConnections now) else none
    | .clear => if r.idleBut none then some r.clear else none

def routerSystem : System Router RouterAction where
  init := ⟨[], [], false, none⟩
  step := Router.step

/-- The table: the live connections are in the list, each once and no two of one id. -/
structure Router.Table (r : Router) : Prop where
  bounded : ∀ k ∈ r.connections, k < r.made.length
  once : r.connections.Nodup
  distinct : ∀ j ∈ r.connections, ∀ k ∈ r.connections, ∀ c d, r.made[j]? = some c →
    r.made[k]? = some d → c.id = d.id → j = k
  live : ∀ k c, r.made[k]? = some c → k ∈ r.connections →
    c.body.closed = false ∧ c.body.closes = 0
  gone : ∀ k c, r.made[k]? = some c → k ∉ r.connections →
    c.body.closed = true ∧ c.body.closes ≤ 1
  removes : r.unknownRemoved = false

namespace Router.Table
variable {r : Router} {k : Nat} {c : Connection} {body : ConnectionBody}

/-- One connection goes on, and stays in the list or leaves it. -/
theorem change (h : r.Table) (own : r.made[k]? = some c)
    (protocol : body.protocol = c.body.protocol) {connections : List Nat}
    (once : connections.Nodup) (same : ∀ j, j ≠ k → (j ∈ connections ↔ j ∈ r.connections))
    (live : k ∈ connections → k ∈ r.connections ∧ body.closed = false ∧ body.closes = 0)
    (gone : k ∉ connections → body.closed = true ∧ body.closes ≤ 1) :
    Table { r with made := r.made.set k { c with body := body }, connections := connections } := by
  have member : ∀ j ∈ connections, j ∈ r.connections := by
    intro j inside
    by_cases mine : j = k
    · exact mine ▸ (live (mine ▸ inside)).1
    · exact (same j mine).mp inside
  have entry (j : Nat) (d : Connection)
      (there : (r.made.set k { c with body := body })[j]? = some d) :
      (j = k ∧ d = { c with body := body }) ∨ (j ≠ k ∧ r.made[j]? = some d) := by
    by_cases mine : j = k
    · subst mine
      rw [List.getElem?_set_self (List.getElem?_eq_some_iff.mp own).1] at there
      exact .inl ⟨rfl, (Option.some.inj there).symm⟩
    · rw [List.getElem?_set_ne fun same => mine same.symm] at there
      exact .inr ⟨mine, there⟩
  have named (j : Nat) (d : Connection)
      (there : (r.made.set k { c with body := body })[j]? = some d) :
      ∃ d', r.made[j]? = some d' ∧ d'.id = d.id := by
    rcases entry j d there with ⟨rfl, rfl⟩ | ⟨_, before⟩
    · exact ⟨c, own, by simp [Connection.id, protocol]⟩
    · exact ⟨d, before, rfl⟩
  refine ⟨?_, once, ?_, ?_, ?_, h.removes⟩
  · intro j inside
    rw [List.length_set]
    exact h.bounded j (member j inside)
  · intro i inside j inside' d e there there' alike
    obtain ⟨d', before, id⟩ := named i d there
    obtain ⟨e', before', id'⟩ := named j e there'
    exact h.distinct i (member i inside) j (member j inside') d' e' before before'
      (id.trans (alike.trans id'.symm))
  · intro j d there inside
    rcases entry j d there with ⟨rfl, rfl⟩ | ⟨_, before⟩
    · exact (live inside).2
    · exact h.live j d before (member j inside)
  · intro j d there outside
    rcases entry j d there with ⟨rfl, rfl⟩ | ⟨other, before⟩
    · exact gone outside
    · exact h.gone j d before fun inside => outside ((same j other).mpr inside)

/-- What happened to one connection, which closed itself once at most. -/
theorem update (h : r.Table) (own : r.made[k]? = some c)
    (protocol : body.protocol = c.body.protocol)
    (closes : ClosesOnce c.body.closed c.body.closes body.closed body.closes) :
    (r.update k (.ok body)).Table := by
  simp only [Router.update, own]
  rcases closes with ⟨closed, closes⟩ | ⟨open', closed, closes⟩
  · simp only [closes, Nat.sub_self, Nat.repeat]
    refine h.change own protocol h.once (fun _ _ => .rfl) ?_ ?_
    · intro inside
      rw [closed, closes]
      exact ⟨inside, h.live k c own inside⟩
    · intro outside
      rw [closed, closes]
      exact h.gone k c own outside
  · -- a connection that is open is still in the list
    have inside : k ∈ r.connections := by
      by_contra outside
      rw [(h.gone k c own outside).1] at open'
      cases open'
    have never := (h.live k c own inside).2
    simp only [closes, Nat.add_sub_cancel_left, Nat.repeat]
    rw [Router.remove, if_pos inside]
    have left : k ∉ r.connections.erase k := fun still => (h.once.mem_erase_iff.mp still).1 rfl
    refine h.change own protocol (h.once.erase k) ?_ (fun still => absurd still left) ?_
    · intro j other
      exact List.mem_erase_of_ne other
    · intro _
      exact ⟨closed, by omega⟩

/-- The table drops connections that it disconnects itself. -/
theorem dropWhere (h : r.Table) (p : Connection → Bool) : (r.dropWhere p).Table := by
  have entry (j : Nat) (d : Connection) (there : (r.dropWhere p).made[j]? = some d) :
      ∃ c, r.made[j]? = some c ∧ c.id = d.id ∧
        ((j ∈ r.connections ∧ p c = true ∧ d.body = c.body.disconnect) ∨
          (¬ (j ∈ r.connections ∧ p c = true) ∧ d = c)) := by
    simp only [Router.dropWhere, List.getElem?_mapIdx, Option.map_eq_some_iff] at there
    obtain ⟨c, before, changed⟩ := there
    refine ⟨c, before, ?_⟩
    split at changed
    · rename_i dropped
      subst changed
      refine ⟨?_, .inl ⟨dropped.1, dropped.2, rfl⟩⟩
      cases body : c.body <;> simp [Connection.id, ConnectionBody.disconnect,
        ConnectionBody.protocol, body]
    · rename_i kept
      subst changed
      exact ⟨rfl, .inr ⟨kept, rfl⟩⟩
  have member (j : Nat) (inside : j ∈ (r.dropWhere p).connections) : j ∈ r.connections :=
    (List.mem_filter.mp inside).1
  refine ⟨?_, h.once.filter _, ?_, ?_, ?_, h.removes⟩
  · intro j inside
    simpa [Router.dropWhere] using h.bounded j (member j inside)
  · intro i inside j inside' d e there there' alike
    obtain ⟨d', before, id, _⟩ := entry i d there
    obtain ⟨e', before', id', _⟩ := entry j e there'
    exact h.distinct i (member i inside) j (member j inside') d' e' before before'
      (id.trans (alike.trans id'.symm))
  · intro j d there inside
    obtain ⟨c, before, _, ⟨_, dropped, _⟩ | ⟨_, rfl⟩⟩ := entry j d there
    · have kept := (List.mem_filter.mp inside).2
      simp [before, dropped] at kept
    · exact h.live j d before (member j inside)
  · intro j d there outside
    obtain ⟨c, before, _, ⟨inside, _, body⟩ | ⟨kept, rfl⟩⟩ := entry j d there
    · have never := (h.live j c before inside).2
      rw [body]
      cases own : c.body with
      | tcp t =>
          have never : t.closes = 0 := by simpa [own, ConnectionBody.closes] using never
          exact ⟨rfl, Nat.le_of_lt_succ (Nat.lt_of_le_of_lt (Nat.le_of_eq never) (by decide))⟩
      | udp u =>
          have never : u.closes = 0 := by simpa [own, ConnectionBody.closes] using never
          exact ⟨rfl, Nat.le_of_lt_succ (Nat.lt_of_le_of_lt (Nat.le_of_eq never) (by decide))⟩
    · refine h.gone j d before fun inside => outside (List.mem_filter.mpr ⟨inside, ?_⟩)
      simpa [before] using fun dropped => kept ⟨inside, dropped⟩

/-- A connection is made for an id that none of the list has. -/
theorem make (h : r.Table) {new : Connection}
    (fresh : ∀ j ∈ r.connections, ∀ d, r.made[j]? = some d → d.id ≠ new.id)
    (live : new.body.closed = false ∧ new.body.closes = 0) :
    Table { r with
      made := r.made ++ [new]
      connections := r.connections ++ [r.made.length] } := by
  have entry (j : Nat) (d : Connection) (there : (r.made ++ [new])[j]? = some d) :
      r.made[j]? = some d ∧ j < r.made.length ∨ j = r.made.length ∧ d = new := by
    by_cases old : j < r.made.length
    · rw [List.getElem?_append_left old] at there
      exact .inl ⟨there, old⟩
    · have bound := (List.getElem?_eq_some_iff.mp there).1
      rw [List.length_append, List.length_singleton] at bound
      obtain rfl : j = r.made.length := by omega
      rw [List.getElem?_append_right (Nat.le_refl _), Nat.sub_self] at there
      exact .inr ⟨rfl, (Option.some.inj there).symm⟩
  have unlisted : r.made.length ∉ r.connections := fun inside =>
    Nat.lt_irrefl _ (h.bounded _ inside)
  have member {j : Nat} (old : j < r.made.length) (inside : j ∈ r.connections ++ [r.made.length]) :
      j ∈ r.connections := by
    rcases List.mem_append.mp inside with inside | last
    · exact inside
    · rw [List.mem_singleton.mp last] at old
      exact absurd old (Nat.lt_irrefl _)
  refine ⟨?_, ?_, ?_, ?_, ?_, h.removes⟩
  · intro j inside
    rw [List.length_append, List.length_singleton]
    rcases List.mem_append.mp inside with inside | last
    · exact Nat.lt_succ_of_lt (h.bounded j inside)
    · rw [List.mem_singleton.mp last]
      exact Nat.lt_succ_self _
  · exact List.nodup_append.mpr ⟨h.once, by simp, by
      rintro j inside _ last rfl
      exact unlisted (List.mem_singleton.mp last ▸ inside)⟩
  · intro i inside j inside' d e there there' alike
    rcases entry i d there with ⟨before, old⟩ | ⟨rfl, rfl⟩
    · rcases entry j e there' with ⟨before', old'⟩ | ⟨rfl, rfl⟩
      · exact h.distinct i (member old inside) j (member old' inside') d e before before' alike
      · exact absurd alike (fresh i (member old inside) d before)
    · rcases entry j e there' with ⟨before', old'⟩ | ⟨rfl, rfl⟩
      · exact absurd alike.symm (fresh j (member old' inside') e before')
      · rfl
  · intro j d there inside
    rcases entry j d there with ⟨before, old⟩ | ⟨rfl, rfl⟩
    · exact h.live j d before (member old inside)
    · exact live
  · intro j d there outside
    rcases entry j d there with ⟨before, old⟩ | ⟨rfl, rfl⟩
    · exact h.gone j d before fun inside => outside (List.mem_append_left _ inside)
    · exact absurd (List.mem_append_right _ (List.mem_singleton_self _)) outside

end Router.Table

namespace ConnectionBody
variable {body body' : ConnectionBody} {packet : IPv4Packet} {header : TransportHeader}
  {nextInt : Int32}

theorem sendToNetwork_closes (live : body.closed = false)
    (sent : body.sendToNetwork packet header nextInt = .ok body') :
    body'.protocol = body.protocol ∧
      ClosesOnce body.closed body.closes body'.closed body'.closes := by
  cases body with
  | tcp c =>
      cases header with
      | tcp header =>
          cases sent
          refine ⟨rfl, ?_⟩
          simp only [closed, closes, TcpConnection.sendToNetwork,
            TcpConnection.updateInterests_closed, TcpConnection.updateInterests_closes]
          exact TcpConnection.handlePacket_closes live
      | udp header => cases sent
  | udp c =>
      cases result : c.sendToNetwork (packet.getPayload UDP_HEADER_LENGTH) with
      | error e => simp [sendToNetwork, result, Except.map] at sent
      | ok c' =>
          simp only [sendToNetwork, result, Except.map, Except.ok.injEq] at sent
          subst sent
          exact ⟨rfl, .inl (UdpConnection.sendToNetwork_closes result)⟩

end ConnectionBody

namespace Router
variable {r r' : Router} {k : Nat} {id : ConnectionId} {header : TransportHeader}
  {creation : Creation} {packet : IPv4Packet} {nextInt : Int32}

theorem find_eq_some (found : r.find id = some k) :
    k ∈ r.connections ∧ ∃ c, r.made[k]? = some c ∧ c.id = id := by
  refine ⟨List.mem_of_find?_eq_some found, ?_⟩
  have matched := List.find?_some found
  simp only [Option.any_eq_true, decide_eq_true_iff] at matched
  exact matched

theorem find_eq_none (missing : r.find id = none) :
    ∀ j ∈ r.connections, ∀ c, r.made[j]? = some c → c.id ≠ id := by
  intro j inside c there same
  have other := List.find?_eq_none.mp missing j inside
  simp [there, same] at other

/-- Only the connection that goes on changes. -/
theorem update_ok {c : Connection} (own : r.made[k]? = some c) (body : ConnectionBody) :
    (r.update k (.ok body)).made = r.made.set k { c with body := body } ∧
      (r.update k (.ok body)).thrown = r.thrown := by
  have removes (n : Nat) (r : Router) : (Nat.repeat (remove k) n r).made = r.made ∧
      (Nat.repeat (remove k) n r).thrown = r.thrown := by
    induction n with
    | zero => exact ⟨rfl, rfl⟩
    | succ n ih =>
        rw [Nat.repeat, remove]
        split
        · exact ih
        · exact ih
  simp only [update, own, removes, and_self]

/-- A connection that is open, whether the table knows it or not. -/
def Live (r : Router) (id : ConnectionId) (k : Nat) : Prop :=
  ∃ c, r.made[k]? = some c ∧ c.id = id ∧ c.body.closed = false

theorem Table.mem_of_live (h : r.Table) {j : Nat} (live : r.Live id j) : j ∈ r.connections := by
  obtain ⟨c, there, _, open'⟩ := live
  by_contra outside
  rw [(h.gone j c there outside).1] at open'
  cases open'

theorem Table.not_live (h : r.Table) (missing : r.find id = none) (j : Nat) : ¬ r.Live id j := by
  rintro ⟨c, there, own, live⟩
  exact find_eq_none missing j (h.mem_of_live ⟨c, there, own, live⟩) c there own

/-- A connection that is made is of the packet's protocol, and open. -/
theorem createConnection_eq {body : ConnectionBody} (ipv4Header : IPv4Header)
    (created : createConnection header creation = .ok (some body)) :
    Connection.id ⟨(ConnectionId.of ipv4Header header).endpoints, body⟩ =
        ConnectionId.of ipv4Header header ∧
      body.closed = false ∧ body.closes = 0 := by
  rw [createConnection.eq_def, bind_eq_ok] at created
  obtain ⟨_, _, created⟩ := created
  cases creation with
  | failed => cases created
  | succeeded room now => cases header <;> cases created <;> exact ⟨rfl, rfl, rfl⟩

/-- Only the network refuses a connection. -/
theorem createConnection_none (created : createConnection header creation = .ok none) :
    creation = .failed := by
  rw [createConnection.eq_def, bind_eq_ok] at created
  obtain ⟨_, _, created⟩ := created
  cases creation with
  | failed => rfl
  | succeeded room now => cases header <;> cases created

theorem createConnection_ok {response : TransportHeader}
    (made : responseHeader header = .ok response) :
    ∃ body, createConnection header creation = .ok body := by
  rw [createConnection.eq_def, made]
  cases creation <;> cases header <;> exact ⟨_, rfl⟩

/-- The connection a packet goes to: the live one of its id, or a new one. -/
def Chosen (r : Router) (id : ConnectionId) (header : TransportHeader) (creation : Creation)
    (k : Nat) (c : Connection) : Prop :=
  c.id = id ∧ c.body.closed = false ∧
    ((r.made[k]? = some c ∧ ∀ j, r.Live id j → j = k) ∨
      ((∀ j, ¬ r.Live id j) ∧ k = r.made.length ∧
        createConnection header creation = .ok (some c.body)))

theorem Table.getConnection (h : r.Table) {ipv4Header : IPv4Header}
    (got : r.getConnection (.of ipv4Header header) header creation = .ok (some (k, r'))) :
    r'.Table ∧ r'.thrown = r.thrown ∧ ∃ c, r'.made[k]? = some c ∧
      r.Chosen (.of ipv4Header header) header creation k c ∧
      ∀ j, j ≠ k → r'.made[j]? = r.made[j]? := by
  unfold Router.getConnection at got
  split at got
  · rename_i found
    cases got
    obtain ⟨inside, c, there, own⟩ := find_eq_some found
    refine ⟨h, rfl, c, there, ⟨own, (h.live _ c there inside).1, .inl ⟨there, ?_⟩⟩, fun _ _ => rfl⟩
    rintro j live
    obtain ⟨d, there', own', _⟩ := id live
    exact h.distinct j (h.mem_of_live live) _ inside d c there' there (own'.trans own.symm)
  · rename_i missing
    split at got
    · cases got
    · cases got
    · rename_i body created
      cases got
      obtain ⟨own, live⟩ := createConnection_eq ipv4Header created
      refine ⟨h.make ?_ live, rfl, _, ?_,
        ⟨own, live.1, .inr ⟨h.not_live missing, rfl, created⟩⟩, ?_⟩
      · intro j inside d there
        rw [own]
        exact find_eq_none missing j inside d there
      · rw [List.getElem?_append_right (Nat.le_refl _), Nat.sub_self]
        rfl
      · intro j other
        rcases Nat.lt_or_gt_of_ne other with old | later
        · rw [List.getElem?_append_left old]
        · rw [List.getElem?_append_right (Nat.le_of_lt later), List.getElem?_eq_none
            (by rw [List.length_singleton]; omega), List.getElem?_eq_none (Nat.le_of_lt later)]

/-- Nothing the table is about. -/
theorem Table.same (h : r.Table) (made : r'.made = r.made) (connections : r'.connections =
      r.connections) (removes : r'.unknownRemoved = r.unknownRemoved) : r'.Table := by
  obtain ⟨made', connections', unknown, thrown⟩ := r'
  simp only at made connections removes
  subst made connections removes
  exact ⟨h.bounded, h.once, h.distinct, h.live, h.gone, h.removes⟩

theorem Table.sendToNetwork (h : r.Table) : (r.sendToNetwork packet creation nextInt).Table := by
  unfold Router.sendToNetwork
  split
  · exact h
  · rename_i header _
    split
    · exact h.same rfl rfl rfl
    · exact h
    · rename_i k r' got
      obtain ⟨table, _, c, there, ⟨_, live, _⟩, _⟩ := h.getConnection got
      rw [there]
      dsimp only
      cases sent : c.body.sendToNetwork packet header nextInt with
      | error e => exact table.same rfl rfl rfl
      | ok body =>
          obtain ⟨protocol, closes⟩ := ConnectionBody.sendToNetwork_closes live sent
          exact table.update there protocol closes

/-- The packet is handed to the one live connection of its id, or to one made for it, and this goes
on as it does with the packet. The others stay as they were. -/
def HandsOver (r r' : Router) (packet : IPv4Packet) (header : TransportHeader)
    (creation : Creation) (nextInt : Int32) : Prop :=
  ∃ k c, r.Chosen (.of packet.ipv4Header header) header creation k c ∧
    (∀ j, j ≠ k → r'.made[j]? = r.made[j]?) ∧
    match c.body.sendToNetwork packet header nextInt with
    | .ok body => r'.made[k]? = some { c with body := body } ∧ r'.thrown = none
    | .error e => r'.thrown = some e

/-- A connection is needed only if there is none, and then the header does for it. -/
theorem Table.hands (h : r.Table) (received : packet.Received)
    (valid : packet.transportHeader = some header) (going : r.thrown = none)
    (opens : (∃ j, r.Live (.of packet.ipv4Header header) j) ∨ header.Complete) :
    r.HandsOver (r.sendToNetwork packet creation nextInt) packet header creation nextInt ∨
      (creation = .failed ∧ (∀ j, ¬ r.Live (.of packet.ipv4Header header) j) ∧
        r.sendToNetwork packet creation nextInt = r) := by
  unfold Router.sendToNetwork
  rw [valid]
  dsimp only
  cases got : r.getConnection (.of packet.ipv4Header header) header creation with
  | error e =>
      unfold Router.getConnection at got
      split at got
      · cases got
      · rename_i missing
        rcases opens with ⟨j, live⟩ | complete
        · exact absurd live (h.not_live missing j)
        · obtain ⟨response, made⟩ := responseHeader_of_complete received valid complete
          obtain ⟨body, created⟩ := @createConnection_ok header creation _ made
          rw [created] at got
          cases body <;> cases got
  | ok result =>
      cases result with
      | none =>
          right
          unfold Router.getConnection at got
          split at got
          · cases got
          · rename_i missing
            split at got
            · cases got
            · rename_i created
              exact ⟨createConnection_none created, h.not_live missing, rfl⟩
            · cases got
      | some result =>
          obtain ⟨k, r'⟩ := result
          obtain ⟨_, thrown, c, there, chosen, others⟩ := h.getConnection got
          dsimp only
          rw [there]
          refine .inl ⟨k, c, chosen, ?_⟩
          dsimp only
          cases sent : c.body.sendToNetwork packet header nextInt with
          | error e => exact ⟨others, rfl⟩
          | ok body =>
              obtain ⟨made, still⟩ := update_ok there body
              refine ⟨fun j other => ?_, ?_, ?_⟩
              · rw [made, List.getElem?_set_ne (Ne.symm other)]
                exact others j other
              · rw [made, List.getElem?_set_self (List.getElem?_eq_some_iff.mp there).1]
              · rw [still, thrown, going]

end Router

/-- The table is sound: its connections have ids of their own, `close` was called once at most on
each connection, `remove` knew all it was called with, and a valid packet reaches the one live
connection of its id, which is made if there is none and the header of the packet does for it. It is
dropped only if the network refuses that. -/
structure Sound (r : Router) : Prop where
  distinct : (r.connections.map fun k => (r.made[k]?).map Connection.id).Nodup
  listed : ∀ k, k ∈ r.connections ↔ ∃ c, r.made[k]? = some c ∧ c.body.closed = false
  once : ∀ c ∈ r.made, c.body.closes ≤ 1
  removes : r.unknownRemoved = false
  hands : ∀ packet header creation nextInt, packet.Received →
    packet.transportHeader = some header → r.thrown = none → r.idleBut none = true →
    ((∃ j, r.Live (.of packet.ipv4Header header) j) ∨ header.Complete) →
    ∃ r', r.step (.packet packet creation nextInt) = some r' ∧
      (r.HandsOver r' packet header creation nextInt ∨
        (creation = .failed ∧ (∀ j, ¬ r.Live (.of packet.ipv4Header header) j) ∧ r' = r))

namespace Router

theorem Table.step {r r' : Router} {action : RouterAction} (h : r.Table)
    (taken : r.step action = some r') : r'.Table := by
  unfold Router.step at taken
  split at taken
  · cases taken
  split at taken
  · split at taken
    · cases taken
      exact h.sendToNetwork
    · cases taken
  · split at taken
    · rename_i own
      split at taken
      · obtain ⟨c', stepped, rfl⟩ := Option.map_eq_some_iff.mp taken
        exact h.update own rfl (TcpConnection.step_closes stepped)
      · cases taken
    · cases taken
  · split at taken
    · rename_i own
      split at taken
      · obtain ⟨result, stepped, rfl⟩ := Option.map_eq_some_iff.mp taken
        cases result with
        | error e => exact h.same rfl rfl rfl
        | ok c' => exact h.update own rfl (UdpConnection.step_closes stepped)
      · cases taken
    · cases taken
  · split at taken
    · cases taken
      exact h.dropWhere _
    · cases taken
  · split at taken
    · cases taken
      exact h.dropWhere _
    · cases taken

end Router

theorem Router.table_initial : Router.Table ⟨[], [], false, none⟩ := by
  constructor <;> simp

theorem Router.Table.sound {r : Router} (h : r.Table) : Sound r := by
  refine ⟨?_, ?_, ?_, h.removes, ?_⟩
  · refine List.Nodup.map_on ?_ h.once
    intro j inside k inside' same
    have there := List.getElem?_eq_getElem (h.bounded j inside)
    have there' := List.getElem?_eq_getElem (h.bounded k inside')
    rw [there, there'] at same
    exact h.distinct j inside k inside' _ _ there there' (Option.some.inj same)
  · intro k
    constructor
    · intro inside
      have there := List.getElem?_eq_getElem (h.bounded k inside)
      exact ⟨_, there, (h.live k _ there inside).1⟩
    · rintro ⟨c, there, open'⟩
      exact h.mem_of_live ⟨c, there, rfl, open'⟩
  · intro c member
    obtain ⟨k, there⟩ := List.getElem?_of_mem member
    by_cases inside : k ∈ r.connections
    · have never := (h.live k c there inside).2
      omega
    · exact (h.gone k c there inside).2
  · intro packet header creation nextInt received valid going idle opens
    refine ⟨r.sendToNetwork packet creation nextInt, ?_, h.hands received valid going opens⟩
    simp [Router.step, going, h.removes, idle]

theorem reachable_step {r r' : Router} {action : RouterAction}
    (run : routerSystem.Reachable Free r) (taken : r.step action = some r') :
    routerSystem.Reachable Free r' :=
  run.extend (.cons trivial taken .nil)

/-- In every run the table is sound. -/
theorem table_sound {r : Router} (reached : routerSystem.Reachable Free r) : Sound r := by
  have table : r.Table := reached.invariant Router.table_initial
    fun _ _ _ table _ taken => table.step taken
  exact table.sound

/-! A client that opens a connection. -/

namespace Routed

/-- A SYN without options. -/
def header : TCPHeader where
  raw := [4, 0, 0, 80, 0, 0, 0, 10, 0, 0, 0, 0, 80, 2, 3, 232, 0, 0, 0, 0]
  sourcePort := 1024
  destinationPort := 80
  headerLength := 20
  sequenceNumber := 10
  acknowledgementNumber := 0
  flags := 2
  window := 1000

def packet : IPv4Packet where
  raw := [69, 0, 0, 40, 0, 0, 0, 0, 64, 6, 0, 0, 0, 0, 0, 1, 0, 0, 0, 2] ++ header.raw
  ipv4Header := ⟨4, 20, 40, .tcp, 1, 2⟩
  transportHeader := some (.tcp header)

/-- The network refuses the connection made for it. -/
def refused : List RouterAction :=
  [.packet packet (.succeeded 1000 0) 100, .tcp 0 (.select { connect := true }),
    .tcp 0 (.connect false)]

end Routed

/-- The connection made for a packet gets the next one too, with no other made. One that was refused
was closed once, and is no longer in the list. -/
theorem table_sound_refused :
    (∃ r r', routerSystem.Reachable Free r ∧ r.connections = [0] ∧
      r.step (.packet Routed.packet .failed 100) = some r' ∧
      r.HandsOver r' Routed.packet (.tcp Routed.header) .failed 100 ∧ Sound r') ∧
    ∃ r, routerSystem.Reachable Free r ∧ r.made.map (fun c => c.body.closes) = [1] ∧
      r.connections = [] ∧ Sound r := by
  have received : Routed.packet.Received := ⟨rfl, rfl⟩
  constructor
  · have run : routerSystem.Reachable Free
        (routerSystem.init.sendToNetwork Routed.packet (.succeeded 1000 0) 100) :=
      System.reachable_of_replay (Routed.refused.take 1) rfl
    obtain ⟨r', taken, hands | ⟨_, none_, _⟩⟩ := (table_sound run).hands Routed.packet
      (.tcp Routed.header) .failed 100 received rfl rfl rfl (.inr (Nat.le_refl 20))
    · exact ⟨_, r', run, rfl, taken, hands, table_sound (reachable_step run taken)⟩
    · exact absurd ⟨_, rfl, rfl, rfl⟩ (none_ 0)
  · obtain ⟨r, run, made, connections⟩ :
        ∃ r, routerSystem.Reachable Free r ∧ r.made.map (fun c => c.body.closes) = [1] ∧
          r.connections = [] :=
      ⟨_, System.reachable_of_replay Routed.refused rfl, rfl, rfl⟩
    exact ⟨r, run, made, connections, table_sound run⟩

/-- No connection can be made, and the packet is dropped. -/
theorem packet_dropped :
    ∃ r r' packet header, routerSystem.Reachable Free r ∧ r.thrown = none ∧
      r.idleBut none = true ∧ packet.Received ∧ packet.transportHeader = some header ∧
      header.Complete ∧ r.step (.packet packet .failed 0) = some r' ∧
      ¬ r.HandsOver r' packet header .failed 0 := by
  refine ⟨routerSystem.init, routerSystem.init, Routed.packet, .tcp Routed.header, ⟨[], .nil⟩, rfl,
    rfl, ⟨rfl, rfl⟩, rfl, Nat.le_refl 20, rfl, ?_⟩
  rintro ⟨k, c, ⟨_, _, ⟨there, _⟩ | ⟨_, _, created⟩⟩, _⟩
  · cases there
  · rw [Router.createConnection.eq_def, bind_eq_ok] at created
    obtain ⟨_, _, created⟩ := created
    cases created

end QuestVdWired.Relay
