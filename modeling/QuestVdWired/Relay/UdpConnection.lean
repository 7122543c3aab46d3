import QuestVdWired.Relay.DatagramBuffer
import QuestVdWired.Relay.TcpConnection

/-!
`UDPConnection.java` on the relay's one thread: the packets of the client and the two parts of
its selection handler. `Stage.connect` is outside of the handler. What the datagram buffer throws
leaves the selector loop.
-/

namespace QuestVdWired.Relay
open Java Wire

def IDLE_TIMEOUT : Nat := 2 * 60 * 1000

/-- `room` is what the client's own buffer can take, `ready` what the selector found at its last
turn, `closes` how often `close` was called. Times are milliseconds. -/
structure UdpConnection where
  clientToNetwork : DatagramBuffer
  room : Nat
  closed : Bool
  interests : Ops
  ready : Ops
  stage : Stage
  idleSince : Nat
  closes : Nat

/-- A datagram is written as a whole, or the channel says or throws otherwise. -/
inductive DatagramWrite
  | whole | partly | failed
  deriving DecidableEq, Repr

inductive UdpAction
  /-- the client's buffer drained or filled -/
  | clientBuffer (room : Nat)
  /-- a turn of the selector -/
  | select (ready : Ops)
  /-- the handler begins -/
  | touch (now : Nat)
  | receive (result : ReadResult)
  | send (result : DatagramWrite)
  deriving DecidableEq

namespace UdpConnection
variable (c : UdpConnection)

/-- The constructor registers the channel for OP_READ. -/
def create (room now : Nat) : UdpConnection where
  clientToNetwork := .create (4 * MAX_PACKET_LENGTH)
  room := room
  closed := false
  interests := { read := true }
  ready := {}
  stage := .connect
  idleSince := now
  closes := 0

def disconnect : UdpConnection := { c with closed := true }

def close : UdpConnection := { c with closed := true, closes := c.closes + 1 }

def isExpired (now : Nat) : Bool := c.idleSince + IDLE_TIMEOUT ≤ now

def updateInterests : UdpConnection :=
  if c.closed then c
  else { c with interests := { read := true, write := !c.clientToNetwork.isEmpty } }

def sendToNetwork (payload : List UInt8) : Result UdpConnection := do
  let (accepted, buffer) ← c.clientToNetwork.readFrom payload
  let c := { c with clientToNetwork := buffer }
  return if accepted then c.updateInterests else c

/-- The packet is dropped if the client cannot take it: a 28 byte header and the payload. -/
def pushToClient (payload : List UInt8) : UdpConnection :=
  if c.room < 28 + payload.length then c else { c with room := c.room - (28 + payload.length) }

def processReceive : ReadResult → UdpConnection
  | .bytes payload => c.pushToClient payload
  | .eof | .failed => c.close

def processSend (result : DatagramWrite) : Result UdpConnection := do
  let (_, buffer) ← c.clientToNetwork.writeTo
  let c := { c with clientToNetwork := buffer }
  match result with
  | .whole => return c
  | .partly | .failed => return c.close

def step (action : UdpAction) (c : UdpConnection) : Option (Result UdpConnection) :=
  match action, c.stage with
  | .clientBuffer room, .connect => some (.ok { c with room := room })
  | .select ready, .connect =>
      if !c.closed && ready.within c.interests then some (.ok { c with ready := ready }) else none
  | .touch now, .connect => some (.ok { c with idleSince := now, stage := .receive })
  | .receive result, .receive =>
      let c' := if !c.closed && c.ready.read then c.processReceive result else c
      some (.ok { c' with stage := .send, ready.read := false })
  | .send result, .send =>
      let sent := if !c.closed && c.ready.write then c.processSend result else .ok c
      some (sent.map fun c => { c with stage := .connect, ready.write := false }.updateInterests)
  | _, _ => none

end UdpConnection

/-- A connection is left as it was, or closed for the first time. -/
def ClosesOnce (closed : Bool) (closes : Nat) (closed' : Bool) (closes' : Nat) : Prop :=
  (closed' = closed ∧ closes' = closes) ∨ (closed = false ∧ closed' = true ∧ closes' = closes + 1)

namespace UdpConnection
variable {c c' : UdpConnection}

@[simp] theorem updateInterests_closed : c.updateInterests.closed = c.closed := by
  unfold updateInterests
  split <;> rfl

@[simp] theorem updateInterests_closes : c.updateInterests.closes = c.closes := by
  unfold updateInterests
  split <;> rfl

theorem sendToNetwork_closes {payload : List UInt8} (sent : c.sendToNetwork payload = .ok c') :
    c'.closed = c.closed ∧ c'.closes = c.closes := by
  obtain ⟨⟨accepted, buffer⟩, _, rest⟩ := bind_eq_ok.mp sent
  cases rest
  cases accepted with
  | true => exact ⟨updateInterests_closed, updateInterests_closes⟩
  | false => exact ⟨rfl, rfl⟩

theorem processReceive_closes (live : c.closed = false) (result : ReadResult) :
    ClosesOnce c.closed c.closes (c.processReceive result).closed
      (c.processReceive result).closes := by
  cases result with
  | bytes payload =>
      simp only [processReceive, pushToClient]
      split <;> exact .inl ⟨rfl, rfl⟩
  | eof => exact .inr ⟨live, rfl, rfl⟩
  | failed => exact .inr ⟨live, rfl, rfl⟩

theorem processSend_closes (live : c.closed = false) {result : DatagramWrite}
    (sent : c.processSend result = .ok c') :
    ClosesOnce c.closed c.closes c'.closed c'.closes := by
  obtain ⟨⟨_, buffer⟩, _, rest⟩ := bind_eq_ok.mp sent
  cases result with
  | whole =>
      cases rest
      exact .inl ⟨rfl, rfl⟩
  | partly =>
      cases rest
      exact .inr ⟨live, rfl, rfl⟩
  | failed =>
      cases rest
      exact .inr ⟨live, rfl, rfl⟩

/-- The validity of the key is asked again before each part of the handler. -/
theorem step_closes {action : UdpAction} (taken : c.step action = some (.ok c')) :
    ClosesOnce c.closed c.closes c'.closed c'.closes := by
  unfold step at taken
  split at taken
  · cases taken
    exact .inl ⟨rfl, rfl⟩
  · split at taken
    · cases taken
      exact .inl ⟨rfl, rfl⟩
    · cases taken
  · cases taken
    exact .inl ⟨rfl, rfl⟩
  · cases taken
    split
    · rename_i ready
      simp only [Bool.and_eq_true, Bool.not_eq_true'] at ready
      exact processReceive_closes ready.1 _
    · exact .inl ⟨rfl, rfl⟩
  · split at taken
    · rename_i ready
      simp only [Bool.and_eq_true, Bool.not_eq_true'] at ready
      cases sent : c.processSend _ with
      | error e =>
          rw [sent] at taken
          cases taken
      | ok after =>
          rw [sent] at taken
          cases taken
          simp only [updateInterests_closed, updateInterests_closes]
          exact processSend_closes ready.1 sent
    · cases taken
      simp only [updateInterests_closed, updateInterests_closes]
      exact .inl ⟨rfl, rfl⟩
  · cases taken

end UdpConnection
end QuestVdWired.Relay
