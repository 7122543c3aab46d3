import QuestVdWired.Android.Gnr4

/-!
The frame loop of `ControlSupervisor.runLoop`, after the handshake, and the socket it reads
from. A read that meets the end of what has arrived waits; when the socket's timeout expires
there, `DataInputStream` throws and what the read had taken is gone. The flags that other
threads set, and the clock, come with the expiry.
-/

namespace QuestVdWired.Android
open Wire

namespace Gnr4

def heartbeatPayload (sequence monotonicNanos : Int64) : List UInt8 :=
  writeLong sequence ++ writeLong monotonicNanos

def parseHeartbeatPayload (payload : List UInt8) : Option (Int64 × Int64) :=
  if payload.length ≠ 16 then none else some (long (payload.take 8), long (payload.drop 8))

@[simp] theorem heartbeatPayload_length (sequence monotonicNanos : Int64) :
    (heartbeatPayload sequence monotonicNanos).length = 16 := by
  simp [heartbeatPayload]

theorem parse_heartbeatPayload (sequence monotonicNanos : Int64) :
    parseHeartbeatPayload (heartbeatPayload sequence monotonicNanos) =
      some (sequence, monotonicNanos) := by
  simp [parseHeartbeatPayload, heartbeatPayload, long_writeLong]

end Gnr4

def MAX_OUTSTANDING_HEARTBEATS : Nat := 8

/-- What an expiry of the read timeout finds. -/
structure Expiry where
  paused : Bool
  wakePending : Bool
  nanoTime : Int64
  deriving DecidableEq, Repr

/-- How the loop ends: a STOP makes the whole thread return. -/
inductive LoopEnd
  | returned
  | threw
  deriving DecidableEq, Repr

/-- `outstandingHeartbeats` is a linked map, oldest entry first. -/
structure FrameLoop where
  missed : Nat
  sequence : Int64
  outstandingHeartbeats : List (Int64 × Int64)
  deriving DecidableEq, Repr

/-- What one turn of the loop leaves: its locals, the heartbeat it wrote, the one whose round
trip it sampled, and whether it was the last turn. -/
structure Turn where
  loop : FrameLoop
  written : Option Gnr4Frame
  sampled : Option (Int64 × Int64)
  ends : Option LoopEnd
  deriving DecidableEq, Repr

namespace FrameLoop

def goesOn (l : FrameLoop) : Turn := ⟨l, none, none, none⟩

def onFrame (session : UUID) (l : FrameLoop) (frame : Gnr4Frame) : Turn :=
  match frame.type with
  | .heartbeat =>
      match Gnr4.parseHeartbeatPayload frame.payload with
      | none => ⟨{ l with missed := 0 }, none, none, some .threw⟩
      | some (sequence, monotonicNanos) =>
          if l.outstandingHeartbeats.lookup sequence = some monotonicNanos then
            ⟨{ l with
              missed := 0
              outstandingHeartbeats := l.outstandingHeartbeats.eraseP (·.1 = sequence) },
              none, some (sequence, monotonicNanos), none⟩
          else
            ⟨{ l with missed := 0 }, some ⟨.heartbeat, session, frame.payload⟩, none, none⟩
  | .status | .suspended => goesOn { l with missed := 0 }
  | .stop => ⟨l, none, none, some .returned⟩
  | .error => ⟨l, none, none, some .threw⟩
  | .hello | .helloAck | .started | .stopped | .suspend | .metrics => goesOn l

/-- Room for one more entry. -/
def evict : List (Int64 × Int64) → List (Int64 × Int64)
  | [] => []
  | oldest :: entries =>
      if MAX_OUTSTANDING_HEARTBEATS ≤ (oldest :: entries).length then evict entries
      else oldest :: entries

/-- Assignment to a key of a linked map. -/
def put (key value : Int64) (entries : List (Int64 × Int64)) : List (Int64 × Int64) :=
  if (entries.map Prod.fst).contains key then
    entries.map fun entry => if entry.1 = key then (key, value) else entry
  else entries ++ [(key, value)]

def onTimeout (session : UUID) (l : FrameLoop) (expiry : Expiry) : Turn :=
  if expiry.paused then goesOn l
  else if expiry.wakePending then ⟨l, none, none, some .threw⟩
  else
    let sequence := l.sequence + 1
    let sentAt := expiry.nanoTime
    ⟨{ missed := l.missed + 1
       sequence := sequence
       outstandingHeartbeats := put sequence sentAt (evict l.outstandingHeartbeats) },
      some ⟨.heartbeat, session, Gnr4.heartbeatPayload sequence sentAt⟩, none,
      if 3 ≤ l.missed + 1 then some .threw else none⟩

attribute [local grind =] evict

end FrameLoop

/-- The loop over a socket: the bytes that arrive before the next expiry, and each expiry with
the bytes that arrive after it. -/
structure Reading where
  loop : FrameLoop
  arrived : List UInt8
  later : List (Expiry × List UInt8)
  processed : List Gnr4Frame
  ended : Option LoopEnd
  deriving DecidableEq

namespace Reading

def take (r : Reading) (turn : Turn) : Reading := { r with loop := turn.loop, ended := turn.ends }

/-- One turn; `none` once the loop has ended, and while it waits for bytes that never come. -/
def turn (session : UUID) (r : Reading) : Option Reading :=
  match r.ended with
  | some _ => none
  | none =>
      match Gnr4.read (some session) r.arrived with
      | .ok (frame, rest) =>
          some ({ r with arrived := rest, processed := r.processed ++ [frame] }.take
            (r.loop.onFrame session frame))
      | .error .eof =>
          match r.later with
          | [] => none
          | (expiry, bytes) :: later =>
              -- what the read had taken of `arrived` is dropped with the exception
              some ({ r with arrived := bytes, later := later }.take
                (r.loop.onTimeout session expiry))
      | .error _ => some { r with ended := some .threw }

end Reading

end QuestVdWired.Android
