import QuestVdWired.Transition.System

/-!
Settlement of the candidates for one accepted Streamer connection, and the plain relay
that takes over from it. A connection is modelled with what has crossed it, so that what
the code buffers can be compared with what was really read and written. Index and slice
operations that panic in the source end the flow in `panicked`.
-/

namespace QuestVdWired.Host
open Transition

/-- Times and durations are milliseconds. -/
def CANDIDATE_DECISION_TIMEOUT : Nat := 250
def CANDIDATE_UNRESOLVED_LIMIT : Nat := 10000
def CANDIDATE_REPLAY_LIMIT : Nat := 64 * 1024
def CANDIDATE_BUFFER_LEN : Nat := 16 * 1024

/-- A connection: everything read from its peer and everything written to it. -/
structure TcpStream where
  sent : List UInt8
  received : List UInt8
  deriving DecidableEq, Repr

inductive ReadResult
  | ok (bytes : List UInt8)
  | wouldBlock
  | error
  deriving DecidableEq, Repr

inductive WriteResult
  | ok (written : Nat)
  | wouldBlock
  | error
  deriving DecidableEq, Repr

namespace TcpStream

def fresh : TcpStream := ⟨[], []⟩

/-- `try_read` into a buffer of length `room`: what the peer offers, as far as it fits.
No bytes means the end of the stream. -/
def tryRead (stream : TcpStream) (room : Nat) : ReadResult → TcpStream × ReadResult
  | .ok bytes => ({ stream with sent := stream.sent ++ bytes.take room }, .ok (bytes.take room))
  | result => (stream, result)

/-- `try_write` of a slice: some number of its bytes, from the front. -/
def tryWrite (stream : TcpStream) (slice : List UInt8) : WriteResult → TcpStream × WriteResult
  | .ok written =>
      ({ stream with received := stream.received ++ slice.take written },
        .ok (min written slice.length))
  | result => (stream, result)

end TcpStream

structure Candidate where
  client : TcpStream
  arrival : Nat
  delivered : Nat
  deriving DecidableEq, Repr

structure ChosenCandidate where
  client : TcpStream
  arrival : Nat
  clientPrefix : List UInt8
  delivered : Nat
  upstreamSuffix : List UInt8
  deriving DecidableEq, Repr

structure CandidateSettlement where
  arrivals : Nat
  outcome : String
  chosen : Option ChosenCandidate
  deriving DecidableEq, Repr

inductive CandidateEvent
  | joined
  | upstream
  | readable (index : Nat)
  | writable (index : Nat)
  | deadline
  deriving DecidableEq, Repr

/-- The locals of `settle_candidates`. `dropped` records the candidates already closed. -/
structure Settling where
  joinDeadline : Nat
  giveUp : Nat
  upstream : TcpStream
  candidates : List Candidate
  arrivals : Nat
  replay : List UInt8
  upstreamClosed : Bool
  decisionDeadline : Option Nat
  dropped : List Candidate
  deriving DecidableEq, Repr

/-- What the wakers report when the loop is polled. -/
structure Readiness where
  joined : Bool
  upstream : Bool
  readable : Nat → Bool
  writable : Nat → Bool
  deadline : Bool

/-- One direction of `copy_bidirectional`, as its documentation has it: bytes read but not yet
written, the number written, and whether the reading side has ended. -/
structure CopyBuffer where
  pending : List UInt8
  amt : Nat
  readDone : Bool
  deriving DecidableEq, Repr

inductive FlowEndpoint
  | quest | streamer
  deriving DecidableEq, Repr

inductive RelayStage
  | writePrefix (left : List UInt8)
  | writeSuffix (left : List UInt8)
  | copy (fromClient fromUpstream : CopyBuffer)
  deriving DecidableEq, Repr

/-- `relay_flow` for a chosen candidate. -/
structure Relaying where
  client : TcpStream
  upstream : TcpStream
  delivered : Nat
  clientPrefix : List UInt8
  upstreamSuffix : List UInt8
  stage : RelayStage
  dropped : List Candidate
  deriving DecidableEq, Repr

/-- A candidate flow of `handle_connect`, cut where it waits: at the head of the
settlement loop, in its poll, between settlement and relay, in the relay, and at its end.
`transfer` is `none` for an I/O error. -/
inductive CandidateFlow
  | head (settling : Settling)
  | awaiting (settling : Settling) (readUpstream : Bool)
  | settled (settlement : CandidateSettlement) (upstream : TcpStream) (dropped : List Candidate)
  | relaying (relay : Relaying)
  | ended (client : Option TcpStream) (upstream : TcpStream) (dropped : List Candidate)
      (transfer : Option (Nat × Nat))
  | panicked

inductive CandidateAction
  | iterate (joined now : Nat)
  | poll (ready : Readiness) (read : ReadResult) (write : WriteResult)
  | handOver
  | writeAll (write : WriteResult)
  | copyRead (side : FlowEndpoint) (read : ReadResult)
  | copyWrite (side : FlowEndpoint) (write : WriteResult)
  | copyDone
  | copyFail

namespace Settling

def start (joinDeadline now : Nat) : Settling where
  joinDeadline := joinDeadline
  giveUp := now + CANDIDATE_UNRESOLVED_LIMIT
  upstream := .fresh
  candidates := [⟨.fresh, 0, 0⟩]
  arrivals := 1
  replay := []
  upstreamClosed := false
  decisionDeadline := none
  dropped := []

/-- The loop over `take_joined`. -/
def takeJoined (s : Settling) : Nat → Settling
  | 0 => s
  | joined + 1 =>
      takeJoined { s with
        candidates := s.candidates ++ [⟨.fresh, s.arrivals, 0⟩]
        arrivals := s.arrivals + 1 } joined

def remove (s : Settling) (index : Nat) : Settling :=
  { s with
    candidates := s.candidates.eraseIdx index
    dropped := s.dropped ++ s.candidates[index]?.toList }

def chooseCandidate (s : Settling) (index : Nat) (clientPrefix : List UInt8)
    (outcome : String) : CandidateFlow :=
  match s.candidates[index]? with
  | none => .panicked
  | some chosen =>
      if s.replay.length < chosen.delivered then .panicked
      else
        .settled
          ⟨s.arrivals, outcome, some {
            upstreamSuffix := s.replay.drop chosen.delivered
            delivered := chosen.delivered
            arrival := chosen.arrival
            client := chosen.client
            clientPrefix := clientPrefix }⟩
          s.upstream (s.dropped ++ s.candidates.eraseIdx index)

def exhausted (s : Settling) : Bool :=
  s.upstreamClosed || decide (CANDIDATE_REPLAY_LIMIT ≤ s.replay.length)

/-- The wait for the next event, with the branch guard the poll captures. -/
def await (s : Settling) : CandidateFlow :=
  .awaiting s (!s.upstreamClosed && decide (s.replay.length < CANDIDATE_REPLAY_LIMIT))

/-- The decision at the head of the loop, once the joined clients are in. -/
def enter (s : Settling) (now : Nat) : CandidateFlow :=
  let joining := now < s.joinDeadline
  match s.candidates.length with
  | 0 =>
      if joining then s.await
      else .settled ⟨s.arrivals, "all_closed", none⟩ s.upstream s.dropped
  | 1 =>
      if ¬ joining ∨ s.exhausted then
        s.chooseCandidate 0 [] (if s.arrivals > 1 then "sole_survivor" else "single")
      else s.await
  | _ + 2 =>
      let decision :=
        if s.exhausted then some (s.decisionDeadline.getD (now + CANDIDATE_DECISION_TIMEOUT))
        else s.decisionDeadline
      let deadline := decision.elim s.giveUp fun decision => min decision s.giveUp
      let s := { s with decisionDeadline := decision }
      if deadline ≤ now then s.chooseCandidate 0 [] "timeout" else s.await

def pollCandidates (ready : Readiness) (len : Nat) :
    List Candidate → Nat → Option CandidateEvent
  | [], _ => none
  | candidate :: candidates, index =>
      if ready.readable index then some (.readable index)
      else if candidate.delivered < len ∧ ready.writable index then some (.writable index)
      else pollCandidates ready len candidates (index + 1)

/-- The order in which `poll_fn` looks at its sources. -/
def pollEvent (s : Settling) (ready : Readiness) (readUpstream : Bool) : Option CandidateEvent :=
  if ready.joined then some .joined
  else if readUpstream ∧ ready.upstream then some .upstream
  else
    match pollCandidates ready s.replay.length s.candidates 0 with
    | some event => some event
    | none => if ready.deadline then some .deadline else none

def onUpstream (s : Settling) (read : ReadResult) : CandidateFlow :=
  if CANDIDATE_REPLAY_LIMIT < s.replay.length then .panicked
  else
    let room := min (CANDIDATE_REPLAY_LIMIT - s.replay.length) CANDIDATE_BUFFER_LEN
    let (upstream, result) := s.upstream.tryRead room read
    let s := { s with upstream := upstream }
    match result with
    | .ok [] => .head { s with upstreamClosed := true }
    | .ok bytes => .head { s with replay := s.replay ++ bytes }
    | .wouldBlock => .head s
    | .error => .head { s with upstreamClosed := true }

def onReadable (s : Settling) (index : Nat) (read : ReadResult) : CandidateFlow :=
  match s.candidates[index]? with
  | none => .panicked
  | some candidate =>
      let (client, result) := candidate.client.tryRead CANDIDATE_BUFFER_LEN read
      let s := { s with candidates := s.candidates.set index { candidate with client := client } }
      match result with
      | .ok [] => .head (s.remove index)
      | .ok bytes => s.chooseCandidate index bytes "client_data"
      | .wouldBlock => .head s
      | .error => .head (s.remove index)

def onWritable (s : Settling) (index : Nat) (write : WriteResult) : CandidateFlow :=
  match s.candidates[index]? with
  | none => .panicked
  | some candidate =>
      if s.replay.length < candidate.delivered then .panicked
      else
        let (client, result) := candidate.client.tryWrite (s.replay.drop candidate.delivered) write
        match result with
        | .ok written =>
            .head { s with
              candidates := s.candidates.set index
                { candidate with client := client, delivered := candidate.delivered + written } }
        | .wouldBlock => .head s
        | .error => .head (s.remove index)

def onEvent (s : Settling) (read : ReadResult) (write : WriteResult) :
    CandidateEvent → CandidateFlow
  | .joined | .deadline => .head s
  | .upstream => s.onUpstream read
  | .readable index => s.onReadable index read
  | .writable index => s.onWritable index write

attribute [local grind =] takeJoined

end Settling

namespace Relaying

def start (chosen : ChosenCandidate) (upstream : TcpStream) (dropped : List Candidate) :
    Relaying where
  client := chosen.client
  upstream := upstream
  delivered := chosen.delivered
  clientPrefix := chosen.clientPrefix
  upstreamSuffix := chosen.upstreamSuffix
  stage := .writePrefix chosen.clientPrefix
  dropped := dropped

def fail (r : Relaying) : CandidateFlow :=
  .ended (some r.client) r.upstream r.dropped none

/-- One turn of `write_all`: the upstream gets the client's prefix first, then the client
the rest of the replay. A write of nothing is `WriteZero`. -/
def writeAll (r : Relaying) (write : WriteResult) : Option CandidateFlow :=
  match r.stage with
  | .writePrefix [] => some (.relaying { r with stage := .writeSuffix r.upstreamSuffix })
  | .writePrefix left =>
      match r.upstream.tryWrite left write with
      | (_, .ok 0) => some r.fail
      | (upstream, .ok written) =>
          some (.relaying
            { r with upstream := upstream, stage := .writePrefix (left.drop written) })
      | (_, .wouldBlock) => some (.relaying r)
      | (_, .error) => some r.fail
  | .writeSuffix [] =>
      some (.relaying { r with stage := .copy ⟨[], 0, false⟩ ⟨[], 0, false⟩ })
  | .writeSuffix left =>
      match r.client.tryWrite left write with
      | (_, .ok 0) => some r.fail
      | (client, .ok written) =>
          some (.relaying { r with client := client, stage := .writeSuffix (left.drop written) })
      | (_, .wouldBlock) => some (.relaying r)
      | (_, .error) => some r.fail
  | .copy .. => none

end Relaying

/-- Reading side of one copy direction; `none` once it has ended. The length of the buffer is
left open: a read may bring any number of bytes at any time. The last component says that the
read failed. -/
def CopyBuffer.read (buffer : CopyBuffer) (source : TcpStream) (read : ReadResult) :
    Option (CopyBuffer × TcpStream × Bool) :=
  if buffer.readDone then none
  else
    match read with
    | .ok [] => some ({ buffer with readDone := true }, source, false)
    | .ok bytes =>
        some ({ buffer with pending := buffer.pending ++ bytes },
          { source with sent := source.sent ++ bytes }, false)
    | .wouldBlock => some (buffer, source, false)
    | .error => some (buffer, source, true)

/-- Writing side of one copy direction. -/
def CopyBuffer.write (buffer : CopyBuffer) (sink : TcpStream) (write : WriteResult) :
    Option (CopyBuffer × TcpStream × Bool) :=
  if buffer.pending = [] then none
  else
    match sink.tryWrite buffer.pending write with
    | (sink, .ok 0) => some (buffer, sink, true)
    | (sink, .ok written) =>
        some ({ buffer with
          pending := buffer.pending.drop written
          amt := buffer.amt + written }, sink, false)
    | (sink, .wouldBlock) => some (buffer, sink, false)
    | (sink, .error) => some (buffer, sink, true)

def CopyBuffer.finished (buffer : CopyBuffer) : Prop :=
  buffer.readDone = true ∧ buffer.pending = []

instance (buffer : CopyBuffer) : Decidable buffer.finished :=
  inferInstanceAs (Decidable (_ ∧ _))

namespace Relaying

/-- A failed read or write ends the relay where it is. -/
def settle (r : Relaying) (failed : Bool) : CandidateFlow :=
  if failed then r.fail else .relaying r

def copyRead (r : Relaying) (side : FlowEndpoint) (read : ReadResult) : Option CandidateFlow :=
  match r.stage with
  | .copy fromClient fromUpstream =>
      match side with
      | .quest =>
          (fromClient.read r.client read).map fun result =>
            settle { r with client := result.2.1, stage := .copy result.1 fromUpstream }
              result.2.2
      | .streamer =>
          (fromUpstream.read r.upstream read).map fun result =>
            settle { r with upstream := result.2.1, stage := .copy fromClient result.1 }
              result.2.2
  | _ => none

/-- `side` is where the bytes go. -/
def copyWrite (r : Relaying) (side : FlowEndpoint) (write : WriteResult) :
    Option CandidateFlow :=
  match r.stage with
  | .copy fromClient fromUpstream =>
      match side with
      | .streamer =>
          (fromClient.write r.upstream write).map fun result =>
            settle { r with upstream := result.2.1, stage := .copy result.1 fromUpstream }
              result.2.2
      | .quest =>
          (fromUpstream.write r.client write).map fun result =>
            settle { r with client := result.2.1, stage := .copy fromClient result.1 }
              result.2.2
  | _ => none

/-- Both directions have ended; the counts as `relay_flow` and `handle_connect` add them
up. -/
def copyDone (r : Relaying) : Option CandidateFlow :=
  match r.stage with
  | .copy fromClient fromUpstream =>
      if fromClient.finished ∧ fromUpstream.finished then
        some (.ended (some r.client) r.upstream r.dropped
          (some (fromClient.amt + r.clientPrefix.length,
            fromUpstream.amt + r.upstreamSuffix.length + r.delivered)))
      else none
  | _ => none

/-- A flush or a shutdown of the copy fails. -/
def copyFail (r : Relaying) : Option CandidateFlow :=
  match r.stage with
  | .copy .. => some r.fail
  | _ => none

end Relaying

def CandidateFlow.step : CandidateAction → CandidateFlow → Option CandidateFlow
  | .iterate joined now, .head s => some ((s.takeJoined joined).enter now)
  | .poll ready read write, .awaiting s readUpstream =>
      match s.pollEvent ready readUpstream with
      | none => some (.awaiting s readUpstream)
      | some event => some (s.onEvent read write event)
  | .handOver, .settled settlement upstream dropped =>
      match settlement.chosen with
      | none => some (.ended none upstream dropped (some (0, 0)))
      | some chosen => some (.relaying (.start chosen upstream dropped))
  | .writeAll write, .relaying r => r.writeAll write
  | .copyRead side read, .relaying r => r.copyRead side read
  | .copyWrite side write, .relaying r => r.copyWrite side write
  | .copyDone, .relaying r => r.copyDone
  | .copyFail, .relaying r => r.copyFail
  | _, _ => none

/-- The accepted flow from its first candidate on. -/
def candidateFlow (joinDeadline now : Nat) : System CandidateFlow CandidateAction where
  init := .head (.start joinDeadline now)
  step := CandidateFlow.step

end QuestVdWired.Host
