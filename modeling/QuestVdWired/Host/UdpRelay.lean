import QuestVdWired.Host.HevUdpFrame
import QuestVdWired.Transition.System

/-!
One `relay_fwd_udp` association: the reader task, the relay loop and the writer task,
each cut at its awaits, over two bounded channels. What the environment decides (ages,
whether the byte budget grants a reservation, resolution, socket and stream results, the
moment an abort takes effect) comes with the action. Every datagram carries the number of
its arrival, and the books of each direction record what became of it.
-/

namespace QuestVdWired.Host
open Transition

/-- `u8::MAX as usize + MAX_UDP_PAYLOAD`. -/
def MAX_WRITE_BATCH_BYTES : Nat := 255 + MAX_UDP_PAYLOAD

/-- Replies of one batch: the first and what `try_recv` adds. -/
def MAX_BATCH_REPLIES : Nat := 8

structure FwdUdpConfig where
  queueCapacity : Nat
  maxQueueAge : Nat
  deriving DecidableEq, Repr

/-- How often each counter was added to. The atomics hold it modulo `2 ^ 64`, and no step looks at
them. -/
structure UdpStats where
  txDatagrams : Nat
  txBytes : Nat
  rxDatagrams : Nat
  rxBytes : Nat
  droppedQueueAge : Nat
  droppedQueueFull : Nat
  malformedFrames : Nat
  deriving DecidableEq, Repr

namespace UdpStats

def zero : UdpStats := ⟨0, 0, 0, 0, 0, 0, 0⟩

/-- The counters are only ever added to, by any association. -/
def add (s delta : UdpStats) : UdpStats :=
  ⟨s.txDatagrams + delta.txDatagrams, s.txBytes + delta.txBytes,
    s.rxDatagrams + delta.rxDatagrams, s.rxBytes + delta.rxBytes,
    s.droppedQueueAge + delta.droppedQueueAge, s.droppedQueueFull + delta.droppedQueueFull,
    s.malformedFrames + delta.malformedFrames⟩

def countSent (s : UdpStats) (bytes : Nat) : UdpStats :=
  { s with txDatagrams := s.txDatagrams + 1, txBytes := s.txBytes + bytes }

def countReceived (s : UdpStats) (bytes : Nat) : UdpStats :=
  { s with rxDatagrams := s.rxDatagrams + 1, rxBytes := s.rxBytes + bytes }

def countAge (s : UdpStats) : UdpStats :=
  { s with droppedQueueAge := s.droppedQueueAge + 1 }

def countFull (s : UdpStats) : UdpStats :=
  { s with droppedQueueFull := s.droppedQueueFull + 1 }

def countMalformed (s : UdpStats) : UdpStats :=
  { s with malformedFrames := s.malformedFrames + 1 }

end UdpStats

/-- A frame and the number of its arrival in its direction. -/
structure Datagram where
  id : Nat
  frame : HevUdpFrame
  deriving DecidableEq

/-- The books of one direction: everything taken in, and what became of it. -/
structure Books where
  taken : List Datagram
  done : List Datagram
  aged : List Datagram
  full : List Datagram
  lost : List Datagram
  deriving DecidableEq

namespace Books

def empty : Books := ⟨[], [], [], [], []⟩

def take (b : Books) (d : Datagram) : Books := { b with taken := b.taken ++ [d] }
def finish (b : Books) (ds : List Datagram) : Books := { b with done := b.done ++ ds }
def age (b : Books) (d : Datagram) : Books := { b with aged := b.aged ++ [d] }
def drop (b : Books) (d : Datagram) : Books := { b with full := b.full ++ [d] }
def lose (b : Books) (ds : List Datagram) : Books := { b with lost := b.lost ++ ds }

end Books

/-- What the reader puts into the request channel. -/
inductive Incoming
  | frame (request : Datagram)
  | error (e : HevFrameError)
  deriving DecidableEq

inductive ReaderPc
  | reading
  | sendingError (e : HevFrameError)
  | finished
  deriving DecidableEq

inductive EndReason
  | streamEof
  | malformed (e : HevFrameError)
  | idle
  | writerClosed
  | resolveFailed
  | sendFailed
  | receiveFailed
  | cancelled
  deriving DecidableEq

inductive RelayPc
  | select
  | resolving (request : Datagram)
  | sending (request : Datagram) (target : SocketAddr)
  | ended (reason : EndReason)
  deriving DecidableEq

structure Batch where
  replies : List Datagram
  bytes : List UInt8
  deriving DecidableEq

inductive WriterPc
  | waiting
  | examine (reply : Datagram) (batch : Batch) (pulled : Nat)
  | flushing (reply : Datagram) (batch : Batch) (pulled : Nat)
  | writing (batch : Batch)
  | finished
  deriving DecidableEq

def RelayPc.isEnded : RelayPc → Bool
  | .ended _ => true
  | _ => false

def RelayPc.inHand : RelayPc → List Datagram
  | .resolving request | .sending request _ => [request]
  | .select | .ended _ => []

def WriterPc.held : WriterPc → List Datagram
  | .examine reply batch _ | .flushing reply batch _ => batch.replies ++ [reply]
  | .writing batch => batch.replies
  | .waiting | .finished => []

def WriterPc.batch : WriterPc → Batch
  | .examine _ batch _ | .flushing _ batch _ | .writing batch => batch
  | .waiting | .finished => ⟨[], []⟩

structure UdpRelay where
  stats : UdpStats
  elsewhere : UdpStats
  requestQueue : List Incoming
  replyQueue : List Datagram
  reader : ReaderPc
  relay : RelayPc
  writer : WriterPc
  requests : Books
  replies : Books
  batches : List (List UInt8)
  deriving DecidableEq

inductive ResolveResult
  | timeout
  | failed
  | ok (target : SocketAddr)
  deriving DecidableEq

/-- `write_all` and then `flush`. -/
inductive BatchWrite
  | ok
  | writeFailed
  | flushFailed
  deriving DecidableEq

inductive UdpAction
  | readFrame (frame : HevUdpFrame) (reserved closed : Bool)
  | readEof
  | readMalformed (e : HevFrameError)
  | deliverError (closed : Bool)
  | abortReader
  | recvRequest (age ageAgain : Nat)
  | resolved (result : ResolveResult)
  | sent (ok : Bool)
  | received (source : SocketAddr) (payload : List UInt8) (reserved : Bool)
  | receiveFailed
  | replyClosed
  | idleExpired
  | cancel
  | writerRecv
  | writerExamine (age : Nat) (reserved : Bool)
  | writerFlush (result : BatchWrite) (reserved : Bool)
  | writerWrite (result : BatchWrite)
  | abortWriter
  | elsewhere (delta : UdpStats)

namespace UdpRelay

/-- Frames waiting in the request channel. -/
def queuedRequests (s : UdpRelay) : List Datagram :=
  s.requestQueue.filterMap fun
    | .frame request => some request
    | .error _ => none

def fullRequest (s : UdpRelay) (request : Datagram) : UdpRelay :=
  { s with requests := s.requests.drop request, stats := s.stats.countFull }

def agedRequest (s : UdpRelay) (request : Datagram) : UdpRelay :=
  { s with requests := s.requests.age request, stats := s.stats.countAge, relay := .select }

def fullReply (s : UdpRelay) (reply : Datagram) : UdpRelay :=
  { s with replies := s.replies.drop reply, stats := s.stats.countFull }

/-- The loop or the whole function is left; a request in hand goes with it. -/
def finish (s : UdpRelay) (reason : EndReason) : UdpRelay :=
  { s with requests := s.requests.lose s.relay.inHand, relay := .ended reason }

/-- `read_from` returned a frame, and `try_queue_request` with it. -/
def readFrame (config : FwdUdpConfig) (frame : HevUdpFrame) (reserved closed : Bool)
    (s : UdpRelay) : Option UdpRelay :=
  if s.reader ≠ .reading ∨ (closed ∧ ¬ s.relay.isEnded) then none
  else
    let request : Datagram := ⟨s.requests.taken.length, frame⟩
    let s := { s with requests := s.requests.take request }
    if ¬ reserved then some (s.fullRequest request)
    else if closed then
      some { s with requests := s.requests.lose [request], reader := .finished }
    else if config.queueCapacity ≤ s.requestQueue.length then some (s.fullRequest request)
    else some { s with requestQueue := s.requestQueue ++ [.frame request] }

def deliverError (config : FwdUdpConfig) (closed : Bool) (s : UdpRelay) : Option UdpRelay :=
  match s.reader with
  | .sendingError e =>
      if closed then
        if s.relay.isEnded then some { s with reader := .finished } else none
      else if config.queueCapacity ≤ s.requestQueue.length then none
      else some { s with requestQueue := s.requestQueue ++ [.error e], reader := .finished }
  | _ => none

def recvRequest (config : FwdUdpConfig) (age ageAgain : Nat) (s : UdpRelay) : Option UdpRelay :=
  if s.relay ≠ .select then none
  else
    match s.requestQueue with
    | [] => if s.reader = .finished then some (s.finish .streamEof) else none
    | .error e :: rest => some ({ s with requestQueue := rest }.finish (.malformed e))
    | .frame request :: rest =>
        let s := { s with requestQueue := rest }
        if age > config.maxQueueAge then some (s.agedRequest request)
        else if ageAgain > config.maxQueueAge then some (s.agedRequest request)
        else some { s with relay := .resolving request }

def resolved (result : ResolveResult) (s : UdpRelay) : Option UdpRelay :=
  match s.relay with
  | .resolving request =>
      match result with
      | .timeout => some (s.agedRequest request)
      | .failed => some (s.finish .resolveFailed)
      | .ok target => some { s with relay := .sending request target }
  | _ => none

def sent (ok : Bool) (s : UdpRelay) : Option UdpRelay :=
  match s.relay with
  | .sending request _ =>
      if ok then
        some { s with
          requests := s.requests.finish [request]
          stats := s.stats.countSent request.frame.payload.length
          relay := .select }
      else some (s.finish .sendFailed)
  | _ => none

/-- Either socket's `recv_from`: the buffer holds `MAX_UDP_PAYLOAD` bytes. -/
def received (config : FwdUdpConfig) (source : SocketAddr) (payload : List UInt8)
    (reserved : Bool) (s : UdpRelay) : Option UdpRelay :=
  if s.relay ≠ .select then none
  else
    let reply : Datagram :=
      ⟨s.replies.taken.length, ⟨.socket source, payload.take MAX_UDP_PAYLOAD⟩⟩
    let s := { s with
      replies := s.replies.take reply
      stats := s.stats.countReceived reply.frame.payload.length }
    if ¬ reserved then some (s.fullReply reply)
    else if s.writer = .finished ∨ config.queueCapacity ≤ s.replyQueue.length then
      some (s.fullReply reply)
    else some { s with replyQueue := s.replyQueue ++ [reply] }

/-- Leave the writer with an error or an abort; what it holds goes with it. -/
def stopWriter (s : UdpRelay) : UdpRelay :=
  { s with replies := s.replies.lose s.writer.held, writer := .finished }

/-- The next reply of the batch, or its end. -/
def nextReply (s : UdpRelay) (batch : Batch) (pulled : Nat) : UdpRelay :=
  match s.replyQueue with
  | reply :: rest =>
      if pulled < MAX_BATCH_REPLIES then
        { s with replyQueue := rest, writer := .examine reply batch (pulled + 1) }
      else { s with writer := if batch.bytes = [] then .waiting else .writing batch }
  | [] => { s with writer := if batch.bytes = [] then .waiting else .writing batch }

/-- Reserve and encode the reply behind the batch. -/
def appendReply (s : UdpRelay) (reply : Datagram) (batch : Batch) (pulled : Nat)
    (reserved : Bool) : UdpRelay :=
  if ¬ reserved then (s.fullReply reply).nextReply batch pulled
  else
    match reply.frame.encodeInto batch.bytes with
    | .error _ => { s with writer := .examine reply batch pulled }.stopWriter
    | .ok bytes => s.nextReply ⟨batch.replies ++ [reply], bytes⟩ pulled

def writerRecv (s : UdpRelay) : Option UdpRelay :=
  match s.writer with
  | .waiting =>
      match s.replyQueue with
      | reply :: rest => some { s with replyQueue := rest, writer := .examine reply ⟨[], []⟩ 1 }
      | [] => if s.relay.isEnded then some { s with writer := .finished } else none
  | _ => none

def writerExamine (config : FwdUdpConfig) (age : Nat) (reserved : Bool) (s : UdpRelay) :
    Option UdpRelay :=
  match s.writer with
  | .examine reply batch pulled =>
      if age > config.maxQueueAge then
        some ({ s with
          replies := s.replies.age reply
          stats := s.stats.countAge }.nextReply batch pulled)
      else
        match reply.frame.encodedLen with
        | .error _ => some s.stopWriter
        | .ok len =>
            if batch.bytes ≠ [] ∧ batch.bytes.length + len > MAX_WRITE_BATCH_BYTES then
              some { s with writer := .flushing reply batch pulled }
            else some (s.appendReply reply batch pulled reserved)
  | _ => none

/-- The batch is on the stream. -/
def commit (s : UdpRelay) (batch : Batch) : UdpRelay :=
  { s with replies := s.replies.finish batch.replies, batches := s.batches ++ [batch.bytes] }

def writerFlush (result : BatchWrite) (reserved : Bool) (s : UdpRelay) : Option UdpRelay :=
  match s.writer with
  | .flushing reply batch pulled =>
      match result with
      | .writeFailed => some s.stopWriter
      | .flushFailed =>
          some { s.commit batch with
            replies := (s.commit batch).replies.lose [reply]
            writer := .finished }
      | .ok => some ((s.commit batch).appendReply reply ⟨[], []⟩ pulled reserved)
  | _ => none

def writerWrite (result : BatchWrite) (s : UdpRelay) : Option UdpRelay :=
  match s.writer with
  | .writing batch =>
      match result with
      | .writeFailed => some s.stopWriter
      | .flushFailed => some { s.commit batch with writer := .finished }
      | .ok => some { s.commit batch with writer := .waiting }
  | _ => none

def step (config : FwdUdpConfig) : UdpAction → UdpRelay → Option UdpRelay
  | .readFrame frame reserved closed, s => s.readFrame config frame reserved closed
  | .readEof, s => if s.reader = .reading then some { s with reader := .finished } else none
  | .readMalformed e, s =>
      if s.reader = .reading then
        some { s with reader := .sendingError e, stats := s.stats.countMalformed }
      else none
  | .deliverError closed, s => s.deliverError config closed
  | .abortReader, s => if s.relay.isEnded then some { s with reader := .finished } else none
  | .recvRequest age ageAgain, s => s.recvRequest config age ageAgain
  | .resolved result, s => s.resolved result
  | .sent ok, s => s.sent ok
  | .received source payload reserved, s => s.received config source payload reserved
  | .receiveFailed, s => if s.relay = .select then some (s.finish .receiveFailed) else none
  | .replyClosed, s =>
      if s.relay = .select ∧ s.writer = .finished then some (s.finish .writerClosed) else none
  | .idleExpired, s => if s.relay = .select then some (s.finish .idle) else none
  | .cancel, s => if s.relay.isEnded then none else some (s.finish .cancelled)
  | .writerRecv, s => s.writerRecv
  | .writerExamine age reserved, s => s.writerExamine config age reserved
  | .writerFlush result reserved, s => s.writerFlush result reserved
  | .writerWrite result, s => s.writerWrite result
  | .abortWriter, s => if s.relay.isEnded then some s.stopWriter else none
  | .elsewhere delta, s =>
      some { s with stats := s.stats.add delta, elsewhere := s.elsewhere.add delta }

end UdpRelay

/-- An association that joins a host whose counters stand at `stats`. -/
def fwdUdp (config : FwdUdpConfig) (stats : UdpStats) : System UdpRelay UdpAction where
  init := ⟨stats, stats, [], [], .reading, .select, .waiting, .empty, .empty, []⟩
  step := UdpRelay.step config

end QuestVdWired.Host
