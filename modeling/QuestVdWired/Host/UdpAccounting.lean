import Mathlib.Data.List.Nodup
import QuestVdWired.Host.UdpRelay
import QuestVdWired.Transition.Ledger

/-!
Every datagram of a UDP association is in exactly one place: done, dropped for its age,
dropped for want of room, lost when the association ended, or still held; the counters
say how many went each way, and what reaches the stream is read back as the replies that
were written, in the order of their receipt.
-/

namespace QuestVdWired.Host
open Transition Wire

/-- What was taken in is accounted for by the books and what is still held, in order. -/
structure Balanced (b : Books) (held : List Datagram) : Prop where
  whole : ∀ d, b.taken.count d =
    b.done.count d + b.aged.count d + b.full.count d + b.lost.count d + held.count d
  order : (b.done ++ held).Sublist b.taken
  numbered : b.taken.map Datagram.id = List.range b.taken.length

namespace Balanced
variable {b : Books} {held pre post ds rest : List Datagram} {d : Datagram}

theorem count_middle (pre post : List Datagram) (d x : Datagram) :
    (pre ++ d :: post).count x = (pre ++ post).count x + [d].count x := by
  rw [List.count_append, List.count_append, List.count_cons, List.count_singleton]
  omega

theorem numbered_take (numbered : b.taken.map Datagram.id = List.range b.taken.length)
    (next : d.id = b.taken.length) :
    (b.take d).taken.map Datagram.id = List.range (b.take d).taken.length := by
  simp only [Books.take, List.map_append, numbered, List.length_append, List.length_singleton,
    List.range_succ, List.map_cons, List.map_nil, next]

theorem enter (c : Balanced b held) (next : d.id = b.taken.length) :
    Balanced (b.take d) (held ++ [d]) where
  whole x := by
    have before := c.whole x
    simp only [Books.take, List.count_append]
    omega
  order := by
    rw [← List.append_assoc]
    exact c.order.append (List.Sublist.refl [d])
  numbered := numbered_take c.numbered next

theorem refuse (c : Balanced b held) (next : d.id = b.taken.length) :
    Balanced ((b.take d).drop d) held where
  whole x := by
    have before := c.whole x
    simp only [Books.take, Books.drop, List.count_append]
    omega
  order := c.order.trans (List.sublist_append_left _ _)
  numbered := numbered_take c.numbered next

theorem miss (c : Balanced b held) (next : d.id = b.taken.length) :
    Balanced ((b.take d).lose [d]) held where
  whole x := by
    have before := c.whole x
    simp only [Books.take, Books.lose, List.count_append]
    omega
  order := c.order.trans (List.sublist_append_left _ _)
  numbered := numbered_take c.numbered next

theorem sublist_middle (pre post : List Datagram) (d : Datagram) :
    (pre ++ post).Sublist (pre ++ d :: post) :=
  (List.Sublist.refl pre).append (List.sublist_cons_self d post)

theorem age (c : Balanced b (pre ++ d :: post)) : Balanced (b.age d) (pre ++ post) where
  whole x := by
    have before := c.whole x
    rw [count_middle] at before
    simp only [Books.age, List.count_append] at before ⊢
    omega
  order := ((List.Sublist.refl b.done).append (sublist_middle pre post d)).trans c.order
  numbered := c.numbered

theorem drop (c : Balanced b (pre ++ d :: post)) : Balanced (b.drop d) (pre ++ post) where
  whole x := by
    have before := c.whole x
    rw [count_middle] at before
    simp only [Books.drop, List.count_append] at before ⊢
    omega
  order := ((List.Sublist.refl b.done).append (sublist_middle pre post d)).trans c.order
  numbered := c.numbered

theorem finish (c : Balanced b (ds ++ rest)) : Balanced (b.finish ds) rest where
  whole x := by
    have before := c.whole x
    simp only [Books.finish, List.count_append] at before ⊢
    omega
  order := by
    have before := c.order
    rwa [← List.append_assoc] at before
  numbered := c.numbered

theorem lose (c : Balanced b (ds ++ rest)) : Balanced (b.lose ds) rest where
  whole x := by
    have before := c.whole x
    simp only [Books.lose, List.count_append] at before ⊢
    omega
  order :=
    ((List.Sublist.refl b.done).append (List.sublist_append_right ds rest)).trans c.order
  numbered := c.numbered

theorem start : Balanced .empty [] :=
  ⟨fun _ => rfl, List.Sublist.refl _, rfl⟩

end Balanced

namespace UdpRelay

/-- Requests the relay loop holds and those it has yet to take. -/
def heldRequests (s : UdpRelay) : List Datagram :=
  s.relay.inHand ++ s.queuedRequests

def heldReplies (s : UdpRelay) : List Datagram :=
  s.writer.held ++ s.replyQueue

/-- The bytes of a datagram as the counters count them. -/
def payloadLen (d : Datagram) : Nat := d.frame.payload.length

/-- The counters are what other associations added and what these books say: requests
sent, aged and refused, replies taken in, aged and refused. -/
structure Counted (stats elsewhere : UdpStats)
    (sent requestsAged requestsFull received repliesAged repliesFull : List Datagram) : Prop where
  tx : stats.txDatagrams = elsewhere.txDatagrams + sent.length
  txBytes : stats.txBytes = elsewhere.txBytes + total payloadLen sent
  rx : stats.rxDatagrams = elsewhere.rxDatagrams + received.length
  rxBytes : stats.rxBytes = elsewhere.rxBytes + total payloadLen received
  age : stats.droppedQueueAge =
    elsewhere.droppedQueueAge + requestsAged.length + repliesAged.length
  full : stats.droppedQueueFull =
    elsewhere.droppedQueueFull + requestsFull.length + repliesFull.length

/-- The current batch and all written ones are the encodings of their replies. -/
structure Encoded (batch : Batch) (done : List Datagram) (batches : List (List UInt8)) : Prop where
  current : encodeMany HevUdpFrame.encode (batch.replies.map Datagram.frame) = .ok batch.bytes
  currentBound : batch.bytes.length ≤ MAX_WRITE_BATCH_BYTES
  written : encodeMany HevUdpFrame.encode (done.map Datagram.frame) = .ok batches.flatten
  batchesBound : ∀ bytes ∈ batches, bytes.length ≤ MAX_WRITE_BATCH_BYTES

structure Accounted (s : UdpRelay) : Prop where
  requests : Balanced s.requests s.heldRequests
  replies : Balanced s.replies s.heldReplies
  counted : Counted s.stats s.elsewhere s.requests.done s.requests.aged s.requests.full
    s.replies.taken s.replies.aged s.replies.full
  encoded : Encoded s.writer.batch s.replies.done s.batches
  requestsLost : s.relay.isEnded = true ∨ s.requests.lost = []
  repliesLost : s.writer = .finished ∨ s.replies.lost = []

section Counted
variable {stats elsewhere : UdpStats}
  {sent requestsAged requestsFull received repliesAged repliesFull : List Datagram}
  (c : Counted stats elsewhere sent requestsAged requestsFull received repliesAged repliesFull)
  (d : Datagram)
include c

theorem Counted.countSent : Counted (stats.countSent (payloadLen d)) elsewhere (sent ++ [d])
    requestsAged requestsFull received repliesAged repliesFull where
  tx := by
    have before := c.tx
    simp only [UdpStats.countSent, List.length_append, List.length_singleton]
    omega
  txBytes := by
    have before := c.txBytes
    simp only [UdpStats.countSent, total_append, total_cons, total_nil]
    omega
  rx := c.rx
  rxBytes := c.rxBytes
  age := c.age
  full := c.full

theorem Counted.countReceived : Counted (stats.countReceived (payloadLen d)) elsewhere sent
    requestsAged requestsFull (received ++ [d]) repliesAged repliesFull where
  tx := c.tx
  txBytes := c.txBytes
  rx := by
    have before := c.rx
    simp only [UdpStats.countReceived, List.length_append, List.length_singleton]
    omega
  rxBytes := by
    have before := c.rxBytes
    simp only [UdpStats.countReceived, total_append, total_cons, total_nil]
    omega
  age := c.age
  full := c.full

theorem Counted.agedRequest : Counted stats.countAge elsewhere sent (requestsAged ++ [d])
    requestsFull received repliesAged repliesFull := by
  refine ⟨c.tx, c.txBytes, c.rx, c.rxBytes, ?_, c.full⟩
  have before := c.age
  simp only [UdpStats.countAge, List.length_append, List.length_singleton]
  omega

theorem Counted.fullRequest : Counted stats.countFull elsewhere sent requestsAged
    (requestsFull ++ [d]) received repliesAged repliesFull := by
  refine ⟨c.tx, c.txBytes, c.rx, c.rxBytes, c.age, ?_⟩
  have before := c.full
  simp only [UdpStats.countFull, List.length_append, List.length_singleton]
  omega

theorem Counted.agedReply : Counted stats.countAge elsewhere sent requestsAged requestsFull
    received (repliesAged ++ [d]) repliesFull := by
  refine ⟨c.tx, c.txBytes, c.rx, c.rxBytes, ?_, c.full⟩
  have before := c.age
  simp only [UdpStats.countAge, List.length_append, List.length_singleton]
  omega

theorem Counted.fullReply : Counted stats.countFull elsewhere sent requestsAged requestsFull
    received repliesAged (repliesFull ++ [d]) := by
  refine ⟨c.tx, c.txBytes, c.rx, c.rxBytes, c.age, ?_⟩
  have before := c.full
  simp only [UdpStats.countFull, List.length_append, List.length_singleton]
  omega

theorem Counted.malformed : Counted stats.countMalformed elsewhere sent requestsAged requestsFull
    received repliesAged repliesFull :=
  ⟨c.tx, c.txBytes, c.rx, c.rxBytes, c.age, c.full⟩

theorem Counted.addElsewhere (delta : UdpStats) :
    Counted (stats.add delta) (elsewhere.add delta) sent requestsAged requestsFull received
      repliesAged repliesFull := by
  obtain ⟨tx, txBytes, rx, rxBytes, age, full⟩ := c
  constructor <;> simp only [UdpStats.add] <;> omega

end Counted

/-! The request side: the reader task and the relay loop's requests. -/

theorem Accounted.finish {s : UdpRelay} (a : s.Accounted) (reason : EndReason) :
    (s.finish reason).Accounted :=
  ⟨a.requests.lose, a.replies, a.counted, a.encoded, Or.inl rfl, a.repliesLost⟩

theorem Accounted.readFrame {config : FwdUdpConfig} {frame : HevUdpFrame} {reserved closed : Bool}
    {s s' : UdpRelay} (a : s.Accounted)
    (h : s.readFrame config frame reserved closed = some s') : s'.Accounted := by
  unfold UdpRelay.readFrame at h
  split at h
  · cases h
  · rename_i enabled
    generalize request : (⟨s.requests.taken.length, frame⟩ : Datagram) = d at h
    have next : d.id = s.requests.taken.length := by rw [← request]
    have refused := a.requests.refuse next
    dsimp only at h
    split at h
    · cases h
      exact ⟨refused, a.replies, a.counted.fullRequest d, a.encoded, a.requestsLost, a.repliesLost⟩
    · split at h
      · rename_i closed
        have ended : s.relay.isEnded = true := by
          by_contra running
          exact enabled (Or.inr ⟨closed, running⟩)
        cases h
        exact ⟨a.requests.miss next, a.replies, a.counted, a.encoded, Or.inl ended, a.repliesLost⟩
      · split at h
        · cases h
          exact ⟨refused, a.replies, a.counted.fullRequest d, a.encoded, a.requestsLost,
            a.repliesLost⟩
        · cases h
          refine ⟨?_, a.replies, a.counted, a.encoded, a.requestsLost, a.repliesLost⟩
          have entered := a.requests.enter next
          simpa [heldRequests, queuedRequests] using entered

theorem Accounted.none_lost {s : UdpRelay} (a : s.Accounted) (running : s.relay.isEnded = false) :
    s.requests.lost = [] := by
  refine a.requestsLost.resolve_left ?_
  rw [running]
  exact Bool.false_ne_true

theorem Accounted.recvRequest {config : FwdUdpConfig} {age ageAgain : Nat} {s s' : UdpRelay}
    (a : s.Accounted) (h : s.recvRequest config age ageAgain = some s') : s'.Accounted := by
  have before := a.requests
  unfold UdpRelay.recvRequest at h
  split at h
  · cases h
  · rename_i selecting
    have idle : s.relay = .select := not_not.mp selecting
    have none := a.none_lost (by rw [idle]; rfl)
    split at h
    · split at h
      · cases h
        exact a.finish _
      · cases h
    · rename_i e rest queue
      cases h
      have popped : ({ s with requestQueue := rest } : UdpRelay).Accounted := by
        refine ⟨?_, a.replies, a.counted, a.encoded, a.requestsLost, a.repliesLost⟩
        simpa [heldRequests, queuedRequests, queue] using before
      exact popped.finish _
    · rename_i request rest queue
      have head : Balanced s.requests
          ([] ++ request :: ({ s with requestQueue := rest } : UdpRelay).queuedRequests) := by
        simpa [heldRequests, queuedRequests, queue, idle, RelayPc.inHand] using before
      have aged : (({ s with requestQueue := rest } : UdpRelay).agedRequest request).Accounted :=
        ⟨head.age, a.replies, a.counted.agedRequest request, a.encoded, Or.inr none, a.repliesLost⟩
      dsimp only at h
      split at h
      · cases h
        exact aged
      · split at h
        · cases h
          exact aged
        · cases h
          exact ⟨head, a.replies, a.counted, a.encoded, Or.inr none, a.repliesLost⟩

theorem Accounted.resolved {result : ResolveResult} {s s' : UdpRelay} (a : s.Accounted)
    (h : s.resolved result = some s') : s'.Accounted := by
  have before := a.requests
  unfold UdpRelay.resolved at h
  split at h
  · rename_i request relay
    have none := a.none_lost (by rw [relay]; rfl)
    have head : Balanced s.requests ([] ++ request :: s.queuedRequests) := by
      simpa [heldRequests, relay, RelayPc.inHand] using before
    cases result with
    | timeout =>
        cases h
        exact ⟨head.age, a.replies, a.counted.agedRequest request, a.encoded, Or.inr none,
          a.repliesLost⟩
    | failed =>
        cases h
        exact a.finish _
    | ok target =>
        cases h
        exact ⟨head, a.replies, a.counted, a.encoded, Or.inr none, a.repliesLost⟩
  · cases h

theorem Accounted.sent {ok : Bool} {s s' : UdpRelay} (a : s.Accounted)
    (h : s.sent ok = some s') : s'.Accounted := by
  have before := a.requests
  unfold UdpRelay.sent at h
  split at h
  · rename_i request target relay
    have none := a.none_lost (by rw [relay]; rfl)
    have head : Balanced s.requests ([request] ++ s.queuedRequests) := by
      simpa [heldRequests, relay, RelayPc.inHand] using before
    split at h
    · cases h
      exact ⟨head.finish, a.replies, a.counted.countSent request, a.encoded, Or.inr none,
        a.repliesLost⟩
    · cases h
      exact a.finish _
  · cases h

/-! The reply side: received datagrams and the writer task. -/

theorem Accounted.received {config : FwdUdpConfig} {source : SocketAddr} {payload : List UInt8}
    {reserved : Bool} {s s' : UdpRelay} (a : s.Accounted)
    (h : s.received config source payload reserved = some s') : s'.Accounted := by
  unfold UdpRelay.received at h
  split at h
  · cases h
  · generalize reply : (⟨s.replies.taken.length,
      ⟨.socket source, payload.take MAX_UDP_PAYLOAD⟩⟩ : Datagram) = d at h
    have next : d.id = s.replies.taken.length := by rw [← reply]
    have refused := a.replies.refuse next
    have counted := a.counted.countReceived d
    dsimp only at h
    split at h
    · cases h
      exact ⟨a.requests, refused, counted.fullReply d, a.encoded, a.requestsLost, a.repliesLost⟩
    · split at h
      · cases h
        exact ⟨a.requests, refused, counted.fullReply d, a.encoded, a.requestsLost, a.repliesLost⟩
      · cases h
        refine ⟨a.requests, ?_, counted, a.encoded, a.requestsLost, a.repliesLost⟩
        have entered := a.replies.enter next
        simpa [heldReplies] using entered

theorem Accounted.stopWriter {s : UdpRelay} (a : s.Accounted) : s.stopWriter.Accounted := by
  refine ⟨a.requests, a.replies.lose, a.counted, ?_, a.requestsLost, Or.inl rfl⟩
  exact ⟨rfl, Nat.zero_le _, a.encoded.written, a.encoded.batchesBound⟩

/-- Nothing is encoded as the empty string. -/
theorem replies_of_bytes_nil {batch : Batch}
    (current : encodeMany HevUdpFrame.encode (batch.replies.map Datagram.frame) = .ok batch.bytes)
    (none : batch.bytes = []) : batch.replies = [] := by
  cases replies : batch.replies with
  | nil => rfl
  | cons reply rest =>
      rw [replies, List.map_cons] at current
      obtain ⟨first, more, own, -, whole⟩ := encodeMany_cons_eq_ok.mp current
      obtain ⟨address, -, rfl⟩ := HevUdpFrame.encode_eq_ok.mp own
      have len := congrArg List.length whole
      rw [none] at len
      simp only [HevUdpFrame.layout, List.length_append, HevUdpFrame.lengths_length,
        List.length_nil] at len
      omega

/-- The writer goes on with a batch that holds all it has taken and not settled. -/
theorem Accounted.nextReply {s : UdpRelay} {batch : Batch} {pulled : Nat}
    (requests : Balanced s.requests s.heldRequests)
    (replies : Balanced s.replies (batch.replies ++ s.replyQueue))
    (counted : Counted s.stats s.elsewhere s.requests.done s.requests.aged s.requests.full
      s.replies.taken s.replies.aged s.replies.full)
    (encoded : Encoded batch s.replies.done s.batches)
    (requestsLost : s.relay.isEnded = true ∨ s.requests.lost = [])
    (none_lost : s.replies.lost = []) : (s.nextReply batch pulled).Accounted := by
  have rest : ({ s with writer := if batch.bytes = [] then .waiting else .writing batch } :
      UdpRelay).Accounted := by
    by_cases none : batch.bytes = []
    · have drained := replies_of_bytes_nil encoded.current none
      rw [drained, List.nil_append] at replies
      rw [if_pos none]
      exact ⟨requests, replies, counted,
        ⟨rfl, Nat.zero_le _, encoded.written, encoded.batchesBound⟩, requestsLost, Or.inr none_lost⟩
    · rw [if_neg none]
      exact ⟨requests, replies, counted, encoded, requestsLost, Or.inr none_lost⟩
  unfold UdpRelay.nextReply
  split
  · rename_i reply queued queue
    split
    · refine ⟨requests, ?_, counted, encoded, requestsLost, Or.inr none_lost⟩
      rw [queue] at replies
      simpa [heldReplies, WriterPc.held] using replies
    · exact rest
  · exact rest

theorem Accounted.appendReply {s : UdpRelay} {reply : Datagram} {batch : Batch} {pulled : Nat}
    {reserved : Bool} (requests : Balanced s.requests s.heldRequests)
    (replies : Balanced s.replies (batch.replies ++ reply :: s.replyQueue))
    (counted : Counted s.stats s.elsewhere s.requests.done s.requests.aged s.requests.full
      s.replies.taken s.replies.aged s.replies.full)
    (encoded : Encoded batch s.replies.done s.batches)
    (requestsLost : s.relay.isEnded = true ∨ s.requests.lost = [])
    (none_lost : s.replies.lost = [])
    (fits : ∀ len, reply.frame.encodedLen = .ok len →
      batch.bytes.length + len ≤ MAX_WRITE_BATCH_BYTES) :
    (s.appendReply reply batch pulled reserved).Accounted := by
  unfold UdpRelay.appendReply
  split
  · exact nextReply requests replies.drop (counted.fullReply reply) encoded requestsLost none_lost
  · split
    · apply Accounted.stopWriter
      refine ⟨requests, ?_, counted, encoded, requestsLost, Or.inr none_lost⟩
      simpa [heldReplies, WriterPc.held] using replies
    · rename_i bytes written
      obtain ⟨address, encodes, rfl⟩ := HevUdpFrame.encodeInto_eq_ok.mp written
      apply nextReply requests
      · simpa using replies
      · exact counted
      · refine ⟨?_, ?_, encoded.written, encoded.batchesBound⟩
        · rw [List.map_append, List.map_singleton]
          have own := HevUdpFrame.encode_eq_ok.mpr ⟨address, encodes, rfl⟩
          exact encodeMany_append encoded.current (encodeMany_singleton own)
        · rw [List.length_append]
          exact fits _ (HevUdpFrame.encodedLen_eq_ok.mpr ⟨address, encodes, rfl⟩)
      · exact requestsLost
      · exact none_lost

theorem Accounted.writerRecv {s s' : UdpRelay} (a : s.Accounted) (h : s.writerRecv = some s') :
    s'.Accounted := by
  have before := a.replies
  have none : Encoded ⟨[], []⟩ s.replies.done s.batches :=
    ⟨rfl, Nat.zero_le _, a.encoded.written, a.encoded.batchesBound⟩
  unfold UdpRelay.writerRecv at h
  split at h
  · rename_i waiting
    have none_lost := a.repliesLost.resolve_left (by rw [waiting]; exact WriterPc.noConfusion)
    split at h
    · rename_i reply rest queue
      cases h
      refine ⟨a.requests, ?_, a.counted, none, a.requestsLost, Or.inr none_lost⟩
      simpa [heldReplies, WriterPc.held, waiting, queue] using before
    · rename_i queue
      split at h
      · cases h
        refine ⟨a.requests, ?_, a.counted, none, a.requestsLost, Or.inl rfl⟩
        simpa [heldReplies, WriterPc.held, waiting] using before
      · cases h
  · cases h

/-- A frame that can be encoded fits an empty batch. -/
theorem encodedLen_le {frame : HevUdpFrame} {len : Nat} (encoded : frame.encodedLen = .ok len) :
    len ≤ MAX_WRITE_BATCH_BYTES := by
  obtain ⟨address, ⟨small, -, short⟩, rfl⟩ := HevUdpFrame.encodedLen_eq_ok.mp encoded
  simp only [HevUdpFrame.layout, List.length_append, HevUdpFrame.lengths_length,
    MAX_WRITE_BATCH_BYTES]
  omega

theorem Accounted.writerExamine {config : FwdUdpConfig} {age : Nat} {reserved : Bool}
    {s s' : UdpRelay} (a : s.Accounted) (h : s.writerExamine config age reserved = some s') :
    s'.Accounted := by
  have before := a.replies
  have encoded := a.encoded
  unfold UdpRelay.writerExamine at h
  split at h
  · rename_i reply batch pulled at_
    have none_lost := a.repliesLost.resolve_left (by rw [at_]; exact WriterPc.noConfusion)
    have middle : Balanced s.replies (batch.replies ++ reply :: s.replyQueue) := by
      simpa [heldReplies, WriterPc.held, at_] using before
    rw [at_] at encoded
    split at h
    · cases h
      exact nextReply a.requests middle.age (a.counted.agedReply reply) encoded a.requestsLost
        none_lost
    · split at h
      · cases h
        exact a.stopWriter
      · rename_i len known
        split at h
        · cases h
          refine ⟨a.requests, ?_, a.counted, encoded, a.requestsLost, Or.inr none_lost⟩
          simpa [heldReplies, WriterPc.held] using middle
        · rename_i room
          cases h
          apply appendReply a.requests middle a.counted encoded a.requestsLost none_lost
          intro len' known'
          rw [known] at known'
          cases known'
          have alone := encodedLen_le known
          by_cases none : batch.bytes = []
          · rw [none, List.length_nil]
            omega
          · rw [not_and, Nat.not_lt] at room
            exact room none
  · cases h

/-- A batch that reached the stream. -/
theorem Encoded.commit {batch : Batch} {done : List Datagram} {batches : List (List UInt8)}
    (encoded : Encoded batch done batches) :
    Encoded ⟨[], []⟩ (done ++ batch.replies) (batches ++ [batch.bytes]) where
  current := rfl
  currentBound := Nat.zero_le _
  written := by
    rw [List.map_append, List.flatten_concat]
    exact encodeMany_append encoded.written encoded.current
  batchesBound := by
    intro bytes mem
    rcases List.mem_append.mp mem with old | new
    · exact encoded.batchesBound bytes old
    · cases List.mem_singleton.mp new
      exact encoded.currentBound

theorem Accounted.writerFlush {result : BatchWrite} {reserved : Bool} {s s' : UdpRelay}
    (a : s.Accounted) (h : s.writerFlush result reserved = some s') : s'.Accounted := by
  have before := a.replies
  have encoded := a.encoded
  unfold UdpRelay.writerFlush at h
  split at h
  · rename_i reply batch pulled at_
    have none_lost := a.repliesLost.resolve_left (by rw [at_]; exact WriterPc.noConfusion)
    have front : Balanced s.replies (batch.replies ++ ([reply] ++ s.replyQueue)) := by
      simpa [heldReplies, WriterPc.held, at_] using before
    rw [at_] at encoded
    cases result with
    | writeFailed =>
        cases h
        exact a.stopWriter
    | flushFailed =>
        cases h
        exact ⟨a.requests, front.finish.lose, a.counted, encoded.commit, a.requestsLost, Or.inl rfl⟩
    | ok =>
        cases h
        refine appendReply (s := s.commit batch) a.requests front.finish a.counted encoded.commit
          a.requestsLost none_lost ?_
        intro len known
        have alone := encodedLen_le known
        simp only [List.length_nil]
        omega
  · cases h

theorem Accounted.writerWrite {result : BatchWrite} {s s' : UdpRelay} (a : s.Accounted)
    (h : s.writerWrite result = some s') : s'.Accounted := by
  have before := a.replies
  have encoded := a.encoded
  unfold UdpRelay.writerWrite at h
  split at h
  · rename_i batch at_
    have none_lost := a.repliesLost.resolve_left (by rw [at_]; exact WriterPc.noConfusion)
    rw [at_] at encoded
    have front : Balanced s.replies (batch.replies ++ s.replyQueue) := by
      simpa [heldReplies, WriterPc.held, at_] using before
    cases result with
    | writeFailed =>
        cases h
        exact a.stopWriter
    | flushFailed =>
        cases h
        exact ⟨a.requests, front.finish, a.counted, encoded.commit, a.requestsLost, Or.inl rfl⟩
    | ok =>
        cases h
        exact ⟨a.requests, front.finish, a.counted, encoded.commit, a.requestsLost,
          Or.inr none_lost⟩
  · cases h

theorem Accounted.deliverError {config : FwdUdpConfig} {closed : Bool} {s s' : UdpRelay}
    (a : s.Accounted) (h : s.deliverError config closed = some s') : s'.Accounted := by
  have before := a.requests
  unfold UdpRelay.deliverError at h
  split at h
  · rename_i e _
    split at h
    · split at h
      · cases h
        exact ⟨a.requests, a.replies, a.counted, a.encoded, a.requestsLost, a.repliesLost⟩
      · cases h
    · split at h
      · cases h
      · cases h
        refine ⟨?_, a.replies, a.counted, a.encoded, a.requestsLost, a.repliesLost⟩
        simpa [heldRequests, queuedRequests] using before
  · cases h

theorem Accounted.step {config : FwdUdpConfig} {action : UdpAction} {s s' : UdpRelay}
    (a : s.Accounted) (h : step config action s = some s') : s'.Accounted := by
  cases action with
  | readFrame frame reserved closed => exact a.readFrame h
  | deliverError closed => exact a.deliverError h
  | recvRequest age ageAgain => exact a.recvRequest h
  | resolved result => exact a.resolved h
  | sent ok => exact a.sent h
  | received source payload reserved => exact a.received h
  | writerRecv => exact a.writerRecv h
  | writerExamine age reserved => exact a.writerExamine h
  | writerFlush result reserved => exact a.writerFlush h
  | writerWrite result => exact a.writerWrite h
  | readEof | abortReader =>
      simp only [UdpRelay.step] at h
      split at h
      · cases h
        exact ⟨a.requests, a.replies, a.counted, a.encoded, a.requestsLost, a.repliesLost⟩
      · cases h
  | readMalformed e =>
      simp only [UdpRelay.step] at h
      split at h
      · cases h
        exact ⟨a.requests, a.replies, a.counted.malformed, a.encoded, a.requestsLost, a.repliesLost⟩
      · cases h
  | receiveFailed | replyClosed | idleExpired =>
      simp only [UdpRelay.step] at h
      split at h
      · cases h
        exact a.finish _
      · cases h
  | cancel =>
      simp only [UdpRelay.step] at h
      split at h
      · cases h
      · cases h
        exact a.finish _
  | abortWriter =>
      simp only [UdpRelay.step] at h
      split at h
      · cases h
        exact a.stopWriter
      · cases h
  | elsewhere delta =>
      cases h
      exact ⟨a.requests, a.replies, a.counted.addElsewhere delta, a.encoded, a.requestsLost,
        a.repliesLost⟩

theorem reachable_accounted {config : FwdUdpConfig} {stats : UdpStats} {s : UdpRelay}
    (reached : (fwdUdp config stats).Reachable Free s) : s.Accounted := by
  refine reached.invariant ?_ ?_
  · exact ⟨.start, .start, ⟨rfl, rfl, rfl, rfl, rfl, rfl⟩,
      ⟨rfl, Nat.zero_le _, rfl, fun bytes mem => by cases mem⟩, Or.inr rfl, Or.inr rfl⟩
  · intro s action s' a _ taken
    exact a.step taken

end UdpRelay

/-- The part of an endpoint that travels: the address types of the frame have no room for
the flow information and the scope of an IPv6 address. -/
def Endpoint.plain : Endpoint → Endpoint
  | .socket (.v6 ip port _ _) => .socket (.v6 ip port 0 0)
  | endpoint => endpoint

def HevUdpFrame.plain (frame : HevUdpFrame) : HevUdpFrame :=
  { frame with endpoint := frame.endpoint.plain }

theorem Endpoint.plain_plain (endpoint : Endpoint) : endpoint.plain.Plain := by
  match endpoint with
  | .socket (.v4 ..) | .domain .. => exact trivial
  | .socket (.v6 ..) => exact ⟨rfl, rfl⟩

theorem encodeEndpoint_plain (endpoint : Endpoint) :
    encodeEndpoint endpoint.plain = encodeEndpoint endpoint := by
  match endpoint with
  | .socket (.v4 ..) | .domain .. | .socket (.v6 ..) => rfl

theorem HevUdpFrame.encode_plain (frame : HevUdpFrame) : frame.plain.encode = frame.encode := by
  simp only [encode, encodedLen, encodeInto, plain, encodeEndpoint_plain]

theorem encodeMany_plain (frames : List HevUdpFrame) :
    encodeMany HevUdpFrame.encode (frames.map HevUdpFrame.plain) =
      encodeMany HevUdpFrame.encode frames := by
  induction frames with
  | nil => rfl
  | cons frame frames ih => simp only [List.map_cons, encodeMany, HevUdpFrame.encode_plain, ih]

namespace UdpRelay

/-- What is on the stream parses back to the written replies, as far as addresses travel. -/
theorem Encoded.read_back {batch : Batch} {done : List Datagram} {batches : List (List UInt8)}
    (encoded : Encoded batch done batches) :
    readMany HevUdpFrame.readFrom done.length batches.flatten =
      .ok (done.map fun reply => reply.frame.plain, []) := by
  have whole := encodeMany_plain (done.map Datagram.frame)
  rw [encoded.written, List.map_map] at whole
  have back : ∀ frame ∈ done.map (HevUdpFrame.plain ∘ Datagram.frame),
      ReadsBack HevUdpFrame.encode HevUdpFrame.readFrom frame := by
    intro frame mem
    obtain ⟨reply, -, rfl⟩ := List.mem_map.mp mem
    exact HevUdpFrame.readFrom_readsBack (Endpoint.plain_plain _)
  have read := readMany_encodeMany back whole []
  rw [List.length_map, List.append_nil] at read
  exact read

end UdpRelay

theorem Balanced.perm {b : Books} {held : List Datagram} (c : Balanced b held) :
    b.taken.Perm (b.done ++ b.aged ++ b.full ++ b.lost ++ held) := by
  apply List.perm_iff_count.mpr
  intro d
  simp only [List.count_append]
  exact c.whole d

theorem Balanced.nodup {b : Books} {held : List Datagram} (c : Balanced b held) :
    b.taken.Nodup := by
  apply List.Nodup.of_map Datagram.id
  rw [c.numbered]
  exact List.nodup_range

/-- Where every datagram of an association is, at every point of every run. Requests read
are sent, dropped for age, dropped for want of room, lost at the end or held, each in
exactly one of these; so are datagrams received, with a written batch for a send. The
counters are the numbers of those books beside what other associations count. Written
replies keep their order of receipt, the written batches parse back to them up to the part
of an IPv6 address that does not travel, and no batch is oversized. -/
theorem udp_datagrams_accounted {config : FwdUdpConfig} {stats : UdpStats} {s : UdpRelay}
    (reached : (fwdUdp config stats).Reachable Free s) :
    (s.requests.taken.Nodup ∧
      s.requests.taken.Perm (s.requests.done ++ s.requests.aged ++ s.requests.full ++
        s.requests.lost ++ (s.relay.inHand ++ s.queuedRequests)) ∧
      (s.requests.lost ≠ [] → s.relay.isEnded = true)) ∧
    (s.replies.taken.Nodup ∧
      s.replies.taken.Perm (s.replies.done ++ s.replies.aged ++ s.replies.full ++
        s.replies.lost ++ (s.writer.held ++ s.replyQueue)) ∧
      (s.replies.lost ≠ [] → s.writer = .finished)) ∧
    (s.stats.txDatagrams = s.elsewhere.txDatagrams + s.requests.done.length ∧
      s.stats.txBytes = s.elsewhere.txBytes + total UdpRelay.payloadLen s.requests.done ∧
      s.stats.rxDatagrams = s.elsewhere.rxDatagrams + s.replies.taken.length ∧
      s.stats.droppedQueueAge =
        s.elsewhere.droppedQueueAge + s.requests.aged.length + s.replies.aged.length ∧
      s.stats.droppedQueueFull =
        s.elsewhere.droppedQueueFull + s.requests.full.length + s.replies.full.length) ∧
    s.replies.done.Sublist s.replies.taken ∧
    readMany HevUdpFrame.readFrom s.replies.done.length s.batches.flatten =
      .ok (s.replies.done.map fun reply => reply.frame.plain, []) ∧
    ∀ bytes ∈ s.batches, bytes.length ≤ MAX_WRITE_BATCH_BYTES := by
  have a := UdpRelay.reachable_accounted reached
  refine ⟨⟨a.requests.nodup, a.requests.perm, a.requestsLost.resolve_right⟩,
    ⟨a.replies.nodup, a.replies.perm, a.repliesLost.resolve_right⟩,
    ⟨a.counted.tx, a.counted.txBytes, a.counted.rx, a.counted.age, a.counted.full⟩,
    (List.sublist_append_left _ _).trans a.replies.order, a.encoded.read_back,
    a.encoded.batchesBound⟩

/-- One request is sent, one is too old, and a reply is written. -/
theorem udp_datagrams_accounted_served :
    ∃ s, (fwdUdp ⟨4, 10⟩ .zero).Reachable Free s ∧ s.requests.done.length = 1 ∧
      s.requests.aged.length = 1 ∧ s.stats.txDatagrams = 1 ∧ s.stats.droppedQueueAge = 1 ∧
      readMany HevUdpFrame.readFrom 1 s.batches.flatten =
        .ok ([⟨.socket (.v4 (Vector.replicate 4 9) 53), [7, 8]⟩], []) := by
  obtain ⟨s, reached, done, aged, none, elsewhere, replies⟩ :
      ∃ s, (fwdUdp ⟨4, 10⟩ .zero).Reachable Free s ∧ s.requests.done.length = 1 ∧
        s.requests.aged.length = 1 ∧ s.replies.aged.length = 0 ∧ s.elsewhere = .zero ∧
        s.replies.done = [⟨0, ⟨.socket (.v4 (Vector.replicate 4 9) 53), [7, 8]⟩⟩] :=
    ⟨_, System.reachable_of_replay
      [.readFrame ⟨.domain "quest.test" 53, [1]⟩ true false,
        .readFrame ⟨.domain "quest.test" 53, [2]⟩ true false,
        .recvRequest 3 4, .resolved (.ok (.v4 (Vector.replicate 4 9) 53)), .sent true,
        .recvRequest 11 11, .received (.v4 (Vector.replicate 4 9) 53) [7, 8] true,
        .writerRecv, .writerExamine 2 true, .writerWrite .ok] rfl, rfl, rfl, rfl, rfl, rfl⟩
  obtain ⟨-, -, ⟨tx, -, -, age, -⟩, -, back, -⟩ := udp_datagrams_accounted reached
  rw [done, elsewhere] at tx
  rw [aged, none, elsewhere] at age
  rw [replies] at back
  exact ⟨s, reached, done, aged, tx, age, back⟩

/-- A reply from a link-local IPv6 source loses its scope on the stream, so the written
batches do not parse back to exactly the written replies. -/
theorem written_reply_without_scope :
    ∃ s, (fwdUdp ⟨4, 10⟩ .zero).Reachable Free s ∧
      readMany HevUdpFrame.readFrom s.replies.done.length s.batches.flatten ≠
        .ok (s.replies.done.map Datagram.frame, []) := by
  obtain ⟨s, reached, replies⟩ : ∃ s, (fwdUdp ⟨4, 10⟩ .zero).Reachable Free s ∧
      s.replies.done = [⟨0, ⟨.socket (.v6 (Vector.replicate 16 254) 5353 0 3), [7]⟩⟩] :=
    ⟨_, System.reachable_of_replay
      [.received (.v6 (Vector.replicate 16 254) 5353 0 3) [7] true, .writerRecv,
        .writerExamine 2 true, .writerWrite .ok] rfl, rfl⟩
  refine ⟨s, reached, ?_⟩
  rw [(UdpRelay.reachable_accounted reached).encoded.read_back, replies]
  intro same
  injection same with frames
  simp [HevUdpFrame.plain, Endpoint.plain] at frames

end QuestVdWired.Host
