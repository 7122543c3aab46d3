import QuestVdWired.Host.UdpRelay
import QuestVdWired.Transition.Carry

/-!
What one bad destination does to an association. A resolution that runs out of its time
costs its own datagram and nothing else: two runs that differ only there go on in step. A
resolution that returns an error and a send that fails leave the whole function through `?`.
-/

namespace QuestVdWired.Host
open Transition

/-- The ends an association is meant to have: its stream, its idle timer or its writer. -/
def EndReason.Expected : EndReason → Prop
  | .streamEof | .malformed _ | .idle | .writerClosed => True
  | .resolveFailed | .sendFailed | .receiveFailed | .cancelled => False

instance (reason : EndReason) : Decidable reason.Expected := by
  cases reason <;> unfold EndReason.Expected <;> infer_instance

/-- Results that do not leave the loop through `?`, in a future nobody drops. -/
def UdpAction.Tolerated : UdpAction → Prop
  | .resolved .failed | .sent false | .receiveFailed | .cancel => False
  | _ => True

/-- Steps of the relay loop itself; the rest are its stream tasks' and other associations'. -/
def UdpAction.ofRelay : UdpAction → Bool
  | .recvRequest _ _ | .resolved _ | .sent _ | .received _ _ _ | .receiveFailed | .replyClosed
  | .idleExpired | .cancel => true
  | _ => false

namespace UdpStats

theorem add_countSent (s delta : UdpStats) (bytes : Nat) :
    (s.add delta).countSent bytes = s.add (delta.countSent bytes) := by
  simp [add, countSent, Nat.add_assoc]

theorem add_countReceived (s delta : UdpStats) (bytes : Nat) :
    (s.add delta).countReceived bytes = s.add (delta.countReceived bytes) := by
  simp [add, countReceived, Nat.add_assoc]

theorem add_countAge (s delta : UdpStats) :
    (s.add delta).countAge = s.add delta.countAge := rfl

theorem add_countMalformed (s delta : UdpStats) :
    (s.add delta).countMalformed = s.add delta.countMalformed := rfl

theorem add_assoc (s delta more : UdpStats) : (s.add delta).add more = s.add (delta.add more) := by
  simp [add, Nat.add_assoc]

theorem zero_add (s : UdpStats) : zero.add s = s := by
  simp [zero, add]

end UdpStats

namespace UdpRelay

/-- A state whose relay loop, request books and counters are read through a change the
writer task cannot see. -/
def overlay (relay : RelayPc → RelayPc) (requests : Books → Books) (stats : UdpStats)
    (s : UdpRelay) : UdpRelay :=
  { s with
    relay := relay s.relay
    requests := requests s.requests
    stats := stats.add s.stats }

section Overlay
variable {relay : RelayPc → RelayPc} {requests : Books → Books} {stats : UdpStats} (s : UdpRelay)

theorem overlay_nextReply (batch : Batch) (pulled : Nat) :
    (s.overlay relay requests stats).nextReply batch pulled =
      (s.nextReply batch pulled).overlay relay requests stats := by
  unfold nextReply
  cases h : s.replyQueue with
  | nil => simp [overlay, h]
  | cons reply rest =>
      by_cases room : pulled < MAX_BATCH_REPLIES <;> simp [overlay, h, room]

theorem overlay_appendReply (reply : Datagram) (batch : Batch) (pulled : Nat) (reserved : Bool) :
    (s.overlay relay requests stats).appendReply reply batch pulled reserved =
      (s.appendReply reply batch pulled reserved).overlay relay requests stats := by
  cases reserved with
  | false => exact overlay_nextReply (s.fullReply reply) batch pulled
  | true =>
      cases h : reply.frame.encodeInto batch.bytes with
      | error e =>
          simp only [appendReply, h]
          rfl
      | ok bytes => simp [appendReply, h, overlay_nextReply]

theorem overlay_writerExamine (config : FwdUdpConfig) (age : Nat) (reserved : Bool) :
    (s.overlay relay requests stats).writerExamine config age reserved =
      (s.writerExamine config age reserved).map (overlay relay requests stats) := by
  have writer : (s.overlay relay requests stats).writer = s.writer := rfl
  cases h : s.writer with
  | waiting | flushing _ _ _ | writing _ | finished => simp [writerExamine, writer, h]
  | examine reply batch pulled =>
      simp only [writerExamine, writer, h]
      split
      · exact congrArg some
          (overlay_nextReply { s with replies := s.replies.age reply, stats := s.stats.countAge }
            batch pulled)
      · cases reply.frame.encodedLen with
        | error e => rfl
        | ok len =>
            dsimp only
            split
            · rfl
            · exact congrArg some (s.overlay_appendReply reply batch pulled reserved)

theorem overlay_writerFlush (result : BatchWrite) (reserved : Bool) :
    (s.overlay relay requests stats).writerFlush result reserved =
      (s.writerFlush result reserved).map (overlay relay requests stats) := by
  have writer : (s.overlay relay requests stats).writer = s.writer := rfl
  cases h : s.writer with
  | waiting | examine _ _ _ | writing _ | finished => simp [writerFlush, writer, h]
  | flushing reply batch pulled =>
      cases result with
      | writeFailed | flushFailed =>
          simp only [writerFlush, writer, h]
          rfl
      | ok =>
          simp only [writerFlush, writer, h]
          exact congrArg some (overlay_appendReply (s.commit batch) reply ⟨[], []⟩ pulled reserved)

theorem overlay_writerWrite (result : BatchWrite) :
    (s.overlay relay requests stats).writerWrite result =
      (s.writerWrite result).map (overlay relay requests stats) := by
  have writer : (s.overlay relay requests stats).writer = s.writer := rfl
  cases h : s.writer with
  | waiting | examine _ _ _ | flushing _ _ _ | finished => simp [writerWrite, writer, h]
  | writing batch =>
      cases result <;> simp only [writerWrite, writer, h] <;> rfl

end Overlay

/-- A state with an earlier past: requests already sent or aged, and counted. -/
def graft (done aged : List Datagram) (stats : UdpStats) : UdpRelay → UdpRelay :=
  overlay (fun relay => relay)
    (fun b => { b with done := done ++ b.done, aged := aged ++ b.aged }) stats

section Graft
variable {done aged : List Datagram} {stats : UdpStats} (s : UdpRelay)

theorem graft_agedRequest (request : Datagram) :
    (s.graft done aged stats).agedRequest request =
      (s.agedRequest request).graft done aged stats := by
  simp [graft, overlay, agedRequest, Books.age, UdpStats.add_countAge]

theorem graft_readFrame (config : FwdUdpConfig) (frame : HevUdpFrame) (reserved closed : Bool) :
    (s.graft done aged stats).readFrame config frame reserved closed =
      (s.readFrame config frame reserved closed).map (graft done aged stats) := by
  rw [graft, overlay]
  unfold readFrame
  dsimp only
  split
  · rfl
  · split
    · rfl
    · split
      · rfl
      · split <;> rfl

theorem graft_deliverError (config : FwdUdpConfig) (closed : Bool) :
    (s.graft done aged stats).deliverError config closed =
      (s.deliverError config closed).map (graft done aged stats) := by
  cases h : s.reader with
  | reading | finished => simp [deliverError, graft, overlay, h]
  | sendingError e =>
      simp only [deliverError, graft, overlay, h]
      split
      · split <;> rfl
      · split <;> rfl

theorem graft_recvRequest (config : FwdUdpConfig) (age ageAgain : Nat) :
    (s.graft done aged stats).recvRequest config age ageAgain =
      (s.recvRequest config age ageAgain).map (graft done aged stats) := by
  have aging (rest : List Incoming) (request : Datagram) :
      (graft done aged stats { s with requestQueue := rest }).agedRequest request = _ :=
    graft_agedRequest { s with requestQueue := rest } request
  rw [graft, overlay]
  unfold recvRequest
  dsimp only
  split
  · rfl
  · cases queue : s.requestQueue with
    | nil =>
        by_cases ended : s.reader = .finished <;>
          simp [finish, overlay, queue, ended, Books.lose]
    | cons incoming rest =>
        cases incoming with
        | error e => rfl
        | frame request =>
            dsimp only
            split
            · exact congrArg some (aging rest request)
            · split
              · exact congrArg some (aging rest request)
              · rfl

theorem graft_resolved (result : ResolveResult) :
    (s.graft done aged stats).resolved result =
      (s.resolved result).map (graft done aged stats) := by
  cases h : s.relay with
  | select | sending _ _ | ended _ => simp [resolved, graft, overlay, h]
  | resolving request =>
      cases result with
      | timeout =>
          have aging : (s.graft done aged stats).agedRequest request = _ :=
            s.graft_agedRequest request
          simpa [resolved, graft, overlay, h] using aging
      | failed => simp [resolved, graft, overlay, h, finish, RelayPc.inHand, Books.lose]
      | ok target => simp [resolved, graft, overlay, h]

theorem graft_sent (ok : Bool) :
    (s.graft done aged stats).sent ok = (s.sent ok).map (graft done aged stats) := by
  cases h : s.relay with
  | select | resolving _ | ended _ => simp [sent, graft, overlay, h]
  | sending request target =>
      cases ok with
      | false => simp [sent, graft, overlay, h, finish, RelayPc.inHand, Books.lose]
      | true => simp [sent, graft, overlay, h, Books.finish, UdpStats.add_countSent]

theorem graft_received (config : FwdUdpConfig) (source : SocketAddr) (payload : List UInt8)
    (reserved : Bool) :
    (s.graft done aged stats).received config source payload reserved =
      (s.received config source payload reserved).map (graft done aged stats) := by
  rw [graft, overlay]
  unfold received
  dsimp only
  rw [UdpStats.add_countReceived]
  split
  · rfl
  · split
    · rfl
    · split <;> rfl

theorem graft_writerRecv :
    (s.graft done aged stats).writerRecv = s.writerRecv.map (graft done aged stats) := by
  cases h : s.writer with
  | examine _ _ _ | flushing _ _ _ | writing _ | finished => simp [writerRecv, graft, overlay, h]
  | waiting =>
      cases queue : s.replyQueue with
      | nil =>
          by_cases ended : s.relay.isEnded <;>
            simp [writerRecv, graft, overlay, h, queue, ended]
      | cons reply rest => simp [writerRecv, graft, overlay, h, queue]

/-- No step looks at what became of earlier requests, or at the counters. -/
theorem graft_step (config : FwdUdpConfig) (action : UdpAction) :
    UdpRelay.step config action (s.graft done aged stats) =
      (UdpRelay.step config action s).map (graft done aged stats) := by
  cases action with
  | readFrame frame reserved closed => exact s.graft_readFrame config frame reserved closed
  | readEof | abortReader | abortWriter | receiveFailed | idleExpired | replyClosed | cancel =>
      rw [graft, overlay]
      simp only [step]
      split <;> rfl
  | readMalformed e =>
      rw [graft, overlay]
      simp only [step, UdpStats.add_countMalformed]
      split <;> rfl
  | deliverError closed => exact s.graft_deliverError config closed
  | recvRequest age ageAgain => exact s.graft_recvRequest config age ageAgain
  | resolved result => exact s.graft_resolved result
  | sent ok => exact s.graft_sent ok
  | received source payload reserved => exact s.graft_received config source payload reserved
  | writerRecv => exact s.graft_writerRecv
  | writerExamine age reserved => exact s.overlay_writerExamine config age reserved
  | writerFlush result reserved => exact s.overlay_writerFlush result reserved
  | writerWrite result => exact s.overlay_writerWrite result
  | elsewhere delta => simp [step, graft, overlay, UdpStats.add_assoc]

end Graft

/-- The same stream tasks beside a relay loop that stands elsewhere. -/
def beside (relay : RelayPc) (done : List Datagram) : UdpRelay → UdpRelay :=
  overlay (fun _ => relay) (fun b => { b with done := done }) .zero

section Beside
variable {relay : RelayPc} {done : List Datagram} (s : UdpRelay)

/-- The stream tasks ask of the relay loop only whether it has ended. -/
theorem beside_step (config : FwdUdpConfig) {action : UdpAction} (stream : action.ofRelay = false)
    (alike : relay.isEnded = s.relay.isEnded) :
    UdpRelay.step config action (s.beside relay done) =
      (UdpRelay.step config action s).map (beside relay done) := by
  cases action with
  | recvRequest _ _ | resolved _ | sent _ | received _ _ _ | receiveFailed | replyClosed
  | idleExpired | cancel => cases stream
  | readFrame frame reserved closed =>
      rw [beside, overlay]
      simp only [step]
      unfold readFrame
      dsimp only
      rw [alike]
      split
      · rfl
      · split
        · rfl
        · split
          · rfl
          · split <;> rfl
  | readEof | readMalformed e =>
      rw [beside, overlay]
      simp only [step]
      split <;> rfl
  | abortReader | abortWriter =>
      rw [beside, overlay]
      simp only [step, alike]
      split <;> rfl
  | deliverError closed =>
      rw [beside, overlay]
      simp only [step]
      cases h : s.reader with
      | reading | finished => simp [deliverError, h]
      | sendingError e =>
          simp only [deliverError, h, alike]
          split
          · split <;> rfl
          · split <;> rfl
  | writerRecv =>
      cases h : s.writer with
      | examine _ _ _ | flushing _ _ _ | writing _ | finished =>
          simp [step, writerRecv, beside, overlay, h]
      | waiting =>
          cases queue : s.replyQueue with
          | nil =>
              by_cases ended : s.relay.isEnded <;>
                simp [step, writerRecv, beside, overlay, h, queue, alike, ended]
          | cons reply rest => simp [step, writerRecv, beside, overlay, h, queue]
  | writerExamine age reserved => exact s.overlay_writerExamine config age reserved
  | writerFlush result reserved => exact s.overlay_writerFlush result reserved
  | writerWrite result => exact s.overlay_writerWrite result
  | elsewhere delta => simp [step, beside, overlay, UdpStats.add_assoc]

/-- A step of a stream task leaves the relay loop where it stands. -/
theorem stream_frame {s s' : UdpRelay} {config : FwdUdpConfig} {action : UdpAction}
    (stream : action.ofRelay = false) (taken : UdpRelay.step config action s = some s') :
    s'.relay = s.relay ∧ s'.requests.done = s.requests.done := by
  have same : s.beside s.relay s.requests.done = s := by
    simp [beside, overlay, UdpStats.zero_add]
  have moved : UdpRelay.step config action (s.beside s.relay s.requests.done) = _ :=
    s.beside_step config stream rfl
  rw [same, taken, Option.map_some, Option.some.injEq] at moved
  rw [moved]
  exact ⟨rfl, rfl⟩

end Beside

section Runs
variable {config : FwdUdpConfig} {stats : UdpStats}

theorem carries_graft (done aged : List Datagram) (past : UdpStats) :
    (fwdUdp config stats).Carries (fwdUdp config stats) (graft done aged past)
      (fun _ => True) (fun _ => True) where
  keep _ _ _ _ _ _ := trivial
  step s action _ _ := s.graft_step config action

/-- A loop at its `select!` that has sent nothing: where a run over stream steps alone
begins and where it stays. -/
def Idle (s : UdpRelay) : Prop := s.relay = .select ∧ s.requests.done = []

theorem carries_beside (relay : RelayPc) (done : List Datagram) (runs : relay.isEnded = false) :
    (fwdUdp config stats).Carries (fwdUdp config stats) (beside relay done)
      Idle (fun action => action.ofRelay = false) where
  keep s action t idle stream taken := by
    obtain ⟨loop, sent⟩ := stream_frame stream taken
    exact ⟨loop.trans idle.1, sent.trans idle.2⟩
  step s action idle stream := by
    refine s.beside_step config stream ?_
    rw [runs, idle.1]
    rfl

/-- The state without the request in hand and without its past. -/
def rest (s : UdpRelay) : UdpRelay :=
  { s with relay := .select, requests := { s.requests with done := [], aged := [] }, stats := .zero }

variable {s : UdpRelay} {request : Datagram} {mid post : List UdpAction}

/-- The request ran out of time: the rest of the run is one of `rest`, behind the past in
which this request is aged. -/
theorem path_timeout (here : s.relay = .resolving request) (u : UdpRelay) :
    (fwdUdp config stats).Path Free s (.resolved .timeout :: (mid ++ post)) u ↔
      ∃ b t, (fwdUdp config stats).Path Free s.rest mid b ∧
        (fwdUdp config stats).Path Free b post t ∧
        u = t.graft s.requests.done (s.requests.aged ++ [request]) s.stats.countAge := by
  have carries : (fwdUdp config stats).Carries _ _ _ _ :=
    carries_graft s.requests.done (s.requests.aged ++ [request]) s.stats.countAge
  have taken : (fwdUdp config stats).step (.resolved .timeout) s =
      some (s.rest.graft s.requests.done (s.requests.aged ++ [request]) s.stats.countAge) := by
    simp [fwdUdp, step, resolved, here, agedRequest, rest, graft, overlay, Books.age,
      UdpStats.add, UdpStats.zero]
  constructor
  · intro path
    obtain ⟨v, -, step, after⟩ := path.uncons
    rw [taken, Option.some.injEq] at step
    subst step
    obtain ⟨t, run, rfl⟩ := carries.of_path trivial (fun _ _ => trivial) after
    obtain ⟨b, first, second⟩ := run.split
    exact ⟨b, t, first, second, rfl⟩
  · rintro ⟨b, t, first, second, rfl⟩
    exact .cons trivial taken (carries.path trivial (fun _ _ => trivial) (first.trans second))

/-- The request was sent: the rest of the run is again one of `rest`, behind the past in
which this request is done. -/
theorem path_sent {target : SocketAddr} (here : s.relay = .resolving request)
    (streams : ∀ action ∈ mid, action.ofRelay = false) (v : UdpRelay) :
    (fwdUdp config stats).Path Free s
        (.resolved (.ok target) :: (mid ++ .sent true :: post)) v ↔
      ∃ b t, (fwdUdp config stats).Path Free s.rest mid b ∧
        (fwdUdp config stats).Path Free b post t ∧
        v = t.graft (s.requests.done ++ [request]) s.requests.aged
          (s.stats.countSent request.frame.payload.length) := by
  have before : (fwdUdp config stats).Carries _ _ _ _ :=
    carries_graft s.requests.done s.requests.aged s.stats
  have during : (fwdUdp config stats).Carries _ _ _ _ :=
    carries_beside (.sending request target) [] rfl
  have after : (fwdUdp config stats).Carries _ _ _ _ :=
    carries_graft (s.requests.done ++ [request]) s.requests.aged
      (s.stats.countSent request.frame.payload.length)
  have idle : s.rest.Idle := ⟨rfl, rfl⟩
  have taken : (fwdUdp config stats).step (.resolved (.ok target)) s =
      some ((s.rest.beside (.sending request target) []).graft s.requests.done s.requests.aged
        s.stats) := by
    simp [fwdUdp, step, resolved, here, rest, graft, beside, overlay, UdpStats.add, UdpStats.zero]
  -- Nothing was sent while the send was under way, so the request follows the old past.
  have sends {b : UdpRelay} (run : (fwdUdp config stats).Path Free s.rest mid b) :
      (fwdUdp config stats).step (.sent true)
          ((b.beside (.sending request target) []).graft s.requests.done s.requests.aged s.stats) =
        some (b.graft (s.requests.done ++ [request]) s.requests.aged
          (s.stats.countSent request.frame.payload.length)) := by
    obtain ⟨loop, none⟩ := during.inside idle streams run
    simp [fwdUdp, step, sent, graft, beside, overlay, Books.finish, loop, none,
      UdpStats.countSent, UdpStats.add, UdpStats.zero]
    omega
  constructor
  · intro path
    obtain ⟨w, -, step, later⟩ := path.uncons
    rw [taken, Option.some.injEq] at step
    subst step
    obtain ⟨m, first, second⟩ := later.split
    obtain ⟨n, grafted, rfl⟩ := before.of_path trivial (fun _ _ => trivial) first
    obtain ⟨b, plain, rfl⟩ := during.of_path idle streams grafted
    obtain ⟨_, -, step, last⟩ := second.uncons
    rw [sends plain, Option.some.injEq] at step
    subst step
    obtain ⟨t, run, rfl⟩ := after.of_path trivial (fun _ _ => trivial) last
    exact ⟨b, t, plain, run, rfl⟩
  · rintro ⟨b, t, first, second, rfl⟩
    have waiting := before.path trivial (fun _ _ => trivial) (during.path idle streams first)
    have served := after.path trivial (fun _ _ => trivial) second
    exact .cons trivial taken (waiting.trans (.cons trivial (sends first) served))

end Runs

/-- Two states of an association that agree on everything but one request, which one of them
aged and the other sent. -/
structure TreatedAlike (u : UdpRelay) (request : Datagram) (v : UdpRelay) : Prop where
  loops : (u.reader, u.relay, u.writer) = (v.reader, v.relay, v.writer)
  queues : (u.requestQueue, u.replyQueue) = (v.requestQueue, v.replyQueue)
  taken : u.requests.taken = v.requests.taken
  done : u.requests.done.filter (· ≠ request) = v.requests.done.filter (· ≠ request)
  aged : u.requests.aged.filter (· ≠ request) = v.requests.aged.filter (· ≠ request)
  full : u.requests.full = v.requests.full
  lost : u.requests.lost = v.requests.lost
  replies : u.replies = v.replies
  written : u.batches = v.batches
  counted : u.stats.countSent request.frame.payload.length = v.stats.countAge

theorem treatedAlike_graft (request : Datagram) (done aged : List Datagram) (past : UdpStats)
    (t : UdpRelay) :
    TreatedAlike (t.graft done (aged ++ [request]) past.countAge) request
      (t.graft (done ++ [request]) aged (past.countSent request.frame.payload.length)) where
  loops := rfl
  queues := rfl
  taken := rfl
  done := by simp [graft, overlay, List.filter_append]
  aged := by simp [graft, overlay, List.filter_append]
  full := rfl
  lost := rfl
  replies := rfl
  written := rfl
  counted := by
    simp [graft, overlay, UdpStats.add, UdpStats.countSent, UdpStats.countAge]
    omega

theorem tolerated_of_stream {action : UdpAction} (stream : action.ofRelay = false) :
    action.Tolerated := by
  cases action with
  | recvRequest _ _ | resolved _ | sent _ | received _ _ _ | receiveFailed | replyClosed
  | idleExpired | cancel => cases stream
  | _ => trivial

theorem ne_ended {relay : RelayPc} (runs : relay.isEnded = false) (reason : EndReason) :
    relay ≠ .ended reason := by
  rintro rfl
  cases runs

/-- What a step of the loop does to an association that runs. -/
theorem loop_step {config : FwdUdpConfig} {action : UdpAction} {s s' : UdpRelay}
    (own : action.ofRelay = true) (taken : UdpRelay.step config action s = some s') :
    s.relay.isEnded = false ∧
      ((action.Tolerated ∧ s'.relay.isEnded = false) ∨
        ∃ reason, s'.relay = .ended reason ∧ (action.Tolerated ↔ reason.Expected)) := by
  cases action with
  | readFrame _ _ _ | readEof | readMalformed _ | deliverError _ | abortReader | writerRecv
  | writerExamine _ _ | writerFlush _ _ | writerWrite _ | abortWriter | elsewhere _ => cases own
  | recvRequest age ageAgain =>
      simp only [step, recvRequest] at taken
      split at taken
      · cases taken
      · rename_i selects
        have selects : s.relay = .select := not_not.mp selects
        refine ⟨by rw [selects]; rfl, ?_⟩
        split at taken
        · split at taken
          · cases taken
            exact .inr ⟨_, rfl, Iff.rfl⟩
          · cases taken
        · cases taken
          exact .inr ⟨_, rfl, Iff.rfl⟩
        · split at taken
          · cases taken
            exact .inl ⟨trivial, rfl⟩
          · split at taken <;> cases taken <;> exact .inl ⟨trivial, rfl⟩
  | resolved result =>
      cases here : s.relay with
      | select | sending _ _ | ended _ => simp [step, resolved, here] at taken
      | resolving request =>
          refine ⟨rfl, ?_⟩
          cases result with
          | timeout | ok target =>
              simp only [step, resolved, here, Option.some.injEq] at taken
              subst taken
              exact .inl ⟨trivial, rfl⟩
          | failed =>
              simp only [step, resolved, here, Option.some.injEq] at taken
              subst taken
              exact .inr ⟨_, rfl, Iff.rfl⟩
  | sent ok =>
      cases here : s.relay with
      | select | resolving _ | ended _ => simp [step, sent, here] at taken
      | sending request target =>
          refine ⟨rfl, ?_⟩
          cases ok with
          | false =>
              simp only [step, sent, here] at taken
              cases taken
              exact .inr ⟨_, rfl, Iff.rfl⟩
          | true =>
              simp only [step, sent, here] at taken
              cases taken
              exact .inl ⟨trivial, rfl⟩
  | received source payload reserved =>
      simp only [step, received] at taken
      split at taken
      · cases taken
      · rename_i selects
        have selects : s.relay.isEnded = false := by rw [not_not.mp selects]; rfl
        refine ⟨selects, .inl ⟨trivial, ?_⟩⟩
        split at taken
        · cases taken
          exact selects
        · split at taken <;> cases taken <;> exact selects
  | receiveFailed | idleExpired =>
      simp only [step] at taken
      split at taken
      · rename_i selects
        cases taken
        exact ⟨by rw [selects]; rfl, .inr ⟨_, rfl, Iff.rfl⟩⟩
      · cases taken
  | replyClosed =>
      simp only [step] at taken
      split at taken
      · rename_i selects
        cases taken
        exact ⟨by rw [selects.1]; rfl, .inr ⟨_, rfl, Iff.rfl⟩⟩
      · cases taken
  | cancel =>
      simp only [step] at taken
      split at taken
      · cases taken
      · rename_i runs
        cases taken
        exact ⟨by simpa using runs, .inr ⟨_, rfl, Iff.rfl⟩⟩

/-- A run ended for a reason an association is meant to end for exactly when none of its
steps left the function through `?`. -/
theorem tolerated_iff_expected {config : FwdUdpConfig} {stats : UdpStats} {s : UdpRelay}
    {acts : List UdpAction}
    (path : (fwdUdp config stats).Path Free (fwdUdp config stats).init acts s) :
    (∀ action ∈ acts, action.Tolerated) ↔
      ∀ reason, s.relay = .ended reason → reason.Expected := by
  induction path with
  | nil => simp [fwdUdp]
  | @snoc acts s t action before _ taken ih =>
      rw [List.forall_mem_append, List.forall_mem_singleton, ih]
      cases own : action.ofRelay with
      | false =>
          rw [(stream_frame own taken).1]
          simp [tolerated_of_stream own]
      | true =>
          obtain ⟨runs, ⟨tolerated, on⟩ | ⟨reason, ended, agree⟩⟩ := loop_step own taken
          · simp [tolerated, ne_ended runs, ne_ended on]
          · simp [ended, agree, ne_ended runs]

end UdpRelay

/-- The ways a resolution and a send can go wrong. -/
inductive Fault
  | timeout
  | resolveFailed
  | sendFailed (target : SocketAddr)

/-- The steps in which a request comes to grief while the stream tasks take `mid`. -/
def Fault.steps (mid : List UdpAction) : Fault → List UdpAction
  | .timeout => .resolved .timeout :: mid
  | .resolveFailed => .resolved .failed :: mid
  | .sendFailed target => .resolved (.ok target) :: (mid ++ [.sent false])

/-- The steps in which it is sent. -/
def sentSteps (mid : List UdpAction) (target : SocketAddr) : List UdpAction :=
  .resolved (.ok target) :: (mid ++ [.sent true])

/-- From `s` on, a run in which the request in hand meets `fault` and one in which it is
sent can take the same later steps, and treat everything else alike. -/
def Isolates (M : System UdpRelay UdpAction) (s : UdpRelay) (request : Datagram) (fault : Fault) :
    Prop :=
  ∀ (target : SocketAddr) (mid post : List UdpAction),
    (∀ action ∈ mid, action.ofRelay = false) →
    (∀ u, M.Path Free s (fault.steps mid ++ post) u →
      ∃ v, M.Path Free s (sentSteps mid target ++ post) v ∧ u.TreatedAlike request v) ∧
    (∀ v, M.Path Free s (sentSteps mid target ++ post) v →
      ∃ u, M.Path Free s (fault.steps mid ++ post) u ∧ u.TreatedAlike request v)

section Isolation
variable {config : FwdUdpConfig} {stats : UdpStats} {s : UdpRelay} {request : Datagram}

theorem isolates_timeout (here : s.relay = .resolving request) :
    Isolates (fwdUdp config stats) s request .timeout := by
  intro target mid post streams
  have sentSteps_append : sentSteps mid target ++ post =
      .resolved (.ok target) :: (mid ++ .sent true :: post) := by
    simp [sentSteps]
  rw [sentSteps_append]
  constructor
  · intro u path
    obtain ⟨b, t, first, second, rfl⟩ := (UdpRelay.path_timeout here u).mp path
    exact ⟨_, (UdpRelay.path_sent here streams _).mpr ⟨b, t, first, second, rfl⟩,
      UdpRelay.treatedAlike_graft request _ _ _ t⟩
  · intro v path
    obtain ⟨b, t, first, second, rfl⟩ := (UdpRelay.path_sent here streams v).mp path
    exact ⟨_, (UdpRelay.path_timeout here _).mpr ⟨b, t, first, second, rfl⟩,
      UdpRelay.treatedAlike_graft request _ _ _ t⟩

/-- After a send the loop is back at its `select!`, where the idle timer can end it. -/
theorem sent_then_idle (here : s.relay = .resolving request) (target : SocketAddr) :
    ∃ v, (fwdUdp config stats).Path Free s (sentSteps [] target ++ [.idleExpired]) v := by
  refine ⟨_, .cons trivial (by simp [fwdUdp, UdpRelay.step, UdpRelay.resolved, here]; rfl)
    (.cons trivial (by simp [fwdUdp, UdpRelay.step, UdpRelay.sent]; rfl)
      (.cons trivial (by simp [fwdUdp, UdpRelay.step]; rfl) .nil))⟩

/-- A step that leaves the function is the loop's last. -/
theorem last_of_not_tolerated {action next : UdpAction} {later : List UdpAction} {u : UdpRelay}
    (own : action.ofRelay = true) (ownNext : next.ofRelay = true) (fatal : ¬ action.Tolerated) :
    ¬ (fwdUdp config stats).Path Free s (action :: next :: later) u := by
  intro path
  obtain ⟨t, -, taken, rest⟩ := path.uncons
  obtain ⟨_, -, after, -⟩ := rest.uncons
  obtain ⟨-, ⟨tolerated, -⟩ | ⟨reason, ended, -⟩⟩ := UdpRelay.loop_step own taken
  · exact fatal tolerated
  · exact UdpRelay.ne_ended (UdpRelay.loop_step ownNext after).1 reason ended

theorem isolates_iff (here : s.relay = .resolving request) (fault : Fault) :
    Isolates (fwdUdp config stats) s request fault ↔
      ∀ action ∈ fault.steps [], action.Tolerated := by
  cases fault with
  | timeout =>
      refine iff_of_true (isolates_timeout here) ?_
      simp [Fault.steps, UdpAction.Tolerated]
  | resolveFailed =>
      refine iff_of_false ?_ (by simp [Fault.steps, UdpAction.Tolerated])
      intro isolates
      obtain ⟨v, path⟩ := sent_then_idle here (.v4 (Vector.replicate 4 9) 53)
      obtain ⟨u, failed, -⟩ := (isolates _ [] [.idleExpired] (by simp)).2 v path
      exact last_of_not_tolerated rfl rfl (by simp [UdpAction.Tolerated]) failed
  | sendFailed target =>
      refine iff_of_false ?_ (by simp [Fault.steps, UdpAction.Tolerated])
      intro isolates
      obtain ⟨v, path⟩ := sent_then_idle here target
      obtain ⟨u, failed, -⟩ := (isolates _ [] [.idleExpired] (by simp)).2 v path
      obtain ⟨_, -, -, rest⟩ := failed.uncons
      exact last_of_not_tolerated rfl rfl (by simp [UdpAction.Tolerated]) rest

end Isolation

/-- An association ends for its stream, its idle timer or its writer in exactly the runs in
which no step leaves it through `?` (and nobody drops it), and a request whose resolution or
send goes wrong leaves every other request and reply as they would have been in exactly the
cases where no step of its own does. -/
theorem udp_faults_isolated {config : FwdUdpConfig} {stats : UdpStats} {s : UdpRelay}
    {acts : List UdpAction}
    (path : (fwdUdp config stats).Path Free (fwdUdp config stats).init acts s) :
    ((∀ reason, s.relay = .ended reason → reason.Expected) ↔
        ∀ action ∈ acts, action.Tolerated) ∧
      ∀ request, s.relay = .resolving request → ∀ fault : Fault,
        (Isolates (fwdUdp config stats) s request fault ↔
          ∀ action ∈ fault.steps [], action.Tolerated) := by
  refine ⟨(UdpRelay.tolerated_iff_expected path).symm, ?_⟩
  intro request here fault
  exact isolates_iff here fault

/-- A domain that resolves too late costs its own datagram; the idle timer ends the run. -/
theorem udp_faults_isolated_late :
    ∃ acts s t, (fwdUdp ⟨4, 10⟩ .zero).Path Free (fwdUdp ⟨4, 10⟩ .zero).init acts s ∧
      s.relay = .resolving ⟨0, ⟨.domain "quest.test" 53, [1]⟩⟩ ∧
      Isolates (fwdUdp ⟨4, 10⟩ .zero) s ⟨0, ⟨.domain "quest.test" 53, [1]⟩⟩ .timeout ∧
      (fwdUdp ⟨4, 10⟩ .zero).Path Free (fwdUdp ⟨4, 10⟩ .zero).init
        (acts ++ [.resolved .timeout, .idleExpired]) t ∧
      t.relay = .ended .idle ∧ EndReason.Expected .idle := by
  obtain ⟨s, path, here⟩ : ∃ s, (fwdUdp ⟨4, 10⟩ .zero).Path Free (fwdUdp ⟨4, 10⟩ .zero).init
      [.readFrame ⟨.domain "quest.test" 53, [1]⟩ true false, .recvRequest 3 4] s ∧
      s.relay = .resolving ⟨0, ⟨.domain "quest.test" 53, [1]⟩⟩ :=
    ⟨_, System.path_of_replay rfl, rfl⟩
  obtain ⟨t, whole, ended⟩ : ∃ t, (fwdUdp ⟨4, 10⟩ .zero).Path Free (fwdUdp ⟨4, 10⟩ .zero).init
      ([.readFrame ⟨.domain "quest.test" 53, [1]⟩ true false, .recvRequest 3 4] ++
        [.resolved .timeout, .idleExpired]) t ∧ t.relay = .ended .idle :=
    ⟨_, System.path_of_replay rfl, rfl⟩
  refine ⟨_, s, t, path, here, ?_, whole, ended, ?_⟩
  · exact ((udp_faults_isolated path).2 _ here .timeout).mpr
      (by simp [Fault.steps, UdpAction.Tolerated])
  · exact (udp_faults_isolated whole).1.mpr (by simp [UdpAction.Tolerated]) _ ended

/-- A domain without an address ends the association while another request waits; had the
first been sent, the second would have been sent too. -/
theorem failed_resolve_ends_association :
    ∃ failed served,
      (fwdUdp ⟨4, 10⟩ .zero).Path Free (fwdUdp ⟨4, 10⟩ .zero).init
        [.readFrame ⟨.domain "nowhere.test" 53, [1]⟩ true false,
          .readFrame ⟨.socket (.v4 (Vector.replicate 4 9) 53), [2]⟩ true false,
          .recvRequest 3 4, .resolved .failed] failed ∧
      failed.relay = .ended .resolveFailed ∧ ¬ EndReason.Expected .resolveFailed ∧
      failed.queuedRequests = [⟨1, ⟨.socket (.v4 (Vector.replicate 4 9) 53), [2]⟩⟩] ∧
      (∀ age ageAgain, (fwdUdp ⟨4, 10⟩ .zero).step (.recvRequest age ageAgain) failed = none) ∧
      (fwdUdp ⟨4, 10⟩ .zero).Path Free (fwdUdp ⟨4, 10⟩ .zero).init
        [.readFrame ⟨.domain "nowhere.test" 53, [1]⟩ true false,
          .readFrame ⟨.socket (.v4 (Vector.replicate 4 9) 53), [2]⟩ true false,
          .recvRequest 3 4, .resolved (.ok (.v4 (Vector.replicate 4 9) 53)), .sent true,
          .recvRequest 5 6, .resolved (.ok (.v4 (Vector.replicate 4 9) 53)), .sent true] served ∧
      ⟨1, ⟨.socket (.v4 (Vector.replicate 4 9) 53), [2]⟩⟩ ∈ served.requests.done := by
  refine ⟨_, _, System.path_of_replay rfl, rfl, id, rfl, fun _ _ => rfl,
    System.path_of_replay rfl, ?_⟩
  exact List.mem_cons_of_mem _ List.mem_cons_self

end QuestVdWired.Host
