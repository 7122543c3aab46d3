import QuestVdWired.Host.StreamerCandidates

/-!
Settlement and relay hand both byte streams on unchanged. While candidates are being
settled, each has received a piece of the replay from its start, and nothing has been
read from any of them; the candidate that is chosen takes over exactly there.
-/

namespace QuestVdWired.Host
open Transition

/-- The candidate has the first `delivered` bytes of the replay and has sent nothing. -/
structure Candidate.Fed (replay : List UInt8) (c : Candidate) : Prop where
  within : c.delivered ≤ replay.length
  received : c.client.received = replay.take c.delivered
  silent : c.client.sent = []

/-- A candidate that was closed: what it got is a piece of the Streamer's stream from its
start, and nothing was read from it. -/
def Candidate.Closed (streamer : List UInt8) (c : Candidate) : Prop :=
  c.client.received <+: streamer ∧ c.client.sent = []

theorem Candidate.Fed.closed {replay : List UInt8} {c : Candidate} (fed : c.Fed replay) :
    c.Closed replay := by
  refine ⟨?_, fed.silent⟩
  rw [fed.received]
  exact List.take_prefix c.delivered replay

theorem Candidate.Fed.append {replay : List UInt8} {c : Candidate} (fed : c.Fed replay)
    (bytes : List UInt8) : c.Fed (replay ++ bytes) where
  within := by
    rw [List.length_append]
    exact Nat.le_add_right_of_le fed.within
  received := by rw [List.take_append_of_le_length fed.within, fed.received]
  silent := fed.silent

theorem Candidate.Closed.append {streamer : List UInt8} {c : Candidate} (closed : c.Closed streamer)
    (bytes : List UInt8) : c.Closed (streamer ++ bytes) :=
  ⟨closed.1.trans (List.prefix_append streamer bytes), closed.2⟩

structure Settling.Inv (s : Settling) : Prop where
  replay : s.replay = s.upstream.sent
  bounded : s.replay.length ≤ CANDIDATE_REPLAY_LIMIT
  quiet : s.upstream.received = []
  fed : ∀ c ∈ s.candidates, c.Fed s.replay
  ordered : (s.candidates.map Candidate.arrival).Pairwise (· < ·)
  arrived : ∀ c ∈ s.candidates, c.arrival < s.arrivals
  closed : ∀ c ∈ s.dropped, c.Closed s.upstream.sent

/-- The chosen candidate continues exactly where its share of the replay ends. -/
structure ChosenCandidate.Continues (upstream : TcpStream) (chosen : ChosenCandidate) : Prop where
  downstream : chosen.client.received ++ chosen.upstreamSuffix = upstream.sent
  whole : chosen.clientPrefix = chosen.client.sent
  counted : chosen.client.received.length = chosen.delivered
  quiet : upstream.received = []

namespace Settling

theorem start_inv (joinDeadline now : Nat) : (start joinDeadline now).Inv where
  replay := rfl
  bounded := Nat.zero_le _
  quiet := rfl
  fed := by
    intro c mem
    cases List.mem_singleton.mp mem
    exact ⟨Nat.zero_le _, rfl, rfl⟩
  ordered := List.pairwise_singleton _ _
  arrived := by
    intro c mem
    cases List.mem_singleton.mp mem
    exact Nat.zero_lt_one
  closed := by
    intro c mem
    cases mem

theorem Inv.takeJoined {s : Settling} (inv : s.Inv) (joined : Nat) : (s.takeJoined joined).Inv := by
  induction joined generalizing s with
  | zero => exact inv
  | succ joined ih =>
      refine ih ⟨inv.replay, inv.bounded, inv.quiet, ?_, ?_, ?_, inv.closed⟩
      · intro c mem
        rcases List.mem_append.mp mem with old | new
        · exact inv.fed c old
        · cases List.mem_singleton.mp new
          exact ⟨Nat.zero_le _, rfl, rfl⟩
      · rw [List.map_append]
        apply List.pairwise_append.mpr
        refine ⟨inv.ordered, List.pairwise_singleton _ _, ?_⟩
        intro a before b last
        obtain ⟨c, mem, rfl⟩ := List.mem_map.mp before
        cases List.mem_singleton.mp last
        exact inv.arrived c mem
      · intro c mem
        rcases List.mem_append.mp mem with old | new
        · exact Nat.lt_succ_of_lt (inv.arrived c old)
        · cases List.mem_singleton.mp new
          exact Nat.lt_succ_self _

theorem Inv.remove {s : Settling} (inv : s.Inv) (index : Nat) : (s.remove index).Inv where
  replay := inv.replay
  bounded := inv.bounded
  quiet := inv.quiet
  fed c mem := inv.fed c (List.mem_of_mem_eraseIdx mem)
  ordered := by
    have sub := (List.eraseIdx_sublist s.candidates index).map Candidate.arrival
    exact inv.ordered.sublist sub
  arrived c mem := inv.arrived c (List.mem_of_mem_eraseIdx mem)
  closed := by
    intro c mem
    rcases List.mem_append.mp mem with old | gone
    · exact inv.closed c old
    · have here := Option.mem_toList.mp gone
      have fed := (inv.fed c (List.mem_of_getElem? here)).closed
      rw [inv.replay] at fed
      exact fed

end Settling

theorem TcpStream.tryRead_cases (stream : TcpStream) (room : Nat) (read : ReadResult) :
    (∃ bytes, bytes.length ≤ room ∧
      stream.tryRead room read = ({ stream with sent := stream.sent ++ bytes }, .ok bytes)) ∨
    stream.tryRead room read = (stream, .wouldBlock) ∨
    stream.tryRead room read = (stream, .error) := by
  cases read with
  | ok bytes => exact Or.inl ⟨bytes.take room, List.length_take_le room bytes, rfl⟩
  | wouldBlock => exact Or.inr (Or.inl rfl)
  | error => exact Or.inr (Or.inr rfl)

theorem TcpStream.tryWrite_cases (stream : TcpStream) (slice : List UInt8) (write : WriteResult) :
    (∃ written, written ≤ slice.length ∧ stream.tryWrite slice write =
      ({ stream with received := stream.received ++ slice.take written }, .ok written)) ∨
    stream.tryWrite slice write = (stream, .wouldBlock) ∨
    stream.tryWrite slice write = (stream, .error) := by
  cases write with
  | ok written =>
      refine Or.inl ⟨min written slice.length, Nat.min_le_right _ _, ?_⟩
      simp only [TcpStream.tryWrite]
      rw [← List.take_eq_take_min]
  | wouldBlock => exact Or.inr (Or.inl rfl)
  | error => exact Or.inr (Or.inr rfl)

/-- What the two directions of a relay still owe each other, stage by stage. -/
def Relaying.Owes (r : Relaying) : Prop :=
  match r.stage with
  | .writePrefix left =>
      r.upstream.received ++ left = r.client.sent ∧ r.clientPrefix = r.client.sent ∧
        r.client.received ++ r.upstreamSuffix = r.upstream.sent ∧
        r.client.received.length = r.delivered
  | .writeSuffix left =>
      r.upstream.received = r.client.sent ∧ r.clientPrefix = r.client.sent ∧
        r.client.received ++ left = r.upstream.sent ∧
        r.client.received.length + left.length = r.delivered + r.upstreamSuffix.length
  | .copy fromClient fromUpstream =>
      r.upstream.received ++ fromClient.pending = r.client.sent ∧
        r.upstream.received.length = fromClient.amt + r.clientPrefix.length ∧
        r.client.received ++ fromUpstream.pending = r.upstream.sent ∧
        r.client.received.length = fromUpstream.amt + r.upstreamSuffix.length + r.delivered

structure Relaying.Inv (r : Relaying) : Prop where
  owes : r.Owes
  closed : ∀ c ∈ r.dropped, c.Closed r.upstream.sent

def CandidateFlow.Inv : CandidateFlow → Prop
  | .head s | .awaiting s _ => s.Inv
  | .settled settlement upstream dropped =>
      (∀ chosen, settlement.chosen = some chosen → chosen.Continues upstream) ∧
        ∀ c ∈ dropped, c.Closed upstream.sent
  | .relaying r => r.Inv
  | .ended client upstream dropped transfer =>
      (∀ c ∈ dropped, c.Closed upstream.sent) ∧
        ∀ c, client = some c → c.received <+: upstream.sent ∧ upstream.received <+: c.sent ∧
          ∀ tx rx, transfer = some (tx, rx) → c.received = upstream.sent ∧
            upstream.received = c.sent ∧ tx = upstream.received.length ∧ rx = c.received.length
  | .panicked => False

namespace Settling

/-- Choosing a candidate whose reads are all in `clientPrefix`, and closing the others. -/
theorem chooseCandidate_inv {s : Settling} {index : Nat} {chosen : Candidate}
    {clientPrefix : List UInt8} {outcome : String} (here : s.candidates[index]? = some chosen)
    (within : chosen.delivered ≤ s.replay.length)
    (received : chosen.client.received = s.replay.take chosen.delivered)
    (whole : clientPrefix = chosen.client.sent) (replay : s.replay = s.upstream.sent)
    (quiet : s.upstream.received = [])
    (others : ∀ c ∈ s.candidates.eraseIdx index, c.Fed s.replay)
    (closed : ∀ c ∈ s.dropped, c.Closed s.upstream.sent) :
    (s.chooseCandidate index clientPrefix outcome).Inv := by
  unfold chooseCandidate
  rw [here]
  dsimp only
  rw [if_neg (Nat.not_lt.mpr within)]
  constructor
  · rintro _ ⟨⟩
    refine ⟨?_, whole, ?_, quiet⟩
    · rw [received, List.take_append_drop, replay]
    · rw [received, List.length_take_of_le within]
  · intro c mem
    rcases List.mem_append.mp mem with old | rest
    · exact closed c old
    · rw [← replay]
      exact (others c rest).closed

theorem Inv.choose {s : Settling} (inv : s.Inv) {index : Nat} (bound : index < s.candidates.length)
    (outcome : String) : (s.chooseCandidate index [] outcome).Inv := by
  have here := List.getElem?_eq_getElem bound
  have fed := inv.fed _ (List.mem_of_getElem? here)
  exact chooseCandidate_inv here fed.within fed.received fed.silent.symm inv.replay inv.quiet
    (fun c mem => inv.fed c (List.mem_of_mem_eraseIdx mem)) inv.closed

theorem Inv.enter {s : Settling} (inv : s.Inv) (now : Nat) : (s.enter now).Inv := by
  unfold Settling.enter
  dsimp only
  split
  · split
    · exact inv
    · refine ⟨?_, inv.closed⟩
      intro chosen none
      cases none
  · rename_i one
    split
    · exact inv.choose (by omega) _
    · exact inv
  · rename_i many
    have kept : ∀ decision, ({ s with decisionDeadline := decision } : Settling).Inv := by
      intro decision
      exact ⟨inv.replay, inv.bounded, inv.quiet, inv.fed, inv.ordered, inv.arrived, inv.closed⟩
    generalize (if s.exhausted = true then
      some (s.decisionDeadline.getD (now + CANDIDATE_DECISION_TIMEOUT))
      else s.decisionDeadline) = decision
    split
    · apply (kept decision).choose
      simp only
      omega
    · exact kept decision

theorem pollCandidates_bound {ready : Readiness} {len : Nat} :
    ∀ {candidates : List Candidate} {start : Nat} {event : CandidateEvent},
      pollCandidates ready len candidates start = some event →
        ∃ index, index < start + candidates.length ∧
          (event = .readable index ∨ event = .writable index) := by
  intro candidates
  induction candidates with
  | nil =>
      intro start event h
      cases h
  | cons candidate candidates ih =>
      intro start event h
      unfold pollCandidates at h
      rw [List.length_cons]
      split at h
      · cases h
        exact ⟨start, by omega, Or.inl rfl⟩
      · split at h
        · cases h
          exact ⟨start, by omega, Or.inr rfl⟩
        · obtain ⟨index, bound, which⟩ := ih h
          exact ⟨index, by omega, which⟩

/-- The indices an event names are those of the list that was polled. -/
theorem pollEvent_bound {s : Settling} {ready : Readiness} {readUpstream : Bool}
    {event : CandidateEvent} (h : s.pollEvent ready readUpstream = some event) {index : Nat}
    (names : event = .readable index ∨ event = .writable index) : index < s.candidates.length := by
  unfold pollEvent at h
  split at h
  · cases h
    rcases names with h | h <;> cases h
  · split at h
    · cases h
      rcases names with h | h <;> cases h
    · split at h
      · rename_i found
        cases h
        obtain ⟨at_, bound, which⟩ := pollCandidates_bound found
        rw [Nat.zero_add] at bound
        rcases which with rfl | rfl <;> rcases names with h | h <;> cases h <;> exact bound
      · split at h
        · cases h
          rcases names with h | h <;> cases h
        · cases h

theorem Inv.onUpstream {s : Settling} (inv : s.Inv) (read : ReadResult) :
    (s.onUpstream read).Inv := by
  have kept : ∀ closed, ({ s with upstreamClosed := closed } : Settling).Inv := by
    intro closed
    exact ⟨inv.replay, inv.bounded, inv.quiet, inv.fed, inv.ordered, inv.arrived, inv.closed⟩
  unfold Settling.onUpstream
  rw [if_neg (Nat.not_lt.mpr inv.bounded)]
  dsimp only
  rcases s.upstream.tryRead_cases
    (min (CANDIDATE_REPLAY_LIMIT - s.replay.length) CANDIDATE_BUFFER_LEN) read with
    ⟨bytes, room, result⟩ | result | result
  · rw [result]
    cases bytes with
    | nil =>
        simp only [List.append_nil]
        exact kept true
    | cons byte bytes =>
        refine ⟨?_, ?_, inv.quiet, ?_, inv.ordered, inv.arrived, ?_⟩
        · exact congrArg (· ++ (byte :: bytes)) inv.replay
        · have limit := inv.bounded
          simp only [List.length_append]
          omega
        · intro c mem
          exact (inv.fed c mem).append _
        · intro c mem
          exact (inv.closed c mem).append _
  · rw [result]
    exact inv
  · rw [result]
    exact kept true

theorem Inv.onReadable {s : Settling} (inv : s.Inv) {index : Nat}
    (bound : index < s.candidates.length) (read : ReadResult) : (s.onReadable index read).Inv := by
  have here := List.getElem?_eq_getElem bound
  have fed := inv.fed _ (List.mem_of_getElem? here)
  have same : s.candidates.set index s.candidates[index] = s.candidates :=
    List.set_getElem_self bound
  unfold Settling.onReadable
  rw [here]
  dsimp only
  rcases s.candidates[index].client.tryRead_cases CANDIDATE_BUFFER_LEN read with
    ⟨bytes, _, result⟩ | result | result
  · rw [result]
    cases bytes with
    | nil =>
        simp only [List.append_nil, same]
        exact inv.remove index
    | cons byte bytes =>
        refine chooseCandidate_inv (List.getElem?_set_self bound) fed.within fed.received ?_
          inv.replay inv.quiet ?_ inv.closed
        · simp only [fed.silent, List.nil_append]
        · intro c mem
          simp only [List.eraseIdx_set_eq] at mem
          exact inv.fed c (List.mem_of_mem_eraseIdx mem)
  · rw [result]
    simp only [same]
    exact inv
  · rw [result]
    simp only [same]
    exact inv.remove index

theorem Inv.onWritable {s : Settling} (inv : s.Inv) {index : Nat}
    (bound : index < s.candidates.length) (write : WriteResult) :
    (s.onWritable index write).Inv := by
  have here := List.getElem?_eq_getElem bound
  have fed := inv.fed _ (List.mem_of_getElem? here)
  unfold Settling.onWritable
  rw [here]
  dsimp only
  rw [if_neg (Nat.not_lt.mpr fed.within)]
  rcases s.candidates[index].client.tryWrite_cases (s.replay.drop s.candidates[index].delivered)
    write with ⟨written, some_, result⟩ | result | result
  · rw [result]
    refine ⟨inv.replay, inv.bounded, inv.quiet, ?_, ?_, ?_, inv.closed⟩
    · intro c mem
      rcases List.mem_or_eq_of_mem_set mem with old | rfl
      · exact inv.fed c old
      · refine ⟨?_, ?_, fed.silent⟩
        · have within := fed.within
          rw [List.length_drop] at some_
          simp only
          omega
        · simp only [fed.received]
          rw [List.take_add]
    · have order : (s.candidates.map Candidate.arrival).set index s.candidates[index].arrival =
          s.candidates.map Candidate.arrival := by
        rw [← List.map_set, List.set_getElem_self]
      simp only [List.map_set, order]
      exact inv.ordered
    · intro c mem
      rcases List.mem_or_eq_of_mem_set mem with old | rfl
      · exact inv.arrived c old
      · exact inv.arrived s.candidates[index] (List.mem_of_getElem? here)
  · rw [result]
    exact inv
  · rw [result]
    exact inv.remove index

end Settling
namespace Relaying

theorem start_inv {chosen : ChosenCandidate} {upstream : TcpStream} {dropped : List Candidate}
    (continues : chosen.Continues upstream) (closed : ∀ c ∈ dropped, c.Closed upstream.sent) :
    (start chosen upstream dropped).Inv where
  owes := by
    refine ⟨?_, continues.whole, continues.downstream, continues.counted⟩
    simp only [start, continues.quiet, List.nil_append]
    exact continues.whole
  closed := closed

/-- Wherever the relay stands, each side has a piece of the other's stream from its
start. -/
theorem Inv.prefixes {r : Relaying} (inv : r.Inv) :
    r.client.received <+: r.upstream.sent ∧ r.upstream.received <+: r.client.sent := by
  have owes := inv.owes
  unfold Owes at owes
  split at owes
  · obtain ⟨up, -, down, -⟩ := owes
    exact ⟨⟨_, down⟩, ⟨_, up⟩⟩
  · obtain ⟨up, -, down, -⟩ := owes
    exact ⟨⟨_, down⟩, up ▸ List.prefix_refl _⟩
  · obtain ⟨up, -, down, -⟩ := owes
    exact ⟨⟨_, down⟩, ⟨_, up⟩⟩

theorem Inv.fail {r : Relaying} (inv : r.Inv) : r.fail.Inv := by
  refine ⟨inv.closed, ?_⟩
  rintro _ ⟨⟩
  refine ⟨inv.prefixes.1, inv.prefixes.2, ?_⟩
  intro tx rx none
  cases none

theorem take_append_drop_of (received left : List UInt8) (written : Nat) :
    received ++ left.take written ++ left.drop written = received ++ left := by
  rw [List.append_assoc, List.take_append_drop]

theorem Inv.writeAll {r : Relaying} {flow : CandidateFlow} {write : WriteResult} (inv : r.Inv)
    (h : r.writeAll write = some flow) : flow.Inv := by
  have owes := inv.owes
  unfold Relaying.writeAll at h
  unfold Owes at owes
  split at h
  · rename_i stage
    rw [stage] at owes
    obtain ⟨up, whole, down, counted⟩ := owes
    rw [List.append_nil] at up
    cases h
    exact ⟨⟨up, whole, down, by rw [counted]⟩, inv.closed⟩
  · rename_i left _ stage
    rw [stage] at owes
    obtain ⟨up, whole, down, counted⟩ := owes
    rcases r.upstream.tryWrite_cases left write with ⟨written, some_, result⟩ | result | result
    · rw [result] at h
      cases written with
      | zero =>
          cases h
          exact inv.fail
      | succ written =>
          cases h
          refine ⟨⟨?_, whole, down, counted⟩, inv.closed⟩
          simp only [take_append_drop_of]
          exact up
    · rw [result] at h
      cases h
      exact inv
    · rw [result] at h
      cases h
      exact inv.fail
  · rename_i stage
    rw [stage] at owes
    obtain ⟨up, whole, down, counted⟩ := owes
    cases h
    refine ⟨⟨?_, ?_, down, ?_⟩, inv.closed⟩
    · rw [List.append_nil]
      exact up
    · simp only [up, whole, Nat.zero_add]
    · simp only [List.length_nil] at counted ⊢
      omega
  · rename_i left _ stage
    rw [stage] at owes
    obtain ⟨up, whole, down, counted⟩ := owes
    rcases r.client.tryWrite_cases left write with ⟨written, some_, result⟩ | result | result
    · rw [result] at h
      cases written with
      | zero =>
          cases h
          exact inv.fail
      | succ written =>
          cases h
          refine ⟨⟨up, whole, ?_, ?_⟩, inv.closed⟩
          · simp only [take_append_drop_of]
            exact down
          · simp only [List.length_append, List.length_take, List.length_drop]
            omega
    · rw [result] at h
      cases h
      exact inv
    · rw [result] at h
      cases h
      exact inv.fail
  · cases h

end Relaying

/-- A read moves some bytes of the source into the buffer, possibly none. -/
theorem CopyBuffer.read_spec {buffer buffer' : CopyBuffer} {source source' : TcpStream}
    {read : ReadResult} {failed : Bool}
    (h : buffer.read source read = some (buffer', source', failed)) :
    ∃ bytes, source' = { source with sent := source.sent ++ bytes } ∧
      buffer'.pending = buffer.pending ++ bytes ∧ buffer'.amt = buffer.amt := by
  unfold CopyBuffer.read at h
  split at h
  · cases h
  · split at h
    · cases h
      exact ⟨[], by rw [List.append_nil], (List.append_nil _).symm, rfl⟩
    · cases h
      exact ⟨_, rfl, rfl, rfl⟩
    · cases h
      exact ⟨[], by rw [List.append_nil], (List.append_nil _).symm, rfl⟩
    · cases h
      exact ⟨[], by rw [List.append_nil], (List.append_nil _).symm, rfl⟩

/-- A write moves some bytes from the front of the buffer to the sink, possibly none. -/
theorem CopyBuffer.write_spec {buffer buffer' : CopyBuffer} {sink sink' : TcpStream}
    {write : WriteResult} {failed : Bool}
    (h : buffer.write sink write = some (buffer', sink', failed)) :
    ∃ written, written ≤ buffer.pending.length ∧
      sink' = { sink with received := sink.received ++ buffer.pending.take written } ∧
      buffer'.pending = buffer.pending.drop written ∧ buffer'.amt = buffer.amt + written := by
  unfold CopyBuffer.write at h
  split at h
  · cases h
  · rcases sink.tryWrite_cases buffer.pending write with ⟨written, some_, result⟩ | result | result
    · rw [result] at h
      cases written with
      | zero =>
          cases h
          exact ⟨0, Nat.zero_le _, rfl, rfl, rfl⟩
      | succ written =>
          cases h
          exact ⟨written + 1, some_, rfl, rfl, rfl⟩
    · rw [result] at h
      cases h
      exact ⟨0, Nat.zero_le _, by rw [List.take_zero, List.append_nil], rfl, rfl⟩
    · rw [result] at h
      cases h
      exact ⟨0, Nat.zero_le _, by rw [List.take_zero, List.append_nil], rfl, rfl⟩

namespace Relaying

theorem Inv.settle {r : Relaying} (inv : r.Inv) (failed : Bool) : (r.settle failed).Inv := by
  unfold Relaying.settle
  split
  · exact inv.fail
  · exact inv

theorem Inv.copyRead {r : Relaying} {flow : CandidateFlow} {side : FlowEndpoint}
    {read : ReadResult} (inv : r.Inv) (h : r.copyRead side read = some flow) : flow.Inv := by
  have owes := inv.owes
  unfold Relaying.copyRead at h
  unfold Owes at owes
  split at h
  · rename_i fromClient fromUpstream stage
    rw [stage] at owes
    obtain ⟨up, sentUp, down, sentDown⟩ := owes
    cases side with
    | quest =>
        obtain ⟨⟨buffer, client, failed⟩, taken, rfl⟩ := Option.map_eq_some_iff.mp h
        obtain ⟨bytes, rfl, pending, amt⟩ := CopyBuffer.read_spec taken
        apply Inv.settle
        refine ⟨⟨?_, ?_, down, sentDown⟩, inv.closed⟩
        · simp only [pending, ← up, List.append_assoc]
        · simp only [amt]
          exact sentUp
    | streamer =>
        obtain ⟨⟨buffer, upstream, failed⟩, taken, rfl⟩ := Option.map_eq_some_iff.mp h
        obtain ⟨bytes, rfl, pending, amt⟩ := CopyBuffer.read_spec taken
        apply Inv.settle
        refine ⟨⟨up, sentUp, ?_, ?_⟩, fun c mem => (inv.closed c mem).append bytes⟩
        · simp only [pending, ← down, List.append_assoc]
        · simp only [amt]
          exact sentDown
  · cases h

theorem Inv.copyWrite {r : Relaying} {flow : CandidateFlow} {side : FlowEndpoint}
    {write : WriteResult} (inv : r.Inv) (h : r.copyWrite side write = some flow) : flow.Inv := by
  have owes := inv.owes
  unfold Relaying.copyWrite at h
  unfold Owes at owes
  split at h
  · rename_i fromClient fromUpstream stage
    rw [stage] at owes
    obtain ⟨up, sentUp, down, sentDown⟩ := owes
    cases side with
    | streamer =>
        obtain ⟨⟨buffer, upstream, failed⟩, taken, rfl⟩ := Option.map_eq_some_iff.mp h
        obtain ⟨written, some_, rfl, pending, amt⟩ := CopyBuffer.write_spec taken
        apply Inv.settle
        refine ⟨⟨?_, ?_, down, sentDown⟩, inv.closed⟩
        · simp only [pending, take_append_drop_of]
          exact up
        · simp only [amt, List.length_append, List.length_take_of_le some_]
          omega
    | quest =>
        obtain ⟨⟨buffer, client, failed⟩, taken, rfl⟩ := Option.map_eq_some_iff.mp h
        obtain ⟨written, some_, rfl, pending, amt⟩ := CopyBuffer.write_spec taken
        apply Inv.settle
        refine ⟨⟨up, sentUp, ?_, ?_⟩, inv.closed⟩
        · simp only [pending, take_append_drop_of]
          exact down
        · simp only [amt, List.length_append, List.length_take_of_le some_]
          omega
  · cases h

theorem Inv.copyDone {r : Relaying} {flow : CandidateFlow} (inv : r.Inv)
    (h : r.copyDone = some flow) : flow.Inv := by
  have owes := inv.owes
  unfold Relaying.copyDone at h
  unfold Owes at owes
  split at h
  · rename_i fromClient fromUpstream stage
    rw [stage] at owes
    obtain ⟨up, sentUp, down, sentDown⟩ := owes
    split at h
    · rename_i finished
      cases h
      rw [finished.1.2, List.append_nil] at up
      rw [finished.2.2, List.append_nil] at down
      refine ⟨inv.closed, ?_⟩
      rintro _ ⟨⟩
      refine ⟨inv.prefixes.1, inv.prefixes.2, ?_⟩
      rintro tx rx ⟨⟩
      exact ⟨down, up, sentUp.symm, sentDown.symm⟩
    · cases h
  · cases h

theorem Inv.copyFail {r : Relaying} {flow : CandidateFlow} (inv : r.Inv)
    (h : r.copyFail = some flow) : flow.Inv := by
  unfold Relaying.copyFail at h
  split at h
  · cases h
    exact inv.fail
  · cases h

end Relaying

theorem CandidateFlow.Inv.step {flow flow' : CandidateFlow} {action : CandidateAction}
    (inv : flow.Inv) (h : flow.step action = some flow') : flow'.Inv := by
  unfold CandidateFlow.step at h
  split at h
  · rename_i joined now s
    cases h
    exact (Settling.Inv.takeJoined inv joined).enter now
  · rename_i ready read write s readUpstream
    split at h
    · cases h
      exact inv
    · rename_i event polled
      cases h
      have s_inv : s.Inv := inv
      cases event with
      | joined | deadline => exact s_inv
      | upstream => exact s_inv.onUpstream read
      | readable index =>
          exact s_inv.onReadable (Settling.pollEvent_bound polled (Or.inl rfl)) read
      | writable index =>
          exact s_inv.onWritable (Settling.pollEvent_bound polled (Or.inr rfl)) write
  · rename_i settlement upstream dropped
    obtain ⟨continues, closed⟩ := inv
    split at h
    · cases h
      exact ⟨closed, fun _ none => by cases none⟩
    · rename_i chosen chose
      cases h
      exact Relaying.start_inv (continues chosen chose) closed
  · exact Relaying.Inv.writeAll inv h
  · exact Relaying.Inv.copyRead inv h
  · exact Relaying.Inv.copyWrite inv h
  · exact Relaying.Inv.copyDone inv h
  · exact Relaying.Inv.copyFail inv h
  · cases h

theorem CandidateFlow.reachable_inv {joinDeadline now : Nat} {flow : CandidateFlow}
    (reached : (candidateFlow joinDeadline now).Reachable Free flow) : flow.Inv := by
  refine reached.invariant (Settling.start_inv joinDeadline now) ?_
  intro flow action flow' inv _ taken
  exact inv.step taken

/-- What settlement and relay promise about both byte streams, at every point of a flow.
While settling, every candidate has a piece of what was read from the Streamer, from its
start, slices stay in range, the candidates stand in arrival order and nothing was read
from them. A chosen candidate continues where its piece ends and hands over all that was
read from it. The relay then keeps both streams in order, and when it completes each side
has the other's whole stream and the counts are the bytes transferred. A closed candidate
never sent anything that was read. -/
def CandidateFlow.Preserved : CandidateFlow → Prop
  | .head s | .awaiting s _ =>
      s.replay = s.upstream.sent ∧ s.replay.length ≤ CANDIDATE_REPLAY_LIMIT ∧
        (∀ c ∈ s.candidates, c.delivered ≤ s.replay.length ∧
          c.client.received = s.upstream.sent.take c.delivered ∧ c.client.sent = []) ∧
        (s.candidates.map Candidate.arrival).Pairwise (· < ·) ∧
        ∀ c ∈ s.dropped, c.client.received <+: s.upstream.sent ∧ c.client.sent = []
  | .settled settlement upstream dropped =>
      (∀ chosen, settlement.chosen = some chosen →
        chosen.client.received ++ chosen.upstreamSuffix = upstream.sent ∧
          chosen.clientPrefix = chosen.client.sent) ∧
        ∀ c ∈ dropped, c.client.received <+: upstream.sent ∧ c.client.sent = []
  | .relaying r =>
      r.client.received <+: r.upstream.sent ∧ r.upstream.received <+: r.client.sent ∧
        ∀ c ∈ r.dropped, c.client.received <+: r.upstream.sent ∧ c.client.sent = []
  | .ended client upstream dropped transfer =>
      (∀ c, client = some c →
        c.received <+: upstream.sent ∧ upstream.received <+: c.sent ∧
          ∀ tx rx, transfer = some (tx, rx) →
            c.received = upstream.sent ∧ upstream.received = c.sent ∧
              tx = upstream.received.length ∧ rx = c.received.length) ∧
        ∀ c ∈ dropped, c.client.received <+: upstream.sent ∧ c.client.sent = []
  | .panicked => False

theorem candidates_preserve_streams {joinDeadline now : Nat} {flow : CandidateFlow}
    (reached : (candidateFlow joinDeadline now).Reachable Free flow) : flow.Preserved := by
  have inv := CandidateFlow.reachable_inv reached
  cases flow with
  | head s | awaiting s _ =>
      have s_inv : s.Inv := inv
      refine ⟨s_inv.replay, s_inv.bounded, ?_, s_inv.ordered, s_inv.closed⟩
      intro c mem
      have fed := s_inv.fed c mem
      exact ⟨fed.within, s_inv.replay ▸ fed.received, fed.silent⟩
  | settled settlement upstream dropped =>
      refine ⟨?_, inv.2⟩
      intro chosen chose
      exact ⟨(inv.1 chosen chose).downstream, (inv.1 chosen chose).whole⟩
  | relaying r =>
      have r_inv : r.Inv := inv
      exact ⟨r_inv.prefixes.1, r_inv.prefixes.2, r_inv.closed⟩
  | ended client upstream dropped transfer => exact ⟨inv.2, inv.1⟩
  | panicked => exact inv

/-- Nothing but the first candidate is ready. -/
def firstReady (readable writable : Bool) : Readiness :=
  ⟨false, false, fun index => readable && index == 0, fun index => writable && index == 0, false⟩

/-- A duplicate joins, the Streamer greets, the first candidate gets half the greeting and
answers; the relay delivers the rest and carries one more byte down. -/
theorem candidates_preserve_streams_answered :
    ∃ client upstream dropped,
      (candidateFlow 500 0).Reachable Free
        (.ended (some client) upstream dropped (some (2, 5))) ∧
      client.received = upstream.sent ∧ upstream.received = client.sent ∧
      client.received = [1, 2, 3, 4, 9] ∧ client.sent = [7, 8] := by
  obtain ⟨client, upstream, dropped, reached, down, up⟩ : ∃ client upstream dropped,
      (candidateFlow 500 0).Reachable Free
        (.ended (some client) upstream dropped (some (2, 5))) ∧
      client.received = [1, 2, 3, 4, 9] ∧ client.sent = [7, 8] :=
    ⟨_, _, _, System.reachable_of_replay
      [.iterate 1 10, .poll ⟨false, true, fun _ => false, fun _ => false, false⟩
          (.ok [1, 2, 3, 4]) .wouldBlock,
        .iterate 0 11, .poll (firstReady false true) .wouldBlock (.ok 2),
        .iterate 0 12, .poll (firstReady true true) (.ok [7, 8]) .wouldBlock,
        .handOver, .writeAll (.ok 9), .writeAll (.ok 9), .writeAll (.ok 9), .writeAll (.ok 9),
        .copyRead .streamer (.ok [9]), .copyWrite .quest (.ok 1),
        .copyRead .streamer (.ok []), .copyRead .quest (.ok []), .copyDone] rfl, rfl, rfl⟩
  have whole := (candidates_preserve_streams reached).1 client rfl
  obtain ⟨same, back, -, -⟩ := whole.2.2 2 5 rfl
  exact ⟨client, upstream, dropped, reached, same, back, down, up⟩

end QuestVdWired.Host
