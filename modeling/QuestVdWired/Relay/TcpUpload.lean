import QuestVdWired.Relay.TcpSelection

/-!
What the client sends is what the network gets: the relay writes a prefix of the client's bytes
and acknowledges no more than it has written, as long as a FIN does not leave its own payload
behind.
-/

namespace QuestVdWired.Relay
open Transition

/-- The client's bytes that were taken, written or not. -/
def taken (c : TcpConnection) : List UInt8 := c.written ++ c.clientToNetwork.contents

/-- The client sends one stream of bytes for each SYN: what it sends in its place continues the
bytes taken so far, its FIN comes after the last of them, and nothing comes after the FIN. -/
def FromStream (streams : Int32 → List UInt8) (c : TcpConnection) : TcpAction → Prop
  | .packet packet _ =>
      let rest := (streams c.synSequenceNumber).drop (taken c).length
      c.state ≠ none → packet.flags.syn = false → packet.sequenceNumber = c.expectedPacket →
        (c.finHandled = true → packet.payload = [] ∧ packet.flags.fin = false) ∧
        (c.finHandled = false →
          packet.payload <+: rest ∧ (packet.flags.fin = true → packet.payload = rest))
  | _ => True

/-- A FIN in its place brings no payload, or one that is buffered; a SYN that starts another
stream comes before anything of the first was taken. -/
def TakesWhole (c : TcpConnection) : TcpAction → Prop
  | .packet packet _ =>
      (c.state = some .synSent → packet.flags.syn = true →
        packet.sequenceNumber ≠ c.synSequenceNumber → taken c = [] ∧ c.finReceived = false) ∧
      (packet.flags.syn = false → packet.sequenceNumber = c.expectedPacket →
        packet.flags.fin = true → packet.payload = [] ∨ c.buffers packet = true)
  | _ => True

/-- What is acknowledged is written, the FIN after all the rest. -/
structure Acknowledged (streams : Int32 → List UInt8) (c : TcpConnection) : Prop where
  written : c.written <+: streams c.synSequenceNumber
  number : c.acknowledgementNumber =
    c.origin + Int32.ofNat c.written.length + if c.finHandled then 1 else 0
  fin : c.finHandled = true → c.written = streams c.synSequenceNumber
  origin : c.state ≠ none → c.origin = c.synSequenceNumber + 1

structure Uploads (streams : Int32 → List UInt8) (c : TcpConnection) : Prop where
  begins : taken c <+: streams c.synSequenceNumber
  number : c.acknowledgementNumber =
    c.origin + Int32.ofNat c.written.length + if c.finHandled then 1 else 0
  handled : c.finHandled = true → c.finReceived = true ∧ c.clientToNetwork.contents = []
  fin : c.finReceived = true → taken c = streams c.synSequenceNumber
  origin : c.state ≠ none → c.origin = c.synSequenceNumber + 1
  unwritten : c.state = some .synSent → c.written = []
  fresh : c.closed = false → c.state = none → taken c = [] ∧ c.finReceived = false
  writable : c.closed = false → c.ready.write = true →
    c.state ≠ none ∧ c.state ≠ some .synSent

/-- The connection moves on: it neither begins nor opens again, and asks to write no more. -/
structure Onward (c c' : TcpConnection) : Prop where
  begun : c'.state ≠ none → c.state ≠ none
  early : c'.state = some .synSent → c.state = some .synSent
  alive : c'.closed = false → c.closed = false ∧ (c'.state = none → c.state = none)
  ready : c'.ready.write = true → c.ready.write = true

section
variable {streams : Int32 → List UInt8} {c c' : TcpConnection} {packet : ClientPacket}
  {flags : Flags}

theorem Onward.keeps (state : c'.state = c.state) (closed : c'.closed = c.closed)
    (ready : c'.ready.write = c.ready.write) : Onward c c' := by
  refine ⟨?_, ?_, ?_, ?_⟩
  · rw [state]
    exact id
  · rw [state]
    exact id
  · rw [closed, state]
    exact fun live => ⟨live, id⟩
  · rw [ready]
    exact id

theorem Onward.moves {before after : TcpState} (here : c.state = some before)
    (there : c'.state = some after) (past : after ≠ .synSent) (closed : c'.closed = c.closed)
    (ready : c'.ready.write = c.ready.write) : Onward c c' := by
  refine ⟨?_, ?_, ?_, ?_⟩
  · simp [here]
  · intro early
    rw [there] at early
    cases early
    contradiction
  · simp [closed, there]
  · rw [ready]
    exact id

theorem Onward.closes (begun : c'.state ≠ none → c.state ≠ none)
    (early : c'.state = some .synSent → c.state = some .synSent) (closed : c'.closed = true)
    (ready : c'.ready.write = c.ready.write) : Onward c c' := by
  refine ⟨begun, early, ?_, ?_⟩
  · simp [closed]
  · rw [ready]
    exact id

/-- A step that moves no bytes. -/
theorem Uploads.same (u : Uploads streams c) (on : Onward c c') (written : c'.written = c.written)
    (buffer : c'.clientToNetwork = c.clientToNetwork)
    (number : c'.acknowledgementNumber = c.acknowledgementNumber)
    (origin : c'.origin = c.origin) (handled : c'.finHandled = c.finHandled)
    (received : c'.finReceived = c.finReceived)
    (syn : c'.synSequenceNumber = c.synSequenceNumber) : Uploads streams c' := by
  have same : taken c' = taken c := by rw [taken, taken, written, buffer]
  refine ⟨?_, ?_, ?_, ?_, ?_, ?_, ?_, ?_⟩
  · rw [same, syn]
    exact u.begins
  · rw [number, origin, written, handled]
    exact u.number
  · rw [handled, received, buffer]
    exact u.handled
  · rw [received, same, syn]
    exact u.fin
  · rw [origin, syn]
    exact fun begun => u.origin (on.begun begun)
  · rw [written]
    exact fun early => u.unwritten (on.early early)
  · rw [same, received]
    exact fun live none => u.fresh (on.alive live).1 ((on.alive live).2 none)
  · intro live ready
    obtain ⟨begun, connected⟩ := u.writable (on.alive live).1 (on.ready ready)
    exact ⟨fun none => begun ((on.alive live).2 none), fun early => connected (on.early early)⟩

theorem Uploads.updateInterests (u : Uploads streams c) : Uploads streams c.updateInterests := by
  unfold TcpConnection.updateInterests
  split
  · exact u
  · exact u.same (.keeps rfl rfl rfl) rfl rfl rfl rfl rfl rfl rfl

theorem Uploads.sendEmptyPacketToClient (u : Uploads streams c) :
    Uploads streams (c.sendEmptyPacketToClient flags) := by
  apply u.same (.keeps _ _ _) <;> simp

theorem Uploads.resetConnection (u : Uploads streams c) : Uploads streams c.resetConnection := by
  apply u.same (.closes _ _ _ _) <;> simp [TcpConnection.resetConnection, TcpConnection.close]

theorem Uploads.close (u : Uploads streams c) : Uploads streams c.close :=
  u.same (.closes id id rfl rfl) rfl rfl rfl rfl rfl rfl rfl

/-- The FIN is acknowledged once, after everything else. -/
theorem Uploads.doHandleFin (u : Uploads streams c) (unhandled : c.finHandled = false)
    (received : c.finReceived = true) (empty : c.clientToNetwork.contents = []) :
    Uploads streams c.doHandleFin := by
  have start : Uploads streams
      { c with acknowledgementNumber := c.acknowledgementNumber + 1, finHandled := true } := by
    refine ⟨u.begins, ?_, fun _ => ⟨received, empty⟩, u.fin, u.origin, u.unwritten, u.fresh,
      u.writable⟩
    simp [u.number, unhandled]
  unfold TcpConnection.doHandleFin
  dsimp only
  split
  · rename_i here
    apply start.same (@Onward.moves _ _ .established .lastAck _ _ _ _ _) <;> simp [here]
  · rename_i here
    apply start.same (@Onward.moves _ _ .finWait1 .closing _ _ _ _ _) <;> simp [here]
  · exact start.sendEmptyPacketToClient.close
  · exact start

/-- A payload that is buffered goes to the end of what was taken. -/
theorem takePayload_buffers (buffered : c.buffers packet = true) :
    packet.payload ≠ [] ∧
      c.takePayload packet =
        { c with clientToNetwork := c.clientToNetwork.readFrom packet.payload } ∧
      taken (c.takePayload packet) = taken c ++ packet.payload := by
  have eq := @TcpConnection.takePayload_eq c packet
  simp only [buffered, if_true] at eq
  simp only [TcpConnection.buffers, Bool.and_eq_true, decide_eq_true_eq] at buffered
  obtain ⟨⟨⟨_, past⟩, some⟩, fits⟩ := buffered
  rw [if_neg (by simp [past])] at eq
  refine ⟨some, eq, ?_⟩
  rw [eq, taken, taken, List.append_assoc, StreamBuffer.contents_readFrom,
    List.take_of_length_le fits]

theorem onward_takePayload : Onward c (c.takePayload packet) := by
  rw [TcpConnection.takePayload_eq]
  by_cases answers : packet.flags.ack = true ∧ c.state = some .synReceived
  · apply @Onward.moves _ _ .synReceived .established <;> simp [answers]
  · refine .keeps (if_neg ?_) rfl rfl
    simpa using answers

theorem Uploads.takePayload (u : Uploads streams c) (begun : c.state ≠ none)
    (continues : c.buffers packet = true →
      c.finHandled = false ∧
        packet.payload <+: (streams c.synSequenceNumber).drop (taken c).length) :
    Uploads streams (c.takePayload packet) := by
  by_cases buffered : c.buffers packet = true
  · obtain ⟨unhandled, payload⟩ := continues buffered
    obtain ⟨some, eq, more⟩ := takePayload_buffers buffered
    have unreceived : c.finReceived ≠ true := by
      intro received
      rw [u.fin received, List.drop_length] at payload
      exact some (List.prefix_nil.mp payload)
    rw [eq] at more ⊢
    refine ⟨?_, u.number, ?_, fun received => absurd received unreceived, u.origin, u.unwritten,
      fun _ none => absurd none begun, u.writable⟩
    · rw [more]
      obtain ⟨rest, whole⟩ := u.begins
      obtain ⟨later, split⟩ := payload
      rw [← whole, List.drop_left] at split
      exact ⟨later, by rw [List.append_assoc, split, whole]⟩
    · intro handled
      exact absurd (u.handled handled).1 unreceived
  · apply u.same onward_takePayload <;>
      simp [TcpConnection.takePayload_eq, buffered]

theorem Uploads.handleFin (u : Uploads streams c) (begun : c.state ≠ none)
    (unhandled : c.finHandled = false) (last : taken c = streams c.synSequenceNumber) :
    Uploads streams c.handleFin := by
  have start : Uploads streams { c with finReceived := true } :=
    ⟨u.begins, u.number, fun handled => ⟨rfl, (u.handled handled).2⟩, fun _ => last, u.origin,
      u.unwritten, fun _ none => absurd none begun, u.writable⟩
  unfold TcpConnection.handleFin
  dsimp only
  split
  · rename_i empty
    exact start.doHandleFin unhandled rfl ((StreamBuffer.isEmpty_iff _).mp empty)
  · exact start

theorem Uploads.takeFinAck (u : Uploads streams c) : Uploads streams (c.takeFinAck packet) := by
  unfold TcpConnection.takeFinAck
  split
  · split
    · unfold TcpConnection.handleFinAck
      split
      · exact u.close
      · exact u.close
      · rename_i here
        exact u.same (.moves here rfl nofun rfl rfl)
          rfl rfl rfl rfl rfl rfl rfl
      · exact u
    · exact u
  · exact u

/-- The whole of a packet in its place. -/
theorem Uploads.takeFin (u : Uploads streams c) (begun : c.state ≠ none)
    (after : c.finHandled = true → packet.payload = [] ∧ packet.flags.fin = false)
    (sent : c.finHandled = false →
      packet.payload <+: (streams c.synSequenceNumber).drop (taken c).length ∧
        (packet.flags.fin = true →
          packet.payload = (streams c.synSequenceNumber).drop (taken c).length))
    (whole : packet.flags.fin = true → packet.payload = [] ∨ c.buffers packet = true) :
    Uploads streams ((c.takePayload packet).takeFin packet) := by
  have payload : Uploads streams (c.takePayload packet) := by
    refine u.takePayload begun fun buffered => ?_
    cases handled : c.finHandled with
    | true => exact absurd (after handled).1 (takePayload_buffers buffered).1
    | false => exact ⟨rfl, (sent handled).1⟩
  unfold TcpConnection.takeFin
  split
  · rename_i fin
    have unhandled : c.finHandled = false := by
      apply Bool.eq_false_iff.mpr
      intro handled
      exact nomatch (after handled).2.symm.trans fin
    have rest := (sent unhandled).2 fin
    refine payload.handleFin ?_ ?_ ?_
    · rw [TcpConnection.takePayload_eq]
      dsimp only
      split
      · exact nofun
      · exact begun
    · rw [TcpConnection.takePayload_eq]
      exact unhandled
    · have syn : (c.takePayload packet).synSequenceNumber = c.synSequenceNumber := by
        rw [TcpConnection.takePayload_eq]
      obtain ⟨later, split⟩ := u.begins
      rw [← split, List.drop_left] at rest
      rw [syn]
      by_cases buffered : c.buffers packet = true
      · rw [(takePayload_buffers buffered).2.2, rest, split]
      · have none := (whole fin).resolve_right buffered
        have same : taken (c.takePayload packet) = taken c := by
          simp [TcpConnection.takePayload_eq, buffered, taken]
        rw [same, ← split, ← rest, none, List.append_nil]
  · exact payload

theorem Uploads.handlePacket {nextInt : Int32} (u : Uploads streams c) (begun : c.state ≠ none)
    (sent : FromStream streams c (.packet packet nextInt))
    (whole : TakesWhole c (.packet packet nextInt)) :
    Uploads streams (c.handlePacket packet nextInt) := by
  have window : Uploads streams (c.takeWindow packet) :=
    u.same (.keeps rfl rfl rfl) rfl rfl rfl rfl rfl rfl rfl
  rw [TcpConnection.handlePacket_eq begun]
  split
  · rename_i syn
    unfold TcpConnection.handleDuplicateSyn
    split
    · rename_i early
      have unwritten := u.unwritten early
      by_cases again : packet.sequenceNumber = c.synSequenceNumber
      · rw [again]
        exact ⟨u.begins, by simp [unwritten], nofun, u.fin, fun _ => rfl, u.unwritten, u.fresh,
          u.writable⟩
      · obtain ⟨none, unreceived⟩ := whole.1 early syn again
        refine ⟨?_, by simp [unwritten], nofun, ?_, fun _ => rfl, u.unwritten, u.fresh, u.writable⟩
        · change taken c <+: _
          rw [none]
          exact List.nil_prefix
        · intro received
          exact absurd received (by simp [unreceived])
    · split
      · exact u.resetConnection
      · exact u
  · rename_i syn
    have syn := Bool.eq_false_iff.mpr syn
    split
    · exact u
    · rename_i place
      have place := Decidable.not_not.mp place
      split
      · exact window.close
      · have sent := sent begun syn place
        exact (window.takeFin begun sent.1 sent.2 (whole.2 syn place)).takeFinAck

theorem Uploads.first {nextInt : Int32} (u : Uploads streams c) (live : c.closed = false)
    (begins : c.state = none) : Uploads streams (c.handlePacket packet nextInt) := by
  obtain ⟨none, unreceived⟩ := u.fresh live begins
  unfold TcpConnection.handlePacket
  rw [if_pos begins]
  unfold TcpConnection.handleFirstPacket
  split
  · have unwritten : c.written = [] := (List.append_eq_nil_iff.mp none).1
    refine ⟨?_, by simp [unwritten], nofun, ?_, fun _ => rfl, fun _ => unwritten, nofun, ?_⟩
    · change taken c <+: _
      rw [none]
      exact List.nil_prefix
    · intro received
      exact absurd received (by simp [unreceived])
    · intro _ ready
      exact absurd begins (u.writable live ready).1
  · refine Uploads.resetConnection ?_
    exact u.same (.keeps rfl rfl rfl) rfl rfl rfl rfl rfl rfl rfl

theorem Uploads.processSend {result : WriteResult} (u : Uploads streams c)
    (connected : c.state ≠ none ∧ c.state ≠ some .synSent)
    (sent : c.processSend result = some c') : Uploads streams c' := by
  unfold TcpConnection.processSend at sent
  split at sent
  · rename_i w
    split at sent
    · rename_i offered
      split at sent
      · rename_i some
        cases sent
        have contents := c.clientToNetwork.contents_writeTo offered
        have same : c.written ++ c.clientToNetwork.contents.take w ++
            (c.clientToNetwork.writeTo w).contents = taken c := by
          rw [contents, List.append_assoc, List.take_append_drop, taken]
        have short : w ≤ c.clientToNetwork.size :=
          Nat.le_trans offered c.clientToNetwork.chunk_le_size
        have unhandled : c.finHandled = false := by
          cases handled : c.finHandled with
          | false => rfl
          | true =>
              have empty := congrArg List.length (u.handled handled).2
              rw [StreamBuffer.contents_length, List.length_nil] at empty
              omega
        have sent : Uploads streams
            { c with
              clientToNetwork := c.clientToNetwork.writeTo w
              acknowledgementNumber := c.acknowledgementNumber + Int32.ofNat w
              written := c.written ++ c.clientToNetwork.contents.take w } := by
          refine ⟨?_, ?_, ?_, ?_, u.origin, fun early => absurd early connected.2,
            fun _ none => absurd none connected.1, u.writable⟩
          · rw [taken, same]
            exact u.begins
          · simp [u.number, unhandled, Nat.min_eq_left short, Int32.ofNat_add, Int32.add_assoc]
          · exact fun handled => absurd handled (by simp [unhandled])
          · rw [taken, same]
            exact u.fin
        split
        · rename_i last
          simp only [Bool.and_eq_true] at last
          exact sent.doHandleFin unhandled last.1 ((StreamBuffer.isEmpty_iff _).mp last.2)
        · exact sent.sendEmptyPacketToClient
      · cases sent
        exact u.close
    · cases sent
  · cases sent
    exact u.resetConnection

theorem Uploads.offerPacket (u : Uploads streams c) : Uploads streams c.offerPacket := by
  unfold TcpConnection.offerPacket
  rw [TcpConnection.sendToClient_eq]
  by_cases full : c.get.room < c.get.networkToClient.rawLength
  · simp only [full, not_true_eq_false, decide_false]
    exact u.same (.keeps rfl rfl rfl) rfl rfl rfl rfl rfl rfl rfl
  · simp only [full, not_false_eq_true, decide_true]
    apply Uploads.updateInterests
    exact u.same (.keeps rfl rfl rfl) rfl rfl rfl rfl rfl rfl rfl

theorem Uploads.processReceive {result : ReadResult} (u : Uploads streams c)
    (begun : c.state ≠ none) (received : c.processReceive result = some c') :
    Uploads streams c' := by
  unfold TcpConnection.processReceive at received
  split at received
  · split at received
    · cases received
      apply Uploads.offerPacket
      exact u.same (.keeps rfl rfl rfl) rfl rfl rfl rfl rfl rfl rfl
    · cases received
  · cases received
    obtain ⟨before, here⟩ := Option.ne_none_iff_exists'.mp begun
    apply u.same (@Onward.moves _ _ _
      (if c.state = some .closeWait then .lastAck else .finWait1) here _ _ _ _) <;>
      simp [TcpConnection.eof]
    split <;> simp
  · cases received
    exact u.resetConnection

theorem Uploads.processConnect {finished : Bool} (u : Uploads streams c)
    (early : c.state = some .synSent) : Uploads streams (c.processConnect finished) := by
  unfold TcpConnection.processConnect
  split
  · apply u.same (@Onward.moves _ _ _ .synReceived early _ _ _ _) <;> simp
  · exact u.close

theorem Uploads.step {action : TcpAction} (u : Uploads streams c) (polled : Polled c)
    (sent : FromStream streams c action) (whole : TakesWhole c action)
    (taken : c.step action = some c') : Uploads streams c' := by
  unfold TcpConnection.step at taken
  split at taken
  · split at taken
    · cases taken
    · rename_i open'
      cases taken
      apply Uploads.updateInterests
      by_cases begins : c.state = none
      · exact u.first (Bool.eq_false_iff.mpr open') begins
      · exact u.handlePacket begins sent whole
  · cases taken
    exact u.same (.keeps rfl rfl rfl) rfl rfl rfl rfl rfl rfl rfl
  · split at taken
    · cases taken
      exact u.offerPacket
    · cases taken
  · split at taken
    · rename_i found
      cases taken
      simp only [Bool.and_eq_true, Bool.not_eq_true'] at found
      obtain ⟨⟨⟨_, some⟩, _⟩, connected⟩ := found
      refine ⟨u.begins, u.number, u.handled, u.fin, u.origin, u.unwritten, u.fresh, ?_⟩
      intro _ writes
      refine ⟨Option.isSome_iff_ne_none.mp some, fun early => ?_⟩
      have early : c.state = Option.some .synSent := early
      simp only [early, decide_true, Bool.and_true] at connected
      exact nomatch connected.symm.trans writes
    · cases taken
  · cases taken
    split
    · rename_i connects
      simp only [Bool.and_eq_true, Bool.not_eq_true'] at connects
      have early := (polled.ready connects.1).2 connects.2
      exact (u.processConnect early).same (.keeps rfl rfl rfl) rfl rfl rfl rfl rfl rfl rfl
    · exact u.same (.keeps rfl rfl rfl) rfl rfl rfl rfl rfl rfl rfl
  · split at taken
    · rename_i reads
      simp only [Bool.and_eq_true, Bool.not_eq_true'] at reads
      obtain ⟨state, here, _⟩ := ((polled.ready reads.1).1 reads.2).2
      obtain ⟨after, received, rfl⟩ := Option.map_eq_some_iff.mp taken
      have after' := u.processReceive (by simp [here]) received
      exact after'.same (.keeps rfl rfl rfl) rfl rfl rfl rfl rfl rfl rfl
    · cases taken
      exact u.same (.keeps rfl rfl rfl) rfl rfl rfl rfl rfl rfl rfl
  · split at taken
    · rename_i writes
      simp only [Bool.and_eq_true, Bool.not_eq_true'] at writes
      obtain ⟨after, sent, rfl⟩ := Option.map_eq_some_iff.mp taken
      have after' := u.processSend (u.writable writes.1 writes.2) sent
      apply Uploads.updateInterests
      exact after'.same ⟨id, id, fun live => ⟨live, id⟩, nofun⟩ rfl rfl rfl rfl rfl rfl rfl
    · cases taken
      apply Uploads.updateInterests
      exact u.same ⟨id, id, fun live => ⟨live, id⟩, nofun⟩ rfl rfl rfl rfl rfl rfl rfl
  · cases taken

/-- While every FIN is taken with its payload, the relay writes a prefix of the client's bytes
and acknowledges what it has written, and the FIN only when that is all. -/
theorem upload_acknowledged {room : Nat}
    (reached : (tcpSystem room).Reachable
      (fun c action => FromStream streams c action ∧ TakesWhole c action) c) :
    Acknowledged streams c := by
  have start : Uploads streams (TcpConnection.initial room) :=
    ⟨List.nil_prefix, rfl, nofun, nofun, fun begun => absurd rfl begun, nofun,
      fun _ _ => ⟨rfl, rfl⟩, nofun⟩
  have run := reached.invariant (I := fun c => Polled c ∧ Uploads streams c)
    ⟨polled_initial room, start⟩ ?_
  · obtain ⟨_, u⟩ := run
    refine ⟨List.IsPrefix.trans ⟨_, rfl⟩ u.begins, u.number, ?_, u.origin⟩
    intro handled
    obtain ⟨received, empty⟩ := u.handled handled
    have whole := u.fin received
    rwa [taken, empty, List.append_nil] at whole
  · rintro c action c' ⟨polled, u⟩ ⟨sent, whole⟩ taken
    exact ⟨polled.step taken, u.step polled sent whole taken⟩

end

/-! A client that sends one byte. -/

namespace Uploaded

def stream : Int32 → List UInt8 := fun _ => [7]

def fromClient (flags : Flags) (sequenceNumber : Int32) (payload : List UInt8) : TcpAction :=
  .packet ⟨flags, sequenceNumber, 101, 1000, payload⟩ 100

/-- SYN, and the network's answer. -/
def connected : List TcpAction :=
  [fromClient { syn := true } 10 [], .select { connect := true }, .connect true, .receive .eof,
    .send .failed]

/-- The handshake's ACK, then the byte with the FIN, and the write of it. -/
def uploaded : List TcpAction :=
  connected ++ [fromClient { ack := true } 11 [], fromClient { ack := true, fin := true } 11 [7],
    .select { write := true }, .connect true, .receive .eof, .send (.written 1)]

end Uploaded

section
variable (streams : Int32 → List UInt8) (c : TcpConnection)

instance : ∀ action, Decidable (FromStream streams c action)
  | .packet _ _ => inferInstanceAs (Decidable (_ → _ → _ → _ ∧ _))
  | .clientBuffer _ | .processPending | .select _ | .connect _ | .receive _ | .send _ =>
      inferInstanceAs (Decidable True)

instance : ∀ action, Decidable (TakesWhole c action)
  | .packet _ _ => inferInstanceAs (Decidable (_ ∧ _))
  | .clientBuffer _ | .processPending | .select _ | .connect _ | .receive _ | .send _ =>
      inferInstanceAs (Decidable True)

end

/-- The byte is written, then the FIN acknowledged. -/
theorem upload_acknowledged_byte :
    ∃ c, (tcpSystem 1000).Reachable
        (fun c action => FromStream Uploaded.stream c action ∧ TakesWhole c action) c ∧
      c.written = [7] ∧ c.acknowledgementNumber = 13 ∧ Acknowledged Uploaded.stream c := by
  obtain ⟨c, run, written, number⟩ :
      ∃ c, (tcpSystem 1000).Reachable
          (fun c action => FromStream Uploaded.stream c action ∧ TakesWhole c action) c ∧
        c.written = [7] ∧ c.acknowledgementNumber = 13 :=
    ⟨_, System.reachable_of_replay Uploaded.uploaded rfl, rfl, rfl⟩
  exact ⟨c, run, written, number, upload_acknowledged run⟩

/-- The byte comes with the handshake's ACK and the FIN: it is not buffered, and the FIN
acknowledges its place. -/
theorem fin_acknowledges_dropped_byte :
    ∃ c, (tcpSystem 1000).Reachable (FromStream Uploaded.stream) c ∧
      c.state = some .lastAck ∧ c.acknowledgementNumber = 12 ∧ taken c = [] ∧
      ¬ Acknowledged Uploaded.stream c := by
  obtain ⟨c, run, state, number, none, handled⟩ :
      ∃ c, (tcpSystem 1000).Reachable (FromStream Uploaded.stream) c ∧
        c.state = some .lastAck ∧ c.acknowledgementNumber = 12 ∧ taken c = [] ∧
        c.finHandled = true :=
    ⟨_, System.reachable_of_replay (Uploaded.connected ++
      [Uploaded.fromClient { ack := true, fin := true } 11 [7]]) rfl, rfl, rfl, rfl, rfl⟩
  refine ⟨c, run, state, number, none, fun acknowledged => ?_⟩
  have written := acknowledged.fin handled
  rw [(List.append_eq_nil_iff.mp none).1] at written
  cases written

end QuestVdWired.Relay
