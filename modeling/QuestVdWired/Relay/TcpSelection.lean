import QuestVdWired.Relay.TcpConnection

/-!
What the selector finds ready was asked for, and is still wanted when it is handled: a read only
while nothing waits for the client, a connect only before the network has answered.
-/

namespace QuestVdWired.Relay

def Connected (c : TcpConnection) : Prop :=
  ∃ state, c.state = some state ∧ state.isConnected = true

/-- A part of the handling that neither selects nor offers the waiting packet. -/
structure Continues (c c' : TcpConnection) : Prop where
  waits : c'.packetForClient = c.packetForClient
  ready : c'.ready.read = c.ready.read ∧ c'.ready.connect = c.ready.connect
  stays : c.closed = true → c'.closed = true
  connected : Connected c → c'.closed = true ∨ Connected c'
  connecting : c.state = some .synSent → c'.closed = true ∨ c'.state = some .synSent
  begun : c.state ≠ none → c'.closed = true ∨ c'.state ≠ none

namespace Continues
variable {c c' c'' : TcpConnection} {flags : Flags} {packet : ClientPacket}

theorem refl (c : TcpConnection) : Continues c c :=
  ⟨rfl, ⟨rfl, rfl⟩, id, .inr, .inr, .inr⟩

theorem trans (first : Continues c c') (second : Continues c' c'') : Continues c c'' where
  waits := second.waits.trans first.waits
  ready := ⟨second.ready.1.trans first.ready.1, second.ready.2.trans first.ready.2⟩
  stays closed := second.stays (first.stays closed)
  connected before := (first.connected before).elim (.inl ∘ second.stays) second.connected
  connecting before := (first.connecting before).elim (.inl ∘ second.stays) second.connecting
  begun before := (first.begun before).elim (.inl ∘ second.stays) second.begun

theorem close (waits : c'.packetForClient = c.packetForClient)
    (ready : c'.ready.read = c.ready.read ∧ c'.ready.connect = c.ready.connect)
    (closed : c'.closed = true) : Continues c c' :=
  ⟨waits, ready, fun _ => closed, fun _ => .inl closed, fun _ => .inl closed,
    fun _ => .inl closed⟩

theorem keeps (waits : c'.packetForClient = c.packetForClient)
    (ready : c'.ready.read = c.ready.read ∧ c'.ready.connect = c.ready.connect)
    (closed : c'.closed = c.closed) (state : c'.state = c.state) : Continues c c' := by
  refine ⟨waits, ready, fun before => closed.trans before, ?_, ?_, ?_⟩
  · rintro ⟨before, here, connected⟩
    exact .inr ⟨before, state.trans here, connected⟩
  · exact fun here => .inr (state.trans here)
  · exact fun here => .inr (by rwa [state])

theorem moves {before after : TcpState} (waits : c'.packetForClient = c.packetForClient)
    (ready : c'.ready.read = c.ready.read ∧ c'.ready.connect = c.ready.connect)
    (closed : c'.closed = c.closed) (here : c.state = some before) (past : before ≠ .synSent)
    (there : c'.state = some after) (connected : after.isConnected = true) : Continues c c' := by
  refine ⟨waits, ready, fun shut => closed.trans shut, ?_, ?_, ?_⟩
  · exact fun _ => .inr ⟨after, there, connected⟩
  · intro early
    rw [here] at early
    cases early
    contradiction
  · exact fun _ => .inr (by simp [there])

theorem resetConnection : Continues c c.resetConnection := by
  apply close <;> simp [TcpConnection.resetConnection, TcpConnection.close]

theorem doHandleFin : Continues c c.doHandleFin := by
  unfold TcpConnection.doHandleFin
  dsimp only
  split
  · rename_i here
    apply @moves _ _ .established .lastAck <;> simp [here, TcpState.isConnected]
  · rename_i here
    apply @moves _ _ .finWait1 .closing <;> simp [here, TcpState.isConnected]
  · apply close <;> simp [TcpConnection.close]
  · exact keeps rfl ⟨rfl, rfl⟩ rfl rfl

theorem takeFin : Continues c (c.takeFin packet) := by
  unfold TcpConnection.takeFin
  split
  · have received : Continues c { c with finReceived := true } := keeps rfl ⟨rfl, rfl⟩ rfl rfl
    unfold TcpConnection.handleFin
    dsimp only
    split
    · exact received.trans doHandleFin
    · exact received
  · exact refl c

theorem takeFinAck : Continues c (c.takeFinAck packet) := by
  unfold TcpConnection.takeFinAck
  split
  · split
    · unfold TcpConnection.handleFinAck
      split
      · exact close rfl ⟨rfl, rfl⟩ rfl
      · exact close rfl ⟨rfl, rfl⟩ rfl
      · rename_i here
        exact moves rfl ⟨rfl, rfl⟩ rfl here nofun rfl rfl
      · exact refl c
    · exact refl c
  · exact refl c

theorem takePayload : Continues c (c.takePayload packet) := by
  rw [TcpConnection.takePayload_eq]
  by_cases early : c.state = some .synReceived
  · by_cases ack : packet.flags.ack = true
    · apply @moves _ _ .synReceived .established <;>
        simp [early, ack, TcpState.isConnected]
    · apply keeps <;> simp [ack]
  · apply keeps <;> simp [early]

theorem handlePacket {nextInt : Int32} (begun : c.state ≠ none) :
    Continues c (c.handlePacket packet nextInt) := by
  have window : Continues c (c.takeWindow packet) := keeps rfl ⟨rfl, rfl⟩ rfl rfl
  rw [TcpConnection.handlePacket_eq begun]
  split
  · unfold TcpConnection.handleDuplicateSyn
    split
    · exact keeps rfl ⟨rfl, rfl⟩ rfl rfl
    · split
      · exact resetConnection
      · exact refl c
  · split
    · exact refl c
    · split
      · exact close rfl ⟨rfl, rfl⟩ rfl
      · exact ((window.trans takePayload).trans takeFin).trans takeFinAck

theorem processSend {result : WriteResult} (taken : c.processSend result = some c') :
    Continues c c' := by
  unfold TcpConnection.processSend at taken
  split at taken
  · split at taken
    · split at taken
      · cases taken
        split
        · refine trans ?_ doHandleFin
          exact keeps rfl ⟨rfl, rfl⟩ rfl rfl
        · apply keeps <;> simp
      · cases taken
        exact close rfl ⟨rfl, rfl⟩ rfl
    · cases taken
  · cases taken
    exact resetConnection

end Continues

/-- Between two turns of the handler the interests, and always what is still to be handled,
are those of the state: a read is wanted only while nothing waits. -/
structure Polled (c : TcpConnection) : Prop where
  fresh : c.closed = false → c.state = none → c.offers = [] ∧ c.packetForClient = false
  waits : c.closed = false → c.packetForClient = true → Connected c
  interests : c.closed = false → c.stage = .connect →
    (c.interests.read = true → c.packetForClient = false ∧ Connected c) ∧
      (c.interests.connect = true → c.state = none ∨ c.state = some .synSent)
  ready : c.closed = false →
    (c.ready.read = true → c.packetForClient = false ∧ Connected c) ∧
      (c.ready.connect = true → c.state = some .synSent)
  begun : c.closed = false → c.ready.write = true → c.state ≠ none

namespace Polled
variable {c c' : TcpConnection}

theorem updateInterests
    (fresh : c.closed = false → c.state = none → c.offers = [] ∧ c.packetForClient = false)
    (waits : c.closed = false → c.packetForClient = true → Connected c)
    (ready : c.closed = false →
      (c.ready.read = true → c.packetForClient = false ∧ Connected c) ∧
        (c.ready.connect = true → c.state = some .synSent))
    (begun : c.closed = false → c.ready.write = true → c.state ≠ none) :
    Polled c.updateInterests := by
  unfold TcpConnection.updateInterests
  split
  · rename_i closed
    refine ⟨fresh, waits, ?_, ready, begun⟩
    intro alive
    rw [closed] at alive
    cases alive
  · refine ⟨fresh, waits, ?_, ready, begun⟩
    intro _ _
    constructor
    · intro reads
      simp only [TcpConnection.mayRead] at reads
      split at reads
      · cases reads
      · rename_i state here
        simp only [Bool.and_eq_true, Bool.not_eq_true'] at reads
        exact ⟨reads.1.2, state, here, reads.1.1.1⟩
    · intro connects
      exact .inr (of_decide_eq_true connects)

/-- A connection whose first packet has come, after a part of the handling. -/
theorem continues (p : Polled c) (on : Continues c c') (begun : c.state ≠ none) :
    Polled c'.updateInterests := by
  have alive (live : c'.closed = false) : c.closed = false := by
    cases closed : c.closed with
    | false => rfl
    | true => exact absurd (on.stays closed) (by simp [live])
  have stays (live : c'.closed = false) (connected : Connected c) : Connected c' :=
    (on.connected connected).resolve_left (by simp [live])
  apply updateInterests
  · exact fun live none => absurd none ((on.begun begun).resolve_left (by simp [live]))
  · intro live waits
    rw [on.waits] at waits
    exact stays live (p.waits (alive live) waits)
  · intro live
    obtain ⟨reads, connects⟩ := p.ready (alive live)
    rw [on.ready.1, on.ready.2, on.waits]
    refine ⟨fun read => ⟨(reads read).1, stays live (reads read).2⟩, fun connect => ?_⟩
    exact (on.connecting (connects connect)).resolve_left (by simp [live])
  · exact fun live _ => (on.begun begun).resolve_left (by simp [live])

theorem idle_of_connecting (p : Polled c) (live : c.closed = false)
    (connecting : c.state = some .synSent) : c.packetForClient = false := by
  cases waits : c.packetForClient with
  | false => rfl
  | true =>
      obtain ⟨state, here, connected⟩ := p.waits live waits
      rw [connecting] at here
      cases here
      cases connected

/-- A connected connection has nothing to connect, and nothing to read while a packet waits. -/
theorem unready (p : Polled c) (live : c.closed = false) (connected : Connected c) :
    c.ready.connect = false ∧ (c.packetForClient = true → c.ready.read = false) := by
  obtain ⟨reads, connects⟩ := p.ready live
  constructor
  · cases connect : c.ready.connect with
    | false => rfl
    | true =>
        obtain ⟨state, here, connected⟩ := connected
        rw [connects connect] at here
        cases here
        cases connected
  · intro waits
    cases read : c.ready.read with
    | false => rfl
    | true =>
        rw [(reads read).1] at waits
        cases waits

/-- Within the selection handler the interests do not count. -/
theorem handling (busy : c.stage ≠ .connect) (connected : c.closed = false → Connected c)
    (unread : c.closed = false → c.ready.read = false ∧ c.ready.connect = false) : Polled c where
  fresh live none := by
    obtain ⟨state, here, _⟩ := connected live
    rw [none] at here
    cases here
  waits live _ := connected live
  interests _ outside := absurd outside busy
  ready live := by simp [unread live]
  begun live _ none := by
    obtain ⟨state, here, _⟩ := connected live
    rw [none] at here
    cases here

theorem first {packet : ClientPacket} {nextInt : Int32} (p : Polled c) (live : c.closed = false)
    (begins : c.state = none) : Polled (c.sendToNetwork packet nextInt) := by
  obtain ⟨reads, connects⟩ := p.ready live
  unfold TcpConnection.sendToNetwork TcpConnection.handlePacket
  rw [if_pos begins]
  apply updateInterests
  · unfold TcpConnection.handleFirstPacket
    split
    · exact fun _ none => nomatch none
    · exact fun live => nomatch live
  · unfold TcpConnection.handleFirstPacket
    split
    · intro _ waits
      rw [(p.fresh live begins).2] at waits
      cases waits
    · exact fun live => nomatch live
  · unfold TcpConnection.handleFirstPacket
    split
    · intro _
      refine ⟨fun read => ?_, fun _ => rfl⟩
      obtain ⟨state, here, _⟩ := (reads read).2
      rw [begins] at here
      cases here
    · exact fun live => nomatch live
  · unfold TcpConnection.handleFirstPacket
    split
    · exact fun _ _ none => nomatch none
    · exact fun live => nomatch live

end Polled

/-- Offering the waiting packet leaves the connection where it is. -/
theorem Polled.offerPacket {c : TcpConnection}
    (connected : c.closed = false → Connected c)
    (interests : c.closed = false → c.stage = .connect →
      (c.interests.read = true → c.packetForClient = false ∧ Connected c) ∧
        (c.interests.connect = true → c.state = none ∨ c.state = some .synSent))
    (unread : c.closed = false → c.ready.read = false ∧ c.ready.connect = false) :
    Polled c.offerPacket := by
  have begun (live : c.closed = false) : c.state ≠ none := by
    obtain ⟨state, here, _⟩ := connected live
    simp [here]
  have idle (live : c.closed = false) {A B : Prop} :
      (c.ready.read = true → A) ∧ (c.ready.connect = true → B) := by
    simp [unread live]
  unfold TcpConnection.offerPacket
  rw [TcpConnection.sendToClient_eq]
  by_cases full : c.get.room < c.get.networkToClient.rawLength
  · simp only [full, not_true_eq_false, decide_false]
    exact ⟨fun live none => absurd none (begun live), fun live _ => connected live, interests,
      fun live => idle live, fun live _ => begun live⟩
  · simp only [full, not_false_eq_true, decide_true]
    apply Polled.updateInterests
    · exact fun live none => absurd none (begun live)
    · exact fun _ waits => nomatch waits
    · exact fun live => idle live
    · exact fun live _ => begun live

theorem offerPacket_where (c : TcpConnection) :
    c.offerPacket.state = c.state ∧ c.offerPacket.closed = c.closed ∧
      c.offerPacket.ready = c.ready := by
  unfold TcpConnection.offerPacket
  rw [TcpConnection.sendToClient_eq]
  by_cases full : c.get.room < c.get.networkToClient.rawLength
  · simp only [full, not_true_eq_false, decide_false]
    exact ⟨rfl, rfl, rfl⟩
  · simp only [full, not_false_eq_true, decide_true, TcpConnection.next,
      TcpConnection.updateInterests]
    split <;> exact ⟨rfl, rfl, rfl⟩

/-- After a read the connection is connected, or closed. -/
theorem connected_processReceive {c c' : TcpConnection} {result : ReadResult}
    (connected : Connected c) (taken : c.processReceive result = some c') :
    (c'.closed = false → Connected c') ∧ c'.ready = c.ready := by
  unfold TcpConnection.processReceive at taken
  split at taken
  · split at taken
    · cases taken
      obtain ⟨state, closed, ready⟩ := offerPacket_where
        { c with
          networkToClient :=
            ⟨{ psh := true, ack := true }, c.sequenceNumber, c.acknowledgementNumber, _⟩
          packetForClient := true
          received := c.received ++ _ }
      refine ⟨fun _ => ?_, ready⟩
      rw [Connected, state]
      exact connected
    · cases taken
  · cases taken
    refine ⟨fun _ => ⟨_, rfl, ?_⟩, by simp [TcpConnection.eof]⟩
    split <;> rfl
  · cases taken
    exact ⟨nofun, by simp [TcpConnection.resetConnection, TcpConnection.close]⟩

section Runs
variable {c c' : TcpConnection}

theorem Polled.packet {packet : ClientPacket} {nextInt : Int32} (p : Polled c)
    (live : c.closed = false) : Polled (c.sendToNetwork packet nextInt) := by
  by_cases begins : c.state = none
  · exact p.first live begins
  · exact p.continues (.handlePacket begins) begins

theorem Polled.processPending (p : Polled c) (waits : c.packetForClient = true) :
    Polled c.offerPacket := by
  refine Polled.offerPacket (fun live => p.waits live waits) p.interests ?_
  intro live
  obtain ⟨connect, read⟩ := p.unready live (p.waits live waits)
  exact ⟨read waits, connect⟩

theorem Polled.select {ready : Ops} (p : Polled c) (outside : c.stage = .connect)
    (taken : c.step (.select ready) = some c') : Polled c' := by
  simp only [TcpConnection.step, outside] at taken
  split at taken
  · rename_i found
    cases taken
    simp only [Ops.within, Bool.and_eq_true, Bool.not_eq_true', Bool.or_eq_true] at found
    obtain ⟨⟨⟨open', some⟩, ⟨read, _⟩, connect⟩, _⟩ := found
    have begun : c.state ≠ none := Option.isSome_iff_ne_none.mp some
    obtain ⟨reads, connects⟩ := p.interests open' outside
    refine ⟨p.fresh, p.waits, fun live _ => p.interests live outside, ?_, fun _ _ => begun⟩
    intro _
    constructor
    · intro wanted
      exact reads (read.resolve_left fun off => nomatch off.symm.trans wanted)
    · intro wanted
      exact (connects (connect.resolve_left fun off => nomatch off.symm.trans wanted)).resolve_left
        begun
  · cases taken

theorem Polled.connect {finished : Bool} (p : Polled c) (handling : c.stage = .connect)
    (taken : c.step (.connect finished) = some c') : Polled c' := by
  simp only [TcpConnection.step, handling, Option.some.injEq] at taken
  subst taken
  split
  · rename_i connects
    simp only [Bool.and_eq_true, Bool.not_eq_true'] at connects
    obtain ⟨live, connects⟩ := connects
    have connecting := (p.ready live).2 connects
    have idle := p.idle_of_connecting live connecting
    have unread : c.ready.read = false := by
      cases reads : c.ready.read with
      | false => rfl
      | true =>
          obtain ⟨state, here, connected⟩ := ((p.ready live).1 reads).2
          rw [connecting] at here
          cases here
          cases connected
    cases finished with
    | false => exact ⟨nofun, nofun, nofun, nofun, nofun⟩
    | true =>
        refine ⟨?_, ?_, (fun _ handler => nomatch handler), ?_, ?_⟩ <;>
          simp [TcpConnection.processConnect, idle, unread]
  · refine ⟨p.fresh, p.waits, (fun _ handler => nomatch handler), ?_, p.begun⟩
    exact fun live => ⟨(p.ready live).1, nofun⟩

theorem Polled.receive {result : ReadResult} (p : Polled c) (handling : c.stage = .receive)
    (taken : c.step (.receive result) = some c') : Polled c' := by
  simp only [TcpConnection.step, handling] at taken
  split at taken
  · rename_i reads
    simp only [Bool.and_eq_true, Bool.not_eq_true'] at reads
    obtain ⟨live, reads⟩ := reads
    obtain ⟨idle, connected⟩ := (p.ready live).1 reads
    obtain ⟨after, received, rfl⟩ := Option.map_eq_some_iff.mp taken
    obtain ⟨after', ready⟩ := connected_processReceive connected received
    refine Polled.handling nofun after' ?_
    exact fun _ => ⟨rfl, by rw [ready]; exact (p.unready live connected).1⟩
  · cases taken
    refine ⟨p.fresh, p.waits, (fun _ handler => nomatch handler), ?_, p.begun⟩
    exact fun live => ⟨nofun, (p.ready live).2⟩

theorem Polled.send {result : WriteResult} (p : Polled c) (handling : c.stage = .send)
    (taken : c.step (.send result) = some c') : Polled c' := by
  simp only [TcpConnection.step, handling] at taken
  split at taken
  · rename_i writes
    simp only [Bool.and_eq_true, Bool.not_eq_true'] at writes
    obtain ⟨live, writes⟩ := writes
    obtain ⟨after, sent, rfl⟩ := Option.map_eq_some_iff.mp taken
    have on : Continues c { after with stage := .connect, ready.write := false } :=
      (Continues.processSend sent).trans (.keeps rfl ⟨rfl, rfl⟩ rfl rfl)
    exact p.continues on (p.begun live writes)
  · cases taken
    exact Polled.updateInterests p.fresh p.waits p.ready nofun

theorem Polled.step {action : TcpAction} (p : Polled c) (taken : c.step action = some c') :
    Polled c' := by
  have taken' := taken
  unfold TcpConnection.step at taken
  split at taken
  · split at taken
    · cases taken
    · rename_i open'
      cases taken
      exact p.packet (Bool.eq_false_iff.mpr open')
  · cases taken
    exact ⟨p.fresh, p.waits, p.interests, p.ready, p.begun⟩
  · split at taken
    · rename_i waits
      cases taken
      exact p.processPending waits
    · cases taken
  · rename_i outside
    exact p.select outside taken'
  · rename_i handling
    exact p.connect handling taken'
  · rename_i handling
    exact p.receive handling taken'
  · rename_i handling
    exact p.send handling taken'
  · cases taken

theorem polled_initial (room : Nat) : Polled (TcpConnection.initial room) :=
  ⟨fun _ _ => ⟨rfl, rfl⟩, nofun, fun _ _ => ⟨nofun, fun _ => .inl rfl⟩, fun _ => ⟨nofun, nofun⟩,
    nofun⟩

end Runs
end QuestVdWired.Relay
