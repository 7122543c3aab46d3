import QuestVdWired.Android.ControlLoop
import QuestVdWired.Host.ControlServer
import QuestVdWired.Link.Gnr4Agreement

/-!
One control connection, from the end of its handshake: the supervisor's frame loop, a channel
each way, and the control server with all its tasks, one of which handles the connection. The
channels deliver in order, after any delay. Heartbeats that the loop writes on a timeout are
recorded apart from those it writes back.
-/

namespace QuestVdWired.Link
open Transition Host Android

structure Connection (ε : Type) where
  loop : FrameLoop
  ended : Option LoopEnd
  toHost : List Gnr4Frame
  host : ControlConfig ε
  toPeer : List Gnr4Frame
  /-- written on a timeout, as sequence and time -/
  beats : List (Int64 × Int64)
  /-- written because one was received, as it was -/
  echoes : List Gnr4Frame
  sampled : List (Int64 × Int64)

inductive LinkAction
  /-- the loop reads the next frame -/
  | read
  /-- its read times out -/
  | expire (expiry : Expiry)
  /-- another thread, or the metrics, write a frame -/
  | write (frame : Gnr4Frame)
  /-- a task of the host takes a step -/
  | host (task : Nat) (action : ControlAction)

section
variable {ε : Type}

/-- The frame a handler writes; the payloads that play no part here are parameters. -/
def outgoing (session : SessionId) (render : Outgoing → List UInt8) : Outgoing → Frame
  | .helloAck => ⟨.helloAck, session, render .helloAck⟩
  | .status snapshot => ⟨.status, session, render (.status snapshot)⟩
  | .heartbeat payload => ⟨.heartbeat, session, payload⟩
  | .suspended => ⟨.suspended, session, []⟩
  | .stop => ⟨.stop, session, []⟩

def sentBy : ControlTask → List Outgoing
  | .handler h => h.sent
  | _ => []

/-- What is left of the channel when a step of the handler may have read from it. -/
def consume (toHost : List Gnr4Frame) : ControlAction → Option (List Gnr4Frame)
  | .handler (.receive (some (.ok frame))) =>
      match toHost with
      | next :: rest => if next = gnr4Frame frame then some rest else none
      | [] => none
  | _ => some toHost

namespace Connection

/-- What a turn of the loop does to the connection. -/
def turned (c : Connection ε) (turn : Turn) : Connection ε :=
  { c with
    loop := turn.loop
    ended := turn.ends
    toHost := c.toHost ++ turn.written.toList
    sampled := c.sampled ++ turn.sampled.toList }

def step (obs : Observers ε) (session : SessionId) (env : ε) (render : Outgoing → List UInt8)
    (id : Nat) (action : LinkAction) (c : Connection ε) : Option (Connection ε) :=
  match action with
  | .read =>
      match c.ended, c.toPeer with
      | none, frame :: rest =>
          let turn := c.loop.onFrame (uuid session) frame
          some { ({ c with toPeer := rest }.turned turn) with
            echoes := c.echoes ++ turn.written.toList }
      | _, _ => none
  | .expire expiry =>
      match c.ended with
      | none =>
          let turn := c.loop.onTimeout (uuid session) expiry
          some { (c.turned turn) with
            beats := c.beats ++
              if turn.written.isSome then [(turn.loop.sequence, expiry.nanoTime)] else [] }
      | some _ => none
  | .write frame =>
      if c.ended = none ∧ frame.type ≠ .heartbeat then
        some { c with toHost := c.toHost ++ [frame] }
      else none
  | .host task action => do
      let toHost ← if task = id then consume c.toHost action else some c.toHost
      let host ← (controlSystem obs session env).step (task, action) c.host
      let written := (sentBy (host.task id)).drop (sentBy (c.host.task id)).length
      some { c with
        toHost := toHost
        host := host
        toPeer := c.toPeer ++ written.map fun out => gnr4Frame (outgoing session render out) }

end Connection

/-- The connection that task `id` handles, as the handshake leaves it: STARTED is on its way.
The sequence is what earlier connections left. -/
def connection (obs : Observers ε) (session : SessionId) (env : ε)
    (render : Outgoing → List UInt8) (id : Nat) (host : ControlConfig ε) (sequence : Int64)
    (started : List UInt8) : System (Connection ε) LinkAction where
  init :=
    { loop := ⟨0, sequence, []⟩
      ended := none
      toHost := [⟨.started, uuid session, started⟩]
      host := host
      toPeer := []
      beats := []
      echoes := []
      sampled := [] }
  step := Connection.step obs session env render id

/-! What a handler has in hand. -/

/-- The heartbeat a handler has read and not yet written back. -/
def inHand : HandlerPc → List (List UInt8)
  | .frame frame => if frame.messageType = .heartbeat then [frame.payload] else []
  | .write (.heartbeat payload) _ => [payload]
  | _ => []

/-- The handler has left its event loop for good. -/
def left : HandlerPc → Bool
  | .cleanup _ | .returned _ => true
  | .publish (.finish _) | .publishing (.finish _) | .observing (.finish _) => true
  | _ => false

def heartbeatOf : Outgoing → Option (List UInt8)
  | .heartbeat payload => some payload
  | _ => none

/-- The heartbeat that a step reads. -/
def received : HandlerAction → List (List UInt8)
  | .receive (some (.ok frame)) =>
      if frame.messageType = .heartbeat then [frame.payload] else []
  | _ => []

/-- What a step of the handler does to the heartbeats: it passes them on in order, or it
leaves the loop and drops the one in hand. -/
inductive Passes (action : HandlerAction) (h h' : Handler) : Prop
  | on (written : List Outgoing) (sent : h'.sent = h.sent ++ written)
      (order : inHand h.pc ++ received action = written.filterMap heartbeatOf ++ inHand h'.pc)
      (stays : left h.pc = left h'.pc)
  | leaves (sent : h'.sent = h.sent) (gone : left h'.pc = true)

section Handlers
variable {obs : Observers ε} {id : Nat} {sh sh' : ControlShared ε} {h h' : Handler}

theorem inHand_of_left {pc : HandlerPc} (gone : left pc = true) : inHand pc = [] := by
  cases pc <;> first | rfl | cases gone

theorem passes_leaveLoop {action : HandlerAction} {sh : ControlShared ε} {result : Outcome} :
    Passes action h (Handler.leaveLoop sh h result).2 :=
  .leaves rfl rfl

theorem passes_ret {action : HandlerAction} {sh : ControlShared ε} {result : Outcome} :
    Passes action h (Handler.ret sh h result).2 :=
  .leaves rfl rfl

theorem passes_receive {item : Option (Except ControlError Frame)} (polling : h.pc = .polling) :
    Passes (.receive item) h (Handler.onReceive sh h item).2 := by
  unfold Handler.onReceive
  split
  · exact passes_leaveLoop
  · exact passes_leaveLoop
  · exact passes_leaveLoop
  · exact passes_leaveLoop
  · rename_i frame
    split
    · exact passes_ret
    · have takes :
          Passes (.receive (some (.ok frame))) h (h.goto (.frame frame)) :=
        .on [] (List.append_nil _).symm (by simp [polling, inHand, received, Handler.goto])
          (by simp [polling, left, Handler.goto])
      split
      · split
        · exact takes
        · exact passes_leaveLoop
      · split
        · exact passes_leaveLoop
        · exact takes
      · split
        · exact passes_leaveLoop
        · exact takes
      all_goals first | exact takes | exact passes_leaveLoop

/-- A step that touches no heartbeat. -/
theorem passes_quiet {action : HandlerAction} (sent : h'.sent = h.sent)
    (before : inHand h.pc = []) (none : received action = []) (after : inHand h'.pc = [])
    (stays : left h.pc = left h'.pc) : Passes action h h' :=
  .on [] (by simp [sent]) (by simp [before, none, after]) stays

theorem passes_frame {frame : Frame} {now : Nat} (here : h.pc = .frame frame) :
    Passes (.lockState now) h (Handler.onFrame obs sh h frame now).2 := by
  have other (apart : frame.messageType ≠ .heartbeat) {pc : HandlerPc} {suspended : Bool}
      (empty : inHand pc = []) (stays : left pc = false) :
      Passes (.lockState now) h { h with peerSuspended := suspended, pc := pc } :=
    passes_quiet rfl (by simp [here, inHand, apart]) rfl empty (by rw [here, stays]; rfl)
  unfold Handler.onFrame
  split
  · exact passes_leaveLoop
  · split
    · rename_i type
      have apart : frame.messageType ≠ .heartbeat := by simp [type]
      unfold Handler.onStarted
      split
      · exact other apart rfl rfl
      · split
        · exact passes_ret
        · split
          · exact other apart rfl rfl
          · exact other apart rfl rfl
    · rename_i type
      have echo (changed : Bool) : Passes (.lockState now) h
          (h.goto (.write (.heartbeat frame.payload) (.echoed changed))) :=
        .on [] (List.append_nil _).symm (by simp [here, inHand, type, received, Handler.goto])
          (by simp [here, left, Handler.goto])
      unfold Handler.onHeartbeat
      split
      · exact echo false
      · split
        · exact passes_ret
        · exact echo _
    · rename_i type
      have apart : frame.messageType ≠ .heartbeat := by simp [type]
      unfold Handler.onStopped
      split
      · exact passes_leaveLoop
      · split
        · exact passes_ret
        · exact passes_quiet rfl (by simp [here, inHand, apart]) rfl rfl (by rw [here]; rfl)
    · rename_i type
      exact other (by simp [type]) rfl rfl
    · rename_i type
      unfold Handler.onMetrics
      split <;> exact other (by simp [type]) rfl rfl
    · rename_i type
      have apart : frame.messageType ≠ .heartbeat := by simp [type]
      unfold Handler.onSuspend
      split
      · exact other apart rfl rfl
      · split
        · exact passes_ret
        · exact other apart rfl rfl
    · rename_i type
      exact other (by simp [type]) rfl rfl
    all_goals exact passes_leaveLoop

theorem passes_lockState {now : Nat} {result : HandlerResult ε}
    (taken : Handler.lockState obs id sh h now = some result) :
    Passes (.lockState now) h result.2 := by
  unfold Handler.lockState at taken
  split at taken
  · rename_i here
    cases taken
    unfold Handler.acceptHello
    split
    · exact passes_ret
    · exact passes_quiet rfl (by rw [here]; rfl) rfl rfl (by rw [here]; rfl)
  · rename_i here
    cases taken
    unfold Handler.onTick
    split
    · exact passes_leaveLoop
    · dsimp only
      split <;> exact passes_quiet rfl (by rw [here]; rfl) rfl rfl (by rw [here]; rfl)
  · rename_i here
    cases taken
    exact passes_frame here
  · rename_i here
    cases taken
    unfold Handler.onCommand
    split
    · exact passes_quiet rfl (by rw [here]; rfl) rfl rfl (by rw [here]; rfl)
    · split <;> exact passes_quiet rfl (by rw [here]; rfl) rfl rfl (by rw [here]; rfl)
  · rename_i here
    cases taken
    exact passes_quiet rfl (by rw [here]; rfl) rfl rfl (by rw [here]; rfl)
  · rename_i next here
    cases taken
    refine passes_quiet rfl (by rw [here]; rfl) rfl rfl ?_
    rw [here]
    cases next <;> rfl
  · rename_i here
    cases taken
    exact passes_quiet rfl (by rw [here]; rfl) rfl rfl (by rw [here]; rfl)
  · rename_i here
    cases taken
    unfold Handler.onCleanup
    split
    · exact passes_ret
    · split <;> exact passes_quiet rfl (by rw [here]; rfl) rfl rfl (by rw [here]; rfl)
  · cases taken

theorem passes_written {out : Outgoing} {next : AfterWrite} (here : h.pc = .write out next) :
    Passes (.write none) h (Handler.onWritten sh h out next).2 := by
  have order (pc : HandlerPc) (empty : inHand pc = []) :
      inHand h.pc ++ received (.write none) = [out].filterMap heartbeatOf ++ inHand pc := by
    rw [here, empty]
    cases out <;> rfl
  cases next with
  | loop => exact .on [out] rfl (order _ rfl) (by rw [here]; rfl)
  | readMode => exact .on [out] rfl (order _ rfl) (by rw [here]; rfl)
  | echoed changed => cases changed <;> exact .on [out] rfl (order _ rfl) (by rw [here]; rfl)

theorem passes_published {next : AfterPublish} (here : h.pc = .observing next) :
    Passes .observe h (Handler.onPublished sh h next).2 := by
  cases next with
  | finish result => exact passes_ret
  | _ => exact passes_quiet rfl (by rw [here]; rfl) rfl rfl (by rw [here]; rfl)

theorem passes_step {action : HandlerAction} {result : HandlerResult ε}
    (taken : h.step obs id sh action = some result) : Passes action h result.2 := by
  unfold Handler.step at taken
  split at taken
  · rename_i here
    cases taken
    unfold Handler.readHello
    split
    · exact passes_ret
    · split
      · exact passes_ret
      · split
        · exact passes_ret
        · exact passes_quiet rfl (by rw [here]; rfl) rfl rfl (by rw [here]; rfl)
  · exact passes_lockState taken
  · rename_i here
    cases taken
    exact passes_written here
  · cases taken
    exact passes_ret
  · rename_i here
    cases taken
    split
    · exact passes_leaveLoop
    · exact passes_quiet rfl (by rw [here]; rfl) rfl rfl (by rw [here]; rfl)
  · rename_i here
    cases taken
    exact passes_quiet rfl (by rw [here]; rfl) rfl rfl (by rw [here]; rfl)
  · rename_i here
    cases taken
    exact passes_quiet rfl (by rw [here]; rfl) rfl rfl (by rw [here]; rfl)
  · rename_i here
    split at taken
    · cases taken
      exact passes_receive here
    · cases taken
  · rename_i here
    unfold Handler.takeCommand at taken
    split at taken
    · cases taken
    · dsimp only at taken
      split at taken
      · cases taken
        exact passes_quiet rfl (by rw [here]; rfl) rfl rfl (by rw [here]; rfl)
      · split at taken <;> cases taken <;>
          exact passes_quiet rfl (by rw [here]; rfl) rfl rfl (by rw [here]; rfl)
  · rename_i here
    cases taken
    unfold Handler.onRequeue
    split
    · exact passes_leaveLoop
    · split
      · exact passes_leaveLoop
      · exact passes_quiet rfl (by rw [here]; rfl) rfl (by rw [here]; rfl) rfl
  · rename_i here
    unfold Handler.stopDeadline at taken
    split at taken
    · split at taken
      · cases taken
        exact passes_quiet rfl (by rw [here]; rfl) rfl rfl (by rw [here]; rfl)
      · cases taken
    · cases taken
  · rename_i next here
    obtain ⟨sh', -, rfl⟩ := Option.map_eq_some_iff.mp taken
    refine passes_quiet rfl (by rw [here]; rfl) rfl rfl ?_
    rw [here]
    cases next <;> rfl
  · rename_i next here
    obtain ⟨sh', -, rfl⟩ := Option.map_eq_some_iff.mp taken
    exact passes_published here
  · rename_i here
    cases taken
    unfold Handler.onReadMode
    split
    · exact passes_leaveLoop
    · exact passes_quiet rfl (by rw [here]; rfl) rfl rfl (by rw [here]; rfl)
  · cases taken

theorem polling_of_received {action : HandlerAction} {result : HandlerResult ε}
    (taken : h.step obs id sh action = some result) (some : received action ≠ []) :
    h.pc = .polling := by
  cases action with
  | receive item =>
      unfold Handler.step at taken
      split at taken <;> first | assumption | simp_all
  | _ => exact absurd rfl some

/-- What a handler that has left its loop dropped stays behind what it wrote before. -/
theorem pass_dropped {action : HandlerAction} {result : HandlerResult ε}
    {written : List Outgoing} {dropped : List (List UInt8)}
    (taken : h.step obs id sh action = some result)
    (order : inHand h.pc ++ received action =
      written.filterMap heartbeatOf ++ inHand result.2.pc)
    (away : dropped ≠ [] → left h.pc = true) :
    dropped ++ inHand h.pc ++ received action =
      written.filterMap heartbeatOf ++ dropped ++ inHand result.2.pc := by
  by_cases none : dropped = []
  · simpa [none] using order
  · have gone := away none
    have idle : received action = [] := by
      by_cases some : received action = []
      · exact some
      · rw [polling_of_received taken some] at gone
        cases gone
    rw [inHand_of_left gone, idle] at order ⊢
    obtain ⟨silent, empty⟩ := List.append_eq_nil_iff.mp order.symm
    rw [silent, empty]
    simp

end Handlers

/-! Along a whole connection. -/

def beatPayload (beat : Int64 × Int64) : List UInt8 := Gnr4.heartbeatPayload beat.1 beat.2

def heartbeats (channel : List Gnr4Frame) : List (List UInt8) :=
  channel.filterMap fun frame => if frame.type = .heartbeat then some frame.payload else none

def pcOf : ControlTask → HandlerPc
  | .handler h => h.pc
  | _ => .hello

/-- The heartbeats that are written and not yet read back, those nearest to the loop first. -/
def inFlight (id : Nat) (c : Connection ε) : List (List UInt8) :=
  heartbeats c.toPeer ++ inHand (pcOf (c.host.task id)) ++ heartbeats c.toHost

/-- An expiry that evicts an entry evicts one whose heartbeat is no longer in flight. -/
def EvictsNoneInFlight (id : Nat) (c : Connection ε) : LinkAction → Prop
  | .expire expiry =>
      expiry.paused = false → expiry.wakePending = false →
        MAX_OUTSTANDING_HEARTBEATS ≤ c.loop.outstandingHeartbeats.length →
        ∀ entry ∈ c.loop.outstandingHeartbeats.head?, beatPayload entry ∉ inFlight id c
  | _ => True

instance (id : Nat) (c : Connection ε) : ∀ action, Decidable (EvictsNoneInFlight id c action)
  | .expire expiry => inferInstanceAs (Decidable (expiry.paused = false → _))
  | .read | .write _ | .host _ _ => inferInstanceAs (Decidable True)

/-- The entries carry the last sequence numbers, up to the current one. -/
def Recent (sequence : Int64) : List (Int64 × Int64) → Prop
  | [] => True
  | entry :: entries =>
      entry.1 + Int64.ofNat entries.length = sequence ∧ Recent sequence entries

attribute [local grind =] Recent

theorem heartbeats_append (l r : List Gnr4Frame) :
    heartbeats (l ++ r) = heartbeats l ++ heartbeats r :=
  List.filterMap_append

theorem heartbeats_outgoing (session : SessionId) (render : Outgoing → List UInt8)
    (written : List Outgoing) :
    heartbeats (written.map fun out => gnr4Frame (outgoing session render out)) =
      written.filterMap heartbeatOf := by
  induction written with
  | nil => rfl
  | cons out written ih =>
      have split := heartbeats_append [gnr4Frame (outgoing session render out)]
        (written.map fun out => gnr4Frame (outgoing session render out))
      rw [List.map_cons, ← List.singleton_append, split, ih]
      cases out <;> rfl

theorem heartbeats_consume {action : HandlerAction} {toHost rest : List Gnr4Frame}
    (consumed : consume toHost (.handler action) = some rest) :
    heartbeats toHost = received action ++ heartbeats rest := by
  unfold consume at consumed
  split at consumed
  · rename_i frame same
    cases same
    split at consumed
    · split at consumed
      · rename_i next _ same
        cases consumed
        rw [same]
        cases type : frame.messageType <;>
          simp [heartbeats, received, gnr4Frame, messageType, type]
      · cases consumed
    · cases consumed
  · rename_i other
    cases consumed
    have none : received action = [] := by
      unfold received
      split
      · rename_i frame
        exact absurd rfl (other frame)
      · rfl
    rw [none, List.nil_append]

theorem Recent.absent {sequence : Int64} {entries : List (Int64 × Int64)}
    (recent : Recent sequence entries) (room : entries.length < MAX_OUTSTANDING_HEARTBEATS) :
    sequence + 1 ∉ entries.map Prod.fst := by
  induction entries with
  | nil => simp
  | cons entry entries ih =>
      simp only [List.map_cons, List.mem_cons, not_or]
      simp only [List.length_cons] at room
      refine ⟨?_, ih recent.2 (by omega)⟩
      intro same
      have first := recent.1
      rw [← same] at first
      have wraps : Int64.ofNat (entries.length + 1) = 0 := by
        rw [Int64.ofNat_add]
        grind
      have toInt := congrArg Int64.toInt wraps
      unfold MAX_OUTSTANDING_HEARTBEATS at room
      rw [Int64.toInt_ofNat_of_lt (by omega)] at toInt
      simp at toInt
      omega

theorem Recent.put {sequence value : Int64} {entries : List (Int64 × Int64)}
    (recent : Recent sequence entries) (room : entries.length < MAX_OUTSTANDING_HEARTBEATS) :
    FrameLoop.put (sequence + 1) value entries = entries ++ [(sequence + 1, value)] ∧
      Recent (sequence + 1) (entries ++ [(sequence + 1, value)]) := by
  constructor
  · rw [FrameLoop.put, if_neg]
    simpa using recent.absent room
  · clear room
    induction entries with
    | nil => exact ⟨by simp, trivial⟩
    | cons entry entries ih =>
        refine ⟨?_, ih recent.2⟩
        have first := recent.1
        change entry.1 + Int64.ofNat (entries ++ [(sequence + 1, value)]).length = sequence + 1
        rw [List.length_append, List.length_singleton, Int64.ofNat_add, ← first]
        grind

/-- With at most eight entries, the oldest of eight is all that goes. -/
theorem evict_eq {entries : List (Int64 × Int64)}
    (room : entries.length ≤ MAX_OUTSTANDING_HEARTBEATS) :
    FrameLoop.evict entries =
      if entries.length < MAX_OUTSTANDING_HEARTBEATS then entries else entries.tail := by
  cases entries with
  | nil => rfl
  | cons oldest entries =>
      by_cases full : MAX_OUTSTANDING_HEARTBEATS ≤ (oldest :: entries).length
      · rw [FrameLoop.evict, if_pos full, if_neg (Nat.not_lt.mpr full), List.tail_cons]
        simp only [List.length_cons] at room
        cases entries with
        | nil => rfl
        | cons next entries =>
            rw [FrameLoop.evict, if_neg]
            simp only [List.length_cons] at room ⊢
            omega
      · rw [FrameLoop.evict, if_neg full, if_pos (Nat.not_le.mp full)]

section Loop
variable {session : UUID} {l : FrameLoop} {frame : Gnr4Frame}

theorem onFrame_matched {entry : Int64 × Int64} {entries : List (Int64 × Int64)}
    (type : frame.type = .heartbeat) (payload : frame.payload = beatPayload entry)
    (oldest : l.outstandingHeartbeats = entry :: entries) :
    l.onFrame session frame =
      ⟨{ l with missed := 0, outstandingHeartbeats := entries }, none, some entry, none⟩ := by
  have found : List.lookup entry.1 (entry :: entries) = some entry.2 := by
    cases entry
    exact List.lookup_cons_self
  simp [FrameLoop.onFrame, type, payload, beatPayload, Gnr4.parse_heartbeatPayload, oldest,
    found]

theorem onFrame_other (type : frame.type ≠ .heartbeat) :
    (l.onFrame session frame).loop.outstandingHeartbeats = l.outstandingHeartbeats ∧
      (l.onFrame session frame).loop.sequence = l.sequence ∧
      (l.onFrame session frame).written = none ∧ (l.onFrame session frame).sampled = none := by
  unfold FrameLoop.onFrame
  split
  · contradiction
  all_goals exact ⟨rfl, rfl, rfl, rfl⟩

theorem onTimeout_quiet {expiry : Expiry} (off : expiry.paused = true ∨ expiry.wakePending = true) :
    (l.onTimeout session expiry).loop = l ∧ (l.onTimeout session expiry).written = none ∧
      (l.onTimeout session expiry).sampled = none := by
  unfold FrameLoop.onTimeout
  split
  · exact ⟨rfl, rfl, rfl⟩
  · split
    · exact ⟨rfl, rfl, rfl⟩
    · rename_i awake settled
      exact absurd off (not_or.mpr ⟨awake, settled⟩)

theorem onTimeout_beats {expiry : Expiry} (awake : expiry.paused = false)
    (settled : expiry.wakePending = false) :
    l.onTimeout session expiry =
      ⟨{ missed := l.missed + 1
         sequence := l.sequence + 1
         outstandingHeartbeats := FrameLoop.put (l.sequence + 1) expiry.nanoTime
           (FrameLoop.evict l.outstandingHeartbeats) },
        some ⟨.heartbeat, session, beatPayload (l.sequence + 1, expiry.nanoTime)⟩, none,
        if 3 ≤ l.missed + 1 then some .threw else none⟩ := by
  simp only [FrameLoop.onTimeout, awake, settled]
  rfl

end Loop

/-- Where the heartbeats written so far are: sampled, on the way back, dropped by a handler
that has left its loop, in its hand, or on the way to it. `kept` are those of the dropped ones
that still have an entry. -/
structure Passage (id : Nat) (h₀ : Handler) (c : Connection ε) (h : Handler)
    (gone kept : List (List UInt8)) : Prop where
  task : c.host.task id = .handler h
  sent : ∃ written, h.sent = h₀.sent ++ written ∧
    written.filterMap heartbeatOf = c.sampled.map beatPayload ++ heartbeats c.toPeer
  beats : c.beats.map beatPayload = c.sampled.map beatPayload ++ heartbeats c.toPeer ++
    (gone ++ kept) ++ inHand h.pc ++ heartbeats c.toHost
  outstanding : c.loop.outstandingHeartbeats.map beatPayload =
    heartbeats c.toPeer ++ kept ++ inHand h.pc ++ heartbeats c.toHost
  dropped : gone ++ kept ≠ [] → left h.pc = true
  recent : Recent c.loop.sequence c.loop.outstandingHeartbeats
  room : c.loop.outstandingHeartbeats.length ≤ MAX_OUTSTANDING_HEARTBEATS
  silent : c.echoes = []

section Runs
variable {obs : Observers ε} {session : SessionId} {env : ε}
  {render : Outgoing → List UInt8} {id : Nat} {h₀ h : Handler} {c c' : Connection ε}
  {gone kept : List (List UInt8)}

theorem inFlight_eq (task : c.host.task id = .handler h) :
    inFlight id c = heartbeats c.toPeer ++ inHand h.pc ++ heartbeats c.toHost := by
  rw [inFlight, task]
  rfl

namespace Passage

/-- The next heartbeat to be read back belongs to the oldest entry. -/
theorem oldest (p : Passage id h₀ c h gone kept) {frame : Gnr4Frame} {rest : List Gnr4Frame}
    (next : c.toPeer = frame :: rest) (type : frame.type = .heartbeat) :
    ∃ entry entries, c.loop.outstandingHeartbeats = entry :: entries ∧
      frame.payload = beatPayload entry := by
  have outstanding := p.outstanding
  have first : heartbeats c.toPeer = frame.payload :: heartbeats rest := by
    simp [next, heartbeats, type]
  rw [first] at outstanding
  cases some : c.loop.outstandingHeartbeats with
  | nil => simp [some] at outstanding
  | cons entry entries =>
      rw [some, List.map_cons, List.cons_append, List.cons_append, List.cons_append,
        List.cons.injEq] at outstanding
      exact ⟨entry, entries, rfl, outstanding.1.symm⟩

theorem read (p : Passage id h₀ c h gone kept)
    (taken : c.step obs session env render id .read = some c') :
    Passage id h₀ c' h gone kept := by
  simp only [Connection.step] at taken
  split at taken
  · rename_i frame rest _ next
    cases taken
    by_cases type : frame.type = .heartbeat
    · obtain ⟨entry, entries, oldest, payload⟩ := p.oldest next type
      have first : heartbeats c.toPeer = beatPayload entry :: heartbeats rest := by
        simp [next, heartbeats, type, payload]
      have outstanding := p.outstanding
      have recent := p.recent
      have room := p.room
      rw [oldest] at recent room
      rw [oldest, first] at outstanding
      rw [onFrame_matched type payload oldest]
      obtain ⟨written, sent, echoed⟩ := p.sent
      refine ⟨p.task, ⟨written, sent, ?_⟩, ?_, ?_, p.dropped, recent.2, ?_, ?_⟩
      · simp [Connection.turned, echoed, first]
      · simp [Connection.turned, p.beats, first]
      · simpa [Connection.turned] using outstanding
      · exact Nat.le_of_succ_le room
      · simpa [Connection.turned] using p.silent
    · have first : heartbeats c.toPeer = heartbeats rest := by simp [next, heartbeats, type]
      obtain ⟨entries, sequence, written, sampled⟩ :=
        @onFrame_other (uuid session) c.loop _ type
      refine ⟨p.task, ?_, ?_, ?_, p.dropped, ?_, ?_, ?_⟩
      · simpa [Connection.turned, sampled, ← first] using p.sent
      · simpa [Connection.turned, sampled, written, ← first] using p.beats
      · simpa [Connection.turned, written, entries, ← first] using p.outstanding
      · simpa [Connection.turned, entries, sequence] using p.recent
      · simpa [Connection.turned, entries] using p.room
      · simpa [Connection.turned, written] using p.silent
  · cases taken

/-- What the loop remembers after an expiry: the oldest of eight entries has made room. -/
theorem kept_entries (p : Passage id h₀ c h gone kept)
    (spares : MAX_OUTSTANDING_HEARTBEATS ≤ c.loop.outstandingHeartbeats.length →
      ∀ entry ∈ c.loop.outstandingHeartbeats.head?, beatPayload entry ∉ inFlight id c) :
    ∃ gone' kept', gone' ++ kept' = gone ++ kept ∧
      (FrameLoop.evict c.loop.outstandingHeartbeats).map beatPayload =
        heartbeats c.toPeer ++ kept' ++ inHand h.pc ++ heartbeats c.toHost ∧
      Recent c.loop.sequence (FrameLoop.evict c.loop.outstandingHeartbeats) ∧
      (FrameLoop.evict c.loop.outstandingHeartbeats).length < MAX_OUTSTANDING_HEARTBEATS := by
  rw [evict_eq p.room]
  split
  · rename_i room
    exact ⟨gone, kept, rfl, p.outstanding, p.recent, room⟩
  · rename_i full
    have room := p.room
    cases some : c.loop.outstandingHeartbeats with
    | nil => simp [some, MAX_OUTSTANDING_HEARTBEATS] at full
    | cons entry entries =>
        have outstanding := p.outstanding
        have recent := p.recent
        have away := spares (Nat.not_lt.mp full) entry (by rw [some]; rfl)
        rw [some] at outstanding recent room
        rw [inFlight_eq p.task] at away
        simp only [List.mem_append, not_or] at away
        -- the oldest entry is of none of those in flight, so the handler has dropped it
        have back : heartbeats c.toPeer = [] := by
          cases first : heartbeats c.toPeer with
          | nil => rfl
          | cons payload payloads =>
              rw [first, List.map_cons, List.cons_append, List.cons_append, List.cons_append,
                List.cons.injEq] at outstanding
              exact absurd (by rw [first, outstanding.1]; simp) away.1.1
        rw [back, List.nil_append, List.map_cons] at outstanding
        cases kept with
        | nil =>
            have here : beatPayload entry ∈ inHand h.pc ++ heartbeats c.toHost := by
              rw [List.nil_append] at outstanding
              rw [← outstanding]
              exact List.mem_cons_self
            rcases List.mem_append.mp here with hand | way
            · exact absurd hand away.1.2
            · exact absurd way away.2
        | cons payload kept =>
            rw [List.cons_append, List.cons_append, List.cons.injEq] at outstanding
            refine ⟨gone ++ [payload], kept, by simp, ?_, recent.2, Nat.lt_of_succ_le room⟩
            rw [List.tail_cons, outstanding.2, back, List.nil_append]

theorem expire (p : Passage id h₀ c h gone kept) {expiry : Expiry}
    (spares : EvictsNoneInFlight id c (.expire expiry))
    (taken : c.step obs session env render id (.expire expiry) = some c') :
    ∃ gone kept, Passage id h₀ c' h gone kept := by
  simp only [Connection.step] at taken
  split at taken
  · cases taken
    by_cases off : expiry.paused = true ∨ expiry.wakePending = true
    · obtain ⟨same, written, sampled⟩ :=
        @onTimeout_quiet (uuid session) c.loop _ off
      refine ⟨gone, kept, p.task, ?_, ?_, ?_, p.dropped, ?_, ?_, p.silent⟩
      · simpa [Connection.turned, sampled] using p.sent
      · simpa [Connection.turned, sampled, written] using p.beats
      · simpa [Connection.turned, same, written] using p.outstanding
      · simpa [Connection.turned, same] using p.recent
      · simpa [Connection.turned, same] using p.room
    · simp only [not_or, Bool.not_eq_true] at off
      obtain ⟨gone', kept', dropped, entries, recent, room⟩ :=
        p.kept_entries (spares off.1 off.2)
      obtain ⟨added, recent'⟩ := recent.put room
      rw [onTimeout_beats off.1 off.2, added]
      refine ⟨gone', kept', p.task, ?_, ?_, ?_, ?_, recent', ?_, p.silent⟩
      · simpa [Connection.turned] using p.sent
      · have beats := p.beats
        rw [← dropped] at beats
        simp [Connection.turned, beats, heartbeats_append]
        simp [heartbeats]
      · simp [Connection.turned, entries, heartbeats_append]
        simp [heartbeats]
      · rw [dropped]
        exact p.dropped
      · simp only [Connection.turned, List.length_append, List.length_singleton]
        omega
  · cases taken

theorem write (p : Passage id h₀ c h gone kept) {frame : Gnr4Frame}
    (taken : c.step obs session env render id (.write frame) = some c') :
    Passage id h₀ c' h gone kept := by
  simp only [Connection.step] at taken
  split at taken
  · rename_i open'
    cases taken
    have same : heartbeats (c.toHost ++ [frame]) = heartbeats c.toHost := by
      rw [heartbeats_append]
      simp [heartbeats, open'.2]
    refine ⟨p.task, p.sent, ?_, ?_, p.dropped, p.recent, p.room, p.silent⟩
    · simpa [same] using p.beats
    · simpa [same] using p.outstanding
  · cases taken

/-- A step of the handler itself. -/
theorem handler (p : Passage id h₀ c h gone kept) {h' : Handler} {toHost : List Gnr4Frame}
    {host : ControlConfig ε} {action : HandlerAction} {sh : ControlShared ε}
    (consumed : consume c.toHost (.handler action) = some toHost)
    (taken : h.step obs id c.host.shared action = some (sh, h'))
    (task : host.task id = .handler h') :
    ∃ gone kept, Passage id h₀
      { c with
        toHost := toHost
        host := host
        toPeer := c.toPeer ++
          (h'.sent.drop h.sent.length).map fun out => gnr4Frame (outgoing session render out) }
      h' gone kept := by
  have way := heartbeats_consume consumed
  have beats := p.beats
  have outstanding := p.outstanding
  rw [way] at beats outstanding
  obtain ⟨before, sent, echoed⟩ := p.sent
  cases passes_step taken with
  | on written added order stays =>
      dsimp only at added order stays
      have new : h'.sent.drop h.sent.length = written := by rw [added, List.drop_left]
      refine ⟨gone, kept, task, ⟨before ++ written, ?_, ?_⟩, ?_, ?_, ?_, p.recent, p.room,
        p.silent⟩
      · rw [added, sent, List.append_assoc]
      · simp [new, heartbeats_append, heartbeats_outgoing, echoed]
      · have moved := pass_dropped taken order p.dropped
        simp only [List.append_assoc] at beats moved
        simp [new, heartbeats_append, heartbeats_outgoing, beats, ← moved]
      · have moved := pass_dropped taken order
          fun some => p.dropped (List.append_ne_nil_of_right_ne_nil gone some)
        simp only [List.append_assoc] at outstanding moved
        simp [new, heartbeats_append, heartbeats_outgoing, outstanding, ← moved]
      · rw [← stays]
        exact p.dropped
  | leaves same away =>
      dsimp only at same away
      have new : h'.sent.drop h.sent.length = [] := by rw [same, List.drop_length]
      have empty := inHand_of_left away
      refine ⟨gone, kept ++ inHand h.pc ++ received action, task, ⟨before, ?_, ?_⟩, ?_, ?_, ?_,
        p.recent, p.room, p.silent⟩
      · rw [same, sent]
      · simpa [new] using echoed
      · simp [new, beats, empty]
      · simp [new, outstanding, empty]
      · exact fun _ => away

theorem host (p : Passage id h₀ c h gone kept) {task : Nat} {action : ControlAction}
    (taken : c.step obs session env render id (.host task action) = some c') :
    ∃ h' gone kept, Passage id h₀ c' h' gone kept := by
  simp only [Connection.step, Option.bind_eq_bind] at taken
  by_cases own : task = id
  · subst own
    rw [if_pos rfl] at taken
    obtain ⟨toHost, consumed, taken⟩ := Option.bind_eq_some_iff.mp taken
    obtain ⟨host, moved, rest⟩ := Option.bind_eq_some_iff.mp taken
    obtain ⟨sh, t, step, rfl⟩ := Tasks.system_step moved
    cases rest
    rw [p.task] at step
    change controlStep obs task action c.host.shared (.handler h) = _ at step
    cases action with
    | handler action =>
        obtain ⟨⟨sh', h'⟩, handled, same⟩ := Option.map_eq_some_iff.mp step
        cases same
        have updated : (Function.update c.host.task task (.handler h')) task = .handler h' :=
          Function.update_self ..
        let host : ControlConfig ε := ⟨sh, Function.update c.host.task task (.handler h')⟩
        obtain ⟨gone, kept, p'⟩ :=
          @Passage.handler _ _ _ _ _ _ _ _ _ _ p _ _ host _ _ consumed handled updated
        refine ⟨h', gone, kept, ?_⟩
        simpa only [p.task, updated, sentBy] using p'
    | _ => cases step
  · rw [if_neg own, Option.bind_some] at taken
    obtain ⟨host, moved, rest⟩ := Option.bind_eq_some_iff.mp taken
    obtain ⟨sh, t, step, rfl⟩ := Tasks.system_step moved
    cases rest
    have same : Function.update c.host.task task t id = c.host.task id :=
      Function.update_of_ne (Ne.symm own) _ _
    refine ⟨h, gone, kept, ?_⟩
    simp only [same, List.drop_length, List.map_nil, List.append_nil]
    exact ⟨same.trans p.task, p.sent, p.beats, p.outstanding, p.dropped, p.recent, p.room, p.silent⟩

end Passage

theorem passage_step {action : LinkAction}
    (p : ∃ h gone kept, Passage id h₀ c h gone kept) (spares : EvictsNoneInFlight id c action)
    (taken : c.step obs session env render id action = some c') :
    ∃ h gone kept, Passage id h₀ c' h gone kept := by
  obtain ⟨h, gone, kept, p⟩ := p
  cases action with
  | read => exact ⟨h, gone, kept, p.read taken⟩
  | expire expiry => exact ⟨h, p.expire spares taken⟩
  | write frame => exact ⟨h, gone, kept, p.write taken⟩
  | host task action => exact p.host taken

/-- While no heartbeat in flight is evicted, the loop writes none back: the next one to arrive
has its entry, what was written on timeouts comes back once and in order, and no more than
eight are ever in flight. A handler that leaves its event loop drops what it holds. -/
theorem heartbeats_return_once {host : ControlConfig ε} {sequence : Int64}
    {started : List UInt8} (handles : host.task id = .handler h₀) (waits : h₀.pc = .select)
    (reached : (connection obs session env render id host sequence started).Reachable
      (EvictsNoneInFlight id) c) :
    c.echoes = [] ∧
    (∀ frame rest, c.toPeer = frame :: rest → frame.type = .heartbeat →
      ∃ entry, frame.payload = beatPayload entry ∧
        c.loop.outstandingHeartbeats.lookup entry.1 = some entry.2) ∧
    (∃ h written gone, c.host.task id = .handler h ∧ h.sent = h₀.sent ++ written ∧
      written.filterMap heartbeatOf = c.sampled.map beatPayload ++ heartbeats c.toPeer ∧
      c.beats.map beatPayload = written.filterMap heartbeatOf ++ gone ++ inHand h.pc ++
        heartbeats c.toHost ∧
      (gone ≠ [] → left h.pc = true)) ∧
    (inFlight id c).length ≤ MAX_OUTSTANDING_HEARTBEATS := by
  have start : ∃ h gone kept, Passage id h₀
      (connection obs session env render id host sequence started).init h gone kept :=
    ⟨h₀, [], [], handles, ⟨[], (List.append_nil _).symm, rfl⟩, by rw [waits]; rfl,
      by rw [waits]; rfl, fun none => absurd rfl none, trivial, Nat.zero_le _, rfl⟩
  obtain ⟨h, gone, kept, p⟩ := reached.invariant
    (I := fun c => ∃ h gone kept, Passage id h₀ c h gone kept) start
    fun s a t => passage_step
  refine ⟨p.silent, ?_, ?_, ?_⟩
  · intro frame rest next type
    obtain ⟨entry, entries, oldest, payload⟩ := p.oldest next type
    refine ⟨entry, payload, ?_⟩
    rw [oldest]
    cases entry
    exact List.lookup_cons_self
  · obtain ⟨written, sent, echoed⟩ := p.sent
    refine ⟨h, written, gone ++ kept, p.task, sent, echoed, ?_, p.dropped⟩
    rw [echoed]
    exact p.beats
  · have count := congrArg List.length p.outstanding
    have room := p.room
    rw [inFlight_eq p.task]
    simp only [List.length_map, List.length_append] at count ⊢
    omega

end Runs

end

/-! Runs of the connection that task 0 handles. -/

namespace Rally

def session : SessionId := Schedule.session

def onHost (acts : List (Nat × ControlAction)) : List LinkAction :=
  acts.map fun act => .host act.1 act.2

/-- The read times out with nothing to wait for. -/
def expire : LinkAction := .expire ⟨false, false, 0⟩

/-- The host reads STARTED and publishes. -/
def begin : List LinkAction := onHost (Schedule.started 0)

/-- The host reads the heartbeat with this sequence number and writes it back. -/
def echo (sequence : Int64) : List LinkAction :=
  onHost (Schedule.deliver 0 (Schedule.frame .heartbeat (Gnr4.heartbeatPayload sequence 0)) ++
    Schedule.run 0 [.write none, .sendReadMode false])

/-- Two timeouts, and one heartbeat comes back. -/
def round (sequence : Int64) : List LinkAction := [expire, expire] ++ echo sequence ++ [.read]

end Rally

/-- One round: the first of two heartbeats is back and sampled, the second on its way. -/
theorem heartbeats_return_once_round :
    ∃ host h c, host.task 0 = .handler h ∧ h.pc = .select ∧
      (connection .silent Rally.session () (fun _ => []) 0 host 0 []).Reachable
        (EvictsNoneInFlight 0) c ∧
      c.sampled = [(1, 0)] ∧ c.beats = [(1, 0), (2, 0)] ∧ c.echoes = [] ∧
      (inFlight 0 c).length ≤ MAX_OUTSTANDING_HEARTBEATS := by
  obtain ⟨host, h, c, handles, waits, run, sampled, beats⟩ :
      ∃ (host : ControlConfig Unit) (h : Handler) (c : Connection Unit),
        host.task 0 = .handler h ∧ h.pc = .select ∧
        (connection .silent Rally.session () (fun _ => []) 0 host 0 []).Reachable
          (EvictsNoneInFlight 0) c ∧
        c.sampled = [(1, 0)] ∧ c.beats = [(1, 0), (2, 0)] :=
    ⟨(((controlSystem .silent Rally.session ()).replay Free
      (controlSystem .silent Rally.session ()).init (Schedule.connect 0)).get rfl), _, _, rfl, rfl,
      System.reachable_of_replay (Rally.begin ++ Rally.round 1) rfl, rfl, rfl⟩
  have passed := heartbeats_return_once handles waits run
  exact ⟨host, h, c, handles, waits, run, sampled, beats, passed.1, passed.2.2.2⟩

/-- Each heartbeat that comes back clears the count of missed ones, so the loop can write two
for every one it reads; the sixteenth evicts the entry of the eighth, whose echo is then
written back. -/
theorem late_echo_bounces :
    ∃ host h c, (controlSystem .silent Rally.session ()).Reachable Free host ∧
      host.task 0 = .handler h ∧ h.pc = .select ∧
      (connection .silent Rally.session () (fun _ => []) 0 host 0 []).Reachable Free c ∧
      c.echoes = [⟨.heartbeat, uuid Rally.session, Gnr4.heartbeatPayload 8 0⟩] :=
  ⟨_, _, _, System.reachable_of_replay (Schedule.connect 0) rfl, rfl, rfl,
    System.reachable_of_replay
      (Rally.begin ++ ([1, 2, 3, 4, 5, 6, 7, 8] : List Int64).flatMap Rally.round) rfl, rfl⟩

end QuestVdWired.Link
