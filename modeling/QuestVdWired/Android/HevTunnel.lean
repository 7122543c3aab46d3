import QuestVdWired.Android.SessionDescriptors

/-!
`HevTunnel`: any number of tunnels over one `HevProcessState`. Every operation runs under
`processState.lock`; what the native library answers is an input. The calls of the bridge are
kept, each with the tunnel that made it.
-/

namespace QuestVdWired.Android.Hev
open Transition

/-- A call of `HevNativeBridge` by a tunnel, with what came back; `own` is the tunnel's token. -/
inductive Call
  | start (tunnel token : Nat)
  | stop (tunnel own token : Nat)
  | awaitStopped (tunnel token : Nat) (result : Int)
  deriving DecidableEq, Repr

/-- What the native library answers in one operation; a token 0 is a start that failed. -/
structure Answers where
  start : Nat
  stop : Bool
  awaitStopped : Int
  awaitReady : Int
  deriving DecidableEq, Repr

structure Process where
  activeToken : Nat
  token : Nat → Nat
  calls : List Call

def isTerminalStop (result : Int) : Bool := result = 1 || result = -1 || result = -2

namespace Process
variable (p : Process) (tunnel : Nat) (native : Answers)

def call (c : Call) : Process := { p with calls := p.calls ++ [c] }

def setToken (token : Nat) : Process := { p with token := Function.update p.token tunnel token }

/-- The part of `start` that ends the engine of an earlier tunnel. -/
def stopOrphan : Process × Except String Unit :=
  let staleToken := p.activeToken
  if staleToken = 0 then (p, .ok ())
  else
    let p := p.call (.stop tunnel (p.token tunnel) staleToken)
    if native.stop then
      let p := p.call (.awaitStopped tunnel staleToken native.awaitStopped)
      if isTerminalStop native.awaitStopped then ({ p with activeToken := 0 }, .ok ())
      else (p, .error "HEV orphaned generation did not stop within 1500ms")
    else (p, .error "HEV rejected the orphaned generation's stop request")

def start : Process × Except String Unit :=
  if p.token tunnel ≠ 0 then (p, .error "HEV tunnel was started twice")
  else
    match p.stopOrphan tunnel native with
    | (p, .error e) => (p, .error e)
    | (p, .ok ()) =>
        let startedToken := native.start
        let p := p.call (.start tunnel startedToken)
        if startedToken = 0 then (p, .error "HEV native engine could not start")
        else ({ p.setToken tunnel startedToken with activeToken := startedToken }, .ok ())

def currentToken : Except String Nat :=
  if p.token tunnel = 0 then .error "HEV tunnel has not started" else .ok (p.token tunnel)

/-- The bridge is asked outside the lock. -/
def awaitReady (timeoutMs : Int) : Except String Unit :=
  if timeoutMs < 0 then .error "timeoutMs must not be negative"
  else
    match p.currentToken tunnel with
    | .error e => .error e
    | .ok _ =>
        match native.awaitReady with
        | 1 => .ok ()
        | 0 => .error s!"HEV initialization timed out after {timeoutMs}ms"
        | -2 => .error "HEV initialization belongs to a stale generation"
        | _ => .error "HEV initialization failed"

def requestStop : Process × Except String Unit :=
  if p.token tunnel = 0 then (p, .ok ())
  else if p.activeToken ≠ p.token tunnel then (p.setToken tunnel 0, .ok ())
  else
    (p.call (.stop tunnel (p.token tunnel) (p.token tunnel)),
      if native.stop then .ok () else .error "HEV rejected the active generation's stop request")

def awaitStopped (timeoutMs : Int) : Process × Except String Bool :=
  if timeoutMs < 0 then (p, .error "timeoutMs must not be negative")
  else if p.token tunnel = 0 then (p, .ok true)
  else if p.activeToken ≠ p.token tunnel then (p.setToken tunnel 0, .ok true)
  else
    let activeToken := p.token tunnel
    let p := p.call (.awaitStopped tunnel activeToken native.awaitStopped)
    let terminated := isTerminalStop native.awaitStopped
    if terminated then
      let p := p.setToken tunnel 0
      (if p.activeToken = activeToken then { p with activeToken := 0 } else p, .ok true)
    else (p, .ok false)

end Process

inductive Operation
  | start
  | awaitReady (timeoutMs : Int)
  | requestStop
  | awaitStopped (timeoutMs : Int)
  deriving DecidableEq, Repr

structure Action where
  tunnel : Nat
  operation : Operation
  native : Answers
  deriving DecidableEq, Repr

def Process.act (p : Process) (a : Action) : Process :=
  match a.operation with
  | .start => (p.start a.tunnel a.native).1
  | .awaitReady _ => p
  | .requestStop => (p.requestStop a.tunnel a.native).1
  | .awaitStopped timeoutMs => (p.awaitStopped a.tunnel a.native timeoutMs).1

def tunnels : System Process Action where
  init := ⟨0, fun _ => 0, []⟩
  step a p := some (p.act a)

/-- The token is reported terminal in these calls. -/
def Terminal (token : Nat) (calls : List Call) : Prop :=
  ∃ tunnel result, .awaitStopped tunnel token result ∈ calls ∧ isTerminalStop result = true

/-- Every token started in these calls, and not the active one, is reported terminal after its
start. -/
def Reported (activeToken : Nat) (calls : List Call) : Prop :=
  ∀ l r tunnel token, calls = l ++ .start tunnel token :: r → token ≠ 0 →
    token = activeToken ∨ Terminal token r

structure Disciplined (p : Process) : Prop where
  reported : Reported p.activeToken p.calls
  starts : ∀ l r tunnel token, p.calls = l ++ .start tunnel token :: r → Reported 0 l
  owns : ∀ tunnel, p.token tunnel ≠ 0 → .start tunnel (p.token tunnel) ∈ p.calls
  stops : ∀ tunnel own token, .stop tunnel own token ∈ p.calls →
    own = 0 ∨ own = token ∧ .start tunnel token ∈ p.calls

section
variable {p : Process} {calls l r : List Call} {c s : Call} {tunnel token own active : Nat}
  {result : Int} {native : Answers}

/-- A call among the calls and one more is among them, or is the last. -/
theorem split_snoc (split : calls ++ [c] = l ++ s :: r) :
    calls = l ∧ c = s ∨ ∃ r', r = r' ++ [c] ∧ calls = l ++ s :: r' := by
  rcases List.eq_nil_or_concat r with rfl | ⟨r', last, rfl⟩
  · obtain ⟨rfl, same⟩ := List.append_inj' split rfl
    exact .inl ⟨rfl, by simpa using same⟩
  · rw [List.concat_eq_append, ← List.cons_append, ← List.append_assoc] at split
    obtain ⟨rfl, same⟩ := List.append_inj' split rfl
    obtain rfl : c = last := by simpa using same
    exact .inr ⟨r', by simp, rfl⟩

theorem Terminal.append (terminal : Terminal token r) : Terminal token (r ++ [c]) := by
  obtain ⟨tunnel, result, there, stops⟩ := terminal
  exact ⟨tunnel, result, List.mem_append_left _ there, stops⟩

theorem Reported.append (reported : Reported active calls)
    (other : ∀ tunnel token, c ≠ .start tunnel token) : Reported active (calls ++ [c]) := by
  intro l r tunnel token split nonzero
  rcases split_snoc split with ⟨_, same⟩ | ⟨r', rfl, before⟩
  · exact absurd same (other tunnel token)
  · exact (reported l r' tunnel token before nonzero).imp id Terminal.append

/-- A call that starts nothing, and stops what it may. -/
theorem Disciplined.call (disciplined : Disciplined p)
    (other : ∀ tunnel token, c ≠ .start tunnel token)
    (legit : ∀ tunnel own token, c = .stop tunnel own token →
      own = 0 ∨ own = token ∧ .start tunnel token ∈ p.calls) : Disciplined (p.call c) := by
  refine ⟨disciplined.reported.append other, ?_, ?_, ?_⟩
  · intro l r tunnel token split
    rcases split_snoc split with ⟨_, same⟩ | ⟨r', rfl, before⟩
    · exact absurd same (other tunnel token)
    · exact disciplined.starts l r' tunnel token before
  · intro tunnel nonzero
    exact List.mem_append_left _ (disciplined.owns tunnel nonzero)
  · intro tunnel own token there
    rcases List.mem_append.mp there with before | now
    · exact (disciplined.stops tunnel own token before).imp id
        (And.imp id (List.mem_append_left _))
    · exact (legit tunnel own token (List.mem_singleton.mp now).symm).imp id
        (And.imp id (List.mem_append_left _))

/-- A start while no token is active. -/
theorem Disciplined.begins (disciplined : Disciplined p) (idle : p.activeToken = 0) :
    Disciplined
      { (p.call (.start tunnel token)).setToken tunnel token with activeToken := token } := by
  refine ⟨?_, ?_, ?_, ?_⟩
  · intro l r starter other split nonzero
    rcases split_snoc split with ⟨_, same⟩ | ⟨r', rfl, before⟩
    · cases same
      exact .inl rfl
    · rcases disciplined.reported l r' starter other before nonzero with now | already
      · exact absurd (now.trans idle) nonzero
      · exact .inr already.append
  · intro l r starter other split
    rcases split_snoc split with ⟨rfl, _⟩ | ⟨r', rfl, before⟩
    · exact idle ▸ disciplined.reported
    · exact disciplined.starts l r' starter other before
  · intro other nonzero
    by_cases same : other = tunnel
    · subst same
      simp [Process.setToken, Process.call]
    · simp only [Process.setToken, Process.call, Function.update_of_ne same] at nonzero ⊢
      exact List.mem_append_left _ (disciplined.owns other nonzero)
  · intro stopper own other there
    rcases List.mem_append.mp there with before | now
    · exact (disciplined.stops stopper own other before).imp id
        (And.imp id (List.mem_append_left _))
    · cases List.mem_singleton.mp now

end

/-- A second tunnel replaces the engine that the first one left running. -/
def replacement : List Action :=
  [⟨1, .start, ⟨7, true, 1, 1⟩⟩, ⟨2, .start, ⟨8, true, 1, 1⟩⟩]

end QuestVdWired.Android.Hev
