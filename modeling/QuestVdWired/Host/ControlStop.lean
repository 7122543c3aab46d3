import QuestVdWired.Transition.Tokens
import QuestVdWired.Host.ControlPublication

/-!
The explicit stop. A stop request is a token: after it was sent it is in exactly
one place, in the command lane, in the hands of one handler, or among the
replies, and every step of every task moves tokens without copying or dropping
one. The lifecycle is left for Stopped only by the STOPPED frame that completes a
pending stop, and that is the only step that answers a request with success.
-/

namespace QuestVdWired.Host

open Transition

variable {ε : Type}

/-- The request a handler has in hand between the lane and the state lock. -/
def HandlerPc.inHand : HandlerPc → List Nat
  | .command taken | .requeue taken => [taken.result]
  | _ => []

/-- The requests a handler answers for. -/
def Handler.holds (h : Handler) : List Nat := h.pc.inHand ++ h.pendingStop.sender.toList

def ControlTask.holds : ControlTask → List Nat
  | .handler h => h.holds
  | _ => []

/-- The places of a request. -/
inductive Place
  | queued
  | held (handler : Nat)
  | replied
  deriving DecidableEq

def ControlShared.queued (sh : ControlShared ε) : List Nat :=
  sh.queue.map ControlCommand.result

def ControlShared.replied (sh : ControlShared ε) : List Nat := sh.replies.map Prod.fst

/-- How often a request is in a place. -/
def tokens (c : ControlConfig ε) (request : Nat) : Place → Nat
  | .queued => c.shared.queued.count request
  | .held i => (c.task i).holds.count request
  | .replied => c.shared.replied.count request

/-- What a handler holds is consistent with where it stands: a command is taken
only without a stop pending, a returned handler holds nothing, and a frame in
hand passed its checks. -/
structure Handler.Ready (session : SessionId) (h : Handler) : Prop where
  unpledged : h.pc.inHand ≠ [] → h.pendingStop.sender = none
  empty : ∀ result, h.pc = .returned result → h.pendingStop.sender = none
  checked : ∀ f, h.pc = .frame f → f.Checked session

theorem HandlerStep.session {obs : Observers ε} {id : Nat} {sh sh' : ControlShared ε}
    {h h' : Handler} {a : HandlerAction} (step : HandlerStep obs id sh h a sh' h') :
    sh'.session = sh.session := by
  cases step with
  | observed pc seen | finished pc seen =>
      obtain ⟨_, _, _, _, rfl⟩ := observe_cases seen
      rfl
  | _ => rfl

section Ready
variable {session : SessionId} {h : Handler}

/-- Nothing in hand, neither a request nor a frame, and the handler goes on. -/
theorem Handler.Ready.of_plain (hand : h.pc.inHand = [])
    (goesOn : ∀ result, h.pc ≠ .returned result) (frame : ∀ f, h.pc ≠ .frame f) : h.Ready session :=
  ⟨fun holds => absurd hand holds, fun result is => absurd is (goesOn result),
    fun f is => absurd is (frame f)⟩

/-- No stop is pending, and there is no frame in hand. -/
theorem Handler.Ready.of_empty (sender : h.pendingStop.sender = none)
    (frame : ∀ f, h.pc ≠ .frame f) : h.Ready session :=
  ⟨fun _ => sender, fun _ _ => sender, fun f is => absurd is (frame f)⟩
end Ready

theorem HandlerStep.ready {obs : Observers ε} {id : Nat} {sh sh' : ControlShared ε}
    {h h' : Handler} {a : HandlerAction} (step : HandlerStep obs id sh h a sh' h')
    (inv : h.Ready sh.session) : h'.Ready sh'.session := by
  rw [step.session]
  obtain ⟨unpledged, empty, checked⟩ := inv
  cases step with
  | moved quiet =>
      cases quiet <;>
        first
        | (refine .of_plain rfl ?_ ?_ <;> intro _ is <;> cases is; done)
        | constructor <;> simp_all [HandlerPc.inHand]
  | observed pc seen onward =>
      simp only [List.mem_cons, List.not_mem_nil, or_false] at onward
      rcases onward with rfl | rfl | rfl | rfl | rfl <;>
        exact .of_plain rfl (fun _ is => by cases is) fun _ is => by cases is
  | commandTaken pc head unpledged' =>
      constructor <;> simp_all [Handler.goto, HandlerPc.inHand, PendingStop.isPending]
  | _ =>
      first
      | exact .of_empty rfl fun f is => by cases is
      | exact .of_plain rfl (fun result is => by cases is) fun f is => by cases is

@[simp] theorem PendingStop.settle_fst (p : PendingStop) (reply : Reply) :
    (p.settle reply).map Prod.fst = p.sender.toList := by
  simp [settle, Function.comp_def]

/-- Returning answers for what is pending. -/
theorem Handler.ret_conserves (sh : ControlShared ε) (h : Handler) (result : Outcome)
    (free : h.pc.inHand = []) (request : Nat) :
    (ret sh h result).1.queued.count request + (ret sh h result).2.holds.count request +
        (ret sh h result).1.replied.count request =
      sh.queued.count request + h.holds.count request + sh.replied.count request := by
  have nothing : (ret sh h result).2.holds = [] := rfl
  rw [nothing]
  simp [ret, ControlShared.queued, ControlShared.replied, ControlShared.reply, holds, free,
    PendingStop.drop, PendingStop.fail]
  omega

/-- A handler moves tokens between the lane, its hands and the replies. -/
theorem HandlerStep.conserves {obs : Observers ε} {id : Nat} {sh sh' : ControlShared ε}
    {h h' : Handler} {a : HandlerAction} (step : HandlerStep obs id sh h a sh' h')
    (inv : h.Ready sh.session) (request : Nat) :
    sh'.queued.count request + h'.holds.count request + sh'.replied.count request =
      sh.queued.count request + h.holds.count request + sh.replied.count request := by
  cases step with
  | rejected pc | refused pc | released pc =>
      exact Handler.ret_conserves sh h _ (by rw [pc]; rfl) request
  | escaped how pc =>
      refine Handler.ret_conserves sh h _ ?_ request
      rcases pc with ⟨_, _, pc⟩ | pc | ⟨_, pc, _⟩ <;> rw [pc] <;> rfl
  | moved quiet =>
      cases quiet <;>
        simp_all [ControlShared.queued, ControlShared.replied, Handler.holds, HandlerPc.inHand]
  | stopped pc | deadlineFired pc | abandoned pc =>
      simp [ControlShared.queued, ControlShared.replied, ControlShared.reply, Handler.holds,
        HandlerPc.inHand, pc, PendingStop.complete, PendingStop.fail, PendingStop.empty]
      omega
  | commandRefused pc head | commandTaken pc head =>
      simp [ControlShared.queued, ControlShared.replied, ControlShared.reply, Handler.holds,
        Handler.goto, HandlerPc.inHand, pc, head, List.count_cons]
      omega
  | stopRefused pc | requeueExpired pc | requeued pc =>
      simp [ControlShared.queued, ControlShared.replied, ControlShared.reply, Handler.holds,
        Handler.goto, HandlerPc.inHand, pc, List.count_cons]
      omega
  | stopBegun pc =>
      -- Overwriting a pending stop would lose its sender; there is none.
      have unpledged := inv.unpledged (by simp [pc, HandlerPc.inHand])
      simp [ControlShared.queued, ControlShared.replied, Handler.holds, pc, HandlerPc.inHand,
        PendingStop.set, unpledged]
  | observed pc seen onward =>
      obtain ⟨_, _, _, _, rfl⟩ := observe_cases seen
      simp only [List.mem_cons, List.not_mem_nil, or_false] at onward
      rcases onward with rfl | rfl | rfl | rfl | rfl <;>
        simp [ControlShared.queued, ControlShared.replied, Handler.goto, Handler.holds,
          HandlerPc.inHand, pc]
  | finished pc seen =>
      obtain ⟨_, _, _, _, rfl⟩ := observe_cases seen
      exact Handler.ret_conserves _ h _ (by rw [pc]; rfl) request
  | _ =>
      simp [ControlShared.queued, ControlShared.replied, Handler.takeSnapshot, Handler.goto,
        Handler.holds, HandlerPc.inHand, ‹h.pc = _›]

theorem CallStep.tokens_same {obs : Observers ε} {id : Nat} {sh sh' : ControlShared ε}
    {c c' : Call} {a : CallAction} (step : CallStep obs id sh c a sh' c') :
    sh'.session = sh.session ∧ sh'.queue = sh.queue ∧ sh'.replies = sh.replies := by
  cases step with
  | observed pc seen =>
      obtain ⟨_, _, _, _, rfl⟩ := observe_cases seen
      exact ⟨rfl, rfl, rfl⟩
  | _ => exact ⟨rfl, rfl, rfl⟩

/-- The places a step of task `i` reaches. -/
def reach (i : Nat) : Finset Place := {.queued, .held i, .replied}

theorem sum_reach (c : ControlConfig ε) (i j : Nat) :
    ∑ p ∈ reach i, tokens c j p =
      c.shared.queued.count j + (c.task i).holds.count j + c.shared.replied.count j := by
  simp [reach, tokens, Nat.add_assoc]

/-- A request is nowhere before it is sent, and in exactly one place from then
on. -/
structure Custody (c : ControlConfig ε) : Prop where
  ready : ∀ i h, c.task i = .handler h → h.Ready c.shared.session
  unsent : ∀ j, (∀ r, c.task j = .request r → r.pc = .sending) → ∀ p, tokens c j p = 0
  placed : ∀ j, (∀ p, tokens c j p = 0) ∨ ∃ p, Single (tokens c j) p
  waiting : ∀ j r, c.task j = .request r → r.pc = .waiting → ∃ p, Single (tokens c j) p

namespace Custody
variable {obs : Observers ε} {c : ControlConfig ε} {i : Nat} {sh : ControlShared ε}
  {t : ControlTask} {action : ControlAction}

theorem initial (session : SessionId) (env : ε) :
    Custody (⟨.initial obs session env, fun _ => .vacant⟩ : ControlConfig ε) where
  ready := by simp
  unsent := by
    intro j _ p
    cases p <;> rfl
  placed := by
    intro j
    refine Or.inl fun p => ?_
    cases p <;> rfl
  waiting := by simp

theorem frame (j : Nat) (p : Place) (outside : p ∉ reach i) :
    tokens (⟨sh, Function.update c.task i t⟩ : ControlConfig ε) j p = tokens c j p := by
  cases p with
  | queued | replied => simp [reach] at outside
  | held k =>
      have other : k ≠ i := by simpa [reach] using outside
      simp [tokens, other]

/-- A step keeps the number of tokens in its reach, unless it sends its own
request. -/
theorem tokens_step (inv : Custody c)
    (taken : ControlStep obs i c.shared action (c.task i) sh t) (j : Nat) :
    let c' : ControlConfig ε := ⟨sh, Function.update c.task i t⟩
    (∑ p ∈ reach i, tokens c' j p = ∑ p ∈ reach i, tokens c j p ∧
        (j = i → ∀ r, t = .request r → r.pc ≠ .waiting)) ∨
      (j = i ∧ ∑ p ∈ reach i, tokens c' j p = ∑ p ∈ reach i, tokens c j p + 1 ∧
        ∃ r, c.task i = .request r ∧ r.pc = .sending) := by
  dsimp only
  rw [sum_reach, sum_reach]
  simp only [Function.update_self]
  generalize own : c.task i = task at taken
  cases taken with
  | accept =>
      have nothing : Handler.spawned.holds = [] := rfl
      exact Or.inl ⟨by simp [ControlTask.holds, nothing], by simp⟩
  | transportLost | resetTransport | requestStop =>
      exact Or.inl ⟨by simp [ControlTask.holds], by simp⟩
  | handler step => exact Or.inl ⟨step.conserves (inv.ready i _ own) j, by simp⟩
  | call step =>
      obtain ⟨_, queue, replies⟩ := step.tokens_same
      refine Or.inl ⟨?_, by simp⟩
      simp [ControlTask.holds, ControlShared.queued, ControlShared.replied, queue, replies]
  | request step =>
      cases step with
      | sent pc room =>
          by_cases mine : j = i
          · subst mine
            refine Or.inr ⟨rfl, ?_, _, rfl, pc⟩
            simp [ControlTask.holds, ControlShared.queued, ControlShared.replied]
            omega
          · refine Or.inl ⟨?_, fun same => absurd same mine⟩
            simp [ControlTask.holds, ControlShared.queued, ControlShared.replied, Ne.symm mine]
      | answered pc found | gaveUp pc =>
          refine Or.inl ⟨rfl, ?_⟩
          rintro _ _ same
          cases same
          simp

theorem sent_of_single (inv : Custody c) {j : Nat} {p : Place} (single : Single (tokens c j) p) :
    ∃ r, c.task j = .request r ∧ r.pc ≠ .sending := by
  by_contra unsent
  push Not at unsent
  have absent := inv.unsent j unsent p
  rw [single p] at absent
  simp at absent

/-- A token that exists stays single; it moves only within the reach of the
acting task. -/
theorem single_step (inv : Custody c)
    (taken : ControlStep obs i c.shared action (c.task i) sh t) {j : Nat} {p : Place}
    (single : Single (tokens c j) p) :
    ∃ p', Single (tokens (⟨sh, Function.update c.task i t⟩ : ControlConfig ε) j) p' ∧
      (p' = p ∨ p ∈ reach i ∧ p' ∈ reach i) := by
  rcases inv.tokens_step taken j with ⟨kept, _⟩ | ⟨rfl, _, r, own, pc⟩
  · exact single.moved (frame j) kept
  · obtain ⟨r', own', sent⟩ := inv.sent_of_single single
    cases own.symm.trans own'
    exact absurd pc sent

theorem ready_step (inv : Custody c)
    (taken : ControlStep obs i c.shared action (c.task i) sh t) :
    sh.session = c.shared.session ∧ ∀ h, t = .handler h → h.Ready sh.session := by
  generalize own : c.task i = task at taken
  cases taken with
  | accept =>
      refine ⟨rfl, ?_⟩
      rintro _ same
      cases same
      constructor <;> simp [Handler.spawned, HandlerPc.inHand, PendingStop.empty]
  | transportLost | resetTransport | requestStop => exact ⟨rfl, by simp⟩
  | handler step =>
      refine ⟨step.session, ?_⟩
      rintro _ same
      cases same
      exact step.ready (inv.ready i _ own)
  | call step => exact ⟨step.tokens_same.1, by simp⟩
  | request step => cases step <;> exact ⟨rfl, by simp⟩

/-- A task that is no sent request was none before. -/
theorem unsent_before (taken : ControlStep obs i c.shared action (c.task i) sh t)
    (unsent : ∀ r, t = .request r → r.pc = .sending) (r : Request)
    (own : c.task i = .request r) : r.pc = .sending := by
  rw [own] at taken
  cases taken with
  | request step =>
      cases step with
      | sent pc => exact pc
      | answered | gaveUp => cases unsent _ rfl

theorem step (inv : Custody c)
    (taken : ControlStep obs i c.shared action (c.task i) sh t) :
    Custody (⟨sh, Function.update c.task i t⟩ : ControlConfig ε) := by
  obtain ⟨session, ready⟩ := inv.ready_step taken
  -- A request that grows was absent: one token is all it has.
  have created : ∀ j, (∀ p, tokens c j p = 0) →
      ∑ p ∈ reach i, tokens (⟨sh, Function.update c.task i t⟩ : ControlConfig ε) j p =
        ∑ p ∈ reach i, tokens c j p + 1 →
      ∃ p, Single (tokens (⟨sh, Function.update c.task i t⟩ : ControlConfig ε) j) p := by
    intro j absent grown
    rw [Finset.sum_eq_zero fun p _ => absent p] at grown
    obtain ⟨p, _, single⟩ := Single.exists_of_sum grown fun q outside => by
      rw [frame j q outside, absent q]
    exact ⟨p, single⟩
  constructor
  · intro k h at_k
    rcases handler_update.mp at_k with ⟨_, mine⟩ | ⟨_, other⟩
    · exact ready h mine
    · exact session ▸ inv.ready k h other
  · intro j unsent
    have before : ∀ r, c.task j = .request r → r.pc = .sending := by
      by_cases mine : j = i
      · subst mine
        exact unsent_before taken (by simpa using unsent)
      · simpa [mine] using unsent
    rcases inv.tokens_step taken j with ⟨kept, _⟩ | ⟨rfl, _, r, own, _⟩
    · exact absent_of_moved (frame j) kept (inv.unsent j before)
    · rw [own] at taken
      cases taken with
      | request step =>
          cases step <;> cases unsent _ (Function.update_self ..)
  · intro j
    rcases inv.placed j with absent | ⟨p, single⟩
    · rcases inv.tokens_step taken j with ⟨kept, _⟩ | ⟨_, grown, _⟩
      · exact Or.inl (absent_of_moved (frame j) kept absent)
      · exact Or.inr (created j absent grown)
    · obtain ⟨p', single', _⟩ := inv.single_step taken single
      exact Or.inr ⟨p', single'⟩
  · intro j r own pc
    by_cases mine : j = i
    · subst mine
      rcases inv.tokens_step taken j with ⟨_, idle⟩ | ⟨_, grown, r', own', pc'⟩
      · exact absurd pc (idle rfl r (by simpa using own))
      · refine created j (inv.unsent j fun r own => ?_) grown
        cases own.symm.trans own'
        exact pc'
    · obtain ⟨p, single⟩ := inv.waiting j r (by simpa [mine] using own) pc
      obtain ⟨p', single', _⟩ := inv.single_step taken single
      exact ⟨p', single'⟩

theorem of_reachable {session : SessionId} {env : ε}
    {ok : ControlConfig ε → Nat × ControlAction → Prop}
    (h : (controlSystem obs session env).Reachable ok c) : Custody c := by
  refine h.invariant (initial session env) ?_
  rintro c ⟨i, action⟩ c' inv _ taken
  obtain ⟨sh, t, step, rfl⟩ := controlSystem_step taken
  exact inv.step step

end Custody

/-- Handler `i`, on the current connection, moves the lifecycle to Stopping for
the request. -/
def BeginsStop (c : ControlConfig ε) (i : Nat) (action : ControlAction) (request : Nat) :
    Prop :=
  ∃ h now command, c.task i = .handler h ∧ action = .handler (.lockState now) ∧
    h.pc = .command command ∧ command.result = request ∧
    c.shared.isCurrentConnection h.epoch = true ∧ c.shared.machine.beginStop.1 = .ok ()

/-- Handler `i`, on the current connection and with the request pending, acts on
a STOPPED frame of the session while the lifecycle is Stopping. -/
def CompletesStop (session : SessionId) (c : ControlConfig ε) (i : Nat)
    (action : ControlAction) (request : Nat) : Prop :=
  ∃ h f now, c.task i = .handler h ∧ action = .handler (.lockState now) ∧
    h.pc = .frame f ∧ f.messageType = .stopped ∧ f.sessionId = session ∧
    c.shared.isCurrentConnection h.epoch = true ∧ h.pendingStop.sender = some request ∧
    c.shared.machine.state = .stopping

theorem StateMachine.transportLost_stopped {m : StateMachine} {reason : String}
    (after : (m.transportLost reason).state = .stopped) : m.state = .stopped := by
  rcases m.transportLost_cases reason with ⟨_, moved⟩ | ⟨_, same⟩
  · simp [moved] at after
  · rwa [same] at after

/-- The outcome of a step that leaves the lifecycle Stopped. -/
theorem HandlerStep.enters_stopped {obs : Observers ε} {id : Nat} {sh sh' : ControlShared ε}
    {h h' : Handler} {a : HandlerAction} (step : HandlerStep obs id sh h a sh' h')
    (after : sh'.machine.state = .stopped) :
    sh.machine.state = .stopped ∨
      ∃ f now request, a = .lockState now ∧ h.pc = .frame f ∧ f.messageType = .stopped ∧
        sh.isCurrentConnection h.epoch = true ∧ h.pendingStop.sender = some request ∧
        sh.machine.state = .stopping := by
  cases step with
  | @stopped now f pc current type pending stopping =>
      obtain ⟨request, sender⟩ := Option.isSome_iff_exists.mp pending
      exact Or.inr ⟨f, now, request, rfl, pc, type, current, sender, stopping⟩
  | ticked pc current same => exact Or.inl (same ▸ after)
  | @missed now pc current changed =>
      rcases sh.machine.tick_cases now with ⟨_, same⟩ | ⟨_, _, missed⟩
      · exact absurd (by rw [same]) changed
      · simp [missed] at after
  | startedPlain pc current type moves | startedWake pc current type moves =>
      obtain ⟨_, _, rfl⟩ := StateMachine.peerStarted_ok moves
      cases after
  | beat pc current type moves =>
      obtain ⟨_, ⟨degraded, _, rfl⟩ | ⟨_, rfl⟩⟩ := StateMachine.heartbeat_ok moves
      · exact Or.inl after
      · cases after
  | suspended pc current moves =>
      obtain ⟨_, _, rfl⟩ := StateMachine.peerSuspended_ok moves
      cases after
  | stopBegun pc current moves =>
      obtain ⟨_, rfl⟩ := StateMachine.beginStop_ok moves
      cases after
  | peerFailed | deadlineFailed | abandoned => cases after
  | lost => exact Or.inl (StateMachine.transportLost_stopped after)
  | observed pc seen | finished pc seen =>
      obtain ⟨_, _, _, _, rfl⟩ := observe_cases seen
      exact Or.inl after
  | _ => exact Or.inl after

/-- Success is only ever sent by the step that completes the stop. -/
theorem HandlerStep.answers_ok {obs : Observers ε} {id : Nat} {sh sh' : ControlShared ε}
    {h h' : Handler} {a : HandlerAction} (step : HandlerStep obs id sh h a sh' h')
    {request : Nat} (after : (request, .ok ()) ∈ sh'.replies) :
    (request, .ok ()) ∈ sh.replies ∨
      ∃ f now, a = .lockState now ∧ h.pc = .frame f ∧ f.messageType = .stopped ∧
        sh.isCurrentConnection h.epoch = true ∧ h.pendingStop.sender = some request ∧
        sh.machine.state = .stopping := by
  cases step with
  | @stopped now f pc current type pending stopping =>
      rcases List.mem_append.mp after with before | new
      · exact Or.inl before
      · have sender : h.pendingStop.sender = some request := by
          simpa [PendingStop.complete, PendingStop.settle] using new
        exact Or.inr ⟨f, now, rfl, pc, type, current, sender, stopping⟩
  | observed pc seen =>
      obtain ⟨_, _, _, _, rfl⟩ := observe_cases seen
      exact Or.inl after
  | finished pc seen =>
      obtain ⟨_, _, _, _, rfl⟩ := observe_cases seen
      refine Or.inl ?_
      simpa [Handler.ret, ControlShared.reply, PendingStop.drop, PendingStop.fail,
        PendingStop.settle] using after
  | _ =>
      refine Or.inl ?_
      simpa [Handler.ret, ControlShared.reply, PendingStop.drop, PendingStop.fail,
        PendingStop.settle, Handler.takeSnapshot] using after

/-- A stop becomes pending only in the step that began it. -/
theorem HandlerStep.pledges {obs : Observers ε} {id : Nat} {sh sh' : ControlShared ε}
    {h h' : Handler} {a : HandlerAction} (step : HandlerStep obs id sh h a sh' h')
    {request : Nat} (after : h'.pendingStop.sender = some request) :
    h.pendingStop.sender = some request ∨
      ∃ now command, a = .lockState now ∧ h.pc = .command command ∧
        command.result = request ∧ sh.isCurrentConnection h.epoch = true ∧
        sh.machine.beginStop.1 = .ok () := by
  cases step with
  | @stopBegun now command machine pc current moves =>
      refine Or.inr ⟨now, command, rfl, pc, ?_, current, by rw [moves]⟩
      simpa [PendingStop.set] using after
  | _ =>
      first
        | exact Or.inl after
        | cases after

theorem HandlerStep.replies_grow {obs : Observers ε} {id : Nat} {sh sh' : ControlShared ε}
    {h h' : Handler} {a : HandlerAction} (step : HandlerStep obs id sh h a sh' h') :
    ∃ new, sh'.replies = sh.replies ++ new := by
  cases step with
  | observed pc seen =>
      obtain ⟨_, _, _, _, rfl⟩ := observe_cases seen
      exact ⟨[], by simp⟩
  | finished pc seen =>
      obtain ⟨_, _, _, _, rfl⟩ := observe_cases seen
      exact ⟨_, rfl⟩
  | _ =>
      first
        | exact ⟨_, rfl⟩
        | exact ⟨[], (List.append_nil _).symm⟩

theorem ControlStep.replies_grow {obs : Observers ε} {id : Nat} {sh sh' : ControlShared ε}
    {t t' : ControlTask} {action : ControlAction}
    (step : ControlStep obs id sh action t sh' t') : ∃ new, sh'.replies = sh.replies ++ new := by
  cases step with
  | accept | transportLost | resetTransport | requestStop => exact ⟨[], by simp⟩
  | handler step => exact step.replies_grow
  | call step => exact ⟨[], by simp [step.tokens_same.2.2]⟩
  | request step => cases step <;> exact ⟨[], by simp⟩

section
variable {obs : Observers ε} {session : SessionId} {env : ε} {c c' : ControlConfig ε}
  {i : Nat} {action : ControlAction}

theorem session_of_reachable {ok : ControlConfig ε → Nat × ControlAction → Prop}
    (reached : (controlSystem obs session env).Reachable ok c) :
    c.shared.session = session := by
  refine (reached.invariant (I := fun c => Custody c ∧ c.shared.session = session)
    ⟨Custody.initial session env, rfl⟩ ?_).2
  rintro c ⟨i, action⟩ c' ⟨inv, same⟩ _ taken
  obtain ⟨sh, t, step, rfl⟩ := controlSystem_step taken
  exact ⟨inv.step step, (inv.ready_step step).1.trans same⟩

theorem completesStop_of_stopped (reached : (controlSystem obs session env).Reachable Free c)
    (taken : (controlSystem obs session env).step (i, action) c = some c')
    (after : c'.shared.machine.state = .stopped) (before : c.shared.machine.state ≠ .stopped) :
    ∃ request, CompletesStop session c i action request := by
  have same := session_of_reachable reached
  have ready := (Custody.of_reachable reached).ready i
  obtain ⟨sh, t, step, rfl⟩ := controlSystem_step taken
  dsimp only at after
  generalize own : c.task i = task at step
  cases step with
  | accept | transportLost | resetTransport | requestStop => exact absurd after before
  | @handler _ h _ _ step =>
      rcases step.enters_stopped after with already | ⟨f, now, request, rfl, pc, rest⟩
      · exact absurd already before
      · refine ⟨request, h, f, now, own, rfl, pc, rest.1, ?_, rest.2⟩
        exact ((ready h own).checked f pc).1.trans same
  | call step =>
      cases step with
      | degraded => exact absurd (StateMachine.transportLost_stopped after) before
      | observed pc seen =>
          obtain ⟨_, _, _, _, rfl⟩ := observe_cases seen
          exact absurd after before
      | signalled | locked => exact absurd after before
  | request step => cases step <;> exact absurd after before

theorem completesStop_of_answer (reached : (controlSystem obs session env).Reachable Free c)
    (taken : (controlSystem obs session env).step (i, action) c = some c') {request : Nat}
    (after : (request, .ok ()) ∈ c'.shared.replies)
    (before : (request, .ok ()) ∉ c.shared.replies) :
    CompletesStop session c i action request := by
  have same := session_of_reachable reached
  have ready := (Custody.of_reachable reached).ready i
  obtain ⟨sh, t, step, rfl⟩ := controlSystem_step taken
  dsimp only at after
  generalize own : c.task i = task at step
  cases step with
  | accept | transportLost | resetTransport | requestStop => exact absurd after before
  | @handler _ h _ _ step =>
      rcases step.answers_ok after with already | ⟨f, now, rfl, pc, rest⟩
      · exact absurd already before
      · refine ⟨h, f, now, own, rfl, pc, rest.1, ?_, rest.2⟩
        exact ((ready h own).checked f pc).1.trans same
  | call step => exact absurd (step.tokens_same.2.2 ▸ after) before
  | request step => cases step <;> exact absurd after before

/-- The handler of task `i` has the request pending. -/
def Pledged (c : ControlConfig ε) (i request : Nat) : Prop :=
  ∃ h, c.task i = .handler h ∧ h.pendingStop.sender = some request

theorem beginsStop_of_pledged {k request : Nat}
    (taken : (controlSystem obs session env).step (k, action) c = some c')
    (after : Pledged c' i request) (before : ¬ Pledged c i request) :
    k = i ∧ BeginsStop c i action request := by
  obtain ⟨h', own', pending⟩ := after
  obtain ⟨sh, t, step, rfl⟩ := controlSystem_step taken
  rcases handler_update.mp own' with ⟨rfl, rfl⟩ | ⟨_, other⟩
  · refine ⟨rfl, ?_⟩
    generalize own : c.task i = task at step
    cases step with
    | accept => cases pending
    | @handler _ h _ _ step =>
        rcases step.pledges pending with already | ⟨now, command, rfl, pc, rest⟩
        · exact absurd ⟨h, own, already⟩ before
        · exact ⟨h, now, command, own, rfl, pc, rest⟩
  · exact absurd ⟨h', other, pending⟩ before

theorem answered_of_returned {ok : ControlConfig ε → Nat × ControlAction → Prop}
    (reached : (controlSystem obs session env).Reachable ok c) :
    ∀ j r, c.task j = .request r → r.pc = .returned (.ok ()) →
      (j, .ok ()) ∈ c.shared.replies := by
  refine reached.invariant (I := fun c => ∀ j r, c.task j = .request r →
    r.pc = .returned (.ok ()) → (j, .ok ()) ∈ c.shared.replies)
    (by simp [Tasks.system, controlTasks]) ?_
  rintro c ⟨i, action⟩ c' inv _ taken j r own returned
  obtain ⟨sh, t, step, rfl⟩ := controlSystem_step taken
  obtain ⟨new, grown⟩ := step.replies_grow
  have kept : (j, Except.ok ()) ∈ c.shared.replies → (j, Except.ok ()) ∈ sh.replies := by
    intro member
    rw [grown]
    exact List.mem_append_left _ member
  by_cases mine : j = i
  · subst mine
    have own : t = .request r := by simpa using own
    subst own
    generalize own : c.task j = task at step
    cases step with
    | requestStop => cases returned
    | request step =>
        cases step with
        | sent | gaveUp => cases returned
        | @answered reply pc found =>
            cases reply with
            | error e => cases returned
            | ok u =>
                obtain ⟨l, r, split, _⟩ := List.lookup_eq_some_iff.mp found
                show (j, Except.ok u) ∈ c.shared.replies
                rw [split]
                simp
  · exact kept (inv j r (by simpa [mine] using own) returned)

/-- A request answered with success had its stop begun, and later completed by a
STOPPED frame, by one and the same handler. -/
theorem stop_run_of_answer {acts : List (Nat × ControlAction)} {request : Nat}
    (run : (controlSystem obs session env).Path Free (controlSystem obs session env).init
      acts c)
    (answered : (request, .ok ()) ∈ c.shared.replies) :
    ∃ i l m n a b u v, acts = l ++ (i, a) :: (m ++ (i, b) :: n) ∧
      (controlSystem obs session env).Path Free (controlSystem obs session env).init l u ∧
      BeginsStop u i a request ∧
      (controlSystem obs session env).Path Free (controlSystem obs session env).init
        (l ++ (i, a) :: m) v ∧
      CompletesStop session v i b request := by
  obtain ⟨l, n, ⟨i, b⟩, v, w, rfl, toV, _, taken, before, after, _⟩ :=
    run.exists_step (P := fun c => (request, .ok ()) ∈ c.shared.replies)
      (by simp [Tasks.system, controlTasks, ControlShared.initial]) answered
  have completes := completesStop_of_answer ⟨l, toV⟩ taken after before
  obtain ⟨h, _, _, own, _, _, _, _, _, pending, _⟩ := completes
  obtain ⟨l, m, ⟨k, a⟩, u, w', rfl, toU, _, taken', before', after', _⟩ :=
    toV.exists_step (P := fun c => Pledged c i request)
      (by simp [Pledged, Tasks.system, controlTasks]) ⟨h, own, pending⟩
  obtain ⟨rfl, begins⟩ := beginsStop_of_pledged taken' after' before'
  exact ⟨k, l, m, n, a, b, u, v, by simp, toU, begins, toV,
    completesStop_of_answer ⟨_, toV⟩ taken after before⟩

/-- How the place of a request can change in one step of task `i`. A reply is
final, and what a handler holds leaves its hands by its own step only. -/
def Moves (i : Nat) (p p' : Place) : Prop :=
  p' = p ∨ (p = .queued ∧ (p' = .held i ∨ p' = .replied)) ∨
    (p = .held i ∧ (p' = .queued ∨ p' = .replied))

theorem moves_of_step (inv : Custody c) {j : Nat} {p : Place}
    (single : Single (tokens c j) p)
    (taken : (controlSystem obs session env).step (i, action) c = some c') :
    ∃ p', Single (tokens c' j) p' ∧ Moves i p p' := by
  obtain ⟨sh, t, step, rfl⟩ := controlSystem_step taken
  obtain ⟨p', single', moved⟩ := inv.single_step step single
  refine ⟨p', single', ?_⟩
  rcases moved with same | ⟨source, target⟩
  · exact Or.inl same
  · simp only [reach, Finset.mem_insert, Finset.mem_singleton] at source target
    rcases source with rfl | rfl | rfl
    · rcases target with rfl | rfl | rfl <;> simp [Moves]
    · rcases target with rfl | rfl | rfl <;> simp [Moves]
    · refine Or.inl ?_
      by_contra elsewhere
      obtain ⟨new, grown⟩ := step.replies_grow
      have once := single .replied
      have gone := single' .replied
      simp only [tokens, ControlShared.replied, grown, List.map_append, List.count_append,
        if_neg (Ne.symm elsewhere)] at once gone
      simp only [if_true] at once
      omega

theorem single_path {d : ControlConfig ε} {acts : List (Nat × ControlAction)} {j : Nat}
    (inv : Custody c) (single : ∃ p, Single (tokens c j) p)
    (path : (controlSystem obs session env).Path Free c acts d) :
    ∃ p, Single (tokens d j) p := by
  refine (path.invariant (I := fun c => Custody c ∧ ∃ p, Single (tokens c j) p) ?_
    ⟨inv, single⟩).2
  rintro c ⟨i, action⟩ c' ⟨inv, p, single⟩ _ taken
  obtain ⟨p', single', _⟩ := moves_of_step inv single taken
  obtain ⟨sh, t, step, rfl⟩ := controlSystem_step taken
  exact ⟨inv.step step, p', single'⟩

/-- Agreement on the explicit stop, over every run: the lifecycle enters Stopped
only by the STOPPED frame that completes a pending stop; a request succeeds only
if its own stop was begun and then completed so; and a request, once sent, is for
ever in exactly one place, changes places as `Moves` allows, and is not left with
a handler that returned. -/
theorem explicit_stop_agreement {acts : List (Nat × ControlAction)}
    (run : (controlSystem obs session env).Path Free (controlSystem obs session env).init
      acts c) :
    (∀ i action c', (controlSystem obs session env).step (i, action) c = some c' →
      c'.shared.machine.state = .stopped → c.shared.machine.state ≠ .stopped →
      ∃ request, CompletesStop session c i action request) ∧
    (∀ request, (request, .ok ()) ∈ c.shared.replies ∨
        (∃ r, c.task request = .request r ∧ r.pc = .returned (.ok ())) →
      ∃ i l m n a b u v, acts = l ++ (i, a) :: (m ++ (i, b) :: n) ∧
        (controlSystem obs session env).Path Free (controlSystem obs session env).init l u ∧
        BeginsStop u i a request ∧
        (controlSystem obs session env).Path Free (controlSystem obs session env).init
          (l ++ (i, a) :: m) v ∧
        CompletesStop session v i b request) ∧
    (∀ request, (∀ p, tokens c request p = 0) ∨ ∃ p, Single (tokens c request) p) ∧
    (∀ request r, c.task request = .request r → r.pc = .waiting →
      ∀ later d, (controlSystem obs session env).Path Free c later d →
      ∃ p, Single (tokens d request) p) ∧
    (∀ request p, Single (tokens c request) p → ∀ i action c',
      (controlSystem obs session env).step (i, action) c = some c' →
      ∃ p', Single (tokens c' request) p' ∧ Moves i p p') ∧
    (∀ i h result, c.task i = .handler h → h.pc = .returned result → h.holds = []) := by
  have inv := Custody.of_reachable ⟨acts, run⟩
  refine ⟨?_, ?_, inv.placed, ?_, ?_, ?_⟩
  · intro i action c' taken after before
    exact completesStop_of_stopped ⟨acts, run⟩ taken after before
  · rintro request (answered | ⟨r, own, returned⟩)
    · exact stop_run_of_answer run answered
    · exact stop_run_of_answer run (answered_of_returned ⟨acts, run⟩ request r own returned)
  · intro request r own pc later d path
    exact single_path inv (inv.waiting request r own pc) path
  · intro request p single i action c' taken
    exact moves_of_step inv single taken
  · intro i h result own pc
    rw [Handler.holds, (inv.ready i h own).empty result pc, pc]
    rfl

end

namespace Schedule

/-- A stop that the peer confirms. -/
def confirmedStop : List (Nat × ControlAction) :=
  connect 0 ++ started 0 ++ beginStop 0 1 100 ++ run 0 [.write none] ++
    deliver 0 (frame .stopped []) ++ [(1, .request .receive)]

end Schedule

open Schedule in
/-- A confirmed stop is answered with success. -/
theorem explicit_stop_agreement_confirmed :
    ∃ c r, (controlSystem .silent session ()).Reachable Free c ∧
      c.task 1 = .request r ∧ r.pc = .returned (.ok ()) ∧
      c.shared.machine.state = .stopped ∧ Single (tokens c 1) .replied ∧
      ∃ (u : ControlConfig Unit) (i : Nat) (a : ControlAction), BeginsStop u i a 1 := by
  obtain ⟨c, r, ⟨acts, run⟩, own, pc, stopped, once⟩ :
      ∃ c r, (controlSystem .silent session ()).Reachable Free c ∧
        c.task 1 = .request r ∧ r.pc = .returned (.ok ()) ∧
        c.shared.machine.state = .stopped ∧ tokens c 1 .replied = 1 :=
    ⟨_, _, System.reachable_of_replay confirmedStop rfl, rfl, rfl, rfl, rfl⟩
  have agreed := explicit_stop_agreement run
  obtain ⟨i, _, _, _, a, _, u, _, _, _, begins, _⟩ := agreed.2.1 1 (Or.inr ⟨r, own, pc⟩)
  refine ⟨c, r, ⟨acts, run⟩, own, pc, stopped, ?_, u, i, a, begins⟩
  rcases agreed.2.2.1 1 with absent | ⟨p, single⟩
  · simp [absent .replied] at once
  · by_cases same : Place.replied = p
    · exact same ▸ single
    · simp [single .replied, same] at once

end QuestVdWired.Host
