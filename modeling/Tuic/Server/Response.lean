import Tuic.Server.Dispatch

/-! # The response to a `Connect`

`connect` of `server/src/connection/task.rs`, run from its start against a network that answers its
name resolution and its connection attempts in any way, over a stream that accepts what is written:
`runConnect` goes on until the task returns or relays. `runConnect_attempt` is the loop over the
addresses, and `Answers` says what the client is to get. -/

namespace Tuic.Server

open ByteCodec

/-- What the network answers to a `connect`. -/
structure Network where
  /-- The name resolution. -/
  lookupHost : Except IoError (List SocketAddr)
  /-- The TCP connection attempts, in the order they are made. -/
  tcpConnect : Nat → Except IoError Unit

namespace Network

variable (net : Network)

/-- The addresses a request resolves to. -/
def targets : Address → List SocketAddr
  | .socketAddress addr => [addr]
  | .domainAddress _ _ =>
    match net.lookupHost with
    | .ok addrs => addrs
    | .error _ => []

/-- Attempt `k` is accepted. -/
def Accepts (k : Nat) : Prop := net.tcpConnect k = .ok ()

/-- How the operation at `pc` ends, after `tried` attempts; writes succeed. -/
def outcome (tried : Nat) : ConnectPc → Outcome
  | .resolve _ =>
    match net.lookupHost with
    | .ok addrs => .resolved addrs
    | .error err => .fail err
  | .attempt _ =>
    match net.tcpConnect tried with
    | .ok () => .ok
    | .error err => .fail err
  | .respond _ | .tunnel _ _ | .finish => .ok

variable {net} {tried : Nat} {addrs : List SocketAddr}

theorem outcome_of_accepts (h : net.Accepts tried) : net.outcome tried (.attempt addrs) = .ok := by
  unfold outcome
  rw [h]

theorem outcome_of_not_accepts (h : ¬ net.Accepts tried) :
    ∃ err, net.outcome tried (.attempt addrs) = .fail err := by
  unfold outcome
  cases hk : net.tcpConnect tried with
  | ok u => exact absurd hk h
  | error err => exact ⟨err, rfl⟩

end Network

/-- How many attempts a step at `pc` makes. -/
def ConnectPc.attempts : ConnectPc → Nat
  | .attempt _ => 1
  | .resolve _ | .respond _ | .tunnel _ _ | .finish => 0

section Run

variable (net : Network) (i : Nat) (recv : RecvStream)

/-- `connect` in handler `i` from `pc` on, for so many steps at most: what happens until it returns
or relays, and where it stands then. -/
def runConnect : Nat → Nat → ConnectPc → List Event × Option ConnectPc
  | _, _, .tunnel up down => ([], some (.tunnel up down))
  | 0, _, pc => ([], some pc)
  | fuel + 1, tried, pc =>
    match connectStep i recv pc (net.outcome tried pc) with
    | none => ([], some pc)
    | some (events, _, none) => (events, none)
    | some (events, _, some pc') =>
      let run := runConnect fuel (tried + pc.attempts) pc'
      (events ++ run.1, run.2)

/-- What is written for a response. -/
def responded (isSucceeded : Bool) : Event :=
  .toPeer (.biStream i) (Command.response isSucceeded).writeToBuf

variable {net} {i} {recv} {fuel tried : Nat} {addrs : List SocketAddr}

theorem runConnect_tunnel (up down : Bytes) :
    runConnect net i recv fuel tried (.tunnel up down) = ([], some (.tunnel up down)) := by
  cases fuel <;> rfl

/-- **A step of `connect`**, and then the rest of it. -/
theorem runConnect_step {pc pc' : ConnectPc} {events : List Event} {recv' : RecvStream}
    (h : connectStep i recv pc (net.outcome tried pc) = some (events, recv', some pc'))
    (hpc : ∀ up down, pc ≠ .tunnel up down) :
    runConnect net i recv (fuel + 1) tried pc =
      (events ++ (runConnect net i recv fuel (tried + pc.attempts) pc').1,
        (runConnect net i recv fuel (tried + pc.attempts) pc').2) := by
  cases pc with
  | tunnel up down => exact absurd rfl (hpc up down)
  | _ => simp only [runConnect, h]

theorem runConnect_resolve_socketAddress (addr : SocketAddr) :
    runConnect net i recv (fuel + 1) tried (.resolve (.socketAddress addr)) =
      runConnect net i recv fuel tried (.attempt [addr]) := by
  have hstep : connectStep i recv (.resolve (.socketAddress addr))
      (net.outcome tried (.resolve (.socketAddress addr))) =
      some ([], recv, some (.attempt [addr])) := rfl
  exact runConnect_step hstep (by simp)

theorem runConnect_resolve_ok {domain : String} {port : UInt16} (h : net.lookupHost = .ok addrs) :
    runConnect net i recv (fuel + 1) tried (.resolve (.domainAddress domain port)) =
      (.lookupHost i domain port :: (runConnect net i recv fuel tried (.attempt addrs)).1,
        (runConnect net i recv fuel tried (.attempt addrs)).2) := by
  have hstep : connectStep i recv (.resolve (.domainAddress domain port))
      (net.outcome tried (.resolve (.domainAddress domain port))) =
      some ([.lookupHost i domain port], recv, some (.attempt addrs)) := by
    simp only [Network.outcome, h]
    rfl
  exact runConnect_step hstep (by simp)

theorem runConnect_resolve_error {domain : String} {port : UInt16} {err : IoError}
    (h : net.lookupHost = .error err) :
    runConnect net i recv (fuel + 1) tried (.resolve (.domainAddress domain port)) =
      ([.lookupHost i domain port], none) := by
  simp only [runConnect, Network.outcome, h]
  rfl

theorem runConnect_respond_true : runConnect net i recv (fuel + 1) tried (.respond true) =
    ([responded i true], some (.tunnel [] [])) := by
  have hstep : connectStep i recv (.respond true) (net.outcome tried (.respond true)) =
      some ([responded i true], recv, some (.tunnel [] [])) := rfl
  rw [runConnect_step hstep (by simp), runConnect_tunnel]
  rfl

theorem runConnect_attempt_accepted {addr : SocketAddr} (h : net.Accepts tried) :
    runConnect net i recv (fuel + 2) tried (.attempt (addr :: addrs)) =
      ([.tcpConnect i addr true, responded i true], some (.tunnel [] [])) := by
  have hstep : connectStep i recv (.attempt (addr :: addrs))
      (net.outcome tried (.attempt (addr :: addrs))) =
      some ([.tcpConnect i addr true], recv, some (.respond true)) := by
    rw [Network.outcome_of_accepts h]
    rfl
  rw [runConnect_step hstep (by simp), runConnect_respond_true]
  rfl

theorem runConnect_attempt_refused {addr : SocketAddr} (h : ¬ net.Accepts tried) :
    runConnect net i recv (fuel + 1) tried (.attempt (addr :: addrs)) =
      (.tcpConnect i addr false :: (runConnect net i recv fuel (tried + 1) (.attempt addrs)).1,
        (runConnect net i recv fuel (tried + 1) (.attempt addrs)).2) := by
  obtain ⟨err, houtcome⟩ : ∃ err, net.outcome tried (.attempt (addr :: addrs)) = .fail err :=
    Network.outcome_of_not_accepts h
  have hstep : connectStep i recv (.attempt (addr :: addrs))
      (net.outcome tried (.attempt (addr :: addrs))) =
      some ([.tcpConnect i addr false], recv, some (.attempt addrs)) := by
    rw [houtcome]
    rfl
  exact runConnect_step hstep (by simp)

/-- **The loop over the addresses** stops at the first one that accepts, and every way out of it
writes the response. -/
theorem runConnect_attempt (net : Network) (i : Nat) (recv : RecvStream) (fuel : Nat) :
    ∀ (addrs : List SocketAddr) (tried : Nat),
    (∃ k addr, addrs[k]? = some addr ∧ net.Accepts (tried + k) ∧
      (∀ j < k, ¬ net.Accepts (tried + j)) ∧
      runConnect net i recv (fuel + addrs.length + 3) tried (.attempt addrs) =
        ((addrs.take k).map (.tcpConnect i · false) ++
          [.tcpConnect i addr true, responded i true], some (.tunnel [] []))) ∨
    (∀ k < addrs.length, ¬ net.Accepts (tried + k)) ∧
      runConnect net i recv (fuel + addrs.length + 3) tried (.attempt addrs) =
        (addrs.map (.tcpConnect i · false) ++
          [responded i false, .finish (.biStream i)], none) := by
  intro addrs
  induction addrs with
  | nil =>
    intro tried
    exact Or.inr ⟨nofun, rfl⟩
  | cons addr addrs ih =>
    intro tried
    by_cases hacc : net.Accepts tried
    · exact Or.inl ⟨0, addr, rfl, hacc, nofun, runConnect_attempt_accepted hacc⟩
    · -- this address is refused, and the loop goes on with the others
      have hstep : runConnect net i recv (fuel + (addr :: addrs).length + 3) tried
          (.attempt (addr :: addrs)) =
          (.tcpConnect i addr false ::
            (runConnect net i recv (fuel + addrs.length + 3) (tried + 1) (.attempt addrs)).1,
            (runConnect net i recv (fuel + addrs.length + 3) (tried + 1) (.attempt addrs)).2) :=
        runConnect_attempt_refused hacc
      rw [hstep]
      have hshift : ∀ j, tried + (j + 1) = tried + 1 + j := by
        intro j
        omega
      rcases ih (tried + 1) with ⟨k, addr', hk, hk', hbefore, hrun⟩ | ⟨hnone, hrun⟩
      · refine Or.inl ⟨k + 1, addr', hk, ?_, ?_, ?_⟩
        · rw [hshift]
          exact hk'
        · intro j hj
          cases j with
          | zero => exact hacc
          | succ j =>
            rw [hshift]
            exact hbefore j (Nat.lt_of_succ_lt_succ hj)
        · rw [hrun]
          rfl
      · refine Or.inr ⟨?_, ?_⟩
        · intro j hj
          cases j with
          | zero => exact hacc
          | succ j =>
            rw [hshift]
            exact hnone j (Nat.lt_of_succ_lt_succ hj)
        · rw [hrun]
          rfl

end Run

/-! ## The answer of the protocol -/

/-- The event is on the stream of handler `i`. -/
def Event.onStream (i : Nat) : Event → Bool
  | .toPeer ch _ | .finish ch => ch = .biStream i
  | .decoded _ _ _ | .started _ _ | .lookupHost _ _ _ | .tcpConnect _ _ _ | .toTarget _ _
  | .close _ _ => false

/-- The connection attempt of handler `i`. -/
def Event.attempt? (i : Nat) : Event → Option (SocketAddr × Bool)
  | .tcpConnect j addr ok => if j = i then some (addr, ok) else none
  | .decoded _ _ _ | .started _ _ | .lookupHost _ _ _ | .toTarget _ _ | .toPeer _ _ | .finish _
  | .close _ _ => none

/-- **The answer to a `Connect`**: one response and nothing before it. It is a success when some
address accepts, after the attempts up to the first one that does, and then the task relays; it is
a failure when all of them refuse, and then the stream is finished and the task returns. -/
def Answers (net : Network) (addr : Address) (i : Nat) (run : List Event × Option ConnectPc) :
    Prop :=
  let targets := net.targets addr
  let attempts := run.1.filterMap (Event.attempt? i)
  let written := run.1.filter (Event.onStream i)
  (∃ k target, targets[k]? = some target ∧ net.Accepts k ∧ (∀ j < k, ¬ net.Accepts j) ∧
    attempts = (targets.take k).map (·, false) ++ [(target, true)] ∧
    written = [responded i true] ∧ run.2 = some (.tunnel [] [])) ∨
  (∀ k < targets.length, ¬ net.Accepts k) ∧ attempts = targets.map (·, false) ∧
    written = [responded i false, .finish (.biStream i)] ∧ run.2 = none

/-- The request is for a name that does not resolve. -/
def Unresolved (net : Network) (addr : Address) : Prop :=
  ∃ domain port err, addr = .domainAddress domain port ∧ net.lookupHost = .error err

/-- The attempts that are refused are attempts. -/
theorem filterMap_attempt?_refused (i : Nat) (addrs : List SocketAddr) :
    (addrs.map (Event.tcpConnect i · false)).filterMap (Event.attempt? i) =
      addrs.map (·, false) := by
  induction addrs with
  | nil => rfl
  | cons addr addrs ih =>
    have hattempt : Event.attempt? i (.tcpConnect i addr false) = some (addr, false) := if_pos rfl
    rw [List.map_cons, List.filterMap_cons_some hattempt, ih, List.map_cons]

/-- They write nothing. -/
theorem filter_onStream_refused (i : Nat) (addrs : List SocketAddr) :
    (addrs.map (Event.tcpConnect i · false)).filter (Event.onStream i) = [] := by
  simp [Event.onStream]

/-- **The loop over the addresses answers the request.** -/
theorem answers_attempt (net : Network) (addr : Address) (i : Nat) (recv : RecvStream)
    (fuel : Nat) : Answers net addr i (runConnect net i recv
      (fuel + (net.targets addr).length + 3) 0 (.attempt (net.targets addr))) := by
  rcases runConnect_attempt net i recv fuel (net.targets addr) 0 with
      ⟨k, target, hk, hacc, hbefore, hrun⟩ | ⟨hnone, hrun⟩
  · simp only [Nat.zero_add] at hacc hbefore
    refine Or.inl ⟨k, target, hk, hacc, hbefore, ?_, ?_, ?_⟩
    · rw [hrun, List.filterMap_append, filterMap_attempt?_refused]
      simp [Event.attempt?, responded]
    · rw [hrun, List.filter_append, filter_onStream_refused]
      simp [Event.onStream, responded]
    · rw [hrun]
  · simp only [Nat.zero_add] at hnone
    refine Or.inr ⟨hnone, ?_, ?_, ?_⟩
    · rw [hrun, List.filterMap_append, filterMap_attempt?_refused]
      simp [Event.attempt?, responded]
    · rw [hrun, List.filter_append, filter_onStream_refused]
      simp [Event.onStream, responded]
    · rw [hrun]

/-- A name resolution before the attempts does not change the answer. -/
theorem Answers.lookupHost {net : Network} {addr : Address} {i : Nat}
    {run : List Event × Option ConnectPc} (h : Answers net addr i run) (domain : String)
    (port : UInt16) : Answers net addr i (.lookupHost i domain port :: run.1, run.2) := h

/-- Nothing on the stream is no answer. -/
theorem not_answers_of_silent {net : Network} {addr : Address} {i : Nat}
    {run : List Event × Option ConnectPc} (h : run.1.filter (Event.onStream i) = []) :
    ¬ Answers net addr i run := by
  rintro (⟨_, _, -, -, -, -, hwritten, -⟩ | ⟨-, -, hwritten, -⟩)
  · rw [h] at hwritten
    cases hwritten
  · rw [h] at hwritten
    cases hwritten

/-- **Which requests are answered**: every one, whatever the connection attempts give, unless it is
for a name that does not resolve. -/
theorem answers_iff_resolved (net : Network) (addr : Address) (i : Nat) (recv : RecvStream)
    (fuel : Nat) :
    Answers net addr i
        (runConnect net i recv (fuel + (net.targets addr).length + 4) 0 (.resolve addr)) ↔
      ¬ Unresolved net addr := by
  have hloop := answers_attempt net addr i recv fuel
  cases addr with
  | socketAddress x =>
    refine iff_of_true ?_ ?_
    · rw [runConnect_resolve_socketAddress]
      exact hloop
    · rintro ⟨domain, port, err, haddr, -⟩
      cases haddr
  | domainAddress domain port =>
    cases hlookup : net.lookupHost with
    | ok addrs =>
      have htargets : net.targets (.domainAddress domain port) = addrs := by
        simp only [Network.targets, hlookup]
      rw [htargets] at hloop
      refine iff_of_true ?_ ?_
      · rw [htargets, runConnect_resolve_ok hlookup]
        exact hloop.lookupHost domain port
      · rintro ⟨domain', port', err, -, herr⟩
        rw [hlookup] at herr
        cases herr
    | error err =>
      -- the task returns with the error, and has written nothing
      rw [runConnect_resolve_error hlookup]
      exact iff_of_false (not_answers_of_silent rfl)
        (not_not_intro ⟨domain, port, err, rfl, hlookup⟩)

/-- A request for a name that does not resolve: the task returns, and nothing is written. -/
theorem unresolved_not_answered :
    let net : Network := ⟨.error ⟨.other, "Name or service not known"⟩, fun _ => .ok ()⟩
    let addr : Address := .domainAddress "nowhere.invalid" 80
    runConnect net 0 ⟨[], 0, .finished⟩ 4 0 (.resolve addr) =
        ([.lookupHost 0 "nowhere.invalid" 80], none) ∧
      ¬ Answers net addr 0 (runConnect net 0 ⟨[], 0, .finished⟩ 4 0 (.resolve addr)) := by
  intro net addr
  have hrun : runConnect net 0 ⟨[], 0, .finished⟩ 4 0 (.resolve addr) =
      ([.lookupHost 0 "nowhere.invalid" 80], none) := rfl
  exact ⟨hrun, not_answers_of_silent (by rw [hrun]; rfl)⟩

end Tuic.Server
