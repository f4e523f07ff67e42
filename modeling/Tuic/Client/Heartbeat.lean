import Mathlib.Data.List.AList
import Tuic.Transition.Pool
import Tuic.Transition.System

/-! # Heartbeats

A client connection sends a heartbeat at a tick of its interval when something is active on it: a
stream, or a UDP session. Which streams there are is not recorded anywhere
(`client/src/relay/stream.rs`). Each wrapper around a stream holds a `Register`, that is an
`Arc<()>`, and `no_active_stream` looks at the strong count of that: it should be one, for the
`Register` of the connection itself. All clones of a `Connection` share that one through another
`Arc`, and the streams that come in are given theirs by way of a weak reference.

The model keeps the strong count as the code moves it, clone by clone and drop by drop. What it is
meant to say is `Counted`. The two reads in the test of `heartbeat` are two steps. -/

namespace Tuic.Client

open Transition

/-! ## The register -/

/-- `stream::Register`, by the strong count of its `Arc`. -/
structure StreamRegister where
  /-- The strong count. -/
  strongCount : Nat
  deriving DecidableEq, Repr

namespace StreamRegister

/-- `Register::new` -/
def new : StreamRegister := ⟨1⟩

/-- `Register::clone` -/
def clone (reg : StreamRegister) : StreamRegister := ⟨reg.strongCount + 1⟩

/-- One of the clones is dropped. -/
def drop (reg : StreamRegister) : StreamRegister := ⟨reg.strongCount - 1⟩

/-- `Register::count` -/
def count (reg : StreamRegister) : Nat := reg.strongCount

/-- `Registry::get_register`: the weak reference is upgraded, if there is a strong one left. -/
def getRegister (reg : StreamRegister) : Option StreamRegister :=
  if reg.strongCount = 0 then none else some ⟨reg.strongCount + 1⟩

end StreamRegister

/-- The wrappers around streams. -/
inductive Wrapper where
  | sendStream | recvStream | biStream
  deriving DecidableEq, Repr

/-- How many `SendStream`s and `RecvStream`s a wrapper is. -/
def Wrapper.count : Wrapper → Nat
  | .sendStream | .recvStream => 1
  | .biStream => 2

/-- A wrapper is dropped, and with it the registers in its fields. -/
def Wrapper.drop : Wrapper → StreamRegister → StreamRegister
  | .sendStream, reg | .recvStream, reg => reg.drop
  -- `send` and `recv`
  | .biStream, reg => reg.drop.drop

/-- What a poll for an incoming stream returns. -/
inductive PolledUni where
  /-- `Pending` -/
  | pending
  /-- `Ready(Some(Ok(..)))` -/
  | accepted
  /-- `Ready(Some(Err(..)))` -/
  | failed
  /-- `Ready(None)` -/
  | finished
  deriving DecidableEq, Repr

/-- `IncomingUniStreams::poll_next`, when the poll of the streams inside returns `polled`: the
register is moved into the `RecvStream` if there is one, and is dropped otherwise. -/
def pollNext (reg : StreamRegister) (polled : PolledUni) : StreamRegister × PolledUni :=
  match reg.getRegister with
  | none => (reg, .finished)
  | some reg =>
    match polled with
    | .accepted => (reg, .accepted)
    | .pending | .failed | .finished => (reg.drop, polled)

/-! ## The connection -/

/-- Where `heartbeat` stands. -/
inductive HeartbeatPc where
  /-- In its `select!`. -/
  | select
  /-- The interval ticked; before `no_active_stream`. -/
  | testStreams
  /-- There was no active stream; before `no_active_udp_session`. -/
  | testSessions
  /-- In `send_heartbeat`, before the stream is open. -/
  | opening
  /-- In `send_heartbeat`, with the stream. -/
  | sending
  /-- It has returned. -/
  | ended
  deriving DecidableEq, Repr

/-- The clones of the connection that `heartbeat` holds. -/
def HeartbeatPc.connections : HeartbeatPc → Nat
  | .ended => 0
  | .select | .testStreams | .testSessions | .opening | .sending => 1

/-- The wrappers that `heartbeat` holds. -/
def HeartbeatPc.wrappers : HeartbeatPc → Nat
  | .sending => 1
  | .select | .testStreams | .testSessions | .opening | .ended => 0

/-- A wrapper and the task that holds it. -/
structure Held where
  wrapper : Wrapper
  task : Nat
  deriving DecidableEq, Repr

/-- What is going on on a connection. -/
structure Activity where
  /-- The register of the streams. -/
  streamReg : StreamRegister
  /-- The clones of the `Connection`: the strong count of the `Arc` around the register. -/
  connections : Nat
  /-- The wrappers that are alive, without the one of `heartbeat`. -/
  streams : List Held
  /-- Whether the `IncomingUniStreams` are alive. -/
  incoming : Bool
  /-- The UDP sessions, each with its channel. -/
  udpSessions : AList fun _ : UInt32 => Nat
  /-- `heartbeat`. -/
  heartbeat : HeartbeatPc
  /-- How many heartbeats were sent. -/
  sent : Nat

/-- A step on a connection. -/
inductive ActivityAction where
  /-- A task awaits `get_send_stream`, and the stream is opened or not. -/
  | getSendStream (task : Nat) (ok : Bool)
  /-- A task awaits `get_bi_stream`, and the stream is opened or not. -/
  | getBiStream (task : Nat) (ok : Bool)
  /-- A task polls the incoming streams. -/
  | pollNext (task : Nat) (polled : PolledUni)
  /-- A wrapper is moved to another task. -/
  | hand (i task : Nat)
  /-- A wrapper is dropped. -/
  | drop (i : Nat)
  /-- A UDP session is inserted. -/
  | insert (id : UInt32) (tx : Nat)
  /-- A UDP session is removed. -/
  | remove (id : UInt32)
  /-- The connection is cloned. -/
  | cloneConnection
  /-- A clone of the connection is dropped. -/
  | dropConnection
  /-- The `IncomingUniStreams` are dropped. -/
  | dropIncoming
  /-- The interval of `heartbeat` ticks. -/
  | tick
  /-- `heartbeat` sees that the connection is closed. -/
  | closed
  /-- The next read in the test of `heartbeat`. -/
  | test
  /-- The stream of `heartbeat` is opened or not. -/
  | openHeartbeat (ok : Bool)
  /-- The heartbeat is written or not, and its stream is dropped. -/
  | finishHeartbeat (ok : Bool)
  deriving DecidableEq, Repr

namespace Activity

/-- `Connection::no_active_stream` -/
def noActiveStream (s : Activity) : Bool := s.streamReg.count == 1

/-- `Connection::no_active_udp_session` -/
def noActiveUdpSession (s : Activity) : Bool := s.udpSessions.entries.isEmpty

/-- `Connection::get_send_stream`, once the stream is open. -/
def getSendStream (s : Activity) (task : Nat) : Activity :=
  { s with streamReg := s.streamReg.clone, streams := s.streams ++ [⟨.sendStream, task⟩] }

/-- `Connection::get_bi_stream`, once the stream is open. -/
def getBiStream (s : Activity) (task : Nat) : Activity :=
  { s with streamReg := s.streamReg.clone.clone, streams := s.streams ++ [⟨.biStream, task⟩] }

/-- A poll for an incoming stream. -/
def acceptUni (s : Activity) (task : Nat) (polled : PolledUni) : Activity :=
  match Client.pollNext s.streamReg polled with
  | (reg, .accepted) =>
    { s with streamReg := reg, streams := s.streams ++ [⟨.recvStream, task⟩] }
  | (reg, .pending) | (reg, .failed) | (reg, .finished) => { s with streamReg := reg }

/-- A clone of the connection is dropped; the last one drops the register in it. -/
def dropConnection (s : Activity) : Activity :=
  { s with
    connections := s.connections - 1
    streamReg := if s.connections = 1 then s.streamReg.drop else s.streamReg }

/-- The clones of the connection that others than `heartbeat` hold. -/
def others (s : Activity) : Nat := s.connections - s.heartbeat.connections

/-- The effect of an action. -/
def step (s : Activity) : ActivityAction → Option Activity
  | .getSendStream task ok =>
    if s.others = 0 then none else some (if ok then s.getSendStream task else s)
  | .getBiStream task ok =>
    if s.others = 0 then none else some (if ok then s.getBiStream task else s)
  | .pollNext task polled => if s.incoming then some (s.acceptUni task polled) else none
  | .hand i task =>
    s.streams[i]?.map fun h => { s with streams := s.streams.set i { h with task := task } }
  | .drop i => s.streams[i]?.map fun h =>
      { s with streamReg := h.wrapper.drop s.streamReg, streams := s.streams.eraseIdx i }
  | .insert id tx =>
    if s.others = 0 then none else some { s with udpSessions := s.udpSessions.insert id tx }
  | .remove id =>
    if s.others = 0 then none else some { s with udpSessions := s.udpSessions.erase id }
  | .cloneConnection =>
    if s.others = 0 then none else some { s with connections := s.connections + 1 }
  | .dropConnection => if s.others = 0 then none else some s.dropConnection
  | .dropIncoming => if s.incoming then some { s with incoming := false } else none
  | .tick => if s.heartbeat = .select then some { s with heartbeat := .testStreams } else none
  | .closed =>
    if s.heartbeat = .select then some { s.dropConnection with heartbeat := .ended } else none
  | .test =>
    match s.heartbeat with
    | .testStreams =>
      some { s with heartbeat := if s.noActiveStream then .testSessions else .opening }
    | .testSessions =>
      some { s with heartbeat := if s.noActiveUdpSession then .select else .opening }
    | .select | .opening | .sending | .ended => none
  | .openHeartbeat ok =>
    if s.heartbeat = .opening then
      some (if ok then { s with streamReg := s.streamReg.clone, heartbeat := .sending }
        else { s with heartbeat := .select })
    else none
  | .finishHeartbeat ok =>
    if s.heartbeat = .sending then
      some { s with
        streamReg := s.streamReg.drop
        heartbeat := .select
        sent := if ok then s.sent + 1 else s.sent }
    else none

end Activity

/-- A connection, as `Connection::new` leaves it: there are clones of it in the hands of the caller,
of `send_authentication` and of `heartbeat`. -/
def activitySystem : System Activity ActivityAction where
  init := ⟨.new, 3, [], true, ∅, .select, 0⟩
  step := Activity.step

/-! ## What the count is meant to say -/

@[simp] theorem StreamRegister.strongCount_clone (reg : StreamRegister) :
    reg.clone.strongCount = reg.strongCount + 1 := rfl

@[simp] theorem StreamRegister.strongCount_drop (reg : StreamRegister) :
    reg.drop.strongCount = reg.strongCount - 1 := rfl

theorem Wrapper.count_pos (w : Wrapper) : 0 < w.count := by
  cases w <;> decide

/-- A wrapper has a register for each stream in it. -/
@[simp] theorem Wrapper.strongCount_drop (w : Wrapper) (reg : StreamRegister) :
    (w.drop reg).strongCount = reg.strongCount - w.count := by
  cases w <;> rfl

/-- **A poll keeps a register only for a stream that it returns.** -/
theorem strongCount_pollNext (reg : StreamRegister) (polled : PolledUni) :
    (pollNext reg polled).1.strongCount =
      reg.strongCount + if (pollNext reg polled).2 = .accepted then 1 else 0 := by
  unfold pollNext StreamRegister.getRegister
  by_cases hzero : reg.strongCount = 0
  · simp [hzero]
  · cases polled <;> simp [hzero]

namespace Activity

variable {s s' : Activity} {a : ActivityAction}

/-- How many `SendStream`s and `RecvStream`s are alive. -/
def live (s : Activity) : Nat :=
  total (fun h : Held => h.wrapper.count) s.streams + s.heartbeat.wrappers

/-- **The count**: one for each live wrapper, and one for the connection itself as long as there is
a clone of it. -/
structure Counted (s : Activity) : Prop where
  /-- `heartbeat` has a clone of the connection until it ends. -/
  heartbeat : s.heartbeat.connections ≤ s.connections
  /-- The strong count. -/
  strong : s.streamReg.strongCount = s.live + if s.connections = 0 then 0 else 1

/-! ## What a step does -/

/-- The steps on a connection, as far as the count is concerned. -/
inductive Step (s : Activity) : Activity → Prop where
  /-- There is a new wrapper, and it has as many registers as it should. -/
  | opened (w : Wrapper) (task : Nat) (reg : StreamRegister)
      (hreg : reg.strongCount = s.streamReg.strongCount + w.count) :
      Step s { s with streamReg := reg, streams := s.streams ++ [⟨w, task⟩] }
  /-- There is no new wrapper, and every register that was made is dropped again. -/
  | unopened (reg : StreamRegister) (hreg : reg.strongCount = s.streamReg.strongCount) :
      Step s { s with streamReg := reg }
  /-- A wrapper is moved. -/
  | hand (i task : Nat) (h : Held) (hi : s.streams[i]? = some h) :
      Step s { s with streams := s.streams.set i { h with task := task } }
  /-- A wrapper is dropped. -/
  | drop (i : Nat) (h : Held) (hi : s.streams[i]? = some h) :
      Step s { s with
        streamReg := h.wrapper.drop s.streamReg
        streams := s.streams.eraseIdx i }
  /-- Something else changes. -/
  | aside (incoming : Bool) (udpSessions : AList fun _ : UInt32 => Nat) :
      Step s { s with incoming := incoming, udpSessions := udpSessions }
  /-- The connection is cloned. -/
  | cloneConnection (h : s.others ≠ 0) : Step s { s with connections := s.connections + 1 }
  /-- A clone of the connection is dropped, but not the one of `heartbeat`. -/
  | dropConnection (h : s.others ≠ 0) : Step s s.dropConnection
  /-- `heartbeat` moves on, and holds what it held. -/
  | goto (pc : HeartbeatPc) (hconn : pc.connections = s.heartbeat.connections)
      (hwrap : pc.wrappers = s.heartbeat.wrappers) : Step s { s with heartbeat := pc }
  /-- `heartbeat` ends. -/
  | closed (h : s.heartbeat = .select) : Step s { s.dropConnection with heartbeat := .ended }
  /-- `heartbeat` opens a stream. -/
  | openHeartbeat (h : s.heartbeat = .opening) :
      Step s { s with streamReg := s.streamReg.clone, heartbeat := .sending }
  /-- `heartbeat` drops it again. -/
  | finishHeartbeat (h : s.heartbeat = .sending) (sent : Nat) :
      Step s { s with streamReg := s.streamReg.drop, heartbeat := .select, sent := sent }

/-- A poll brings a new wrapper or none. -/
theorem step_acceptUni (s : Activity) (task : Nat) (polled : PolledUni) :
    Step s (s.acceptUni task polled) := by
  have hcount := strongCount_pollNext s.streamReg polled
  unfold acceptUni
  split
  · rename_i reg hpoll
    rw [hpoll] at hcount
    exact .opened .recvStream task reg hcount
  all_goals
    rename_i reg hpoll
    rw [hpoll] at hcount
    exact .unopened reg hcount

/-- Every step is one of these. -/
theorem step_cases (h : s.step a = some s') : Step s s' := by
  cases a with
  | getSendStream task ok =>
    simp only [step] at h
    split_ifs at h
    · cases h
      exact .opened .sendStream task _ rfl
    · cases h
      exact .unopened _ rfl
  | getBiStream task ok =>
    simp only [step] at h
    split_ifs at h
    · cases h
      exact .opened .biStream task _ rfl
    · cases h
      exact .unopened _ rfl
  | pollNext task polled =>
    simp only [step] at h
    split_ifs at h
    cases h
    exact step_acceptUni s task polled
  | hand i task =>
    simp only [step] at h
    obtain ⟨held, hi, rfl⟩ := Option.map_eq_some_iff.mp h
    exact .hand i task held hi
  | drop i =>
    simp only [step] at h
    obtain ⟨held, hi, rfl⟩ := Option.map_eq_some_iff.mp h
    exact .drop i held hi
  | cloneConnection =>
    simp only [step] at h
    split_ifs at h with hothers
    cases h
    exact .cloneConnection hothers
  | dropConnection =>
    simp only [step] at h
    split_ifs at h with hothers
    cases h
    exact .dropConnection hothers
  | insert _ _ | remove _ | dropIncoming =>
    simp only [step] at h
    split_ifs at h
    cases h
    exact .aside _ _
  | tick =>
    simp only [step] at h
    split_ifs at h with hpc
    cases h
    exact .goto _ (by rw [hpc]; rfl) (by rw [hpc]; rfl)
  | closed =>
    simp only [step] at h
    split_ifs at h with hpc
    cases h
    exact .closed hpc
  | test =>
    simp only [step] at h
    split at h
    · rename_i hpc
      cases h
      refine .goto _ ?_ ?_ <;> rw [hpc] <;> split_ifs <;> rfl
    · rename_i hpc
      cases h
      refine .goto _ ?_ ?_ <;> rw [hpc] <;> split_ifs <;> rfl
    all_goals cases h
  | openHeartbeat ok =>
    simp only [step] at h
    split_ifs at h with hpc
    · cases h
      exact .openHeartbeat hpc
    · cases h
      exact .goto _ (by rw [hpc]; rfl) (by rw [hpc]; rfl)
  | finishHeartbeat ok =>
    simp only [step] at h
    split_ifs at h with hpc
    all_goals
      cases h
      exact .finishHeartbeat hpc _

/-! ## The invariant -/

/-- There is a clone of the connection until `heartbeat` ends. -/
theorem Counted.connections_ne_zero (hs : s.Counted) (hpc : s.heartbeat ≠ .ended) :
    s.connections ≠ 0 := by
  have hone : s.heartbeat.connections = 1 := by
    cases hbeat : s.heartbeat with
    | ended => exact absurd hbeat hpc
    | select | testStreams | testSessions | opening | sending => rfl
  have hle := hs.heartbeat
  omega

/-- A clone of the connection that is dropped takes its register along if it is the last one. -/
theorem Counted.strong_dropConnection (hs : s.Counted) (hconn : s.connections ≠ 0) :
    s.dropConnection.streamReg.strongCount =
      s.live + if s.dropConnection.connections = 0 then 0 else 1 := by
  have hstrong := hs.strong
  rw [if_neg hconn] at hstrong
  unfold dropConnection
  by_cases hlast : s.connections = 1
  · simp only [hlast, if_true, StreamRegister.strongCount_drop]
    omega
  · have hmore : s.connections - 1 ≠ 0 := by omega
    simp only [hlast, hmore, if_false]
    exact hstrong

/-- **Every step keeps the count.** -/
theorem Counted.step (hs : s.Counted) (h : Step s s') : s'.Counted := by
  have hbeat := hs.heartbeat
  have hstrong := hs.strong
  unfold live at hstrong
  cases h with
  | opened w task reg hreg =>
    refine ⟨hbeat, ?_⟩
    simp only [live, total_concat]
    omega
  | unopened reg hreg => exact ⟨hbeat, hreg.trans hstrong⟩
  | hand i task held hi =>
    have htotal : total (fun h : Held => h.wrapper.count)
        (s.streams.set i { held with task := task }) + held.wrapper.count =
          total (fun h : Held => h.wrapper.count) s.streams + held.wrapper.count := total_set hi
    refine ⟨hbeat, ?_⟩
    simp only [live]
    omega
  | drop i held hi =>
    have htotal := total_eraseIdx (f := fun h : Held => h.wrapper.count) hi
    refine ⟨hbeat, ?_⟩
    simp only [live, Wrapper.strongCount_drop] at htotal ⊢
    omega
  | aside incoming udpSessions => exact ⟨hbeat, hstrong⟩
  | cloneConnection hothers =>
    have hconn : s.connections ≠ 0 := by
      unfold others at hothers
      omega
    refine ⟨Nat.le_succ_of_le hbeat, ?_⟩
    rw [if_neg hconn] at hstrong
    exact hstrong
  | dropConnection hothers =>
    unfold others at hothers
    refine ⟨?_, hs.strong_dropConnection (by omega)⟩
    show s.heartbeat.connections ≤ s.connections - 1
    omega
  | goto pc hconn hwrap =>
    refine ⟨hconn ▸ hbeat, ?_⟩
    simp only [live, hwrap]
    exact hstrong
  | closed hpc =>
    refine ⟨Nat.zero_le _, ?_⟩
    have hlast := hs.strong_dropConnection (hs.connections_ne_zero (by rw [hpc]; decide))
    simp only [live, hpc] at hlast ⊢
    exact hlast
  | openHeartbeat hpc =>
    rw [hpc] at hbeat hstrong
    refine ⟨hbeat, ?_⟩
    simp only [live, StreamRegister.strongCount_clone, HeartbeatPc.wrappers] at hstrong ⊢
    omega
  | finishHeartbeat hpc sent =>
    rw [hpc] at hbeat hstrong
    refine ⟨hbeat, ?_⟩
    simp only [live, StreamRegister.strongCount_drop, HeartbeatPc.wrappers] at hstrong ⊢
    omega

/-- The count in every state of a run. -/
theorem counted_of_reachable (h : activitySystem.Reachable s) : s.Counted := by
  refine h.invariant ⟨by decide, rfl⟩ ?_
  intro s a s' _ hs _ hstep
  exact hs.step (step_cases hstep)

/-! ## What the tests say -/

/-- Nobody has a wrapper exactly when there is none. -/
theorem live_eq_zero_iff : s.live = 0 ↔ s.streams = [] ∧ s.heartbeat ≠ .sending := by
  have hbeat : s.heartbeat.wrappers = 0 ↔ s.heartbeat ≠ .sending := by
    cases s.heartbeat <;> decide
  rw [live, Nat.add_eq_zero_iff, total_eq_zero_iff fun h => h.wrapper.count_pos, hbeat]

/-- **`no_active_stream` holds exactly when there is no wrapper.** -/
theorem Counted.noActiveStream_iff (hs : s.Counted) (hconn : s.connections ≠ 0) :
    s.noActiveStream = true ↔ s.streams = [] ∧ s.heartbeat ≠ .sending := by
  have hstrong := hs.strong
  rw [if_neg hconn] at hstrong
  rw [← live_eq_zero_iff, noActiveStream, beq_iff_eq, StreamRegister.count, hstrong]
  omega

theorem noActiveUdpSession_iff : s.noActiveUdpSession = true ↔ s.udpSessions = ∅ := by
  rw [noActiveUdpSession, List.isEmpty_iff, AList.ext_iff]
  rfl

/-- What is read by `heartbeat` where it stands. -/
theorem Counted.step_test (hs : s.Counted) :
    (s.heartbeat = .testStreams → s.step .test =
      some { s with heartbeat := if s.streams = [] then .testSessions else .opening }) ∧
    (s.heartbeat = .testSessions → s.step .test =
      some { s with heartbeat := if s.udpSessions = ∅ then .select else .opening }) := by
  constructor
  · intro hpc
    have hconn := hs.connections_ne_zero (by rw [hpc]; decide)
    have htest : s.noActiveStream = true ↔ s.streams = [] := by
      rw [hs.noActiveStream_iff hconn, hpc]
      simp
    simp only [Activity.step, hpc, htest]
  · intro hpc
    simp only [Activity.step, hpc, noActiveUdpSession_iff]

/-- The two reads of the test, one after the other. -/
def tests (s : Activity) : Option Activity := do
  let s ← s.step .test
  if s.heartbeat = .testSessions then s.step .test else return s

/-- One iteration of the loop of `heartbeat` from a tick on, with nothing happening in between and a
stream that can be opened and written to. -/
def iteration (s : Activity) : Option Activity := do
  let s ← s.step .tick
  let s ← s.tests
  if s.heartbeat = .opening then
    let s ← s.step (.openHeartbeat true)
    s.step (.finishHeartbeat true)
  else return s

/-- Something is active: a wrapper is alive, or there is a UDP session. -/
def Active (s : Activity) : Prop := s.streams ≠ [] ∨ s.udpSessions ≠ ∅

/-- **The test finds what is active.** -/
theorem Counted.tests_of_active (hs : s.Counted) (hpc : s.heartbeat = .testStreams)
    (hactive : s.Active) : s.tests = some { s with heartbeat := .opening } := by
  have hfirst := hs.step_test.1 hpc
  by_cases hstreams : s.streams = []
  · -- no stream: it is up to the sessions
    have hsessions : s.udpSessions ≠ ∅ := hactive.resolve_left fun h => h hstreams
    rw [if_pos hstreams] at hfirst
    have hsecond := (hs.step (step_cases hfirst)).step_test.2 rfl
    simp only [hsessions, if_false] at hsecond
    simpa [tests, hfirst] using hsecond
  · rw [if_neg hstreams] at hfirst
    simp [tests, hfirst]

/-- And it finds nothing else. -/
theorem Counted.tests_of_not_active (hs : s.Counted) (hpc : s.heartbeat = .testStreams)
    (hactive : ¬ s.Active) : s.tests = some { s with heartbeat := .select } := by
  obtain ⟨hstreams, hsessions⟩ := not_or.mp hactive
  rw [not_not] at hstreams hsessions
  have hfirst := hs.step_test.1 hpc
  rw [if_pos hstreams] at hfirst
  have hsecond := (hs.step (step_cases hfirst)).step_test.2 rfl
  simp only [hsessions, if_true] at hsecond
  simpa [tests, hfirst, hsessions] using hsecond

/-- **A heartbeat is sent exactly when something is active.** -/
theorem Counted.iteration_spec (hs : s.Counted) (hpc : s.heartbeat = .select) :
    ∃ s', s.iteration = some s' ∧ s'.heartbeat = .select ∧
      (s.Active → s'.sent = s.sent + 1) ∧ (¬ s.Active → s'.sent = s.sent) := by
  have htick : s.step .tick = some { s with heartbeat := .testStreams } := if_pos hpc
  have hs₁ := hs.step (step_cases htick)
  by_cases hactive : s.Active
  · have htests := hs₁.tests_of_active rfl hactive
    refine ⟨{ s with
      streamReg := s.streamReg.clone.drop, heartbeat := .select, sent := s.sent + 1 }, ?_, rfl,
      fun _ => rfl, fun h => absurd hactive h⟩
    simp only [iteration, htick, Option.bind_eq_bind, Option.bind_some, htests, if_true]
    rfl
  · have htests := hs₁.tests_of_not_active rfl hactive
    refine ⟨{ s with heartbeat := .select }, ?_, rfl, fun h => absurd h hactive, fun _ => rfl⟩
    simp only [iteration, htick, Option.bind_eq_bind, Option.bind_some, htests, reduceCtorEq,
      if_false]
    rfl

/-- **Heartbeats are sent exactly while something is active.** In every state of every run: as long
as there is a clone of the connection the count is one more than there are live wrappers, so
`no_active_stream` holds exactly when there is none; a tick makes `heartbeat` send one exactly when
there is a wrapper or a UDP session. The two reads of its test each say what is there when they are
made, even if something happens in between. -/
theorem heartbeat_iff_active (s : Activity) (h : activitySystem.Reachable s) :
    (s.heartbeat ≠ .ended → s.connections ≠ 0) ∧
    (s.connections ≠ 0 → s.streamReg.count = 1 + s.live ∧
      (s.noActiveStream = true ↔ s.streams = [] ∧ s.heartbeat ≠ .sending)) ∧
    (s.heartbeat = .select → ∃ s', s.iteration = some s' ∧ s'.heartbeat = .select ∧
      (s.Active → s'.sent = s.sent + 1) ∧ (¬ s.Active → s'.sent = s.sent)) ∧
    (s.heartbeat = .testStreams → s.step .test =
      some { s with heartbeat := if s.streams = [] then .testSessions else .opening }) ∧
    (s.heartbeat = .testSessions → s.step .test =
      some { s with heartbeat := if s.udpSessions = ∅ then .select else .opening }) := by
  have hs := counted_of_reachable h
  refine ⟨hs.connections_ne_zero, fun hconn => ⟨?_, hs.noActiveStream_iff hconn⟩,
    hs.iteration_spec, hs.step_test⟩
  have hstrong := hs.strong
  rw [if_neg hconn] at hstrong
  rw [StreamRegister.count, hstrong, Nat.add_comm]

/-- A stream in both directions that is handed to another task, and one that came in after a poll
was pending: a heartbeat is sent. -/
theorem heartbeat_iff_active_three :
    ∃ s, activitySystem.Reachable s ∧ s.live = 3 ∧ s.streamReg.count = 1 + s.live ∧
      ∃ s', s.iteration = some s' ∧ s'.sent = s.sent + 1 := by
  obtain ⟨s, hs, hlive⟩ := System.exists_reachable_of_run activitySystem
    [.getBiStream 0 true, .pollNext 1 .pending, .hand 0 2, .pollNext 1 .accepted]
    (fun s : Activity => decide (s.live = 3 ∧ s.connections ≠ 0 ∧ s.heartbeat = .select ∧
      s.streams ≠ [])) (by decide)
  obtain ⟨hlive, hconn, hpc, hstreams⟩ := of_decide_eq_true hlive
  obtain ⟨-, hcount, htick, -⟩ := heartbeat_iff_active s hs
  obtain ⟨s', hs', -, hsent, -⟩ := htick hpc
  exact ⟨s, hs, hlive, (hcount hconn).1, s', hs', hsent (Or.inl hstreams)⟩

end Activity

end Tuic.Client
