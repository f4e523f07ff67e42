import Mathlib.Data.List.Range
import Tuic.Transition.System
import Tuic.Transition.Pool

/-! # The connection of the client

`relay::init` (`client/src/relay/mod.rs`) starts three tasks that share one connection at a time:
`manage_connection` establishes it, keeps it in a mutex and waits for its end; `process_request`
takes it out of the mutex for each request; `listen_incoming` gets it through a chain of one-shot
channels, each message carrying the receiver for the next one, and marks it closed when its incoming
side ends. Connections are named by the order in which they were established. The chain is the same
in both UDP relay modes, which differ in what is read of a connection.

Three `unwrap`s rest on how these tasks go together: on the guard `manage_connection` keeps between
two rounds, on the content of the mutex, and on the channel `listen_incoming` waits at.
`slot_handOff` says that none of them fails, and what the mutex and the chain hold meanwhile. -/

namespace Tuic.Client

open Transition

/-! ## The tasks -/

/-- Where `manage_connection` stands. -/
inductive ManagePc where
  /-- In `wait_req.clone().await`. -/
  | waitReq
  /-- In `Connection::connect`. -/
  | connect
  /-- Asleep after a failed attempt. -/
  | sleep
  /-- Connection `n` is established; before `lock.take().unwrap()`. -/
  | take (n : Nat)
  /-- The guard is at hand; before it is used to renew the content of the mutex. -/
  | renew (n : Nat)
  /-- Before the connection is sent to `listen_incoming`. -/
  | handOff (n : Nat)
  /-- Before the guard is dropped at the end of the inner loop. -/
  | unlock (n : Nat)
  /-- In `new_conn.wait_close().await`. -/
  | waitClose (n : Nat)
  /-- In `conn.clone().lock_owned().await`. -/
  | relock
  /-- Panicked. -/
  | panicked
  deriving DecidableEq, Repr

/-- Where `listen_incoming` stands. -/
inductive ListenIncomingPc where
  /-- In `incoming_rx.next().await`, at channel `k`. -/
  | receive (k : Nat)
  /-- Reading what comes in on connection `n`, with the receiver of channel `k` for later. -/
  | serve (n k : Nat)
  /-- The incoming side has ended; before `conn.set_closed()`. -/
  | setClosed (n k : Nat)
  /-- Panicked. -/
  | panicked
  deriving DecidableEq, Repr

/-- Where `process_request` stands. -/
inductive RequestPc where
  /-- In `time::timeout(.., conn.lock())`. -/
  | lock
  /-- It holds the mutex; before `lock.as_ref().unwrap().clone()`. -/
  | clone
  /-- Before `drop(lock)`. -/
  | unlock (n : Nat)
  /-- At work on connection `n`. -/
  | serve (n : Nat)
  /-- Returned. -/
  | ended
  /-- Panicked. -/
  | panicked
  deriving DecidableEq, Repr

/-- Whether a request still has its `Register`. -/
def RequestPc.alive : RequestPc → Bool
  | .lock | .clone | .unlock _ | .serve _ => true
  | .ended | .panicked => false

/-- Whether a request holds the mutex. -/
def RequestPc.holds : RequestPc → Bool
  | .clone | .unlock _ => true
  | .lock | .serve _ | .ended | .panicked => false

/-- Who holds the mutex. -/
inductive Holder where
  /-- `manage_connection`. -/
  | manageConnection
  /-- A request. -/
  | request (i : Nat)
  deriving DecidableEq, Repr

/-- A one-shot channel. -/
inductive Oneshot where
  /-- Its sender is still there. -/
  | empty
  /-- Connection `n` was sent, with the receiver of channel `k`. -/
  | sent (n k : Nat)
  /-- What was sent has been received. -/
  | received
  /-- Its sender was dropped. -/
  | closed
  deriving DecidableEq, Repr

/-- The tasks of `relay::init` and what they share. -/
structure Relay where
  /-- The established connections in order, and whether each is marked closed. -/
  conns : List Bool
  /-- Who holds the mutex. -/
  holder : Option Holder
  /-- What is in the mutex. -/
  content : Option Nat
  /-- `manage_connection`. -/
  manager : ManagePc
  /-- Whether there is a guard in the container `lock` of `manage_connection`. -/
  guard : Bool
  /-- All channels of the chain, each named by its index. -/
  channels : List Oneshot
  /-- The channel whose sender `manage_connection` has in `next_incoming_tx`. -/
  nextIncomingTx : Nat
  /-- `listen_incoming`. -/
  listener : ListenIncomingPc
  /-- What `listen_incoming` received so far. -/
  received : List Nat
  /-- The requests so far, each named by its index. -/
  requests : List RequestPc

/-- A step of one of the tasks. -/
inductive RelayAction where
  /-- Of `manage_connection`; `ok` says whether an attempt to connect succeeds. -/
  | manage (ok : Bool)
  /-- Of `listen_incoming`. -/
  | listen
  /-- A request comes in. -/
  | spawn
  /-- Of a request. -/
  | request (i : Nat)
  /-- The time of a request is up before it has the mutex. -/
  | timeout (i : Nat)
  deriving DecidableEq, Repr

namespace Relay

/-- One step of `manage_connection`. -/
def manageStep (s : Relay) (ok : Bool) : Option Relay :=
  match s.manager with
  | .waitReq => if s.requests.any RequestPc.alive then some { s with manager := .connect } else none
  | .connect =>
    if ok then
      some { s with conns := s.conns ++ [false], manager := .take s.conns.length }
    else some { s with manager := .sleep }
  | .sleep => some { s with manager := .waitReq }
  | .take n =>
    if s.guard then some { s with guard := false, manager := .renew n }
    -- `next_incoming_tx` is dropped with the task
    else some { s with
      channels := s.channels.set s.nextIncomingTx .closed
      manager := .panicked }
  | .renew n => some { s with content := some n, manager := .handOff n }
  | .handOff n => some { s with
      channels := s.channels.set s.nextIncomingTx (.sent n s.channels.length) ++ [.empty]
      nextIncomingTx := s.channels.length
      manager := .unlock n }
  | .unlock n => some { s with holder := none, manager := .waitClose n }
  | .waitClose n => if s.conns[n]? = some true then some { s with manager := .relock } else none
  | .relock =>
    match s.holder with
    | none => some { s with
        holder := some .manageConnection
        guard := true
        manager := .waitReq }
    | some _ => none
  | .panicked => none

/-- One step of `listen_incoming`. -/
def listenStep (s : Relay) : Option Relay :=
  match s.listener with
  | .receive k =>
    match s.channels[k]? with
    | some (.sent n k') => some { s with
        channels := s.channels.set k .received
        listener := .serve n k'
        received := s.received ++ [n] }
    | some .closed => some { s with listener := .panicked }
    | _ => none
  -- the incoming side of a connection may end at any time
  | .serve n k => some { s with listener := .setClosed n k }
  | .setClosed n k => some { s with conns := s.conns.set n true, listener := .receive k }
  | .panicked => none

/-- One step of request `i`. -/
def requestStep (s : Relay) (i : Nat) : Option Relay :=
  match s.requests[i]? with
  | some .lock =>
    match s.holder with
    | none => some { s with
        holder := some (.request i)
        requests := s.requests.set i .clone }
    | some _ => none
  | some .clone =>
    match s.content with
    | some n => some { s with requests := s.requests.set i (.unlock n) }
    | none => some { s with holder := none, requests := s.requests.set i .panicked }
  | some (.unlock n) => some { s with holder := none, requests := s.requests.set i (.serve n) }
  | some (.serve _) => some { s with requests := s.requests.set i .ended }
  | _ => none

/-- The effect of an action. -/
def step (s : Relay) : RelayAction → Option Relay
  | .manage ok => s.manageStep ok
  | .listen => s.listenStep
  | .spawn => some { s with requests := s.requests ++ [.lock] }
  | .request i => s.requestStep i
  | .timeout i =>
    if s.requests[i]? = some .lock then some { s with requests := s.requests.set i .ended }
    else none

end Relay

/-- The client from `relay::init` on: the mutex is locked before any task runs. -/
def relaySystem : System Relay RelayAction where
  init := ⟨[], some .manageConnection, none, .waitReq, true, [.empty], 0, .receive 0, [], []⟩
  step := Relay.step

/-! ## What a step does -/

namespace Relay

variable {s s' : Relay} {a : RelayAction}

/-- The steps of `manage_connection`, one case each. -/
inductive ManageStep (s : Relay) : Relay → Prop where
  /-- A request is there. -/
  | waitReq (hm : s.manager = .waitReq) : ManageStep s { s with manager := .connect }
  /-- A connection is established. -/
  | connect (hm : s.manager = .connect) :
      ManageStep s { s with conns := s.conns ++ [false], manager := .take s.conns.length }
  /-- An attempt fails. -/
  | connectFails (hm : s.manager = .connect) : ManageStep s { s with manager := .sleep }
  /-- The sleep is over. -/
  | sleep (hm : s.manager = .sleep) : ManageStep s { s with manager := .waitReq }
  /-- The guard is taken out of its container. -/
  | take (n : Nat) (hm : s.manager = .take n) (hguard : s.guard = true) :
      ManageStep s { s with guard := false, manager := .renew n }
  /-- There is no guard in the container. -/
  | takeFails (n : Nat) (hm : s.manager = .take n) (hguard : s.guard = false) :
      ManageStep s { s with
        channels := s.channels.set s.nextIncomingTx .closed
        manager := .panicked }
  /-- The content of the mutex is renewed. -/
  | renew (n : Nat) (hm : s.manager = .renew n) :
      ManageStep s { s with content := some n, manager := .handOff n }
  /-- The connection is handed to `listen_incoming`. -/
  | handOff (n : Nat) (hm : s.manager = .handOff n) :
      ManageStep s { s with
        channels := s.channels.set s.nextIncomingTx (.sent n s.channels.length) ++ [.empty]
        nextIncomingTx := s.channels.length
        manager := .unlock n }
  /-- The guard is dropped. -/
  | unlock (n : Nat) (hm : s.manager = .unlock n) :
      ManageStep s { s with holder := none, manager := .waitClose n }
  /-- The connection is marked closed. -/
  | waitClose (n : Nat) (hm : s.manager = .waitClose n) (hclosed : s.conns[n]? = some true) :
      ManageStep s { s with manager := .relock }
  /-- The mutex is locked again. -/
  | relock (hm : s.manager = .relock) (hfree : s.holder = none) :
      ManageStep s { s with
        holder := some .manageConnection
        guard := true
        manager := .waitReq }

/-- Every step of `manage_connection` is one of these. -/
theorem manageStep_cases {ok : Bool} (h : s.manageStep ok = some s') : ManageStep s s' := by
  unfold manageStep at h
  split at h
  · rename_i hm
    split at h
    · cases h
      exact .waitReq hm
    · cases h
  · rename_i hm
    split at h
    · cases h
      exact .connect hm
    · cases h
      exact .connectFails hm
  · rename_i hm
    cases h
    exact .sleep hm
  · rename_i n hm
    split at h
    · rename_i hguard
      cases h
      exact .take n hm hguard
    · rename_i hguard
      cases h
      exact .takeFails n hm (by simpa using hguard)
  · rename_i n hm
    cases h
    exact .renew n hm
  · rename_i n hm
    cases h
    exact .handOff n hm
  · rename_i n hm
    cases h
    exact .unlock n hm
  · rename_i n hm
    split at h
    · rename_i hclosed
      cases h
      exact .waitClose n hm hclosed
    · cases h
  · rename_i hm
    split at h
    · rename_i hfree
      cases h
      exact .relock hm hfree
    · cases h
  · cases h

/-- The steps of `listen_incoming`, one case each. -/
inductive ListenStep (s : Relay) : Relay → Prop where
  /-- A connection is received. -/
  | receive (k n k' : Nat) (hl : s.listener = .receive k)
      (hsent : s.channels[k]? = some (.sent n k')) :
      ListenStep s { s with
        channels := s.channels.set k .received
        listener := .serve n k'
        received := s.received ++ [n] }
  /-- The sender is gone. -/
  | receiveFails (k : Nat) (hl : s.listener = .receive k)
      (hclosed : s.channels[k]? = some .closed) :
      ListenStep s { s with listener := .panicked }
  /-- The incoming side of the connection ends. -/
  | serve (n k : Nat) (hl : s.listener = .serve n k) :
      ListenStep s { s with listener := .setClosed n k }
  /-- The connection is marked closed. -/
  | setClosed (n k : Nat) (hl : s.listener = .setClosed n k) :
      ListenStep s { s with conns := s.conns.set n true, listener := .receive k }

/-- Every step of `listen_incoming` is one of these. -/
theorem listenStep_cases (h : s.listenStep = some s') : ListenStep s s' := by
  unfold listenStep at h
  split at h
  · rename_i k hl
    split at h
    · rename_i n k' hsent
      cases h
      exact .receive k n k' hl hsent
    · rename_i hclosed
      cases h
      exact .receiveFails k hl hclosed
    · cases h
  · rename_i n k hl
    cases h
    exact .serve n k hl
  · rename_i n k hl
    cases h
    exact .setClosed n k hl
  · cases h

/-- The steps of the requests, one case each. -/
inductive RequestStep (s : Relay) : Relay → Prop where
  /-- A request comes in. -/
  | spawn : RequestStep s { s with requests := s.requests ++ [.lock] }
  /-- A request locks the mutex. -/
  | lock (i : Nat) (hi : s.requests[i]? = some .lock) (hfree : s.holder = none) :
      RequestStep s { s with
        holder := some (.request i)
        requests := s.requests.set i .clone }
  /-- A request gets the connection. -/
  | clone (i n : Nat) (hi : s.requests[i]? = some .clone) (hcontent : s.content = some n) :
      RequestStep s { s with requests := s.requests.set i (.unlock n) }
  /-- A request finds the mutex empty. -/
  | cloneFails (i : Nat) (hi : s.requests[i]? = some .clone) (hcontent : s.content = none) :
      RequestStep s { s with holder := none, requests := s.requests.set i .panicked }
  /-- A request unlocks the mutex. -/
  | unlock (i n : Nat) (hi : s.requests[i]? = some (.unlock n)) :
      RequestStep s { s with holder := none, requests := s.requests.set i (.serve n) }
  /-- A request ends, with or without a connection. -/
  | finish (i : Nat) (pc : RequestPc) (hi : s.requests[i]? = some pc) (hpc : pc.holds = false) :
      RequestStep s { s with requests := s.requests.set i .ended }

/-- Every step of a request is one of these. -/
theorem requestStep_cases {i : Nat} (h : s.requestStep i = some s') : RequestStep s s' := by
  unfold requestStep at h
  split at h
  · rename_i hi
    split at h
    · rename_i hfree
      cases h
      exact .lock i hi hfree
    · cases h
  · rename_i hi
    split at h
    · rename_i n hcontent
      cases h
      exact .clone i n hi hcontent
    · rename_i hcontent
      cases h
      exact .cloneFails i hi hcontent
  · rename_i n hi
    cases h
    exact .unlock i n hi
  · rename_i n hi
    cases h
    exact .finish i (.serve n) hi rfl
  · cases h

/-- A step of the client is one of its three kinds of tasks. -/
theorem step_cases (h : relaySystem.step s a = some s') :
    ManageStep s s' ∨ ListenStep s s' ∨ RequestStep s s' := by
  have h : s.step a = some s' := h
  cases a with
  | manage ok => exact Or.inl (manageStep_cases h)
  | listen => exact Or.inr (Or.inl (listenStep_cases h))
  | spawn =>
    cases h
    exact Or.inr (Or.inr .spawn)
  | request i => exact Or.inr (Or.inr (requestStep_cases h))
  | timeout i =>
    simp only [step] at h
    split at h
    · rename_i hi
      cases h
      exact Or.inr (Or.inr (.finish i .lock hi rfl))
    · cases h

end Relay

/-! ## The mutex -/

namespace ManagePc

/-- Whether `manage_connection` holds the mutex here. -/
def locks : ManagePc → Bool
  | .waitReq | .connect | .sleep | .take _ | .renew _ | .handOff _ | .unlock _ => true
  | .waitClose _ | .relock | .panicked => false

/-- Whether the guard is in its container here. -/
def guards : ManagePc → Bool
  | .waitReq | .connect | .sleep | .take _ => true
  | .renew _ | .handOff _ | .unlock _ | .waitClose _ | .relock | .panicked => false

/-- The connection `manage_connection` is at. -/
def conn? : ManagePc → Option Nat
  | .take n | .renew n | .handOff n | .unlock n | .waitClose n => some n
  | .waitReq | .connect | .sleep | .relock | .panicked => none

/-- Whether the mutex has the latest connection in it here. -/
def renewed : ManagePc → Bool
  | .handOff _ | .unlock _ | .waitClose _ | .relock => true
  | .waitReq | .connect | .sleep | .take _ | .renew _ | .panicked => false

/-- Whether a connection is established here that was not handed to `listen_incoming` yet. -/
def handing : ManagePc → Bool
  | .take _ | .renew _ | .handOff _ => true
  | .waitReq | .connect | .sleep | .unlock _ | .waitClose _ | .relock | .panicked => false

/-- Whether a connection that was handed over may still be open here. -/
def settled : ManagePc → Bool
  | .unlock _ | .waitClose _ => true
  | .waitReq | .connect | .sleep | .take _ | .renew _ | .handOff _ | .relock | .panicked => false

end ManagePc

namespace Relay

variable {s s' : Relay} {a : RelayAction}

/-- Where `manage_connection` stands says who may have the mutex, and what is in it. -/
structure Slot (s : Relay) : Prop where
  /-- The mutex is held by `manage_connection` exactly where it should be. -/
  held : s.holder = some .manageConnection ↔ s.manager.locks = true
  /-- So is the guard in its container. -/
  guard : s.guard = s.manager.guards
  /-- The connection it is at is the latest. -/
  current : ∀ n, s.manager.conn? = some n → s.conns.length = n + 1
  /-- Once it is renewed, the mutex has the latest connection in it. -/
  content : s.manager.renewed = true → ∃ n, s.content = some n ∧ s.conns.length = n + 1
  /-- It has not panicked. -/
  running : s.manager ≠ .panicked

/-- A request that holds the mutex is its holder, and no request has panicked. -/
def Exclusive (s : Relay) : Prop :=
  All (fun i pc => pc ≠ .panicked ∧ (pc.holds = true → s.holder = some (.request i))) s.requests

/-- What the mutex has in it while `manage_connection` does not hold it. -/
theorem Slot.content_of_free (h : s.Slot) (hfree : s.holder ≠ some .manageConnection) :
    ∃ n, s.content = some n ∧ s.conns.length = n + 1 := by
  have hlocks : s.manager.locks = false := by
    rw [← Bool.not_eq_true, ← h.held]
    exact hfree
  refine h.content ?_
  cases hm : s.manager with
  | waitClose n => rfl
  | relock => rfl
  | panicked => exact absurd hm h.running
  | _ =>
    rw [hm] at hlocks
    cases hlocks

/-- `manage_connection` keeps the mutex in order. -/
theorem Slot.manage (h : s.Slot) (hstep : ManageStep s s') : s'.Slot := by
  obtain ⟨hheld, hguard, hcurrent, hcontent, -⟩ := h
  cases hstep with
  | waitReq hm =>
    rw [hm] at hheld hguard
    exact ⟨hheld, hguard, nofun, nofun, nofun⟩
  | connect hm =>
    rw [hm] at hheld hguard
    refine ⟨hheld, hguard, fun n hn => ?_, nofun, nofun⟩
    cases hn
    exact List.length_append
  | connectFails hm =>
    rw [hm] at hheld hguard
    exact ⟨hheld, hguard, nofun, nofun, nofun⟩
  | sleep hm =>
    rw [hm] at hheld hguard
    exact ⟨hheld, hguard, nofun, nofun, nofun⟩
  | take n hm hguard' =>
    rw [hm] at hheld hcurrent
    exact ⟨hheld, rfl, hcurrent, nofun, nofun⟩
  -- the container has its guard here
  | takeFails n hm hguard' =>
    rw [hm, hguard'] at hguard
    cases hguard
  | renew n hm =>
    rw [hm] at hheld hguard hcurrent
    exact ⟨hheld, hguard, hcurrent, fun _ => ⟨n, rfl, hcurrent n rfl⟩, nofun⟩
  | handOff n hm =>
    rw [hm] at hheld hguard hcurrent hcontent
    exact ⟨hheld, hguard, hcurrent, hcontent, nofun⟩
  | unlock n hm =>
    rw [hm] at hguard hcurrent hcontent
    exact ⟨⟨nofun, nofun⟩, hguard, hcurrent, hcontent, nofun⟩
  | waitClose n hm hclosed =>
    rw [hm] at hheld hguard hcontent
    exact ⟨hheld, hguard, nofun, hcontent, nofun⟩
  | relock hm hfree => exact ⟨⟨fun _ => rfl, fun _ => rfl⟩, rfl, nofun, nofun, nofun⟩

/-- `listen_incoming` does not touch it. -/
theorem Slot.listen (h : s.Slot) (hstep : ListenStep s s') : s'.Slot := by
  cases hstep with
  | receive k n k' hl hsent => exact ⟨h.held, h.guard, h.current, h.content, h.running⟩
  | receiveFails k hl hclosed => exact ⟨h.held, h.guard, h.current, h.content, h.running⟩
  | serve n k hl => exact ⟨h.held, h.guard, h.current, h.content, h.running⟩
  | setClosed n k hl =>
    -- a mark leaves the number of connections as it is
    have hlength : (s.conns.set n true).length = s.conns.length := List.length_set
    refine ⟨h.held, h.guard, fun m hm => ?_, fun hr => ?_, h.running⟩
    · exact hlength.trans (h.current m hm)
    · obtain ⟨m, hm, hlen⟩ := h.content hr
      exact ⟨m, hm, hlength.trans hlen⟩

/-- Requests lock the mutex only when it is free, and give it back. -/
theorem Slot.request (h : s.Slot) (hx : s.Exclusive) (hstep : RequestStep s s') : s'.Slot := by
  -- while a request holds the mutex, or nobody does, `manage_connection` does not
  have hnot : s.holder ≠ some .manageConnection → s.manager.locks = false := by
    intro hne
    rw [← Bool.not_eq_true, ← h.held]
    exact hne
  have hfree : ∀ {holder : Option Holder}, s.holder ≠ some .manageConnection →
      holder ≠ some .manageConnection →
      (holder = some .manageConnection ↔ s.manager.locks = true) := by
    intro holder hs hne
    rw [hnot hs]
    exact ⟨fun heq => absurd heq hne, nofun⟩
  cases hstep with
  | spawn => exact ⟨h.held, h.guard, h.current, h.content, h.running⟩
  | finish i pc hi hpc => exact ⟨h.held, h.guard, h.current, h.content, h.running⟩
  | clone i n hi hcontent => exact ⟨h.held, h.guard, h.current, h.content, h.running⟩
  | lock i hi hnone =>
    refine ⟨hfree ?_ nofun, h.guard, h.current, h.content, h.running⟩
    rw [hnone]
    nofun
  | cloneFails i hi hcontent =>
    refine ⟨hfree ?_ nofun, h.guard, h.current, h.content, h.running⟩
    rw [(hx i _ hi).2 rfl]
    nofun
  | unlock i n hi =>
    refine ⟨hfree ?_ nofun, h.guard, h.current, h.content, h.running⟩
    rw [(hx i _ hi).2 rfl]
    nofun

/-- `manage_connection` leaves the mutex to the request that holds it. -/
theorem Exclusive.manage (h : s.Exclusive) (hslot : s.Slot) (hstep : ManageStep s s') :
    s'.Exclusive := by
  cases hstep with
  | unlock n hm =>
    have hheld : s.holder = some .manageConnection := by rw [hslot.held, hm]; rfl
    refine All.mono h fun i pc _ hp => ⟨hp.1, fun hpc => ?_⟩
    cases hheld.symm.trans (hp.2 hpc)
  | relock hm hfree =>
    refine All.mono h fun i pc _ hp => ⟨hp.1, fun hpc => ?_⟩
    cases hfree.symm.trans (hp.2 hpc)
  | waitReq hm => exact h
  | connect hm => exact h
  | connectFails hm => exact h
  | sleep hm => exact h
  | take n hm hguard => exact h
  | takeFails n hm hguard => exact h
  | renew n hm => exact h
  | handOff n hm => exact h
  | waitClose n hm hclosed => exact h

/-- `listen_incoming` does too. -/
theorem Exclusive.listen (h : s.Exclusive) (hstep : ListenStep s s') : s'.Exclusive := by
  cases hstep <;> exact h

/-- So do the requests among themselves, and none finds the mutex empty. -/
theorem Exclusive.request (h : s.Exclusive) (hslot : s.Slot) (hstep : RequestStep s s') :
    s'.Exclusive := by
  cases hstep with
  | spawn => exact All.spawn h ⟨nofun, nofun⟩ fun _ _ _ hp => hp
  | lock i hi hfree =>
    refine All.set h ⟨nofun, fun _ => rfl⟩ fun j pc _ _ hp => ⟨hp.1, fun hpc => ?_⟩
    cases hfree.symm.trans (hp.2 hpc)
  | clone i n hi hcontent =>
    exact All.set h ⟨nofun, fun _ => (h i _ hi).2 rfl⟩ fun _ _ _ _ hp => hp
  | cloneFails i hi hcontent =>
    -- the mutex is held by this request, so it has a connection in it
    have hheld : s.holder ≠ some .manageConnection := by
      rw [(h i _ hi).2 rfl]
      nofun
    obtain ⟨n, hn, -⟩ := hslot.content_of_free hheld
    cases hcontent.symm.trans hn
  | unlock i n hi =>
    refine All.set h ⟨nofun, nofun⟩ fun j pc hne _ hp => ⟨hp.1, fun hpc => ?_⟩
    have heq := ((h i _ hi).2 rfl).symm.trans (hp.2 hpc)
    cases heq
    exact absurd rfl hne
  | finish i pc hi hpc => exact All.set h ⟨nofun, nofun⟩ fun _ _ _ _ hp => hp

/-! ## The chain of channels -/

/-- The connections when the first `n` are closed and one more is open. -/
def lastOpen (n : Nat) : List Bool := List.replicate n true ++ [false]

/-- How far the latest connection has got. -/
inductive Phase (s : Relay) : Prop where
  /-- All connections are closed, and `listen_incoming` waits for the next. -/
  | closed (n : Nat) (hconns : s.conns = List.replicate n true)
      (hl : s.listener = .receive s.nextIncomingTx) (hr : s.received = List.range n)
      (hm : s.manager.handing = false)
  /-- The latest is established, and not handed over yet. -/
  | established (n : Nat) (hconns : s.conns = lastOpen n)
      (hl : s.listener = .receive s.nextIncomingTx) (hr : s.received = List.range n)
      (hm : s.manager.handing = true)
  /-- It is on its way to `listen_incoming`. -/
  | sent (n k : Nat) (hconns : s.conns = lastOpen n) (hl : s.listener = .receive k)
      (hsent : s.channels[k]? = some (.sent n s.nextIncomingTx)) (hr : s.received = List.range n)
      (hm : s.manager.settled = true)
  /-- It was received, and is not marked closed yet. -/
  | serving (n : Nat) (hconns : s.conns = lastOpen n)
      (hl : s.listener = .serve n s.nextIncomingTx ∨ s.listener = .setClosed n s.nextIncomingTx)
      (hr : s.received = List.range (n + 1)) (hm : s.manager.settled = true)

/-- What holds of the chain: the next channel is empty, and the latest connection is in one of its
phases. -/
structure Chain (s : Relay) : Prop where
  /-- The sender of `manage_connection` was not used. -/
  sender : s.channels[s.nextIncomingTx]? = some .empty
  /-- The phase of the latest connection. -/
  phase : s.Phase

/-- The number of connections while the latest is open. -/
theorem length_lastOpen (n : Nat) : (lastOpen n).length = n + 1 := by
  rw [lastOpen, List.length_append, List.length_replicate]
  rfl

/-- The latest of them is not marked. -/
theorem getElem?_lastOpen (n : Nat) : (lastOpen n)[n]? = some false := by
  rw [lastOpen, List.getElem?_append_right (by rw [List.length_replicate])]
  simp

/-- Its mark closes the last one. -/
theorem set_lastOpen (n : Nat) : (lastOpen n).set n true = List.replicate (n + 1) true := by
  rw [lastOpen, List.set_append_right _ _ (by rw [List.length_replicate]), List.length_replicate,
    Nat.sub_self, List.replicate_succ']
  rfl

/-- Where nothing is handed over, and nothing handed over is open, all connections are closed. -/
theorem Phase.closed_of (h : s.Phase) (hh : s.manager.handing = false)
    (hs : s.manager.settled = false) :
    ∃ n, s.conns = List.replicate n true ∧ s.listener = .receive s.nextIncomingTx ∧
      s.received = List.range n := by
  cases h with
  | closed n hconns hl hr hm => exact ⟨n, hconns, hl, hr⟩
  | established n hconns hl hr hm =>
    rw [hm] at hh
    cases hh
  | sent n k hconns hl hsent hr hm =>
    rw [hm] at hs
    cases hs
  | serving n hconns hl hr hm =>
    rw [hm] at hs
    cases hs

/-- What `listen_incoming` waits for is the next connection, or the latest on its way. -/
theorem Phase.of_receive {k : Nat} (h : s.Phase) (hl : s.listener = .receive k) :
    k = s.nextIncomingTx ∨ ∃ n, s.conns = lastOpen n ∧
      s.channels[k]? = some (.sent n s.nextIncomingTx) ∧ s.received = List.range n ∧
      s.manager.settled = true := by
  cases h with
  | closed n hconns hl' hr hm =>
    cases hl.symm.trans hl'
    exact Or.inl rfl
  | established n hconns hl' hr hm =>
    cases hl.symm.trans hl'
    exact Or.inl rfl
  | sent n k' hconns hl' hsent hr hm =>
    cases hl.symm.trans hl'
    exact Or.inr ⟨n, hconns, hsent, hr, hm⟩
  | serving n hconns hl' hr hm =>
    rcases hl' with hl' | hl' <;> cases hl.symm.trans hl'

/-- What it serves is the latest connection. -/
theorem Phase.of_serving {n k : Nat} (h : s.Phase)
    (hl : s.listener = .serve n k ∨ s.listener = .setClosed n k) :
    k = s.nextIncomingTx ∧ s.conns = lastOpen n ∧ s.received = List.range (n + 1) ∧
      s.manager.settled = true := by
  cases h with
  | closed n' hconns hl' hr hm => rcases hl with hl | hl <;> cases hl.symm.trans hl'
  | established n' hconns hl' hr hm => rcases hl with hl | hl <;> cases hl.symm.trans hl'
  | sent n' k' hconns hl' hsent hr hm => rcases hl with hl | hl <;> cases hl.symm.trans hl'
  | serving n' hconns hl' hr hm =>
    rcases hl with hl | hl <;> rcases hl' with hl' | hl' <;> cases hl.symm.trans hl'
    all_goals exact ⟨rfl, hconns, hr, hm⟩

/-- A step that does not concern the chain keeps the phase. -/
theorem Phase.congr (h : s.Phase) (hconns : s'.conns = s.conns)
    (hchannels : s'.channels = s.channels) (htx : s'.nextIncomingTx = s.nextIncomingTx)
    (hlistener : s'.listener = s.listener) (hreceived : s'.received = s.received)
    (hhanding : s'.manager.handing = s.manager.handing)
    (hsettled : s'.manager.settled = s.manager.settled) : s'.Phase := by
  cases h with
  | closed n hc hl hr hm =>
    exact .closed n (hconns.trans hc) (by rw [hlistener, htx, hl]) (hreceived.trans hr)
      (hhanding.trans hm)
  | established n hc hl hr hm =>
    exact .established n (hconns.trans hc) (by rw [hlistener, htx, hl]) (hreceived.trans hr)
      (hhanding.trans hm)
  | sent n k hc hl hsent hr hm =>
    exact .sent n k (hconns.trans hc) (hlistener.trans hl) (by rw [hchannels, htx, hsent])
      (hreceived.trans hr) (hsettled.trans hm)
  | serving n hc hl hr hm =>
    exact .serving n (hconns.trans hc) (by rw [hlistener, htx]; exact hl) (hreceived.trans hr)
      (hsettled.trans hm)

/-- `manage_connection` keeps the chain in order. -/
theorem Chain.manage (h : s.Chain) (hslot : s.Slot) (hstep : ManageStep s s') : s'.Chain := by
  obtain ⟨hsender, hphase⟩ := h
  cases hstep with
  | waitReq hm =>
    exact ⟨hsender, hphase.congr rfl rfl rfl rfl rfl (by rw [hm]; rfl) (by rw [hm]; rfl)⟩
  | connectFails hm =>
    exact ⟨hsender, hphase.congr rfl rfl rfl rfl rfl (by rw [hm]; rfl) (by rw [hm]; rfl)⟩
  | sleep hm =>
    exact ⟨hsender, hphase.congr rfl rfl rfl rfl rfl (by rw [hm]; rfl) (by rw [hm]; rfl)⟩
  | take n hm hguard =>
    exact ⟨hsender, hphase.congr rfl rfl rfl rfl rfl (by rw [hm]; rfl) (by rw [hm]; rfl)⟩
  | renew n hm =>
    exact ⟨hsender, hphase.congr rfl rfl rfl rfl rfl (by rw [hm]; rfl) (by rw [hm]; rfl)⟩
  | unlock n hm =>
    exact ⟨hsender, hphase.congr rfl rfl rfl rfl rfl (by rw [hm]; rfl) (by rw [hm]; rfl)⟩
  | relock hm hfree =>
    exact ⟨hsender, hphase.congr rfl rfl rfl rfl rfl (by rw [hm]; rfl) (by rw [hm]; rfl)⟩
  | connect hm =>
    obtain ⟨n, hconns, hl, hr⟩ := hphase.closed_of (by rw [hm]; rfl) (by rw [hm]; rfl)
    refine ⟨hsender, .established n ?_ hl hr rfl⟩
    show s.conns ++ [false] = lastOpen n
    rw [hconns, lastOpen]
  | takeFails n hm hguard =>
    have hguard' := hslot.guard
    rw [hm, hguard] at hguard'
    cases hguard'
  | handOff n hm =>
    have hhanding : s.manager.handing = true := by rw [hm]; rfl
    have hsettled : s.manager.settled = false := by rw [hm]; rfl
    have hlt := (List.getElem?_eq_some_iff.mp hsender).1
    cases hphase with
    | established n' hconns hl hr hm' =>
      -- the connection handed over is the one that was established
      have hlength := hslot.current n (by rw [hm]; rfl)
      rw [hconns, length_lastOpen] at hlength
      cases hlength
      refine ⟨?_, .sent n s.nextIncomingTx hconns hl ?_ hr rfl⟩
      · show (s.channels.set _ _ ++ [Oneshot.empty])[s.channels.length]? = some .empty
        rw [List.getElem?_append_right (by rw [List.length_set]), List.length_set, Nat.sub_self]
        rfl
      · show (s.channels.set _ _ ++ [Oneshot.empty])[s.nextIncomingTx]? = _
        rw [List.getElem?_append_left (by rw [List.length_set]; exact hlt),
          List.getElem?_set_self hlt]
    | closed n' hconns hl hr hm' =>
      rw [hhanding] at hm'
      cases hm'
    | sent n' k hconns hl hsent hr hm' =>
      rw [hsettled] at hm'
      cases hm'
    | serving n' hconns hl hr hm' =>
      rw [hsettled] at hm'
      cases hm'
  | waitClose n hm hclosed =>
    have hlength := hslot.current n (by rw [hm]; rfl)
    -- the latest connection is marked, so it is in none of the phases of an open one
    have hnot : ∀ {m}, s.conns ≠ lastOpen m := by
      intro m hconns
      rw [hconns, length_lastOpen] at hlength
      cases hlength
      rw [hconns, getElem?_lastOpen] at hclosed
      cases hclosed
    cases hphase with
    | closed n' hconns hl hr hm' => exact ⟨hsender, .closed n' hconns hl hr rfl⟩
    | established n' hconns hl hr hm' => exact absurd hconns hnot
    | sent n' k hconns hl hsent hr hm' => exact absurd hconns hnot
    | serving n' hconns hl hr hm' => exact absurd hconns hnot

/-- `listen_incoming` keeps it in order too, and is sent what it waits for. -/
theorem Chain.listen (h : s.Chain) (hstep : ListenStep s s') : s'.Chain := by
  obtain ⟨hsender, hphase⟩ := h
  cases hstep with
  | receive k n k' hl hsent =>
    -- a channel with a message is not the one whose sender is still there
    have hne : k ≠ s.nextIncomingTx := by
      rintro rfl
      cases hsender.symm.trans hsent
    obtain ⟨n', hconns, hsent', hr, hm⟩ := (hphase.of_receive hl).resolve_left hne
    cases hsent.symm.trans hsent'
    refine ⟨?_, .serving n hconns (Or.inl rfl) ?_ hm⟩
    · show (s.channels.set k .received)[s.nextIncomingTx]? = _
      rw [List.getElem?_set_ne hne]
      exact hsender
    · show s.received ++ [n] = _
      rw [hr, List.range_succ]
  | receiveFails k hl hclosed =>
    -- no sender was dropped: the channel is empty, or has a message
    rcases hphase.of_receive hl with rfl | ⟨n, -, hsent, -, -⟩
    · cases hsender.symm.trans hclosed
    · cases hsent.symm.trans hclosed
  | serve n k hl =>
    obtain ⟨rfl, hconns, hr, hm⟩ := hphase.of_serving (Or.inl hl)
    exact ⟨hsender, .serving n hconns (Or.inr rfl) hr hm⟩
  | setClosed n k hl =>
    obtain ⟨rfl, hconns, hr, hm⟩ := hphase.of_serving (Or.inr hl)
    refine ⟨hsender, .closed (n + 1) ?_ rfl hr ?_⟩
    · show s.conns.set n true = _
      rw [hconns, set_lastOpen]
    · show s.manager.handing = false
      cases hmanager : s.manager with
      | unlock m => rfl
      | waitClose m => rfl
      | _ =>
        rw [hmanager] at hm
        cases hm

/-- Requests have nothing to do with the chain. -/
theorem Chain.request (h : s.Chain) (hstep : RequestStep s s') : s'.Chain := by
  cases hstep <;> exact ⟨h.sender, h.phase.congr rfl rfl rfl rfl rfl rfl rfl⟩

/-! ## The joint invariant -/

/-- **The three tasks together**: the mutex, its holders and the chain. -/
structure Inv (s : Relay) : Prop where
  /-- The mutex is in order. -/
  slot : s.Slot
  /-- Requests respect it. -/
  exclusive : s.Exclusive
  /-- The chain is in order. -/
  chain : s.Chain

/-- Every step keeps all of it. -/
theorem Inv.step (h : s.Inv) (hstep : relaySystem.step s a = some s') : s'.Inv := by
  obtain ⟨hslot, hx, hchain⟩ := h
  rcases step_cases hstep with hm | hl | hr
  · exact ⟨hslot.manage hm, hx.manage hslot hm, hchain.manage hslot hm⟩
  · exact ⟨hslot.listen hl, hx.listen hl, hchain.listen hl⟩
  · exact ⟨hslot.request hx hr, hx.request hslot hr, hchain.request hr⟩

/-- The invariant in every reachable state. -/
theorem inv_of_reachable (h : relaySystem.Reachable s) : s.Inv := by
  refine h.invariant ⟨⟨⟨fun _ => rfl, fun _ => rfl⟩, rfl, nofun, nofun, nofun⟩, All.nil, rfl, ?_⟩
    fun s a s' _ hi _ hstep => hi.step hstep
  exact .closed 0 rfl rfl rfl rfl

/-- Only `manage_connection` establishes connections, and only where it tries to. -/
theorem manager_of_length (hstep : relaySystem.step s a = some s')
    (hlength : s'.conns.length = s.conns.length + 1) : s.manager = .connect := by
  rcases step_cases hstep with hm | hl | hr
  · cases hm with
    | connect hm => exact hm
    | _ => simp at hlength
  · cases hl <;> simp at hlength
  · cases hr <;> simp at hlength

/-- Before a connection is established, all earlier ones are marked closed. -/
theorem Inv.closed_of_length (h : s.Inv) (hstep : relaySystem.step s a = some s')
    (hlength : s'.conns.length = s.conns.length + 1) : ∀ b ∈ s.conns, b = true := by
  have hm := manager_of_length hstep hlength
  obtain ⟨n, hconns, -⟩ := h.chain.phase.closed_of (by rw [hm]; rfl) (by rw [hm]; rfl)
  intro b hb
  rw [hconns] at hb
  exact List.eq_of_mem_replicate hb

/-- What `listen_incoming` received is the established connections in order, up to the latest. -/
theorem Inv.received (h : s.Inv) : s.received <+: List.range s.conns.length := by
  -- a shorter range comes first in a longer one
  have hrange : ∀ {m}, s.received = List.range m → m ≤ s.conns.length →
      s.received <+: List.range s.conns.length := by
    intro m hr hle
    obtain ⟨k, hk⟩ := Nat.exists_eq_add_of_le hle
    rw [hr, hk, List.range_add]
    exact List.prefix_append _ _
  cases h.chain.phase with
  | closed n hconns hl hr hm =>
    refine hrange hr ?_
    rw [hconns, List.length_replicate]
  | established n hconns hl hr hm =>
    refine hrange hr ?_
    rw [hconns, length_lastOpen]
    exact Nat.le_succ n
  | sent n k hconns hl hsent hr hm =>
    refine hrange hr ?_
    rw [hconns, length_lastOpen]
    exact Nat.le_succ n
  | serving n hconns hl hr hm =>
    refine hrange hr ?_
    rw [hconns, length_lastOpen]

/-- A connection it has not received is still with `manage_connection`, or there to be received. -/
theorem Inv.received_next (h : s.Inv) {n : Nat} (hn : n < s.conns.length) (hnot : n ∉ s.received) :
    (s.manager.handing = true ∧ s.manager.conn? = some n) ∨
      ∃ s', relaySystem.step s .listen = some s' ∧ s'.received = s.received ++ [n] := by
  cases h.chain.phase with
  | closed m hconns hl hr hm =>
    rw [hconns, List.length_replicate] at hn
    rw [hr, List.mem_range] at hnot
    exact absurd hn hnot
  | serving m hconns hl hr hm =>
    rw [hconns, length_lastOpen] at hn
    rw [hr, List.mem_range] at hnot
    exact absurd hn hnot
  | established m hconns hl hr hm =>
    refine Or.inl ⟨hm, ?_⟩
    have hlength : s.conns.length = m + 1 := by rw [hconns, length_lastOpen]
    rw [hr, List.mem_range] at hnot
    obtain ⟨m', hm'⟩ : ∃ m', s.manager.conn? = some m' := by
      cases hmanager : s.manager with
      | take m' => exact ⟨m', rfl⟩
      | renew m' => exact ⟨m', rfl⟩
      | handOff m' => exact ⟨m', rfl⟩
      | _ =>
        rw [hmanager] at hm
        cases hm
    have hcurrent := h.slot.current m' hm'
    rw [hm', Option.some.injEq]
    omega
  | sent m k hconns hl hsent hr hm =>
    have hlength : s.conns.length = m + 1 := by rw [hconns, length_lastOpen]
    rw [hr, List.mem_range] at hnot
    obtain rfl : n = m := by omega
    have hstep : s.listenStep = some { s with
        channels := s.channels.set k .received
        listener := .serve n s.nextIncomingTx
        received := s.received ++ [n] } := by
      rw [listenStep, hl]
      simp only [hsent]
    exact Or.inr ⟨_, hstep, rfl⟩

/-- **The slot and the hand-off of the client.** In every reachable state, for any attempts, closes,
requests and time-outs:

* the mutex, while `manage_connection` does not hold it, has the latest connection in it;
* `manage_connection` finds its guard when it takes it, and none of the three tasks panics;
* a connection is established only after all earlier ones were marked closed;
* `listen_incoming` receives the established connections, each once and in order, and one it has not
  received is either not handed over yet or there for its next step. -/
theorem slot_handOff (s : Relay) (h : relaySystem.Reachable s) :
    (s.holder ≠ some .manageConnection → ∃ n, s.content = some n ∧ s.conns.length = n + 1) ∧
    (∀ n, s.manager = .take n → s.guard = true) ∧
    (s.manager ≠ .panicked ∧ s.listener ≠ .panicked ∧ .panicked ∉ s.requests) ∧
    (∀ a s', relaySystem.step s a = some s' → s'.conns.length = s.conns.length + 1 →
      ∀ b ∈ s.conns, b = true) ∧
    s.received <+: List.range s.conns.length ∧
    (∀ n, n < s.conns.length → n ∉ s.received →
      (s.manager.handing = true ∧ s.manager.conn? = some n) ∨
        ∃ s', relaySystem.step s .listen = some s' ∧ s'.received = s.received ++ [n]) := by
  have hi := inv_of_reachable h
  refine ⟨hi.slot.content_of_free, fun n hm => ?_, ⟨hi.slot.running, ?_, ?_⟩,
    fun a s' hstep hlength => hi.closed_of_length hstep hlength, hi.received,
    fun n hn hnot => hi.received_next hn hnot⟩
  · rw [hi.slot.guard, hm]
    rfl
  · intro hl
    cases hi.chain.phase with
    | closed n hconns hl' hr hm => cases hl.symm.trans hl'
    | established n hconns hl' hr hm => cases hl.symm.trans hl'
    | sent n k hconns hl' hsent hr hm => cases hl.symm.trans hl'
    | serving n hconns hl' hr hm => rcases hl' with hl' | hl' <;> cases hl.symm.trans hl'
  · intro hmem
    obtain ⟨i, hi'⟩ := List.mem_iff_getElem?.mp hmem
    exact (hi.exclusive i _ hi').1 rfl

/-- The theorem at a client that has lost its first connection and established a second one. -/
theorem slot_handOff_second :
    ∃ s, relaySystem.Reachable s ∧ s.conns = [true, false] ∧
      ∃ n, s.content = some n ∧ s.conns.length = n + 1 := by
  obtain ⟨s, hs, hp⟩ := System.exists_reachable_of_run relaySystem
    [.spawn, .manage true, .manage false, .manage true, .manage true, .manage true, .manage true,
      .manage true, .manage true, .manage true, .request 0, .listen, .listen, .listen, .manage true,
      .request 0, .request 0, .manage true, .manage true, .manage true, .manage true, .manage true,
      .manage true, .manage true]
    (fun s => decide (s.conns = [true, false] ∧ s.holder = none)) (by decide)
  obtain ⟨hconns, hholder⟩ := of_decide_eq_true hp
  exact ⟨s, hs, hconns, (slot_handOff s hs).1 (by rw [hholder]; nofun)⟩

end Relay

end Tuic.Client
