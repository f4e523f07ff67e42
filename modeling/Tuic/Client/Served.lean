import Tuic.Client.Manage

/-! # Requests get their connection

`Manage` says what the three tasks of the client never do; this file says that they get somewhere.
Left to themselves, with attempts to connect that succeed and connections that last, they come to
rest after a bounded number of steps, whatever the order (`Relay.weight`), and then no request waits
for a connection. At rest there is either no request, and `manage_connection` waits for one, or the
latest connection is in the mutex, open, and read by `listen_incoming`.

A request that is at work counts as one that waits as long as it has its `Register`, so a lost
connection is established again also for requests that go on with the lost one. -/

namespace Tuic.Client

open Transition

namespace Relay

variable {s s' : Relay} {a : RelayAction} {C : Relay → RelayAction → Prop}

/-! ## Steps of their own -/

/-- Nothing comes in with the step: no request, no end of a connection or of a request, no failed
attempt to connect, and no time-out. -/
def isOwn (s : Relay) : RelayAction → Bool
  | .manage ok => ok
  | .listen =>
    match s.listener with
    | .serve _ _ => false
    | .receive _ | .setClosed _ _ | .panicked => true
  | .request i =>
    match s.requests[i]? with
    | some (.serve _) => false
    | _ => true
  | .spawn | .timeout _ => false

/-- No step of their own is left to the three tasks. -/
def AtRest (s : Relay) : Prop := ∀ a, s.isOwn a = true → s.step a = none

/-- A request that is said to hold the mutex is at a point where it does. -/
def Held (s : Relay) : Prop :=
  ∀ i, s.holder = some (.request i) → ∃ pc, s.requests[i]? = some pc ∧ pc.holds = true

/-- Another request, or a new one, leaves the holder where it is. -/
theorem Held.set (h : s.Held) {i : Nat} {pc pc' : RequestPc} (hi : s.requests[i]? = some pc)
    (hpc : pc.holds = true → pc'.holds = true) :
    ({ s with requests := s.requests.set i pc' } : Relay).Held := by
  intro j hj
  obtain ⟨pc₀, hpc₀, hholds⟩ := h j hj
  by_cases hij : i = j
  · subst hij
    cases hi.symm.trans hpc₀
    exact ⟨pc', getElem?_set_of_some hi, hpc hholds⟩
  · exact ⟨pc₀, (List.getElem?_set_ne hij).trans hpc₀, hholds⟩

/-- The holder of the mutex is where it holds it, in every run. -/
theorem held_of_reachable (h : relaySystem.ReachableBy C s) : s.Held := by
  refine h.invariant (I := Held) (fun i hi => by cases hi) ?_
  intro s a s' hr hheld _ hs
  rcases step_cases hs with hm | hl | hq
  · cases hm with
    | unlock n hm => exact nofun
    | relock hm hfree =>
      intro i hi
      cases hi
    | _ => exact hheld
  · cases hl <;> exact hheld
  · cases hq with
    | spawn =>
      intro i hi
      obtain ⟨pc, hpc, hholds⟩ := hheld i hi
      exact ⟨pc, getElem?_append_of_some hpc, hholds⟩
    | lock i hi hfree =>
      intro j hj
      cases hj
      exact ⟨.clone, getElem?_set_of_some hi, rfl⟩
    | clone i n hi hcontent => exact hheld.set hi fun _ => rfl
    | cloneFails i hi hcontent => exact nofun
    | unlock i n hi => exact nofun
    | finish i pc hi hpc =>
      refine hheld.set hi fun hholds => ?_
      rw [hpc] at hholds
      cases hholds

/-! ## At rest -/

section Rest

variable (hrest : s.AtRest)
include hrest

/-- No request holds the mutex: it would go on. -/
theorem AtRest.not_holds {i : Nat} {pc : RequestPc} (hi : s.requests[i]? = some pc) :
    pc.holds = false := by
  have hnone := hrest (.request i)
  simp only [isOwn, hi, step, requestStep] at hnone
  cases pc with
  | clone =>
    cases hcontent : s.content with
    | none =>
      rw [hcontent] at hnone
      cases hnone rfl
    | some n =>
      rw [hcontent] at hnone
      cases hnone rfl
  | unlock n => cases hnone rfl
  | _ => rfl

/-- The mutex is free where `manage_connection` does not hold it. -/
theorem AtRest.holder_eq_none (hslot : s.Slot) (hheld : s.Held) (hlocks : s.manager.locks = false) :
    s.holder = none := by
  cases hholder : s.holder with
  | none => rfl
  | some holder =>
    cases holder with
    | manageConnection =>
      rw [hslot.held.mp hholder] at hlocks
      cases hlocks
    | request i =>
      obtain ⟨pc, hi, hholds⟩ := hheld i hholder
      rw [hrest.not_holds hi] at hholds
      cases hholds

/-- `manage_connection` waits for a request when there is none, or for the end of a connection that
is open. -/
theorem AtRest.manager_cases (hslot : s.Slot) (hheld : s.Held) :
    s.manager = .waitReq ∧ s.requests.any RequestPc.alive = false ∨
      ∃ n, s.manager = .waitClose n ∧ s.conns[n]? ≠ some true := by
  have hnone : s.manageStep true = none := hrest (.manage true) rfl
  unfold manageStep at hnone
  cases hm : s.manager with
  | waitReq =>
    simp only [hm] at hnone
    split at hnone
    · cases hnone
    · rename_i halive
      exact Or.inl ⟨rfl, eq_false_of_ne_true halive⟩
  | waitClose n =>
    simp only [hm] at hnone
    split at hnone
    · cases hnone
    · rename_i hopen
      exact Or.inr ⟨n, rfl, hopen⟩
  | relock =>
    rw [hm] at hnone
    simp only [hrest.holder_eq_none hslot hheld (by rw [hm]; rfl)] at hnone
    cases hnone
  | panicked => exact absurd hm hslot.running
  | take n =>
    simp only [hm] at hnone
    split at hnone <;> cases hnone
  | _ =>
    rw [hm] at hnone
    cases hnone

/-- `listen_incoming` reads the connection that `manage_connection` waits for. -/
theorem AtRest.listener_eq (hi : s.Inv) {n : Nat} (hm : s.manager = .waitClose n)
    (hopen : s.conns[n]? ≠ some true) :
    s.listener = .serve n s.nextIncomingTx ∧ s.conns[n]? = some false := by
  have hlen : s.conns.length = n + 1 := hi.slot.current n (by rw [hm]; rfl)
  have hnone : s.isOwn .listen = true → s.listenStep = none := hrest .listen
  unfold isOwn listenStep at hnone
  cases hi.chain.phase with
  | closed m hconns hl hr hh =>
    have hm : m = n + 1 := by rw [← hlen, hconns, List.length_replicate]
    refine absurd ?_ hopen
    rw [hconns, hm, List.getElem?_replicate_of_lt (Nat.lt_succ_self n)]
  | established m hconns hl hr hh =>
    rw [hm] at hh
    cases hh
  | sent m k hconns hl hsent hr hh =>
    simp only [hl, hsent] at hnone
    cases hnone trivial
  | serving m hconns hl hr hh =>
    obtain rfl : m = n := by
      rw [hconns, length_lastOpen] at hlen
      omega
    rcases hl with hl | hl
    · exact ⟨hl, by rw [hconns, getElem?_lastOpen]⟩
    · simp only [hl] at hnone
      cases hnone trivial

end Rest

/-- How the client may stand at rest. -/
inductive Ready (s : Relay) : Prop where
  /-- There is no request, and `manage_connection` waits for one. -/
  | idle (hm : s.manager = .waitReq) (hrequests : ∀ pc ∈ s.requests, pc = .ended)
  /-- The latest connection is open and in the mutex, which is free, and the other two tasks are at
  it. -/
  | connected (n : Nat) (hm : s.manager = .waitClose n)
      (hl : s.listener = .serve n s.nextIncomingTx) (hcontent : s.content = some n)
      (hlatest : s.conns.length = n + 1) (hopen : s.conns[n]? = some false)
      (hfree : s.holder = none) (hrequests : ∀ pc ∈ s.requests, pc = .ended ∨ ∃ k, pc = .serve k)

/-- At rest every request has its connection or has ended. -/
theorem AtRest.ready (hrest : s.AtRest) (hi : s.Inv) (hheld : s.Held) : s.Ready := by
  -- what is alive and does not hold the mutex waits at it or is at work
  have hcases : ∀ pc ∈ s.requests, pc = .lock ∨ pc = .ended ∨ ∃ k, pc = .serve k := by
    intro pc hpc
    obtain ⟨i, hi'⟩ := List.mem_iff_getElem?.mp hpc
    have hholds := hrest.not_holds hi'
    cases pc with
    | lock => exact Or.inl rfl
    | ended => exact Or.inr (Or.inl rfl)
    | serve k => exact Or.inr (Or.inr ⟨k, rfl⟩)
    | panicked => exact absurd rfl (hi.exclusive i _ hi').1
    | clone => cases hholds
    | unlock n => cases hholds
  rcases hrest.manager_cases hi.slot hheld with ⟨hm, hnone⟩ | ⟨n, hm, hopen⟩
  · refine .idle hm fun pc hpc => ?_
    have hdead : pc.alive = false := by
      simpa using List.any_eq_false.mp hnone pc hpc
    rcases hcases pc hpc with rfl | rfl | ⟨k, rfl⟩
    · cases hdead
    · rfl
    · cases hdead
  · have hlocks : s.manager.locks = false := by rw [hm]; rfl
    have hfree := hrest.holder_eq_none hi.slot hheld hlocks
    obtain ⟨hl, hfalse⟩ := hrest.listener_eq hi hm hopen
    have hlen : s.conns.length = n + 1 := hi.slot.current n (by rw [hm]; rfl)
    obtain ⟨n', hcontent, hlen'⟩ := hi.slot.content_of_free (by rw [hfree]; exact nofun)
    obtain rfl : n' = n := by omega
    refine .connected n' hm hl hcontent hlen hfalse hfree fun pc hpc => ?_
    rcases hcases pc hpc with rfl | hrest'
    · obtain ⟨i, hi'⟩ := List.mem_iff_getElem?.mp hpc
      have hnone := hrest (.request i)
      simp only [isOwn, hi', step, requestStep, hfree] at hnone
      cases hnone trivial
    · exact hrest'

/-! ## How far they are from rest -/

/-- How far a request is from its connection. -/
def requestWeight : RequestPc → Nat
  | .lock => 3
  | .clone => 2
  | .unlock _ => 1
  | .serve _ | .ended | .panicked => 0

/-- How far `listen_incoming` is from reading a connection; it may first mark one closed, which
sends `manage_connection` once more around its loop. -/
def listenWeight : ListenIncomingPc → Nat
  | .receive _ => 1
  | .setClosed _ _ => 10
  | .serve _ _ | .panicked => 0

/-- How far `manage_connection` is from waiting for the end of an open connection. -/
def manageWeight (conns : List Bool) : ManagePc → Nat
  | .sleep | .relock => 8
  | .waitReq => 7
  | .connect => 6
  | .take _ => 5
  | .renew _ => 4
  | .handOff _ => 3
  | .unlock n => if conns[n]? = some true then 10 else 2
  | .waitClose n => if conns[n]? = some true then 9 else 1
  | .panicked => 0

/-- How far the three tasks are from rest. -/
def weight (s : Relay) : Nat :=
  manageWeight s.conns s.manager + listenWeight s.listener + total requestWeight s.requests

/-- A connection that is marked closed sends `manage_connection` around its loop at most once. -/
theorem manageWeight_set (conns : List Bool) (n : Nat) (pc : ManagePc) :
    manageWeight (conns.set n true) pc ≤ manageWeight conns pc + 8 := by
  cases pc with
  | unlock m =>
    simp only [manageWeight]
    split <;> split <;> omega
  | waitClose m =>
    simp only [manageWeight]
    split <;> split <;> omega
  | _ => exact Nat.le_add_right _ _

/-- A step of `manage_connection`, in which an attempt to connect succeeds. -/
theorem manage_weight_lt (hi : s.Inv) (hs : s.manageStep true = some s') :
    s'.weight < s.weight := by
  -- nothing else has a part in it
  have hlt : ∀ {conns : List Bool} {pc : ManagePc},
      manageWeight conns pc < manageWeight s.conns s.manager →
        manageWeight conns pc + listenWeight s.listener + total requestWeight s.requests <
          s.weight := by
    intro conns pc hlt
    simp only [weight]
    omega
  cases manageStep_cases hs with
  | connectFails hm =>
    simp only [manageStep, hm, if_true, Option.some.injEq] at hs
    cases congrArg Relay.manager hs
  | waitReq hm => exact hlt (by simp [hm, manageWeight])
  | connect hm => exact hlt (by simp [hm, manageWeight])
  | sleep hm => exact hlt (by simp [hm, manageWeight])
  | take n hm hguard => exact hlt (by simp [hm, manageWeight])
  | takeFails n hm hguard => exact hlt (by simp [hm, manageWeight])
  | renew n hm => exact hlt (by simp [hm, manageWeight])
  | handOff n hm =>
    -- what is handed over is open
    have hopen : s.conns[n]? ≠ some true := by
      have hlen : s.conns.length = n + 1 := hi.slot.current n (by rw [hm]; rfl)
      cases hi.chain.phase with
      | established m hconns hl hr hh =>
        obtain rfl : m = n := by
          rw [hconns, length_lastOpen] at hlen
          omega
        rw [hconns, getElem?_lastOpen]
        simp
      | closed m hconns hl hr hh =>
        rw [hm] at hh
        cases hh
      | sent m k hconns hl hsent hr hh =>
        rw [hm] at hh
        cases hh
      | serving m hconns hl hr hh =>
        rw [hm] at hh
        cases hh
    exact hlt (by simp [hm, manageWeight, hopen])
  | unlock n hm =>
    refine hlt ?_
    simp only [hm, manageWeight]
    split <;> omega
  | waitClose n hm hclosed => exact hlt (by simp [hm, manageWeight, hclosed])
  | relock hm hfree => exact hlt (by simp [hm, manageWeight])

/-- A step of `listen_incoming`, which does not lose its connection. -/
theorem listen_weight_lt (hown : s.isOwn .listen = true) (hs : s.listenStep = some s') :
    s'.weight < s.weight := by
  cases listenStep_cases hs with
  | receive k n k' hl hsent =>
    simp only [weight, hl, listenWeight]
    omega
  | receiveFails k hl hclosed =>
    simp only [weight, hl, listenWeight]
    omega
  | serve n k hl =>
    simp only [isOwn, hl] at hown
    cases hown
  | setClosed n k hl =>
    have hle := manageWeight_set s.conns n s.manager
    simp only [weight, hl, listenWeight]
    omega

/-- A step of a request, which is not at work yet. -/
theorem request_weight_lt {i : Nat} (hown : s.isOwn (.request i) = true)
    (hs : s.requestStep i = some s') : s'.weight < s.weight := by
  have hset : ∀ {pc : RequestPc} (pc' : RequestPc), s.requests[i]? = some pc →
      requestWeight pc' < requestWeight pc →
        total requestWeight (s.requests.set i pc') < total requestWeight s.requests := by
    intro pc pc' hi hlt
    have hset : total requestWeight (s.requests.set i pc') + requestWeight pc =
      total requestWeight s.requests + requestWeight pc' := total_set hi
    omega
  unfold requestStep at hs
  split at hs
  · rename_i hi
    split at hs
    · cases hs
      exact Nat.add_lt_add_left (hset .clone hi (by decide)) _
    · cases hs
  · rename_i hi
    split at hs
    · cases hs
      exact Nat.add_lt_add_left (hset _ hi (by simp [requestWeight])) _
    · cases hs
      exact Nat.add_lt_add_left (hset _ hi (by simp [requestWeight])) _
  · rename_i n hi
    cases hs
    exact Nat.add_lt_add_left (hset _ hi (by simp [requestWeight])) _
  · rename_i n hi
    simp only [isOwn, hi] at hown
    cases hown
  · cases hs

/-- **Every step of their own brings the three tasks closer to rest.** -/
theorem weight_lt (hi : s.Inv) (hown : s.isOwn a = true) (hs : s.step a = some s') :
    s'.weight < s.weight := by
  cases a with
  | spawn => cases hown
  | timeout i => cases hown
  | manage ok =>
    have hok : ok = true := hown
    subst hok
    exact manage_weight_lt hi hs
  | listen => exact listen_weight_lt hown hs
  | request i => exact request_weight_lt hown hs

/-- **No request waits for a connection that can be had.** Every poll of `IsClosed` and of `Wait` is
one step here, in which no wake-up is lost (`Closed` and `Register` take them apart). From every
reachable state of the client, whatever happened before (lost connections, failed attempts,
time-outs, requests at any point), every run of steps of its own is at most `weight` steps long, and
some run of such steps ends at rest; wherever such a run ends at rest, every request has got its
connection or ended, and there is no request at all or the latest connection is open, in the free
mutex, and read by `listen_incoming`. -/
theorem requests_served (s : Relay) (h : relaySystem.Reachable s) :
    (∀ acts s', relaySystem.runBy isOwn s acts = some s' →
      acts.length ≤ s.weight ∧ (s'.AtRest → s'.Ready)) ∧
    ∃ acts s', relaySystem.runBy isOwn s acts = some s' ∧ s'.AtRest := by
  have hstep : ∀ s a s', relaySystem.Reachable s → s.isOwn a = true →
      relaySystem.step s a = some s' → relaySystem.Reachable s' ∧ s'.weight < s.weight :=
    fun s a s' hr hown hs => ⟨.step hr trivial hs, weight_lt (inv_of_reachable hr) hown hs⟩
  refine ⟨fun acts s' hrun => ?_, ?_⟩
  · obtain ⟨hr', hle⟩ := System.length_le_of_runBy hstep h hrun
    refine ⟨?_, fun hrest => hrest.ready (inv_of_reachable hr') (held_of_reachable hr')⟩
    omega
  · obtain ⟨acts, s', hrun, -, hrest⟩ := System.exists_runBy_stuck hstep h
    exact ⟨acts, s', hrun, hrest⟩

/-- A client whose first connection is about to be marked closed while a second request waits: at
most 14 steps of its own are left. -/
theorem requests_served_second :
    ∃ s, relaySystem.Reachable s ∧ s.conns = [false] ∧ s.requests = [.serve 0, .lock] ∧
      (∀ acts s', relaySystem.runBy isOwn s acts = some s' →
        acts.length ≤ 14 ∧ (s'.AtRest → s'.Ready)) ∧
      ∃ acts s', relaySystem.runBy isOwn s acts = some s' ∧ s'.AtRest := by
  obtain ⟨s, hs, hp⟩ := System.exists_reachable_of_run relaySystem
    [.spawn, .manage true, .manage true, .manage true, .manage true, .manage true, .manage true,
      .request 0, .request 0, .request 0, .listen, .listen, .spawn]
    (fun s => decide (s.conns = [false] ∧ s.requests = [.serve 0, .lock] ∧ s.weight = 14))
    (by decide)
  obtain ⟨hconns, hrequests, hweight⟩ := of_decide_eq_true hp
  have hserved := requests_served s hs
  rw [hweight] at hserved
  exact ⟨s, hs, hconns, hrequests, hserved⟩

end Relay

end Tuic.Client
