import Tuic.Server.UdpSessions

/-! # Two properties of the session table

Both are properties the table is meant to have and has only while a certain kind of step is not
taken. For each, the kind of step is a decidable predicate on the state before the step; without
such steps the property holds in every state of every run, and from every state in which such a step
is taken the property can be lost.

* **Live entries** (`entriesLive_sharp`): the steps are failures of a session while some sender of
  its channel exists. Nothing removes the entry of a session that ended by an error, and `send`
  ignores that the channel is closed.
* **One socket per association** (`oneSocket_sharp`): the steps are lookups of an association while
  another call is between its own failed lookup and its insertion. `send` releases the lock
  there. -/

namespace Tuic.Server

open ByteCodec Transition

namespace UdpPool

variable {maxPktSize : Nat} {s s' : UdpPool} {a : UdpAction}

/-! ## Live entries -/

/-- A session fails, in `send_to` or `recv_from`, while some sender of its channel exists. -/
def failsUnderSender (s : UdpPool) : UdpAction → Bool
  | .session sid (.sendTo false) => s.hasSender sid
  | .session sid .recvFail => s.hasSender sid
  | _ => false

/-- Every entry of the table is a session of its association whose task runs. -/
def EntriesLive (s : UdpPool) : Prop :=
  ∀ id sid, s.udp.map.lookup id = some sid → s.SessionOf sid id ∧ s.Running sid

/-- No packet of a `send` that returned `Ok` was dropped for want of a session task. -/
def NoneLost (s : UdpPool) : Prop := ∀ p sid, .lost p sid ∉ s.udp.log

/-- A session that has just been created runs. -/
theorem running_of_created {u u' : Udp} {p : Packet} {sid : SessionId}
    (h : SendStep u (.create p) u' (.call (.insert p sid))) :
    ∃ ses, u'.sessions[sid]? = some ses ∧ ses.running = true := by
  cases h
  exact ⟨_, List.getElem?_concat_length, rfl⟩

/-- A sender exists only of a session that had one before or has just been created. -/
theorem Step.held (h : Step maxPktSize s a s') {sid : SessionId} (hs : s'.Held sid) :
    s.Held sid ∨ s'.Running sid := by
  -- a sender is in the table or in a call; only `UdpSession::new` makes one from nothing
  rcases hs with ⟨id, hmap⟩ | ⟨j, c, hj, hc⟩
  · rcases h.map_cases hmap with hmap | ⟨i, -, p, -, hi, -⟩
    · exact Or.inl (Or.inl ⟨id, hmap⟩)
    · exact Or.inl (Or.inr ⟨i, _, hi, rfl⟩)
  · rcases h.call_cases hj with hj | ⟨p, -, rfl⟩ | ⟨b, c₀, -, hj, hs⟩
    · exact Or.inl (Or.inr ⟨j, c, hj, hc⟩)
    · cases hc
    · obtain ⟨-, hold | hfound | ⟨p, rfl, rfl⟩⟩ := sender_of_sendStep hs hc
      · exact Or.inl (Or.inr ⟨j, c₀, hj, hold⟩)
      · exact Or.inl (Or.inl ⟨_, hfound⟩)
      · exact Or.inr (running_of_created hs)

/-- A step of a call ends no session. -/
theorem running_of_sendStep {u' : Udp} {calls : List (Option SendCall)} {c : SendCall}
    {n : SendNext} (h : SendStep s.udp c u' n) {sid : SessionId} (hs : s.Running sid) :
    Running ⟨u', calls⟩ sid := by
  obtain ⟨ses, hses, hrun⟩ := hs
  cases h with
  | create p =>
    refine ⟨ses, ?_, hrun⟩
    show (s.udp.sessions ++ _)[sid]? = some ses
    exact getElem?_append_of_some hses
  | queue p k ses' hk hrun' =>
    by_cases hsid : sid = k
    · subst hsid
      exact ⟨_, getElem?_set_of_some hk, hrun'⟩
    · refine ⟨ses, ?_, hrun⟩
      show (s.udp.sessions.set k _)[sid]? = some ses
      rw [List.getElem?_set_ne (Ne.symm hsid)]
      exact hses
  | hit p k hk => exact ⟨ses, hses, hrun⟩
  | miss p hk => exact ⟨ses, hses, hrun⟩
  | bindFails p => exact ⟨ses, hses, hrun⟩
  | insert p k => exact ⟨ses, hses, hrun⟩
  | lose p k ses' hk hrun' => exact ⟨ses, hses, hrun⟩

/-- A session with a sender keeps running, unless it fails. -/
theorem Step.running (h : Step maxPktSize s a s') (hok : s.failsUnderSender a = false)
    {sid : SessionId} (hheld : s.Held sid) (hs : s.Running sid) : s'.Running sid := by
  cases h with
  | step i b c u n hi hstep => exact running_of_sendStep hstep hs
  | session k st u hu =>
    obtain ⟨ses, ses', heff⟩ := sessionStep_spec hu
    by_cases hsid : sid = k
    · subst hsid
      refine ⟨ses', ?_, ?_⟩
      · show u.sessions[sid]? = some ses'
        rw [heff.sessions]
        exact getElem?_set_of_some heff.session
      · -- the three ways to end are ruled out: two by `hok`, one since a sender exists
        have hsender : s.hasSender sid = true := hasSender_iff.mpr hheld
        by_contra hdead
        rcases heff.ends (by simpa using hdead) with rfl | rfl | ⟨rfl, hnone⟩
        · rw [failsUnderSender, hsender] at hok
          cases hok
        · rw [failsUnderSender, hsender] at hok
          cases hok
        · rw [hsender] at hnone
          cases hnone
    · obtain ⟨x, hx, hxrun⟩ := hs
      refine ⟨x, ?_, hxrun⟩
      show u.sessions[sid]? = some x
      rw [heff.sessions, List.getElem?_set_ne (Ne.symm hsid)]
      exact hx
  | spawn => exact hs
  | call i p hi => exact hs
  | dissociate id => exact hs
  | receive x rest hx => exact hs
  | hangUp => exact hs
  | drop hcalls => exact hs

/-- A packet is lost only by a call whose session has ended. -/
theorem Step.lost (h : Step maxPktSize s a s') {p : Packet} {sid : SessionId}
    (hl : .lost p sid ∈ s'.udp.log) :
    .lost p sid ∈ s.udp.log ∨ s.Held sid ∧ ¬ s.Running sid := by
  cases h with
  | step i b c u n hi hstep =>
    cases hstep with
    | lose q k ses hk hrun =>
      rcases List.mem_cons.mp hl with heq | hl
      · cases heq
        refine Or.inr ⟨Or.inr ⟨i, _, hi, rfl⟩, ?_⟩
        rintro ⟨ses', hses', hrun'⟩
        rw [hk] at hses'
        cases hses'
        rw [hrun] at hrun'
        cases hrun'
      · exact Or.inl hl
    | hit q k hk => exact Or.inl hl
    | miss q hk => exact Or.inl hl
    | create q => exact Or.inl (by simpa using hl)
    | bindFails q => exact Or.inl hl
    | insert q k => exact Or.inl (by simpa using hl)
    | queue q k ses hk hrun => exact Or.inl (by simpa using hl)
  | session k st u hu =>
    obtain ⟨_, _, heff⟩ := sessionStep_spec hu
    refine Or.inl ?_
    rcases heff.log with hlog | ⟨_, _, hlog⟩ | ⟨_, _, hlog⟩ <;> simpa [hlog] using hl
  | dissociate id => exact Or.inl (by simpa using hl)
  | spawn => exact Or.inl hl
  | call i q hi => exact Or.inl hl
  | receive x rest hx => exact Or.inl hl
  | hangUp => exact Or.inl hl
  | drop hcalls => exact Or.inl hl

/-- Without failures under a sender, every session that has a sender runs, and nothing is lost. -/
theorem held_running {s : UdpPool}
    (h : (udpSystem maxPktSize).ReachableBy (fun s a => s.failsUnderSender a = false) s) :
    (∀ sid, s.Held sid → s.Running sid) ∧ s.NoneLost := by
  -- the two are one invariant: a packet is lost only to a session that is held and does not run
  refine h.invariant (I := fun s => (∀ sid, s.Held sid → s.Running sid) ∧ s.NoneLost) ⟨?_, ?_⟩ ?_
  · rintro sid (⟨id, hid⟩ | ⟨i, c, hi, -⟩)
    · cases hid
    · simp [udpSystem] at hi
  · intro p sid hl
    simp [udpSystem, Udp.new] at hl
  · rintro s a s' - ⟨hrun, hnone⟩ hok hstep
    have hcases := step_cases hstep
    refine ⟨fun sid hheld => ?_, fun p sid hl => ?_⟩
    · rcases hcases.held hheld with hold | hnew
      · exact hcases.running hok hold (hrun sid hold)
      · exact hnew
    · rcases hcases.lost hl with hold | ⟨hheld, hdead⟩
      · exact hnone p sid hold
      · exact hdead (hrun sid hheld)

/-- After a failure of a session, its task does not run. -/
theorem not_running_of_fails {sid : SessionId} {st : SessionStep} {u : Udp}
    (hst : st = .sendTo false ∨ st = .recvFail)
    (h : s.udp.sessionStep maxPktSize (s.hasSender sid) sid st = some u) :
    u.map = s.udp.map ∧ ∃ ses, u.sessions[sid]? = some ses ∧ ses.running = false := by
  obtain ⟨ses, ses', heff⟩ := sessionStep_spec h
  refine ⟨heff.map, ses', ?_, heff.fails hst⟩
  rw [heff.sessions]
  exact getElem?_set_of_some heff.session

/-- **Live entries, exactly.** In every run in which no session fails while some sender of its
channel exists, every entry of the table is live and no packet is lost, in every state. And from
every reachable state in which a session does so, one more step at most leads to a dead entry or a
lost packet. -/
theorem entriesLive_sharp (maxPktSize : Nat) :
    (∀ s, (udpSystem maxPktSize).ReachableBy (fun s a => s.failsUnderSender a = false) s →
      s.EntriesLive ∧ s.NoneLost) ∧
    (∀ s a s', (udpSystem maxPktSize).Reachable s → s.failsUnderSender a = true →
      (udpSystem maxPktSize).step s a = some s' →
      ∃ as s'', as.length ≤ 1 ∧ (udpSystem maxPktSize).run s' as = some s'' ∧
        ¬ (s''.EntriesLive ∧ s''.NoneLost)) := by
  constructor
  · intro s hs
    obtain ⟨hrun, hnone⟩ := held_running hs
    exact ⟨fun id sid hl => ⟨(wf_of_reachable hs).map id sid hl, hrun sid (Or.inl ⟨id, hl⟩)⟩, hnone⟩
  · intro s a s' _ hfail hstep
    -- the action is a failure of a session that has a sender
    obtain ⟨sid, st, hst, rfl, hsender⟩ : ∃ sid st, (st = .sendTo false ∨ st = .recvFail) ∧
        a = .session sid st ∧ s.hasSender sid = true := by
      unfold failsUnderSender at hfail
      split at hfail
      · exact ⟨_, _, Or.inl rfl, rfl, hfail⟩
      · exact ⟨_, _, Or.inr rfl, rfl, hfail⟩
      · cases hfail
    cases step_cases hstep with
    | session _ _ u hu =>
      obtain ⟨hmap, ses, hses, hdead⟩ := not_running_of_fails hst hu
      have hnot : ∀ calls, ¬ Running ⟨u, calls⟩ sid := by
        rintro calls ⟨x, hx, hxrun⟩
        rw [show u.sessions[sid]? = some x from hx] at hses
        cases hses
        rw [hdead] at hxrun
        cases hxrun
      -- the sender is in the table, or in a call that will insert it or push to it
      rcases hasSender_iff.mp hsender with ⟨id, hid⟩ | ⟨i, c, hi, hc⟩
      · refine ⟨[], _, Nat.zero_le 1, rfl, fun hlive => hnot s.calls (hlive.1 id sid ?_).2⟩
        rw [hmap]
        exact hid
      · cases c with
        | lookup p => cases hc
        | create p => cases hc
        | insert p k =>
          cases hc
          have hone : (udpSystem maxPktSize).step ⟨u, s.calls⟩ (.step i true) = some
              ⟨{ u with map := u.map.insert p.assocId sid }.emit (.inserted p.assocId sid),
                s.calls.set i (some (.push p sid))⟩ :=
            step_of_sendStep _ (s := ⟨u, s.calls⟩) hi rfl
          refine ⟨[.step i true], _, Nat.le_refl 1, System.run_singleton hone, fun hlive => ?_⟩
          obtain ⟨-, x, hx, hxrun⟩ := hlive.1 p.assocId sid (AList.lookup_insert _)
          exact hnot s.calls ⟨x, hx, hxrun⟩
        | push p k =>
          cases hc
          have hone : (udpSystem maxPktSize).step ⟨u, s.calls⟩ (.step i true) =
              some ⟨u.emit (.lost p sid), s.calls.set i none⟩ :=
            step_of_sendStep _ (s := ⟨u, s.calls⟩) (n := .returned true) hi
              (by simp [Udp.sendStep, hses, hdead])
          exact ⟨[.step i true], _, Nat.le_refl 1, System.run_singleton hone,
            fun hlive => hlive.2 p sid List.mem_cons_self⟩

/-- A packet to a name that does not resolve, and one more on the same association. -/
theorem not_entriesLive :
    ¬ ∀ s, (udpSystem 1500).Reachable s → s.EntriesLive ∧ s.NoneLost := by
  intro hall
  let p : Packet := ⟨7, [1], .domainAddress "name.invalid" 53⟩
  let q : Packet := ⟨7, [2], .socketAddress (.v4 ⟨9, 9, 9, 9⟩ 53)⟩
  obtain ⟨s, hs, hlost⟩ := System.exists_reachable_of_run (udpSystem 1500)
    [.spawn, .call 0 p, .step 0 true, .step 0 true, .step 0 true, .step 0 true,
      .session 0 .take, .session 0 (.sendTo false), .call 0 q, .step 0 true, .step 0 true]
    (fun s => decide (.lost q 0 ∈ s.udp.log)) (by decide)
  exact (hall s hs).2 q 0 (of_decide_eq_true hlost)

/-! ## One socket per association -/

/-- The step neither removes association `id` nor drops the table. -/
def keepsAssociation (id : UInt32) : UdpAction → Bool
  | .dissociate id' => id' != id
  | .drop => false
  | .spawn | .call _ _ | .step _ _ | .session _ _ | .receive | .hangUp => true

/-- The step ends the task of a session. -/
def endsSession : UdpAction → Bool
  | .session _ (.sendTo ok) => !ok
  | .session _ .recvFail | .session _ .disconnected => true
  | .session _ .take | .session _ (.recvFrom _ _) | .session _ .handOn => false
  | .spawn | .call _ _ | .step _ _ | .dissociate _ | .receive | .hangUp | .drop => false

/-- Task `i` is between its failed lookup of association `id` and its insertion. -/
def Creating (s : UdpPool) (id : UInt32) (i : Nat) : Prop :=
  ∃ c, s.calls[i]? = some (some c) ∧ c.creating = true ∧ c.packet.assocId = id

/-- Some task is between its failed lookup of association `id` and its insertion. -/
def someCreating (s : UdpPool) (id : UInt32) : Bool :=
  s.calls.any fun c =>
    match c with
    | some c => c.creating && c.packet.assocId == id
    | none => false

/-- A call looks association `id` up while another one is between its failed lookup of it and its
insertion. -/
def racingLookup (id : UInt32) (s : UdpPool) : UdpAction → Bool
  | .step i _ =>
    match s.calls[i]? with
    | some (some (.lookup p)) => p.assocId == id && s.someCreating id
    | _ => false
  | _ => false

/-- At most one socket was ever created for association `id`, and every packet of it that was handed
to a channel was handed to that of its socket. -/
def OneSocket (id : UInt32) (s : UdpPool) : Prop :=
  (∀ sid sid', s.SessionOf sid id → s.SessionOf sid' id → sid = sid') ∧
    ∀ p sid, .queued p sid ∈ s.udp.log ∨ .lost p sid ∈ s.udp.log → p.assocId = id →
      s.SessionOf sid id

variable {id : UInt32}

/-- `someCreating` decides whether there is such a task. -/
theorem someCreating_iff : s.someCreating id = true ↔ ∃ i, s.Creating id i := by
  simp only [someCreating, List.any_eq_true]
  constructor
  · rintro ⟨c, hc, hcr⟩
    obtain ⟨i, hi⟩ := List.mem_iff_getElem?.mp hc
    cases c with
    | none => cases hcr
    | some c => exact ⟨i, c, hi, by simpa using hcr⟩
  · rintro ⟨i, c, hi, hcr⟩
    exact ⟨some c, List.mem_iff_getElem?.mpr ⟨i, hi⟩, by simpa using hcr⟩

/-- A task begins to create a session by a lookup that finds none. -/
theorem Step.creating (h : Step maxPktSize s a s') {i : Nat} (hi : s'.Creating id i) :
    s.Creating id i ∨ ∃ b p, a = .step i b ∧ s.calls[i]? = some (some (.lookup p)) ∧
      p.assocId = id ∧ s.udp.map.lookup id = none := by
  obtain ⟨c, hc, hcr, hid⟩ := hi
  rcases h.call_cases hc with hc | ⟨p, -, rfl⟩ | ⟨b, c₀, ha, hc₀, hs⟩
  · exact Or.inl ⟨c, hc, hcr, hid⟩
  · cases hcr
  · generalize s'.udp = u' at hs
    cases hs with
    | hit p sid hmap => cases hcr
    | miss p hmap => exact Or.inr ⟨b, p, ha, hc₀, hid, hid ▸ hmap⟩
    | create p => exact Or.inl ⟨_, hc₀, rfl, hid⟩
    | insert p sid => cases hcr

/-- An entry stays unless it is removed or replaced by an insertion. -/
theorem Step.map_keep (h : Step maxPktSize s a s') (hkeep : keepsAssociation id a = true)
    {sid : SessionId} (hl : s.udp.map.lookup id = some sid) :
    s'.udp.map.lookup id = some sid ∨ ∃ i, s.Creating id i := by
  cases h with
  | step i b c u n hi hs =>
    rcases table_of_sendStep hs with hmap | ⟨p, k, rfl, hmap⟩
    · exact Or.inl ((congrArg (AList.lookup id) hmap).trans hl)
    -- an insertion of the same association may replace the entry, but then its call was creating
    · by_cases hid : id = p.assocId
      · exact Or.inr ⟨i, _, hi, rfl, hid.symm⟩
      · refine Or.inl ((congrArg (AList.lookup id) hmap).trans ?_)
        rw [AList.lookup_insert_ne hid, hl]
  | dissociate id' =>
    refine Or.inl ?_
    rw [Udp.dissociate_map, AList.lookup_erase_ne]
    · exact hl
    · rintro rfl
      simp [keepsAssociation] at hkeep
  | session k st u hu =>
    obtain ⟨_, _, heff⟩ := sessionStep_spec hu
    exact Or.inl (heff.map.symm ▸ hl)
  | drop hcalls => cases hkeep
  | spawn => exact Or.inl hl
  | call i p hi => exact Or.inl hl
  | receive x rest hx => exact Or.inl hl
  | hangUp => exact Or.inl hl

/-- What holds of association `id` as long as no lookup of it races. -/
structure Single (id : UInt32) (s : UdpPool) : Prop where
  /-- At most one task is creating a session. -/
  creator : ∀ {i j : Nat}, s.Creating id i → s.Creating id j → i = j
  /-- While one is, there is no entry. -/
  absent : ∀ {i : Nat}, s.Creating id i → s.udp.map.lookup id = none
  /-- A session is in the table or about to be inserted. -/
  session : ∀ {sid : SessionId}, s.SessionOf sid id → s.udp.map.lookup id = some sid ∨
    ∃ (i : Nat) (p : Packet), s.calls[i]? = some (some (.insert p sid)) ∧ p.assocId = id

namespace Single

/-- There is at most one session. -/
theorem unique (h : Single id s) {sid sid' : SessionId} (hs : s.SessionOf sid id)
    (hs' : s.SessionOf sid' id) : sid = sid' := by
  rcases h.session hs with hmap | ⟨i, p, hi, hp⟩
  · rcases h.session hs' with hmap' | ⟨j, q, hj, hq⟩
    · exact Option.some.inj (hmap.symm.trans hmap')
    · rw [h.absent ⟨_, hj, rfl, hq⟩] at hmap
      cases hmap
  · rcases h.session hs' with hmap' | ⟨j, q, hj, hq⟩
    · rw [h.absent ⟨_, hi, rfl, hp⟩] at hmap'
      cases hmap'
    · obtain rfl := h.creator ⟨_, hi, rfl, hp⟩ ⟨_, hj, rfl, hq⟩
      rw [hi] at hj
      cases hj
      rfl

/-- A lookup that races with no other call finds nobody creating a session. -/
theorem not_creating_of_lookup {i j : Nat} {b : Bool} {p : Packet}
    (hi : s.calls[i]? = some (some (.lookup p))) (hp : p.assocId = id)
    (hrace : racingLookup id s (.step i b) = false) : ¬ s.Creating id j := by
  intro hj
  rw [racingLookup, hi] at hrace
  simp [hp, someCreating_iff.mpr ⟨j, hj⟩] at hrace

/-- The step lemma: no racing lookup, and the association is kept. -/
theorem step (h : Single id s) (hs : Step maxPktSize s a s') (hkeep : keepsAssociation id a = true)
    (hrace : racingLookup id s a = false) : Single id s' := by
  constructor
  -- one creator: a second one would have begun by a racing lookup
  · intro i j hi hj
    rcases hs.creating hi with hi | ⟨b, p, rfl, hci, hp, -⟩
    · rcases hs.creating hj with hj | ⟨b, p, rfl, hcj, hp, -⟩
      · exact h.creator hi hj
      · exact absurd hi (not_creating_of_lookup hcj hp hrace)
    · rcases hs.creating hj with hj | ⟨b', q, ha, -⟩
      · exact absurd hj (not_creating_of_lookup hci hp hrace)
      · cases ha
        rfl
  -- no entry: one that is there now was inserted by this very step
  · intro i hi
    by_contra hsome
    obtain ⟨sid, hsid⟩ := Option.ne_none_iff_exists'.mp hsome
    rcases hs.map_cases hsid with hold | ⟨k, b, p, rfl, hk, hp, hk'⟩
    · have hnone : s.udp.map.lookup id = none := by
        rcases hs.creating hi with hi | ⟨-, -, -, -, -, hnone⟩
        exacts [h.absent hi, hnone]
      rw [hnone] at hold
      cases hold
    · -- the call that inserted was the only one creating, and it is past that now
      rcases hs.creating hi with hi' | ⟨b', q, ha, hci, -⟩
      · obtain rfl := h.creator hi' ⟨_, hk, rfl, hp⟩
        obtain ⟨c, hc, hcr, -⟩ := hi
        rw [hk'] at hc
        cases hc
        cases hcr
      · cases ha
        rw [hk] at hci
        cases hci
  -- a session stays where it was, goes from its call to the table, or is new
  · intro sid hsid
    rcases (hs.sessionOf_iff sid id).mp hsid with hold | ⟨i, b, p, -, -, hp, hi⟩
    · rcases h.session hold with hmap | ⟨i, p, hi, hp⟩
      · rcases hs.map_keep hkeep hmap with hmap' | ⟨i, hi⟩
        · exact Or.inl hmap'
        · rw [h.absent hi] at hmap
          cases hmap
      · rcases hs.call_keep hi with hi' | ⟨b, n, -, hins, -⟩
        · exact Or.inr ⟨i, p, hi', hp⟩
        · refine Or.inl ?_
          generalize s'.udp = u' at hins
          cases hins
          rw [← hp]
          exact AList.lookup_insert _
    · exact Or.inr ⟨i, p, hi, hp⟩

end Single

/-- Without racing lookups the association has one session at most. -/
theorem single_of_reachable
    (h : (udpSystem maxPktSize).ReachableBy
      (fun s a => keepsAssociation id a = true ∧ racingLookup id s a = false) s) :
    Single id s := by
  refine h.invariant (I := Single id) ⟨?_, ?_, ?_⟩ fun s a s' _ hI hc hstep =>
    hI.step (step_cases hstep) hc.1 hc.2
  · rintro i j ⟨c, hc, -⟩
    simp [udpSystem] at hc
  · rintro i ⟨c, hc, -⟩
    simp [udpSystem] at hc
  · rintro sid ⟨ses, hses, -⟩
    simp [udpSystem, Udp.new] at hses

/-- A call that found no session creates one, whoever else has done so by now. -/
theorem create_step (maxPktSize : Nat) {i : Nat} {p : Packet}
    (hi : s.calls[i]? = some (some (.create p))) :
    ∃ s', (udpSystem maxPktSize).step s (.step i true) = some s' ∧
      s'.SessionOf s.udp.sessions.length p.assocId ∧
      (∀ sid id, s.SessionOf sid id → s'.SessionOf sid id) ∧
      ∀ j c, j ≠ i → s.calls[j]? = some (some c) → s'.calls[j]? = some (some c) := by
  have hstep := step_of_sendStep maxPktSize (b := true) hi rfl
  have hcases := step_cases hstep
  exact ⟨_, hstep, (hcases.sessionOf_iff _ _).mpr
      (Or.inr ⟨i, true, p, rfl, hi, rfl, calls_set_self hi⟩),
    fun sid id h => (hcases.sessionOf_iff sid id).mpr (Or.inl h),
    fun j c hne hj => calls_set_of_ne hne hj⟩

/-- A call about to create a session for an association that has one makes it two. -/
theorem two_sockets (maxPktSize : Nat) {i : Nat} {p : Packet} {sid : SessionId}
    (hi : s.calls[i]? = some (some (.create p))) (hsid : s.SessionOf sid p.assocId) :
    ∃ s', (udpSystem maxPktSize).step s (.step i true) = some s' ∧ ¬ OneSocket p.assocId s' := by
  obtain ⟨s', hstep, hnew, hold, -⟩ := create_step maxPktSize hi
  refine ⟨s', hstep, fun hone => ?_⟩
  have heq := hone.1 _ _ (hold sid _ hsid) hnew
  obtain ⟨ses, hses, -⟩ := hsid
  exact absurd heq (Nat.ne_of_lt (List.getElem?_eq_some_iff.mp hses).1)

/-- **One socket per association, exactly.** As long as association `id` is not dissociated: in
every run in which no call looks it up while another one is between its own failed lookup and its
insertion, at most one socket is created for it and every packet goes to that socket's channel. And
the first lookup that races with another call can always be continued, by steps of the two calls
only, to a state with two sockets. -/
theorem oneSocket_sharp (maxPktSize : Nat) (id : UInt32) :
    (∀ s, (udpSystem maxPktSize).ReachableBy
        (fun s a => keepsAssociation id a = true ∧ racingLookup id s a = false) s →
      OneSocket id s) ∧
    (∀ s a s', (udpSystem maxPktSize).ReachableBy
        (fun s a => keepsAssociation id a = true ∧ racingLookup id s a = false) s →
      racingLookup id s a = true → (udpSystem maxPktSize).step s a = some s' →
      ∃ as s'', (udpSystem maxPktSize).run s' as = some s'' ∧ (∀ b ∈ as, ∃ i, b = .step i true) ∧
        ¬ OneSocket id s'') := by
  constructor
  · intro s hs
    exact ⟨fun sid sid' h h' => (single_of_reachable hs).unique h h',
      fun p sid hl hp => hp ▸ (wf_of_reachable hs).log p sid hl⟩
  · intro s a s' hs hrace hstep
    have hI : Single id s := single_of_reachable hs
    have hwf := wf_of_reachable hs
    unfold racingLookup at hrace
    split at hrace
    · rename_i i b
      split at hrace
      · rename_i p hi
        rw [Bool.and_eq_true, beq_iff_eq, someCreating_iff] at hrace
        obtain ⟨rfl, j, hj⟩ := hrace
        have hnone := hI.absent hj
        obtain ⟨c, hc, hcr, hcid⟩ := hj
        have hji : j ≠ i := by
          rintro rfl
          rw [hi] at hc
          cases hc
          cases hcr
        -- the racing lookup misses, and both calls will create a session
        have hs' : s' = ⟨s.udp, s.calls.set i (some (.create p))⟩ := by
          have hmiss := step_of_sendStep maxPktSize (b := b) (u := s.udp)
            (n := .call (.create p)) hi (by simp [Udp.sendStep, hnone])
          rw [hmiss] at hstep
          exact (Option.some.inj hstep).symm
        have hi' : s'.calls[i]? = some (some (.create p)) := hs' ▸ calls_set_self hi
        have hc' : s'.calls[j]? = some (some c) := hs' ▸ calls_set_of_ne hji hc
        -- the other call has yet to create its session, or has created it and not inserted it
        cases c with
        | lookup q => cases hcr
        | push q sid => cases hcr
        | create q =>
          obtain ⟨s₁, h₁, hnew, -, hothers⟩ := create_step maxPktSize hc'
          have hq : q.assocId = p.assocId := hcid
          obtain ⟨s₂, h₂, htwo⟩ := two_sockets maxPktSize
            (hothers i _ (Ne.symm hji) hi') (hq ▸ hnew)
          exact ⟨[.step j true, .step i true], s₂, by simp [System.run, h₁, h₂], by simp, htwo⟩
        | insert q sid =>
          have hq : q.assocId = p.assocId := hcid
          have hsid : s'.SessionOf sid p.assocId := hs' ▸ hq ▸ hwf.calls j _ sid hc rfl
          obtain ⟨s₁, h₁, htwo⟩ := two_sockets maxPktSize hi' hsid
          exact ⟨[.step i true], s₁, System.run_singleton h₁, by simp, htwo⟩
      · cases hrace
    · cases hrace

/-- Two first packets of an association, both looked up before either session is inserted. Nothing
is dissociated, and no session ends. -/
theorem not_oneSocket :
    ¬ ∀ s, (udpSystem 1500).ReachableBy
        (fun _ a => (keepsAssociation 7 a && !endsSession a) = true) s → OneSocket 7 s := by
  intro hall
  let p : Packet := ⟨7, [1], .socketAddress (.v4 ⟨9, 9, 9, 9⟩ 53)⟩
  have hrun : ((udpSystem 1500).runBy (fun _ a => keepsAssociation 7 a && !endsSession a)
      (udpSystem 1500).init [.spawn, .spawn, .call 0 p, .call 1 p, .step 0 true, .step 1 true,
        .step 0 true, .step 1 true]).isSome = true := by decide
  obtain ⟨s, hs⟩ := Option.isSome_iff_exists.mp hrun
  have hone := hall s (System.ReachableBy.init.runBy hs)
  cases hs
  exact absurd (hone.1 0 1 ⟨_, rfl, rfl⟩ ⟨_, rfl, rfl⟩) (by decide)

end UdpPool

end Tuic.Server
