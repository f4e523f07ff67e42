import Tuic.Client.Incoming
import Tuic.Transition.System

/-! # The session table and the live associations

The ids of associations are drawn at random, without a look at the session table
(`Request::new_associate`); an association is entered under its id over whatever is there, and its
end removes whatever is there. `Connection.TableFollows` says that every live association is found
under its own id. A step that enters an association keeps to it when no live association has the id,
and every other step keeps to it (`TableFollows.step`). -/

namespace Tuic.Client

open ByteCodec Transition

namespace Connection

/-- Every live association is found in the session table under its id. -/
def TableFollows (c : Connection) : Prop :=
  All (fun a assoc => assoc.isLive = true → c.udpSessions.lookup assoc.assocId = some a) c.assocs

/-- No live association has the id. -/
def isVacant (c : Connection) (assocId : UInt32) : Bool :=
  c.assocs.all fun assoc => !assoc.isLive || assoc.assocId ≠ assocId

variable {c c' : Connection}

theorem ne_of_isVacant {assocId : UInt32} (h : c.isVacant assocId = true) {a : Nat}
    {assoc : Association} (ha : c.assocs[a]? = some assoc) (hlive : assoc.isLive = true) :
    assoc.assocId ≠ assocId := by
  have hall := List.all_eq_true.mp h assoc (List.mem_of_getElem? ha)
  simpa [hlive] using hall

/-- Two live associations do not have the same id. -/
theorem TableFollows.eq_of_assocId (h : c.TableFollows) {a b : Nat} {x y : Association}
    (ha : c.assocs[a]? = some x) (hb : c.assocs[b]? = some y) (hx : x.isLive = true)
    (hy : y.isLive = true) (hid : x.assocId = y.assocId) : a = b := by
  have hlookup := h a x ha hx
  rw [hid, h b y hb hy] at hlookup
  cases hlookup
  rfl

/-- An association is entered under an id that no live association has. -/
theorem TableFollows.insert (h : c.TableFollows) {a : Nat} {assoc : Association}
    (hvacant : c.isVacant assoc.assocId = true) :
    ({ c.goto a assoc .recv with udpSessions := c.udpSessions.insert assoc.assocId a } :
      Connection).TableFollows := by
  refine All.set h (fun _ => AList.lookup_insert _) fun b other _ hb hother hlive => ?_
  have hne := ne_of_isVacant hvacant hb hlive
  show (c.udpSessions.insert assoc.assocId a).lookup other.assocId = some b
  rw [AList.lookup_insert_ne hne]
  exact hother hlive

/-- **The end of a live association leaves the entries of the others alone.** -/
theorem TableFollows.lookup_erase (h : c.TableFollows) {a b : Nat} {assoc other : Association}
    (ha : c.assocs[a]? = some assoc) (hlive : assoc.isLive = true)
    (hb : c.assocs[b]? = some other) (hother : other.isLive = true) (hne : b ≠ a) :
    (c.udpSessions.erase assoc.assocId).lookup other.assocId = some b := by
  have hid : other.assocId ≠ assoc.assocId := fun hid =>
    hne (h.eq_of_assocId hb ha hother hlive hid)
  rw [AList.lookup_erase_ne hid]
  exact h b other hb hother

/-- **Every step keeps the table to the live associations**, if no association is entered under the
id of a live one. -/
theorem TableFollows.step {b : Action} (h : c.TableFollows) (hs : c.Step b c')
    (hvacant : ∀ a assoc, b = .associate a .go → c.assocs[a]? = some assoc →
      assoc.pc = .insert → c.isVacant assoc.assocId = true) : c'.TableFollows := by
  cases hs with
  | request assocId => exact h.spawn nofun fun _ _ _ hold => hold
  | insert a assoc ha hpc => exact h.insert (hvacant a assoc rfl ha hpc)
  | gone a assoc ha hpc =>
    have hlive : assoc.isLive = true := by simp [Association.isLive, hpc]
    exact All.set h (fun _ => h a assoc ha hlive) fun _ _ _ _ hold => hold
  | dissociate a assoc ha hpc =>
    have hlive : assoc.isLive = true := by simp [Association.isLive, hpc]
    exact All.set h nofun fun d other hne hd _ hother => h.lookup_erase ha hlive hd hother hne
  | packet a assoc pkt addr fits ha hpc => exact h
  | heartbeat => exact h
  | send k outcome snd snd' hk hstep => exact h
  | close => exact h

end Connection

/-! ## Associations and incoming packets, in any interleaving -/

/-- A step of a client connection that gets packets from its server. -/
inductive SessionsAction where
  /-- Of the connection as far as it sends: requests, their tasks and the sending tasks. -/
  | client (a : Action)
  /-- A datagram or a stream comes in, with these bytes so far. -/
  | incoming (channel : Channel) (recv : RecvStream)
  /-- The server goes on with the stream of an incoming packet. -/
  | arrive (j : Nat) (ev : Server.StreamEvent)
  /-- Of the tasks of incoming packets, and of the applications that get them. -/
  | receive (a : ReceiveAction)

/-- A connection with any requests and any incoming packets, in any interleaving; every request may
draw any id. -/
def sessionsSystem (mode : UdpRelayMode) (tokenDigest : List.Vector UInt8 32) :
    System (Connection × Receiving) SessionsAction where
  init := (.new mode tokenDigest, .new)
  step s
    | .client a => (s.1.step a).map (·, s.2)
    | .incoming channel recv => some (s.1, s.2.spawn ⟨channel, recv, .parse⟩)
    | .arrive j ev =>
      match s.2.tasks[j]? with
      | none => none
      | some t => (t.recv.on ev).map fun recv =>
        (s.1, { s.2 with tasks := s.2.tasks.set j { t with recv := recv } })
    | .receive a => (s.2.step s.1.udpSessions a).map (s.1, ·)

/-- If the step enters an association into the session table, no live one has its id. -/
def SessionsAction.isVacant (c : Connection) : SessionsAction → Bool
  | .client (.associate a .go) =>
    match c.assocs[a]? with
    | some assoc => assoc.pc ≠ .insert ∨ c.isVacant assoc.assocId = true
    | none => true
  | .client (.associate _ (.recv _)) | .client (.request _) | .client .heartbeat
  | .client (.send _ _) | .client .close | .incoming _ _ | .arrive _ _ | .receive _ => true

namespace Connection

variable {mode : UdpRelayMode} {tokenDigest : List.Vector UInt8 32}
  {s s' : Connection × Receiving} {a : SessionsAction}

/-- A step that is not of the connection as far as it sends leaves that alone. -/
theorem sessionsStep_cases (h : (sessionsSystem mode tokenDigest).step s a = some s') :
    s'.1 = s.1 ∨ ∃ b, a = .client b ∧ s.1.Step b s'.1 := by
  cases a with
  | client b =>
    obtain ⟨c', hc, rfl⟩ := Option.map_eq_some_iff.mp h
    exact Or.inr ⟨b, rfl, step_cases hc⟩
  | incoming channel recv =>
    cases h
    exact Or.inl rfl
  | arrive j ev =>
    simp only [sessionsSystem] at h
    split at h
    · cases h
    obtain ⟨recv, -, rfl⟩ := Option.map_eq_some_iff.mp h
    exact Or.inl rfl
  | receive b =>
    obtain ⟨r', -, rfl⟩ := Option.map_eq_some_iff.mp h
    exact Or.inl rfl

/-- The table follows the live associations in every run in which no association is entered under
the id of a live one. -/
theorem tableFollows_of_reachable (h : (sessionsSystem mode tokenDigest).ReachableBy
    (fun s a => a.isVacant s.1 = true) s) : s.1.TableFollows := by
  refine h.invariant (I := fun s => s.1.TableFollows) All.nil ?_
  intro s a s' _ ih hvacant hstep
  rcases sessionsStep_cases hstep with heq | ⟨b, rfl, hs⟩
  · rw [heq]
    exact ih
  · refine ih.step hs fun i assoc hb hi hpc => ?_
    subst hb
    simpa [SessionsAction.isVacant, hi, hpc] using hvacant

/-- **The session table follows the live associations**, in every run in which no association is
entered under the id of a live one: each of them is found under its id, the end of one leaves the
entries of the others alone, and a packet for a live association goes to the channel of that
association. -/
theorem sessions_follow (mode : UdpRelayMode) (tokenDigest : List.Vector UInt8 32)
    (s : Connection × Receiving)
    (h : (sessionsSystem mode tokenDigest).ReachableBy (fun s a => a.isVacant s.1 = true) s) :
    (∀ (a : Nat) (assoc : Association), s.1.assocs[a]? = some assoc → assoc.isLive = true →
      s.1.udpSessions.lookup assoc.assocId = some a) ∧
    (∀ (b : Nat) (ending : Association) (c' : Connection), s.1.assocs[b]? = some ending →
      ending.pc = .remove → s.1.step (.associate b .go) = some c' →
      ∀ (a : Nat) (assoc : Association), a ≠ b → s.1.assocs[a]? = some assoc →
        assoc.isLive = true → c'.udpSessions.lookup assoc.assocId = some a) ∧
    ∀ (a : Nat) (assoc : Association), s.1.assocs[a]? = some assoc → assoc.isLive = true →
      ∀ (j : Nat) (t : Incoming) (pkt : Bytes) (addr : Address), s.2.tasks[j]? = some t →
        t.pc = .get (assoc.assocId, pkt, addr) →
        s.2.step s.1.udpSessions (.task j) = some (s.2.goto j t (.send a pkt addr)) := by
  have hfollows := tableFollows_of_reachable h
  refine ⟨hfollows, fun b ending c' hb hpc hstep a assoc hne ha hlive => ?_,
    fun a assoc ha hlive j t pkt addr hj hpc => ?_⟩
  · have hending : ending.isLive = true := by simp [Association.isLive, hpc]
    simp only [step, hb, processRequest, hpc] at hstep
    cases hstep
    exact hfollows.lookup_erase hb hending ha hlive hne
  · simp only [Receiving.step, hj, Receiving.processIncoming, hpc, hfollows a assoc ha hlive]

/-- The theorem with two associations, and a packet that is found to be for the first one. -/
theorem sessions_follow_two :
    ∃ s, (sessionsSystem .native ⟨List.replicate 32 0, rfl⟩).ReachableBy
        (fun s a => a.isVacant s.1 = true) s ∧
      s.1.assocs = [⟨7, .recv⟩, ⟨8, .recv⟩] ∧
      s.2.step s.1.udpSessions (.task 0) =
        some (s.2.goto 0 ⟨.datagram,
          ⟨[4, 2, 0, 0, 0, 7, 0, 1, 1, 127, 0, 0, 1, 0, 53, 9], 0, .finished⟩,
          .get (7, [9], .socketAddress (.v4 ⟨127, 0, 0, 1⟩ 53))⟩
          (.send 0 [9] (.socketAddress (.v4 ⟨127, 0, 0, 1⟩ 53)))) := by
  obtain ⟨s, hs, hp⟩ := System.exists_reachableBy_of_runBy
    (sessionsSystem .native ⟨List.replicate 32 0, rfl⟩) (fun s a => a.isVacant s.1)
    [.client (.request 7), .client (.request 8), .client (.associate 0 .go),
      .client (.associate 1 .go), .incoming .datagram
        ⟨[4, 2, 0, 0, 0, 7, 0, 1, 1, 127, 0, 0, 1, 0, 53, 9], 0, .finished⟩,
      .receive (.task 0)]
    (fun s => decide (s.1.assocs = [⟨7, .recv⟩, ⟨8, .recv⟩] ∧
      (s.2.tasks.map fun t => (t.channel, t.recv, t.pc)) = [(.datagram,
        ⟨[4, 2, 0, 0, 0, 7, 0, 1, 1, 127, 0, 0, 1, 0, 53, 9], 0, .finished⟩,
        .get (7, [9], .socketAddress (.v4 ⟨127, 0, 0, 1⟩ 53)))]))
    (by decide)
  obtain ⟨hassocs, htasks⟩ := of_decide_eq_true hp
  obtain ⟨t, ht, heq⟩ := List.map_eq_singleton_iff.mp htasks
  obtain ⟨channel, recv, pc⟩ := t
  cases heq
  exact ⟨s, hs, hassocs, (sessions_follow _ _ s hs).2.2 0 ⟨7, .recv⟩ (by rw [hassocs]; rfl) rfl 0 _
    _ _ (by rw [ht]; rfl) rfl⟩

/-- **Two associations with one id.** The second one takes the entry of the first, and when it ends
the first, which is still live, is in the table no more. -/
theorem sessions_collide :
    (∃ s, (sessionsSystem .native ⟨List.replicate 32 0, rfl⟩).Reachable s ∧
      s.1.assocs = [⟨7, .recv⟩, ⟨7, .recv⟩] ∧ s.1.udpSessions.lookup 7 = some 1) ∧
    ∃ s, (sessionsSystem .native ⟨List.replicate 32 0, rfl⟩).Reachable s ∧
      s.1.assocs = [⟨7, .recv⟩, ⟨7, .dissociate⟩] ∧ s.1.udpSessions.lookup 7 = none := by
  constructor
  · obtain ⟨s, hs, hp⟩ := System.exists_reachable_of_run
      (sessionsSystem .native ⟨List.replicate 32 0, rfl⟩)
      [.client (.request 7), .client (.request 7), .client (.associate 0 .go),
        .client (.associate 1 .go)]
      (fun s => decide (s.1.assocs = [⟨7, .recv⟩, ⟨7, .recv⟩] ∧
        s.1.udpSessions.lookup 7 = some 1))
      (by decide)
    exact ⟨s, hs, of_decide_eq_true hp⟩
  · obtain ⟨s, hs, hp⟩ := System.exists_reachable_of_run
      (sessionsSystem .native ⟨List.replicate 32 0, rfl⟩)
      [.client (.request 7), .client (.request 7), .client (.associate 0 .go),
        .client (.associate 1 .go), .client (.associate 1 (.recv none)),
        .client (.associate 1 .go)]
      (fun s => decide (s.1.assocs = [⟨7, .recv⟩, ⟨7, .dissociate⟩] ∧
        s.1.udpSessions.lookup 7 = none))
      (by decide)
    exact ⟨s, hs, of_decide_eq_true hp⟩

end Connection

end Tuic.Client
