import Tuic.Client.Applications

/-! # The life of an association

An association is two tasks on the client, the handler of the application and the request in the
relay, which know of each other only by the ends of two channels. This file says what holds of the
two in every run: every association is that of one handler (`Owned`), a channel is open as long as
its handler has its end (`Channelled`), and between them no packet is lost, doubled or put out of
order in either direction.

What holds of the connection alone is proved for `sessionsSystem` first: an entry of the session
table is of a live association, an association that has ended has sent its `Dissociate`, and the
tasks of incoming packets have the senders of associations only. -/

namespace Tuic.Client

open ByteCodec Transition

/-! ## The connection -/

/-- A sending task keeps its frame. -/
theorem Send.frame_eq {closed : Bool} {snd snd' : Send} {outcome : SendOutcome}
    (h : snd.step closed outcome = some snd') : snd'.frame = snd.frame := by
  unfold Send.step at h
  split at h
  all_goals try split at h
  all_goals cases h
  all_goals rfl

namespace Connection

variable {c c' : Connection} {b : Action}

/-- The frames of the sending tasks, in the order in which the tasks were spawned. -/
def frames (c : Connection) : List Frame := c.sends.map Send.frame

/-- A new sending task has a new frame. -/
theorem frames_spawn (c : Connection) (f : Frame) : (c.spawn f).frames = c.frames ++ [f] :=
  List.map_append

/-- A step of a sending task leaves the frames alone. -/
theorem frames_set {k : Nat} {snd snd' : Send} {outcome : SendOutcome}
    (hk : c.sends[k]? = some snd) (h : snd.step c.closed outcome = some snd') :
    (c.sends.set k snd').map Send.frame = c.frames := by
  rw [List.map_set, Send.frame_eq h, frames]
  refine List.ext_getElem? fun j => ?_
  by_cases hj : k = j
  · subst hj
    have hmap : (c.sends.map Send.frame)[k]? = some snd.frame := by
      rw [List.getElem?_map, hk]
      rfl
    rw [getElem?_set_of_some hmap, hmap]
  · rw [List.getElem?_set_ne hj]

/-- The packet in a frame for association id `assocId`. -/
def packetOf (assocId : UInt32) : Frame → Option Socks5.Outbound
  | .packet _ id pkt addr fits => if id = assocId then some ⟨(pkt, addr), fits⟩ else none
  | .dissociate _ | .token _ | .heartbeat => none

/-- The packets handed to sending tasks under association id `assocId`, in that order. -/
def packetsOf (c : Connection) (assocId : UInt32) : List Socks5.Outbound :=
  c.frames.filterMap (packetOf assocId)

/-- A new sending task may have a packet. -/
theorem packetsOf_spawn (c : Connection) (f : Frame) (assocId : UInt32) :
    (c.spawn f).packetsOf assocId = c.packetsOf assocId ++ (packetOf assocId f).toList := by
  rw [packetsOf, frames_spawn, List.filterMap_append]
  rfl

/-- What a step does to the packets that were handed over: nothing, or an association hands one
more over under its id. -/
theorem Step.packetsOf_cases (hs : c.Step b c') :
    (∀ assocId, c'.packetsOf assocId = c.packetsOf assocId) ∧
        (∀ a m, b ≠ .associate a (.recv (some m))) ∨
      ∃ (a : Nat) (assoc : Association) (m : Socks5.Outbound),
        b = .associate a (.recv (some m.1)) ∧ c.assocs[a]? = some assoc ∧ assoc.pc = .recv ∧
        ∀ assocId, c'.packetsOf assocId =
          c.packetsOf assocId ++ if assoc.assocId = assocId then [m] else [] := by
  cases hs with
  | request assocId => exact Or.inl ⟨fun _ => rfl, fun _ _ heq => by cases heq⟩
  | insert a assoc ha hpc => exact Or.inl ⟨fun _ => rfl, fun _ _ heq => by cases heq⟩
  | gone a assoc ha hpc => exact Or.inl ⟨fun _ => rfl, fun _ _ heq => by cases heq⟩
  | packet a assoc pkt addr fits ha hpc =>
    refine Or.inr ⟨a, assoc, ⟨(pkt, addr), fits⟩, rfl, ha, hpc, fun assocId => ?_⟩
    rw [packetsOf_spawn]
    congr 1
    simp only [packetOf]
    split <;> rfl
  | dissociate a assoc ha hpc =>
    exact Or.inl ⟨fun _ => (packetsOf_spawn _ _ _).trans (List.append_nil _),
      fun _ _ heq => by cases heq⟩
  | heartbeat =>
    exact Or.inl ⟨fun _ => (packetsOf_spawn _ _ _).trans (List.append_nil _),
      fun _ _ heq => by cases heq⟩
  | send k outcome snd snd' hk hstep =>
    refine Or.inl ⟨fun assocId => ?_, fun _ _ heq => by cases heq⟩
    exact congrArg (List.filterMap (packetOf assocId)) (frames_set hk hstep)
  | close => exact Or.inl ⟨fun _ => rfl, fun _ _ heq => by cases heq⟩

/-- **The table and the ends of associations.** -/
structure Tabled (c : Connection) : Prop where
  /-- An entry of the session table is of a live association, under its id. -/
  entry : c.EntriesLive
  /-- The `Dissociate` of an association that has ended is with a sending task. -/
  ended : All (fun _ assoc => assoc.pc = .dissociate → .dissociate assoc.assocId ∈ c.frames)
    c.assocs

/-- Every step keeps the table and the ends of associations. -/
theorem Tabled.step (h : c.Tabled) (hs : c.Step b c') : c'.Tabled := by
  refine ⟨h.entry.step hs, ?_⟩
  -- what was with a sending task stays with it
  have hspawn : ∀ (f : Frame) {assoc : Association},
      (assoc.pc = .dissociate → .dissociate assoc.assocId ∈ c.frames) →
        assoc.pc = .dissociate → .dissociate assoc.assocId ∈ (c.spawn f).frames := by
    intro f assoc hold hend
    rw [frames_spawn]
    exact List.mem_append_left _ (hold hend)
  cases hs with
  | request assocId => exact h.ended.spawn (fun hpc => by cases hpc) fun _ _ _ hold => hold
  | insert a assoc ha hpc =>
    exact h.ended.set (fun heq => by cases heq) fun _ _ _ _ hold => hold
  | gone a assoc ha hpc => exact h.ended.set (fun heq => by cases heq) fun _ _ _ _ hold => hold
  | packet a assoc pkt addr fits ha hpc => exact h.ended.mono fun _ _ _ hold => hspawn _ hold
  | heartbeat => exact h.ended.mono fun _ _ _ hold => hspawn _ hold
  | dissociate a assoc ha hpc =>
    refine h.ended.set (fun _ => ?_) fun _ _ _ _ hold => hspawn _ hold
    rw [frames_spawn]
    exact List.mem_append_right _ (List.mem_singleton_self _)
  | send k outcome snd snd' hk hstep =>
    refine h.ended.mono fun _ _ _ hold hend => ?_
    have hframes : ({ c with sends := c.sends.set k snd' } : Connection).frames = c.frames :=
      frames_set hk hstep
    rw [hframes]
    exact hold hend
  | close => exact h.ended

/-- No association is forgotten. -/
theorem Step.assocs_length_le (hs : c.Step b c') : c.assocs.length ≤ c'.assocs.length := by
  cases hs with
  | request assocId => simp
  | insert a assoc ha hpc => simp [goto]
  | gone a assoc ha hpc => simp [goto]
  | dissociate a assoc ha hpc => simp [goto, spawn]
  | _ => exact Nat.le_refl _

end Connection

/-- The sender that the task of an incoming packet has is of an association. -/
def Incoming.Bounded (n : Nat) (t : Incoming) : Prop :=
  ∀ a pkt addr, t.pc = .send a pkt addr → a < n

/-- What a task finds in the session table is an association. -/
theorem Receiving.Step.bounded {r r' : Receiving} {c : Connection} (hc : c.Tabled)
    (h : All (fun _ t => t.Bounded c.assocs.length) r.tasks) (hs : r.Step c.udpSessions r') :
    All (fun _ t => t.Bounded c.assocs.length) r'.tasks := by
  have hother : ∀ {j : Nat} {t : Incoming} {pc : IncomingPc},
      (∀ a pkt addr, pc = .send a pkt addr → a < c.assocs.length) →
        All (fun _ t => t.Bounded c.assocs.length) (r.goto j t pc).tasks :=
    fun hpc => h.set hpc fun _ _ _ _ hold => hold
  cases hs with
  | parses j t res hj hpc hparse => exact hother nofun
  | unreadable j t err hj hpc hparse => exact hother nofun
  | panics j t hj hpc hparse => exact hother nofun
  | found j t assocId a pkt addr hj hpc ha =>
    refine hother fun a' pkt' addr' heq => ?_
    cases heq
    obtain ⟨assoc, hassoc, -⟩ := hc.entry assocId a ha
    exact (List.getElem?_eq_some_iff.mp hassoc).1
  | delivers j t a pkt addr hj hpc => exact hother nofun
  | drops j t hj hpc => exact hother nofun
  | application inbox => exact h

/-- **The connection, in every run**: its table, the ends of its associations, and the senders of
its incoming packets. -/
theorem Connection.tabled_of_reachable {mode : UdpRelayMode}
    {tokenDigest : List.Vector UInt8 32} {s : Connection × Receiving}
    (h : (sessionsSystem mode tokenDigest).Reachable s) :
    s.1.Tabled ∧ All (fun _ t => t.Bounded s.1.assocs.length) s.2.tasks := by
  refine h.invariant (I := fun s => s.1.Tabled ∧
    All (fun _ t => t.Bounded s.1.assocs.length) s.2.tasks) ⟨⟨nofun, All.nil⟩, All.nil⟩ ?_
  rintro s a s' - ⟨htable, hbound⟩ - hs
  cases a with
  | client b =>
    obtain ⟨c, hc, rfl⟩ := Option.map_eq_some_iff.mp hs
    have hstep := Connection.step_cases hc
    exact ⟨htable.step hstep, hbound.mono fun _ _ _ hold a pkt addr hpc =>
      (hold a pkt addr hpc).trans_le hstep.assocs_length_le⟩
  | incoming channel recv =>
    cases hs
    exact ⟨htable, hbound.spawn nofun fun _ _ _ hold => hold⟩
  | arrive j ev =>
    simp only [sessionsSystem] at hs
    split at hs
    · cases hs
    · rename_i t hj
      obtain ⟨recv, -, rfl⟩ := Option.map_eq_some_iff.mp hs
      exact ⟨htable, hbound.set (hbound j t hj) fun _ _ _ _ hold => hold⟩
  | receive b =>
    obtain ⟨r, hr, rfl⟩ := Option.map_eq_some_iff.mp hs
    exact ⟨htable, (Receiving.step_cases hr).bounded htable hbound⟩

/-- How far the task of an incoming packet is from its end. A packet in the receive channel counts
two more, until it is sent to the application. -/
def IncomingPc.weight : IncomingPc → Nat
  | .parse => 5
  | .get _ => 4
  | .send _ _ _ => 3
  | .done | .failed _ | .panicked => 0

/-- The task of an incoming packet comes closer to its end, and may put its packet into a receive
channel. -/
theorem Receiving.task_cases {r r' : Receiving} {udpSessions : AList fun _ : UInt32 => Nat}
    {b : ReceiveAction} (hb : (∃ j, b = .task j) ∨ ∃ j err, b = .fail j err)
    (h : r.step udpSessions b = some r') :
    ∃ (j : Nat) (t : Incoming), r.tasks[j]? = some t ∧
      ((∃ pc : IncomingPc, pc.weight < t.pc.weight ∧ r' = r.goto j t pc) ∨
        ∃ a pkt addr, t.pc = .send a pkt addr ∧ r' = (r.goto j t .done).push a pkt addr) := by
  have hgoto : ∀ {j : Nat} {t : Incoming} {pc pc' : IncomingPc}, r.tasks[j]? = some t →
      t.pc = pc → pc'.weight < pc.weight → ∃ (j' : Nat) (t' : Incoming), r.tasks[j']? = some t' ∧
        ((∃ pc₁ : IncomingPc, pc₁.weight < t'.pc.weight ∧ r.goto j t pc' = r.goto j' t' pc₁) ∨
          ∃ a pkt addr, t'.pc = .send a pkt addr ∧
            r.goto j t pc' = (r.goto j' t' .done).push a pkt addr) := by
    rintro j t pc pc' hj rfl hlt
    exact ⟨j, t, hj, Or.inl ⟨pc', hlt, rfl⟩⟩
  rcases hb with ⟨j, rfl⟩ | ⟨j, err, rfl⟩
  · simp only [Receiving.step] at h
    split at h
    · cases h
    · rename_i t hj
      unfold processIncoming at h
      split at h
      · rename_i hpc
        split at h
        · cases h
          exact hgoto hj hpc (by simp [IncomingPc.weight])
        · split at h
          · cases h
          · cases h
            exact hgoto hj hpc (by simp [IncomingPc.weight])
        · cases h
          exact hgoto hj hpc (by simp [IncomingPc.weight])
      · rename_i hpc
        split at h
        · cases h
          exact hgoto hj hpc (by simp [IncomingPc.weight])
        · cases h
          exact hgoto hj hpc (by simp [IncomingPc.weight])
      · rename_i a pkt addr hpc
        split at h
        · split at h
          · cases h
            exact ⟨j, t, hj, Or.inr ⟨a, pkt, addr, hpc, rfl⟩⟩
          · cases h
        · cases h
          exact hgoto hj hpc (by simp [IncomingPc.weight])
      all_goals cases h
  · simp only [Receiving.step] at h
    split at h
    · cases h
    · rename_i t hj
      split at h
      · rename_i hst
        cases h
        exact hgoto hj hst.1 (by simp [IncomingPc.weight])
      · cases h

namespace Socks5.Applications

variable {mode : UdpRelayMode} {tokenDigest : List.Vector UInt8 32} {s s' : Applications}
  {act : ApplicationsAction} {C : Applications → ApplicationsAction → Prop}

/-! ## Handlers and associations -/

/-- Every handler keeps the order of its packets, in every run. -/
theorem orderly_of_reachable (h : (applicationsSystem mode tokenDigest).ReachableBy C s) :
    All (fun _ app => app.Orderly) s.apps := by
  refine h.invariant (I := fun s => All (fun _ app => app.Orderly) s.apps) All.nil ?_
  intro s act s' _ ih _ hs
  cases step_cases hs with
  | accept => exact ih.spawn .new fun _ _ _ hold => hold
  | handle h st app app' effect r hh hstep hr =>
    exact ih.set ((ih h app hh).step (Application.step_cases hstep)) fun _ _ _ _ hold => hold
  | serve h assocId app hh hreq =>
    exact ih.set ((ih h app hh).resolve hreq nofun) fun _ _ _ _ hold => hold
  | timeout h app hh hreq =>
    exact ih.set ((ih h app hh).resolve hreq nofun) fun _ _ _ _ hold => hold
  | associate h app a assoc st c hh hreq ha hst hc =>
    refine ih.set ?_ fun _ _ _ _ hold => hold
    split
    · exact (ih h app hh).relay hreq
    · exact ih h app hh
  | client a b c hb hc => exact ih
  | incoming channel recv => exact ih
  | arrive j ev t recv hj hon => exact ih
  | receive a b r hb hr => exact ih

/-- Association `a` is that of handler `h`. -/
def ServedBy (s : Applications) (a h : Nat) : Prop :=
  ∃ app, s.apps[h]? = some app ∧ app.request = .served a

/-- **Handlers and associations**: every association is that of one handler, and no handler has
two. -/
structure Owned (s : Applications) : Prop where
  /-- What a handler has is an association. -/
  bound : ∀ {a h}, s.ServedBy a h → a < s.conn.assocs.length
  /-- No two handlers have the same. -/
  unique : ∀ {a h h'}, s.ServedBy a h → s.ServedBy a h' → h = h'
  /-- Every association has its handler. -/
  owned : ∀ {a}, a < s.conn.assocs.length → ∃ h, s.ServedBy a h

/-- A handler that keeps what it has of the connection. -/
theorem servedBy_set {h k a : Nat} {app app' : Application} (hh : s.apps[h]? = some app)
    (hreq : app'.request = .served a ↔ app.request = .served a) :
    (∃ x, (s.apps.set h app')[k]? = some x ∧ x.request = .served a) ↔ s.ServedBy a k := by
  by_cases hk : h = k
  · subst hk
    rw [getElem?_set_of_some hh]
    constructor
    · rintro ⟨x, hx, hserved⟩
      cases hx
      exact ⟨app, hh, hreq.mp hserved⟩
    · rintro ⟨x, hx, hserved⟩
      rw [hh] at hx
      cases hx
      exact ⟨app', rfl, hreq.mpr hserved⟩
  · rw [List.getElem?_set_ne hk]
    exact Iff.rfl

/-- A step of the connection for an association leaves the number of associations alone. -/
theorem length_assocs {c c' : Connection} {a : Nat} {st : AssociateStep}
    (hs : c.Step (.associate a st) c') : c'.assocs.length = c.assocs.length := by
  cases hs with
  | insert a assoc ha hpc => exact List.length_set
  | gone a assoc ha hpc => exact List.length_set
  | dissociate a assoc ha hpc => exact List.length_set
  | packet a assoc pkt addr fits ha hpc => rfl

/-- What a step for an association does to it, and that it does nothing to another. -/
theorem associate_spec {c c' : Connection} {a : Nat} {st : AssociateStep} {assoc : Association}
    (hs : c.Step (.associate a st) c') (ha : c.assocs[a]? = some assoc) :
    (∀ b, a ≠ b → c'.assocs[b]? = c.assocs[b]?) ∧
      ∃ pc, c'.assocs[a]? = some { assoc with pc := pc } ∧
        (pc = .recv ∨ pc = .remove ∧ assoc.pc = .recv ∧ st = .recv none ∨
          pc = .dissociate ∧ assoc.pc = .remove) := by
  cases hs with
  | insert a assoc₀ ha₀ hpc =>
    cases ha.symm.trans ha₀
    exact ⟨fun b hab => List.getElem?_set_ne hab, .recv, getElem?_set_of_some ha, Or.inl rfl⟩
  | gone a assoc₀ ha₀ hpc =>
    cases ha.symm.trans ha₀
    exact ⟨fun b hab => List.getElem?_set_ne hab, .remove, getElem?_set_of_some ha,
      Or.inr (Or.inl ⟨rfl, hpc, rfl⟩)⟩
  | dissociate a assoc₀ ha₀ hpc =>
    cases ha.symm.trans ha₀
    exact ⟨fun b hab => List.getElem?_set_ne hab, .dissociate, getElem?_set_of_some ha,
      Or.inr (Or.inr ⟨rfl, hpc⟩)⟩
  | packet a assoc₀ pkt addr fits ha₀ hpc =>
    cases ha.symm.trans ha₀
    have hsame : { assoc with pc := .recv } = assoc := by rw [← hpc]
    exact ⟨fun b hab => rfl, .recv, by rw [hsame]; exact ha, Or.inl rfl⟩

/-- What is not about an association leaves the associations alone. -/
theorem assocs_eq {c c' : Connection} {b : Action}
    (hb : b = .heartbeat ∨ (∃ k outcome, b = .send k outcome) ∨ b = .close)
    (hs : c.Step b c') : c'.assocs = c.assocs := by
  cases hs with
  | heartbeat => rfl
  | send k outcome snd snd' hk hstep => rfl
  | close => rfl
  | _ => rcases hb with heq | ⟨k, outcome, heq⟩ | heq <;> cases heq

/-- **What a step does to the handlers and the associations**: nothing, or a handler that waits gets
the next association. -/
theorem Step.servedBy (hs : Step s act s') (ho : All (fun _ app => app.Orderly) s.apps) :
    ((∀ a k, s'.ServedBy a k ↔ s.ServedBy a k) ∧
        s'.conn.assocs.length = s.conn.assocs.length) ∨
      ∃ h, (∀ a, ¬ s.ServedBy a h) ∧
        (∀ a k, s'.ServedBy a k ↔ s.ServedBy a k ∨ a = s.conn.assocs.length ∧ k = h) ∧
        s'.conn.assocs.length = s.conn.assocs.length + 1 := by
  cases hs with
  | accept =>
    refine Or.inl ⟨fun a k => ⟨?_, ?_⟩, rfl⟩
    · rintro ⟨app, hk, hreq⟩
      rcases getElem?_append_singleton_cases hk with ⟨-, rfl⟩ | hk
      · cases hreq
      · exact ⟨app, hk, hreq⟩
    · rintro ⟨app, hk, hreq⟩
      exact ⟨app, getElem?_append_of_some hk, hreq⟩
  | handle h st app app' effect r hh hstep hr =>
    refine Or.inl ⟨fun a k => servedBy_set hh ?_, rfl⟩
    rcases (Application.step_cases hstep).request with heq | ⟨hpc, hnew⟩
    · rw [heq]
    · -- a handler that makes its request has none yet
      rw [(ho h app hh).early (Or.inr hpc)]
      rcases hnew with hnew | hnew <;> rw [hnew] <;> exact ⟨nofun, nofun⟩
  | serve h assocId app hh hreq =>
    refine Or.inr ⟨h, ?_, fun a k => ?_, List.length_append⟩
    · rintro a ⟨app₀, hh₀, hserved⟩
      rw [hh] at hh₀
      cases hh₀
      rw [hreq] at hserved
      cases hserved
    · by_cases hk : h = k
      · subst hk
        constructor
        · rintro ⟨x, hx, hserved⟩
          have hx : (s.apps.set h { app with request := .served s.conn.assocs.length })[h]? =
              some x := hx
          rw [getElem?_set_of_some hh] at hx
          cases hx
          cases hserved
          exact Or.inr ⟨rfl, rfl⟩
        · rintro (⟨app₀, hh₀, hserved⟩ | ⟨rfl, -⟩)
          · rw [hh] at hh₀
            cases hh₀
            rw [hreq] at hserved
            cases hserved
          · exact ⟨_, getElem?_set_of_some hh, rfl⟩
      · have hset : s.apps[k]? =
            (s.apps.set h { app with request := .served s.conn.assocs.length })[k]? :=
          (List.getElem?_set_ne hk).symm
        constructor
        · rintro ⟨x, hx, hserved⟩
          exact Or.inl ⟨x, hset.trans hx, hserved⟩
        · rintro (⟨x, hx, hserved⟩ | ⟨-, rfl⟩)
          · exact ⟨x, hset.symm.trans hx, hserved⟩
          · exact absurd rfl hk
  | timeout h app hh hreq =>
    refine Or.inl ⟨fun a k => servedBy_set hh ?_, rfl⟩
    rw [hreq]
    exact ⟨nofun, nofun⟩
  | associate h app a assoc st c hh hreq ha hst hc =>
    refine Or.inl ⟨fun b k => servedBy_set hh ?_, length_assocs (Connection.step_cases hc)⟩
    split <;> exact Iff.rfl
  | client a b c hb hc =>
    refine Or.inl ⟨fun _ _ => Iff.rfl, ?_⟩
    exact congrArg List.length (assocs_eq (client_cases hb) (Connection.step_cases hc))
  | incoming channel recv => exact Or.inl ⟨fun _ _ => Iff.rfl, rfl⟩
  | arrive j ev t recv hj hon => exact Or.inl ⟨fun _ _ => Iff.rfl, rfl⟩
  | receive a b r hb hr => exact Or.inl ⟨fun _ _ => Iff.rfl, rfl⟩

/-- **Every association is that of one handler**, in every run. -/
theorem owned_of_reachable (h : (applicationsSystem mode tokenDigest).ReachableBy C s) :
    s.Owned := by
  refine h.invariant (I := Owned) ⟨?_, ?_, ?_⟩ ?_
  · rintro a h ⟨app, hh, -⟩
    cases hh
  · rintro a h h' ⟨app, hh, -⟩
    cases hh
  · intro a ha
    cases ha
  · intro s act s' hr ho _ hs
    rcases (step_cases hs).servedBy (orderly_of_reachable hr) with ⟨hsame, hlen⟩ |
      ⟨h, hnone, hserved, hlen⟩
    · refine ⟨fun ha => ?_, fun ha hb => ?_, fun ha => ?_⟩
      · rw [hlen]
        exact ho.bound ((hsame _ _).mp ha)
      · exact ho.unique ((hsame _ _).mp ha) ((hsame _ _).mp hb)
      · rw [hlen] at ha
        obtain ⟨h, hh⟩ := ho.owned ha
        exact ⟨h, (hsame _ _).mpr hh⟩
    · refine ⟨fun ha => ?_, fun ha hb => ?_, fun {a} ha => ?_⟩
      · rcases (hserved _ _).mp ha with hold | ⟨rfl, -⟩
        · have := ho.bound hold
          omega
        · omega
      · -- the new association has an index that no other has
        rcases (hserved _ _).mp ha with hold | ⟨rfl, rfl⟩ <;>
          rcases (hserved _ _).mp hb with hold' | ⟨heq, rfl⟩
        · exact ho.unique hold hold'
        · have := ho.bound hold
          omega
        · have := ho.bound hold'
          omega
        · rfl
      · by_cases hlt : a < s.conn.assocs.length
        · obtain ⟨k, hk⟩ := ho.owned hlt
          exact ⟨k, (hserved _ _).mpr (Or.inl hk)⟩
        · exact ⟨h, (hserved _ _).mpr (Or.inr ⟨by omega, rfl⟩)⟩

/-! ## The channels -/

/-- What was put into the receive channel of a handler. -/
def deliveredTo (s : Applications) (app : Application) : List Inbound :=
  match app.request with
  | .served a => doneBy a s.receiving.delivered
  | .unsent | .waiting | .dropped => []

/-- The receive channel of a handler that has an association. -/
theorem inbox_served {app : Application} {a : Nat} (hreq : app.request = .served a) :
    s.inbox app = (s.receiving.inbox a).queue ∧
      s.deliveredTo app = doneBy a s.receiving.delivered := by
  rw [inbox, deliveredTo, hreq]
  exact ⟨rfl, rfl⟩

/-- The receive channel of one that has none. -/
theorem inbox_unserved {app : Application} (hreq : ∀ a, app.request ≠ .served a) :
    s.inbox app = [] ∧ s.deliveredTo app = [] := by
  rw [inbox, deliveredTo]
  cases hr : app.request with
  | served a => exact absurd hr (hreq a)
  | unsent => exact ⟨rfl, rfl⟩
  | waiting => exact ⟨rfl, rfl⟩
  | dropped => exact ⟨rfl, rfl⟩

/-- What comes back to a handler depends on its own receive channel. -/
theorem linked_congr {app : Application} (hsame : ∀ b, app.request = .served b →
      s'.receiving.inbox b = s.receiving.inbox b ∧
        doneBy b s'.receiving.delivered = doneBy b s.receiving.delivered)
    (h : app.Linked (s.inbox app) (s.deliveredTo app)) :
    app.Linked (s'.inbox app) (s'.deliveredTo app) := by
  by_cases hsome : ∃ b, app.request = .served b
  · obtain ⟨b, hreq⟩ := hsome
    obtain ⟨hinbox, hdelivered⟩ := hsame b hreq
    rw [(inbox_served hreq).1, (inbox_served hreq).2] at h ⊢
    rw [hinbox, hdelivered]
    exact h
  · rw [not_exists] at hsome
    rw [(inbox_unserved hsome).1, (inbox_unserved hsome).2] at h ⊢
    exact h

/-- **The channels between the handlers and the connection.** -/
structure Channelled (s : Applications) : Prop where
  /-- What comes back is passed on in order. -/
  linked : All (fun _ app => app.Linked (s.inbox app) (s.deliveredTo app)) s.apps
  /-- The receive channel is open as long as the handler has its end. -/
  isOpen : All (fun _ app => ∀ a, app.request = .served a →
    (s.receiving.inbox a).isOpen = app.isAttached) s.apps
  /-- The receive channel of an association to come is empty and open. -/
  fresh : ∀ a, s.conn.assocs.length ≤ a →
    s.receiving.inbox a = ⟨[], true⟩ ∧ doneBy a s.receiving.delivered = []
  /-- A request comes to its end when its handler is gone and the send channel is empty. -/
  ending : All (fun _ app => ∀ a assoc, app.request = .served a → s.conn.assocs[a]? = some assoc →
    assoc.pc = .remove ∨ assoc.pc = .dissociate → app.isAttached = false ∧ app.outbox = []) s.apps

/-- What a step of a handler does to the receive channels: something to its own at most. -/
theorem onInbox_spec {app : Application} {effect : InboxEffect} {r : Receiving}
    (h : s.onInbox app effect = some r) :
    (r.tasks = s.receiving.tasks ∧ r.delivered = s.receiving.delivered) ∧
      (∀ b, app.request ≠ .served b → r.inbox b = s.receiving.inbox b) ∧
      ∀ a, app.request = .served a →
        r.inbox a = ⟨effect.after (s.receiving.inbox a).queue,
          (s.receiving.inbox a).isOpen && effect.keepsEnd⟩ := by
  rcases onInbox_cases h with ⟨rfl, heffect⟩ | ⟨a, hreq, ⟨rfl, htake⟩ | ⟨rfl, hhang⟩⟩
  · refine ⟨⟨rfl, rfl⟩, fun _ _ => rfl, fun a hreq => ?_⟩
    rcases heffect with rfl | hnone
    · simp [InboxEffect.after, InboxEffect.keepsEnd]
    · exact absurd hreq (hnone a)
  · cases htake
    refine ⟨⟨rfl, rfl⟩, fun b hb => Function.update_of_ne ?_ _ _, fun b hb => ?_⟩
    · rintro rfl
      exact hb hreq
    · rw [hreq] at hb
      cases hb
      simp [InboxEffect.after, InboxEffect.keepsEnd]
  · cases hhang
    refine ⟨⟨rfl, rfl⟩, fun b hb => Function.update_of_ne ?_ _ _, fun b hb => ?_⟩
    · rintro rfl
      exact hb hreq
    · rw [hreq] at hb
      cases hb
      simp [InboxEffect.after, InboxEffect.keepsEnd]

/-- A step of a handler keeps the channels. -/
theorem Channelled.handle (hc : s.Channelled) (ho : All (fun _ app => app.Orderly) s.apps)
    (how : s.Owned) {h : Nat} {st : HandleStep} {app app' : Application} {effect : InboxEffect}
    {r : Receiving}
    (hh : s.apps[h]? = some app)
    (hstep : app.Step (s.inbox app) (s.hasSender app) st app' effect)
    (hr : s.onInbox app effect = some r) :
    ({ s with receiving := r, apps := s.apps.set h app' } : Applications).Channelled := by
  obtain ⟨⟨-, hdelivered⟩, hothers, hown⟩ := onInbox_spec hr
  have horder := ho h app hh
  have hserved : ∀ {a}, app'.request = .served a → app.request = .served a := hstep.served
  have hbind : ∀ {a}, app.request = .served a → app.pc ≠ .bind := by
    intro a hreq hpc
    rw [horder.early (Or.inl hpc)] at hreq
    cases hreq
  -- no other handler has its association
  have hne : ∀ {k : Nat} {other : Application} {b : Nat}, k ≠ h → s.apps[k]? = some other →
      other.request = .served b → app.request ≠ .served b := by
    intro k other b hk hother hreq happ
    exact hk (how.unique ⟨other, hother, hreq⟩ ⟨app, hh, happ⟩)
  refine ⟨hc.linked.set ?_ fun k other hk hother hold => ?_,
    hc.isOpen.set (fun a hreq => ?_) fun k other hk hother hold b hreq => ?_,
    fun b hb => ?_, hc.ending.set (fun a assoc hreq ha hend => ?_) fun _ _ _ _ hold => hold⟩
  · have hlinked := (hc.linked h app hh).step hstep fun hpc => by
      refine inbox_unserved fun a => ?_
      rw [horder.early (Or.inl hpc)]
      exact nofun
    by_cases hsome : ∃ a, app'.request = .served a
    · obtain ⟨a, hreq⟩ := hsome
      rw [(inbox_served (hserved hreq)).1, (inbox_served (hserved hreq)).2] at hlinked
      rw [(inbox_served hreq).1, (inbox_served hreq).2]
      change app'.Linked (r.inbox a).queue (doneBy a r.delivered)
      rw [hown a (hserved hreq), hdelivered]
      exact hlinked
    · rw [not_exists] at hsome
      have hnone : ∀ a, app.request ≠ .served a := by
        intro a hreq
        rcases hstep.request with heq | ⟨hpc, -⟩
        · exact hsome a (heq.trans hreq)
        · rw [horder.early (Or.inr hpc)] at hreq
          cases hreq
      rw [(inbox_unserved hnone).1, (inbox_unserved hnone).2] at hlinked
      rw [(inbox_unserved hsome).1, (inbox_unserved hsome).2]
      cases effect <;> exact hlinked
  · refine linked_congr (fun b hreq => ?_) hold
    exact ⟨hothers b (hne hk hother hreq), congrArg (doneBy b) hdelivered⟩
  · change (r.inbox a).isOpen = app'.isAttached
    rw [hown a (hserved hreq), hstep.isAttached (hbind (hserved hreq)),
      hc.isOpen h app hh a (hserved hreq)]
  · change (r.inbox b).isOpen = other.isAttached
    rw [hothers b (hne hk hother hreq)]
    exact hold b hreq
  · change r.inbox b = ⟨[], true⟩ ∧ doneBy b r.delivered = []
    have hnot : app.request ≠ .served b := by
      intro hreq
      have hlt := how.bound ⟨app, hh, hreq⟩
      have hb : s.conn.assocs.length ≤ b := hb
      omega
    rw [hothers b hnot, hdelivered]
    exact hc.fresh b hb
  · obtain ⟨hatt, houtbox⟩ := hc.ending h app hh a assoc (hserved hreq) ha hend
    exact ⟨by rw [hstep.isAttached (hbind (hserved hreq)), hatt, Bool.false_and],
      (hstep.outbox hatt).trans houtbox⟩

/-- A handler gets an association, whose receive channel is new. -/
theorem Channelled.serve (hc : s.Channelled) (how : s.Owned) {h : Nat} {assocId : UInt32}
    {app : Application} (hh : s.apps[h]? = some app) (hreq : app.request = .waiting) :
    (⟨{ s.conn with assocs := s.conn.assocs ++ [⟨assocId, .insert⟩] },
      if app.isAttached then s.receiving else hungUp s.receiving s.conn.assocs.length,
      s.apps.set h { app with request := .served s.conn.assocs.length }⟩ :
        Applications).Channelled := by
  have hnone : ∀ a, app.request ≠ .served a := by
    intro a
    rw [hreq]
    exact nofun
  obtain ⟨hfresh, hdone⟩ := hc.fresh s.conn.assocs.length (Nat.le_refl _)
  -- the receive channels, of which only the new one may be closed
  have hreceiving : ∀ r, r = (if app.isAttached then s.receiving
      else hungUp s.receiving s.conn.assocs.length) →
      r.delivered = s.receiving.delivered ∧
        r.inbox s.conn.assocs.length = ⟨[], app.isAttached⟩ ∧
        ∀ b, b ≠ s.conn.assocs.length → r.inbox b = s.receiving.inbox b := by
    rintro r rfl
    by_cases hatt : app.isAttached = true
    · rw [if_pos hatt, hatt]
      exact ⟨rfl, hfresh, fun _ _ => rfl⟩
    · rw [Bool.not_eq_true] at hatt
      rw [hatt]
      exact ⟨rfl, Function.update_self _ _ _, fun b hb => Function.update_of_ne hb _ _⟩
  obtain ⟨hdelivered, hnew, hothers⟩ := hreceiving _ rfl
  have hne : ∀ {k : Nat} {other : Application} {b : Nat}, s.apps[k]? = some other →
      other.request = .served b → b ≠ s.conn.assocs.length := by
    intro k other b hother hserved heq
    have hlt := how.bound ⟨other, hother, hserved⟩
    omega
  refine ⟨hc.linked.set ?_ fun k other hk hother hold => ?_,
    hc.isOpen.set (fun a heq => ?_) fun k other hk hother hold b hserved => ?_,
    fun b hb => ?_, hc.ending.set (fun a assoc heq ha hend => ?_)
      fun k other hk hother hold b assoc hserved ha => ?_⟩
  · have hlinked : app.Linked (s.inbox app) (s.deliveredTo app) := hc.linked h app hh
    rw [(inbox_unserved hnone).1, (inbox_unserved hnone).2] at hlinked
    simp only [inbox, deliveredTo, hnew, hdelivered, hdone]
    exact ⟨hlinked.begins, hlinked.whole⟩
  · refine linked_congr (fun b hserved => ?_) hold
    exact ⟨hothers b (hne hother hserved), congrArg (doneBy b) hdelivered⟩
  · cases heq
    simp only [hnew]
    rfl
  · simp only [hothers b (hne hother hserved)]
    exact hold b hserved
  · have hb : s.conn.assocs.length + 1 ≤ b := by
      rw [← List.length_singleton, ← List.length_append]
      exact hb
    simp only [hothers b (by omega), hdelivered]
    exact hc.fresh b (by omega)
  · cases heq
    have ha : (s.conn.assocs ++ [⟨assocId, .insert⟩])[s.conn.assocs.length]? = some assoc := ha
    rw [List.getElem?_concat_length] at ha
    cases ha
    rcases hend with hend | hend <;> cases hend
  · rcases getElem?_append_singleton_cases ha with ⟨heq, -⟩ | ha
    · exact absurd heq (hne hother hserved)
    · exact hold b assoc hserved ha

/-- A request finds its send channel at its end when that is empty and the handler is gone. -/
theorem gone_of_associateStep {app : Application}
    (h : associateStep app .recv = some (.recv none)) :
    app.isAttached = false ∧ app.outbox = [] := by
  simp only [associateStep] at h
  split at h
  · cases h
  · rename_i hout
    split at h
    · cases h
    · rename_i hatt
      exact ⟨Bool.eq_false_of_not_eq_true hatt, hout⟩

/-- The request of a handler makes a step. -/
theorem Channelled.associate (hc : s.Channelled) (how : s.Owned) {h a : Nat} {app : Application}
    {assoc : Association} {st : AssociateStep} {c : Connection} (hh : s.apps[h]? = some app)
    (hreq : app.request = .served a) (ha : s.conn.assocs[a]? = some assoc)
    (hst : associateStep app assoc.pc = some st) (hstep : s.conn.Step (.associate a st) c) :
    ({ s with conn := c, apps := s.apps.set h (if assoc.pc = .recv then app.relay else app) } :
      Applications).Channelled := by
  -- what the request does with the send channel is not seen on the way back
  have hkeep : ∀ app', app' = (if assoc.pc = .recv then app.relay else app) →
      app'.request = app.request ∧ app'.isAttached = app.isAttached ∧
        ∀ inbox delivered, app.Linked inbox delivered → app'.Linked inbox delivered := by
    rintro app' rfl
    split
    · exact ⟨rfl, rfl, fun _ _ hold => ⟨hold.begins, hold.whole⟩⟩
    · exact ⟨rfl, rfl, fun _ _ hold => hold⟩
  obtain ⟨hrequest, hattached, hlinked⟩ := hkeep _ rfl
  have hne : ∀ {k : Nat} {other : Application} {b : Nat}, k ≠ h → s.apps[k]? = some other →
      other.request = .served b → a ≠ b := by
    rintro k other b hk hother hserved rfl
    exact hk (how.unique ⟨other, hother, hserved⟩ ⟨app, hh, hreq⟩)
  obtain ⟨hassocs, pc, hown, hpc⟩ := associate_spec hstep ha
  refine ⟨hc.linked.set ?_ fun _ _ _ _ hold => hold,
    hc.isOpen.set (fun b heq => ?_) fun _ _ _ _ hold => hold, fun b hb => ?_,
    hc.ending.set (fun b assoc' heq hb hend => ?_)
      fun k other hk hother hold b assoc' hserved hb => ?_⟩
  · have hold : app.Linked (s.inbox app) (s.deliveredTo app) := hc.linked h app hh
    rw [(inbox_served hreq).1, (inbox_served hreq).2] at hold
    rw [(inbox_served (hrequest.trans hreq)).1, (inbox_served (hrequest.trans hreq)).2]
    exact hlinked _ _ hold
  · rw [hattached]
    exact hc.isOpen h app hh b (hrequest.symm.trans heq)
  · refine hc.fresh b ?_
    rw [← length_assocs hstep]
    exact hb
  · rw [hrequest, hreq] at heq
    cases heq
    cases hown.symm.trans hb
    rcases hpc with rfl | ⟨rfl, hpc, rfl⟩ | ⟨rfl, hpc⟩
    · rcases hend with hend | hend <;> cases hend
    · -- the channel is at its end, so it is empty and the handler is gone
      rw [hpc] at hst
      obtain ⟨hatt, hout⟩ := gone_of_associateStep hst
      rw [if_pos hpc]
      exact ⟨hatt, congrArg List.tail hout⟩
    · have hold := hc.ending h app hh a assoc hreq ha (Or.inl hpc)
      rw [hpc]
      exact hold
  · refine hold b assoc' hserved ?_
    rw [← hassocs b (hne hk hother hserved)]
    exact hb

/-- The task of an incoming packet puts its packet into the receive channel of an association. -/
theorem Channelled.push (hc : s.Channelled) {a : Nat} (hlt : a < s.conn.assocs.length)
    (pkt : Bytes) (addr : Address) :
    ({ s with receiving := s.receiving.push a pkt addr } : Applications).Channelled := by
  have hne : ∀ b, b ≠ a →
      (s.receiving.push a pkt addr).inbox b = s.receiving.inbox b ∧
        doneBy b (s.receiving.push a pkt addr).delivered = doneBy b s.receiving.delivered := by
    intro b hb
    simp only [Receiving.push, doneBy_append]
    exact ⟨Function.update_of_ne hb _ _, by simp [doneBy, hb.symm]⟩
  have hself : (s.receiving.push a pkt addr).inbox a =
        ⟨(s.receiving.inbox a).queue ++ [(pkt, addr)], (s.receiving.inbox a).isOpen⟩ ∧
      doneBy a (s.receiving.push a pkt addr).delivered =
        doneBy a s.receiving.delivered ++ [(pkt, addr)] := by
    simp only [Receiving.push, doneBy_append]
    exact ⟨Function.update_self _ _ _, by simp [doneBy]⟩
  refine ⟨hc.linked.mono fun k app hk hold => ?_, hc.isOpen.mono fun _ app _ hold b hreq => ?_,
    fun b hb => ?_, hc.ending⟩
  · by_cases hreq : app.request = .served a
    · rw [(inbox_served hreq).1, (inbox_served hreq).2] at hold ⊢
      simp only [hself.1, hself.2]
      exact hold.deliver _
    · refine linked_congr (fun b hb => hne b ?_) hold
      rintro rfl
      exact hreq hb
  · by_cases hb : b = a
    · subst hb
      simp only [hself.1]
      exact hold b hreq
    · simp only [(hne b hb).1]
      exact hold b hreq
  · have hb : s.conn.assocs.length ≤ b := hb
    simp only [hne b (by omega)]
    exact hc.fresh b hb

/-- **The channels, in every run.** -/
theorem channelled_of_reachable (h : (applicationsSystem mode tokenDigest).ReachableBy C s) :
    s.Channelled := by
  refine h.invariant (I := Channelled)
    ⟨All.nil, All.nil, fun _ _ => ⟨rfl, rfl⟩, All.nil⟩ ?_
  intro s act s' hr hc _ hs
  have how := owned_of_reachable hr
  cases step_cases hs with
  | accept =>
    exact ⟨hc.linked.spawn ⟨List.prefix_rfl, nofun⟩ fun _ _ _ hold => hold,
      hc.isOpen.spawn nofun fun _ _ _ hold => hold, hc.fresh,
      hc.ending.spawn nofun fun _ _ _ hold => hold⟩
  | handle h st app app' effect r hh hstep hr' =>
    exact hc.handle (orderly_of_reachable hr) how hh (Application.step_cases hstep) hr'
  | serve h assocId app hh hreq => exact hc.serve how hh hreq
  | timeout h app hh hreq =>
    have hnone : ∀ a, app.request ≠ .served a := by
      intro a
      rw [hreq]
      exact nofun
    refine ⟨hc.linked.set ?_ fun _ _ _ _ hold => hold,
      hc.isOpen.set nofun fun _ _ _ _ hold => hold, hc.fresh,
      hc.ending.set nofun fun _ _ _ _ hold => hold⟩
    have hlinked : app.Linked (s.inbox app) (s.deliveredTo app) := hc.linked h app hh
    rw [(inbox_unserved hnone).1, (inbox_unserved hnone).2] at hlinked
    exact ⟨hlinked.begins, hlinked.whole⟩
  | associate h app a assoc st c hh hreq ha hst hstep =>
    exact hc.associate how hh hreq ha hst (Connection.step_cases hstep)
  | client a b c hb hstep =>
    have hsame := assocs_eq (client_cases hb) (Connection.step_cases hstep)
    refine ⟨hc.linked, hc.isOpen, fun b hb => hc.fresh b ?_, ?_⟩
    · rw [← hsame]
      exact hb
    · refine hc.ending.mono fun _ app _ hold b assoc hreq hb => hold b assoc hreq ?_
      rw [← hsame]
      exact hb
  | incoming channel recv => exact ⟨hc.linked, hc.isOpen, hc.fresh, hc.ending⟩
  | arrive j ev t recv hj hon => exact ⟨hc.linked, hc.isOpen, hc.fresh, hc.ending⟩
  | receive a b r hb hstep =>
    have hbound := (Connection.tabled_of_reachable (sessions_of_reachable hr)).2
    obtain ⟨j, t, hj, ⟨pc, -, rfl⟩ | ⟨a, pkt, addr, hpc, rfl⟩⟩ :=
      Receiving.task_cases (receive_cases hb) hstep
    · exact ⟨hc.linked, hc.isOpen, hc.fresh, hc.ending⟩
    · have hpush := hc.push (hbound j t hj a pkt addr hpc) pkt addr
      exact ⟨hpush.linked, hpush.isOpen, hpush.fresh, hpush.ending⟩

/-! ## What is sent -/

/-- The ids of the associations. -/
def ids (s : Applications) : List UInt32 := s.conn.assocs.map Association.assocId

/-- **What is sent under the id of an association.** -/
structure Submitted (s : Applications) : Prop where
  /-- Nothing is sent under an id that no association has drawn. -/
  unused : ∀ assocId, assocId ∉ s.ids → s.conn.packetsOf assocId = []
  /-- What is sent under an id that one association has drawn is what its request has taken out of
  the send channel. -/
  sole : All (fun _ app => ∀ a assocId, app.request = .served a → s.ids[a]? = some assocId →
    (∀ b, s.ids[b]? = some assocId → b = a) → s.conn.packetsOf assocId = app.relayed) s.apps

/-- A step that leaves the connection and what was taken out of the send channels alone. -/
theorem Submitted.congr (h : s.Submitted) (hids : s'.ids = s.ids)
    (hpackets : ∀ assocId, s'.conn.packetsOf assocId = s.conn.packetsOf assocId)
    (happs : All (fun k app' => ∀ a, app'.request = .served a →
      ∃ app, s.apps[k]? = some app ∧ app.request = .served a ∧ app'.relayed = app.relayed)
      s'.apps) : s'.Submitted := by
  refine ⟨fun assocId hnot => ?_, fun k app' hk a assocId hreq ha hsole => ?_⟩
  · rw [hids] at hnot
    rw [hpackets]
    exact h.unused assocId hnot
  · obtain ⟨app, hk', hreq', hrelayed⟩ := happs k app' hk a hreq
    rw [hids] at ha hsole
    rw [hpackets, hrelayed]
    exact h.sole k app hk' a assocId hreq' ha hsole

/-- A step of the connection that is no new request leaves the ids alone. -/
theorem ids_eq {c c' : Connection} {b : Action} (hb : ∀ assocId, b ≠ .request assocId)
    (hs : c.Step b c') :
    c'.assocs.map Association.assocId = c.assocs.map Association.assocId := by
  -- a step of an association keeps its id
  have hset : ∀ {a : Nat} {assoc : Association} (pc : AssociatePc), c.assocs[a]? = some assoc →
      (c.goto a assoc pc).assocs.map Association.assocId =
        c.assocs.map Association.assocId := by
    intro a assoc pc ha
    obtain ⟨hlt, hassoc⟩ := List.getElem?_eq_some_iff.mp ha
    simp only [Connection.goto, List.map_set, ← hassoc]
    rw [← List.getElem_map Association.assocId, List.set_getElem_self]
    exact List.length_map Association.assocId ▸ hlt
  cases hs with
  | request assocId => exact absurd rfl (hb assocId)
  | insert a assoc ha hpc => exact hset .recv ha
  | gone a assoc ha hpc => exact hset .remove ha
  | dissociate a assoc ha hpc => exact hset .dissociate ha
  | _ => rfl

/-- What a request gets out of the send channel is the first packet in it. -/
theorem head?_of_associateStep {app : Application} {st : AssociateStep}
    (h : associateStep app .recv = some st) :
    st = .recv (app.outbox.head?.map Subtype.val) := by
  simp only [associateStep] at h
  split at h
  · rename_i m rest hout
    cases h
    rw [hout]
    rfl
  · rename_i hout
    split at h
    · cases h
    · cases h
      rw [hout]
      rfl

/-- A request makes a step: what it takes out of the send channel is sent under its id. -/
theorem Submitted.associate (h : s.Submitted) (how : s.Owned) {k a : Nat} {app : Application}
    {assoc : Association} {st : AssociateStep} {c : Connection} (hk : s.apps[k]? = some app)
    (hreq : app.request = .served a) (ha : s.conn.assocs[a]? = some assoc)
    (hst : associateStep app assoc.pc = some st) (hstep : s.conn.Step (.associate a st) c) :
    ({ s with conn := c, apps := s.apps.set k (if assoc.pc = .recv then app.relay else app) } :
      Applications).Submitted := by
  have hids : c.assocs.map Association.assocId = s.ids := ids_eq (fun _ heq => by cases heq) hstep
  have hid : s.ids[a]? = some assoc.assocId := by
    rw [ids, List.getElem?_map, ha]
    rfl
  rcases hstep.packetsOf_cases with ⟨hsame, hnone⟩ | ⟨a', assoc', m, heq, ha', hpc, hpackets⟩
  · -- there was nothing in the send channel
    refine h.congr hids hsame (All.set (P := fun k' x => s.apps[k']? = some x) (fun _ _ hx => hx)
      (fun b hb => ?_) fun k' other hne hk' hother b hb => ⟨other, hother, hb, rfl⟩)
    split at hb
    · rename_i hpc
      rw [hpc] at hst
      refine ⟨app, hk, hb, ?_⟩
      cases hout : app.outbox with
      | nil => simp [hpc, Application.relay, hout]
      | cons m rest =>
        have hst := head?_of_associateStep hst
        rw [hout] at hst
        exact absurd (congrArg (Action.associate a) hst) (hnone a m.1)
    · rename_i hpc
      rw [if_neg hpc]
      exact ⟨app, hk, hb, rfl⟩
  · cases heq
    cases ha.symm.trans ha'
    rw [hpc] at hst
    have hhead : app.outbox.head? = some m := by
      have hst := head?_of_associateStep hst
      cases hout : app.outbox.head? with
      | none =>
        rw [hout] at hst
        cases hst
      | some m' =>
        rw [hout] at hst
        rw [Subtype.ext (Option.some.inj (AssociateStep.recv.inj hst))]
    rw [if_pos hpc]
    refine ⟨fun assocId hnot => ?_, h.sole.set (fun b assocId hb hb' hsole => ?_)
      fun k' other hne hk' hold b assocId hb hb' hsole => ?_⟩
    · have hnot : assocId ∉ s.ids := by
        rw [← hids]
        exact hnot
      have hne : assoc.assocId ≠ assocId := by
        rintro rfl
        exact hnot (List.mem_of_getElem? hid)
      change c.packetsOf assocId = []
      rw [hpackets, if_neg hne, List.append_nil]
      exact h.unused assocId hnot
    · cases hreq.symm.trans hb
      have hb' : s.ids[a]? = some assocId := hids ▸ hb'
      cases hid.symm.trans hb'
      change c.packetsOf assoc.assocId = app.relayed ++ app.outbox.head?.toList
      rw [hpackets, if_pos rfl, hhead, h.sole k app hk a _ hreq hid (hids ▸ hsole)]
      rfl
    · have hb' : s.ids[b]? = some assocId := hids ▸ hb'
      have hsole : ∀ b', s.ids[b']? = some assocId → b' = b := hids ▸ hsole
      have hne' : assoc.assocId ≠ assocId := by
        rintro rfl
        have hab : a = b := hsole a hid
        subst hab
        exact hne (how.unique ⟨other, hk', hb⟩ ⟨app, hk, hreq⟩)
      change c.packetsOf assocId = other.relayed
      rw [hpackets, if_neg hne', List.append_nil]
      exact hold b assocId hb hb' hsole

/-- A handler gets an association, under whose id nothing is sent yet when no other has drawn
it. -/
theorem Submitted.serve (h : s.Submitted) (how : s.Owned) {k : Nat} {assocId : UInt32}
    {app : Application} {receiving : Receiving} (hrelayed : app.relayed = []) :
    (⟨{ s.conn with assocs := s.conn.assocs ++ [⟨assocId, .insert⟩] }, receiving,
      s.apps.set k { app with request := .served s.conn.assocs.length }⟩ :
        Applications).Submitted := by
  have hids : (s.conn.assocs ++ [(⟨assocId, .insert⟩ : Association)]).map Association.assocId =
      s.ids ++ [assocId] := List.map_append
  have hlen : s.ids.length = s.conn.assocs.length := List.length_map _
  refine ⟨fun id hnot => h.unused id fun hmem => hnot ?_,
    h.sole.set (fun a id heq ha hsole => ?_)
      fun k' other hne hk' hold a id hreq ha hsole => ?_⟩
  · rw [ids, hids]
    exact List.mem_append_left _ hmem
  · cases heq
    rw [ids, hids] at ha hsole
    rw [← hlen, List.getElem?_concat_length] at ha
    cases ha
    change s.conn.packetsOf assocId = app.relayed
    rw [hrelayed]
    refine h.unused assocId fun hmem => ?_
    -- another association with this id has a smaller index
    obtain ⟨i, hi⟩ := List.mem_iff_getElem?.mp hmem
    have hlt := (List.getElem?_eq_some_iff.mp hi).1
    have heq := hsole i (getElem?_append_of_some hi)
    omega
  · have hlt := how.bound ⟨other, hk', hreq⟩
    rw [ids, hids] at ha hsole
    rw [List.getElem?_append_left (hlen ▸ hlt)] at ha
    exact hold a id hreq ha fun i hi => hsole i (getElem?_append_of_some hi)

/-- **What is sent under the id of an association**, in every run. -/
theorem submitted_of_reachable (h : (applicationsSystem mode tokenDigest).ReachableBy C s) :
    s.Submitted := by
  refine h.invariant (I := Submitted) ⟨fun _ _ => rfl, All.nil⟩ ?_
  intro s act s' hr hsub _ hs
  have how := owned_of_reachable hr
  have horder := orderly_of_reachable hr
  have hself : All (fun k app' => ∀ a, app'.request = .served a →
      ∃ app, s.apps[k]? = some app ∧ app.request = .served a ∧ app'.relayed = app.relayed)
      s.apps := fun k app hk a hreq => ⟨app, hk, hreq, rfl⟩
  cases step_cases hs with
  | accept =>
    exact hsub.congr rfl (fun _ => rfl) (hself.spawn nofun fun _ _ _ hold => hold)
  | handle h st app app' effect r hh hstep hr' =>
    refine hsub.congr rfl (fun _ => rfl) (hself.set (fun a hreq => ?_) fun _ _ _ _ hold => hold)
    have hcases := Application.step_cases hstep
    exact ⟨app, hh, hcases.served hreq, hcases.relayed⟩
  | serve h assocId app hh hreq =>
    refine hsub.serve how ((horder h app hh).unserved fun a => ?_)
    rw [hreq]
    exact nofun
  | timeout h app hh hreq =>
    exact hsub.congr rfl (fun _ => rfl) (hself.set nofun fun _ _ _ _ hold => hold)
  | associate h app a assoc st c hh hreq ha hst hstep =>
    exact hsub.associate how hh hreq ha hst (Connection.step_cases hstep)
  | client a b c hb hstep =>
    have hclient := Connection.step_cases hstep
    have hb := client_cases hb
    refine hsub.congr (congrArg (List.map Association.assocId) (assocs_eq hb hclient)) ?_ hself
    rcases hclient.packetsOf_cases with ⟨hsame, -⟩ | ⟨a', assoc, m, rfl, -⟩
    · exact hsame
    · rcases hb with heq | ⟨k, outcome, heq⟩ | heq <;> cases heq
  | incoming channel recv => exact hsub.congr rfl (fun _ => rfl) hself
  | arrive j ev t recv hj hon => exact hsub.congr rfl (fun _ => rfl) hself
  | receive a b r hb hstep => exact hsub.congr rfl (fun _ => rfl) hself

/-! ## The order of the packets -/

/-- **Packets keep their order in both directions**, in every reachable state and for every handler.

What was taken out of the send channel is a first part of what the application sent, without
fragments and each packet as far as it fits the receive buffer, and with what is in the channel and
in the hands of the handler it is all of that, as long as both ends of the channel are there. It is
what is sent under the id of the association, when no other has drawn the same id. What was sent to
the application is a first part of what was put into the receive channel, and all of that but what
the handler still has, and it was sent to where the first packet came from. -/
theorem relays_in_order (mode : UdpRelayMode) (tokenDigest : List.Vector UInt8 32)
    (s : Applications) (hr : (applicationsSystem mode tokenDigest).Reachable s) (h : Nat)
    (app : Application) (hh : s.apps[h]? = some app) :
    (app.relayed <+: app.accepted.map Prod.snd ∧
      (app.isAttached = true → app.request ≠ .dropped →
        app.relayed ++ app.outbox ++ app.uplinkHand = app.accepted.map Prod.snd) ∧
      ∀ a assocId, app.request = .served a → s.ids[a]? = some assocId →
        (∀ b, s.ids[b]? = some assocId → b = a) → s.conn.packetsOf assocId = app.relayed) ∧
    (app.replied.map Prod.snd <+: s.deliveredTo app ∧
      (app.isAttached = true →
        app.replied.map Prod.snd ++ app.downlinkHand ++ s.inbox app = s.deliveredTo app) ∧
      ∀ x ∈ app.replied, app.accepted.head?.map Prod.fst = some x.1) := by
  have horder := orderly_of_reachable hr h app hh
  have hlinked : app.Linked (s.inbox app) (s.deliveredTo app) :=
    (channelled_of_reachable hr).linked h app hh
  have hsole := (submitted_of_reachable hr).sole h app hh
  refine ⟨⟨?_, horder.whole, hsole⟩, hlinked.begins, hlinked.whole,
    fun x hx => horder.head_of_replied hx⟩
  exact (List.prefix_append _ _).trans horder.begins

/-- An application that has sent two packets, of which one is on its way, and got a reply. -/
def exchange : List ApplicationsAction :=
  let target : Address := .socketAddress (.v4 ⟨1, 2, 3, 4⟩ 53)
  let src : SocketAddr := .v4 ⟨127, 0, 0, 1⟩ 4000
  [.accept, .handle 0 .go, .handle 0 .go, .handle 0 .go,
    .handle 0 (.datagram ⟨⟨⟨0, target, trivial⟩, [5]⟩, src, 1495⟩), .handle 0 (.uplink true),
    .handle 0 (.uplink true), .serve 0 7, .associate 0, .associate 0,
    .handle 0 (.datagram ⟨⟨⟨0, target, trivial⟩, [6, 6]⟩, src, 11⟩),
    .incoming .datagram ⟨[4, 2, 0, 0, 0, 7, 0, 1, 1, 1, 2, 3, 4, 0, 53, 9], 0, .finished⟩,
    .receive 0, .receive 0, .receive 0, .handle 0 (.downlink true), .handle 0 (.downlink true)]

/-- The reply is the packet that came in, and what was sent is the first packet. -/
theorem relays_in_order_exchange :
    ∃ s app, (applicationsSystem .native ⟨List.replicate 32 0, rfl⟩).Reachable s ∧
      s.apps = [app] ∧ app.accepted.length = 2 ∧
      s.conn.packetsOf 7 <+: app.accepted.map Prod.snd ∧ (s.conn.packetsOf 7).length = 1 ∧
      app.replied.map Prod.snd = [([9], .socketAddress (.v4 ⟨1, 2, 3, 4⟩ 53))] := by
  obtain ⟨s, hs, hp⟩ := System.exists_reachable_of_run
    (applicationsSystem .native ⟨List.replicate 32 0, rfl⟩) exchange
    (fun s => decide (s.apps.length = 1 ∧ s.ids = [7] ∧ ∀ app ∈ s.apps,
      app.accepted.length = 2 ∧ app.request = .served 0 ∧ app.relayed.length = 1 ∧
        app.isAttached = true ∧ app.downlinkHand = [] ∧ s.inbox app = [] ∧
        s.deliveredTo app = [([9], .socketAddress (.v4 ⟨1, 2, 3, 4⟩ 53))])) (by decide +kernel)
  obtain ⟨hone, hids, happs⟩ := of_decide_eq_true hp
  obtain ⟨app, happ⟩ := List.length_eq_one_iff.mp hone
  rw [happ] at happs
  obtain ⟨haccepted, hreq, hrelayed, hatt, hhand, hinbox, hdelivered⟩ :=
    happs app (List.mem_singleton_self _)
  have hsole : ∀ b : Nat, s.ids[b]? = some 7 → b = 0 := by
    intro b hb
    rw [hids] at hb
    have hlt := (List.getElem?_eq_some_iff.mp hb).1
    simpa using hlt
  obtain ⟨⟨hbegins, -, hpackets⟩, -, hwhole, -⟩ :=
    relays_in_order .native ⟨List.replicate 32 0, rfl⟩ s hs 0 app (by rw [happ]; rfl)
  have hsent := hpackets 0 7 hreq (by rw [hids]; rfl) hsole
  have hreplied := hwhole hatt
  rw [hhand, hinbox, hdelivered, List.append_nil, List.append_nil] at hreplied
  exact ⟨s, app, hs, happ, haccepted, hsent ▸ hbegins, hsent ▸ hrelayed, hreplied⟩

end Socks5.Applications

end Tuic.Client
