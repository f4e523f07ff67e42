import Tuic.EndToEnd.Link
import Tuic.Server.Entries

/-! # Sessions and the end of their association

When an association ends, the client sends one `Dissociate`, on a stream of its own, and the server
takes the session out of its table. The packets of the association are on other streams, or in
datagrams, and nothing orders the two. So the `Dissociate` can overtake a packet; it then removes
nothing, or the wrong session, and the packet puts a session into the table that nobody will take
out again (`not_released`).

In every run in which the last `Dissociate` of an association never overtakes a packet of it, the
table is empty once everything has come to rest (`released_of_quiescent`): whatever is in the table,
and whatever can still get there, has a `Dissociate` to come (`Accounted`). -/

namespace Tuic.EndToEnd.Link

open ByteCodec Transition

variable {cfg : Config} {s s' : Link} {a : Action} {assocId : UInt32}

/-! ## What is on its way -/

/-- Handler `i` of the server, which stands at `t`, has the frame `f`. -/
def Serves (s : Link) (i : Nat) (t : Server.Task) (f : Client.Frame) : Prop :=
  s.server.tasks[i]? = some t ∧
    ∃ (k : Nat) (snd : Client.Send), s.origin[i]? = some (.send k) ∧
      s.client.sends[k]? = some snd ∧ snd.frame = f

/-- A packet of the association may still put a session into the server's table: the packet has not
reached a handler, and is neither lost nor refused, or its handler has not pushed it yet. -/
def PacketPending (s : Link) (assocId : UInt32) : Prop :=
  (∃ (k : Nat) (snd : Client.Send), s.client.sends[k]? = some snd ∧
    snd.frame.packetId = some assocId ∧ .send k ∉ s.origin ∧ k ∉ s.lost ∧ ¬ snd.Refused) ∨
  ∃ (i : Nat) (t : Server.Task) (f : Client.Frame), s.Serves i t f ∧
    f.packetId = some assocId ∧ t.pc.mayInsert = true

/-- A `Dissociate` of the association is to come: the association has not ended, or its `Dissociate`
has not reached a handler, or its handler has not returned. -/
def DissociatePending (s : Link) (assocId : UInt32) : Prop :=
  s.client.Active assocId ∨
  (∃ (k : Nat) (snd : Client.Send), s.client.sends[k]? = some snd ∧
    snd.frame.dissociateId = some assocId ∧ .send k ∉ s.origin) ∨
  ∃ (i : Nat) (t : Server.Task) (f : Client.Frame), s.Serves i t f ∧
    f.dissociateId = some assocId ∧ t.pc ≠ .done

/-- Handler `i` has the last `Dissociate` of the association that is to come. -/
structure LastDissociate (s : Link) (i : Nat) (assocId : UInt32) : Prop where
  /-- No association with that id is active. -/
  ended : ¬ s.client.Active assocId
  /-- Every `Dissociate` of it has reached a handler. -/
  arrived : ∀ (k : Nat) (snd : Client.Send), s.client.sends[k]? = some snd →
    snd.frame.dissociateId = some assocId → .send k ∈ s.origin
  /-- Every other handler of one has returned. -/
  returned : ∀ (j : Nat) (t : Server.Task) (f : Client.Frame), s.Serves j t f →
    f.dissociateId = some assocId → j = i ∨ t.pc = .done

/-- The frame of the task of the client a handler comes from, unless that is a `CONNECT`. -/
def frame? (s : Link) : Origin → Option Client.Frame
  | .send k => s.client.sends[k]?.map Client.Send.frame
  | .connect _ => none

/-- The handlers with their frames, as a list. -/
def served (s : Link) : List (Nat × Server.Task × Client.Frame) :=
  (s.server.tasks.zip s.origin).zipIdx.filterMap fun e =>
    (s.frame? e.1.2).map fun f => (e.2, e.1.1, f)

/-- The list has exactly the handlers with their frames. -/
theorem mem_served {i : Nat} {t : Server.Task} {f : Client.Frame} :
    (i, t, f) ∈ s.served ↔ s.Serves i t f := by
  rw [served, List.mem_filterMap]
  constructor
  · rintro ⟨⟨⟨t', o⟩, i'⟩, hmem, h⟩
    obtain ⟨f', hframe, heq⟩ := Option.map_eq_some_iff.mp h
    cases heq
    obtain ⟨ht, ho⟩ := List.getElem?_zip_eq_some.mp (List.mem_zipIdx_iff_getElem?.mp hmem)
    cases o with
    | send k =>
      obtain ⟨snd, hk, rfl⟩ := Option.map_eq_some_iff.mp hframe
      exact ⟨ht, k, snd, ho, hk, rfl⟩
    | connect j => cases hframe
  · rintro ⟨ht, k, snd, ho, hk, rfl⟩
    refine ⟨((t, .send k), i), List.mem_zipIdx_iff_getElem?.mpr
      (List.getElem?_zip_eq_some.mpr ⟨ht, ho⟩), ?_⟩
    have hframe : s.frame? (.send k) = some snd.frame := Option.map_eq_some_iff.mpr ⟨snd, hk, rfl⟩
    show (s.frame? (.send k)).map _ = _
    rw [hframe]
    rfl

instance (s : Link) (assocId : UInt32) : Decidable (s.PacketPending assocId) :=
  decidable_of_iff
    ((∃ e ∈ s.client.sends.zipIdx, e.1.frame.packetId = some assocId ∧ .send e.2 ∉ s.origin ∧
        e.2 ∉ s.lost ∧ ¬ e.1.Refused) ∨
      ∃ e ∈ s.served, e.2.2.packetId = some assocId ∧ e.2.1.pc.mayInsert = true)
    (or_congr
      ⟨fun ⟨e, he, h⟩ => ⟨e.2, e.1, List.mem_zipIdx_iff_getElem?.mp he, h⟩,
        fun ⟨k, snd, hk, h⟩ => ⟨(snd, k), List.mem_zipIdx_iff_getElem?.mpr hk, h⟩⟩
      ⟨fun ⟨e, he, h⟩ => ⟨e.1, e.2.1, e.2.2, mem_served.mp he, h⟩,
        fun ⟨i, t, f, hserves, h⟩ => ⟨(i, t, f), mem_served.mpr hserves, h⟩⟩)

instance (s : Link) (i : Nat) (assocId : UInt32) : Decidable (s.LastDissociate i assocId) :=
  decidable_of_iff
    ((∀ assoc ∈ s.client.assocs, assoc.assocId = assocId → assoc.pc = .dissociate) ∧
      (∀ e ∈ s.client.sends.zipIdx, e.1.frame.dissociateId = some assocId →
        .send e.2 ∈ s.origin) ∧
      ∀ e ∈ s.served, e.2.2.dissociateId = some assocId → e.1 = i ∨ e.2.1.pc = .done)
    ⟨fun ⟨hended, harrived, hreturned⟩ =>
      ⟨fun ⟨_, assoc, ha, hid, hpc⟩ => hpc (hended assoc (List.mem_of_getElem? ha) hid),
        fun k snd hk => harrived (snd, k) (List.mem_zipIdx_iff_getElem?.mpr hk),
        fun j t f hserves => hreturned (j, t, f) (mem_served.mpr hserves)⟩,
    fun ⟨hended, harrived, hreturned⟩ =>
      ⟨fun assoc hmem hid => by
        obtain ⟨a, ha⟩ := List.getElem?_of_mem hmem
        by_contra hpc
        exact hended ⟨a, assoc, ha, hid, hpc⟩,
        fun e he => harrived e.2 e.1 (List.mem_zipIdx_iff_getElem?.mp he),
        fun e he => hreturned e.1 e.2.1 e.2.2 (mem_served.mp he)⟩⟩

/-- The last `Dissociate` of an association is executed while one of its packets may still put a
session into the table. -/
def overtakes (s : Link) : Action → Bool
  | .duplex (.server (.task i _)) =>
    match s.server.tasks[i]? with
    | some ⟨_, _, .relay (.dissociate assocId)⟩ =>
      decide (s.PacketPending assocId ∧ s.LastDissociate i assocId)
    | _ => false
  | _ => false

/-! ## Serving handlers -/

/-- A sending task a handler comes from is there. -/
theorem origin_lt (hf : s.Fed) {k : Nat} (hk : .send k ∈ s.origin) :
    k < s.client.sends.length := by
  obtain ⟨i, hi⟩ := List.getElem?_of_mem hk
  obtain ⟨snd, t, hsnd, -⟩ := hf.handler_of_send hi
  exact (List.getElem?_eq_some_iff.mp hsnd).1

/-- Steps of the client leave the handlers their frames. -/
theorem serves_client (hf : s.Fed) {b : Client.Action} {c : Client.Connection}
    (h : s.client.Step b c) {i : Nat} {t : Server.Task} {f : Client.Frame} :
    Serves { s with client := c } i t f ↔ s.Serves i t f := by
  constructor
  · rintro ⟨hi, k, snd', ho, hk', rfl⟩
    have hlt := origin_lt hf (List.mem_of_getElem? ho)
    obtain ⟨snd'', hk'', hframe⟩ := hf.frame_keep h (List.getElem?_eq_getElem hlt)
    have hk' : c.sends[k]? = some snd' := hk'
    rw [hk'] at hk''
    cases hk''
    exact ⟨hi, k, _, ho, List.getElem?_eq_getElem hlt, hframe.symm⟩
  · rintro ⟨hi, k, snd, ho, hk, rfl⟩
    obtain ⟨snd', hk', hframe⟩ := hf.frame_keep h hk
    exact ⟨hi, k, snd', ho, hk', hframe⟩

/-- What arrives is served by the new handler if it is a frame, and the others are as before. -/
theorem serves_accept (hf : s.Fed) {b : Server.Action} {o : Origin} {t : Server.Task} {i : Nat}
    {t' : Server.Task} {f : Client.Frame} :
    Serves { s with
        toDuplex := { s.withServer b (s.server.spawn t) with origin := s.origin ++ [o] } } i t' f ↔
      s.Serves i t' f ∨ i = s.server.tasks.length ∧ t' = t ∧
        ∃ (k : Nat) (snd : Client.Send), o = .send k ∧ s.client.sends[k]? = some snd ∧
          snd.frame = f := by
  have hlen := hf.length
  constructor
  · rintro ⟨hi, k, snd, ho, hk, hframe⟩
    -- the new handler and its origin are both appended
    rcases getElem?_append_singleton_cases hi with ⟨rfl, rfl⟩ | hi
    · rcases getElem?_append_singleton_cases ho with ⟨-, rfl⟩ | ho
      · exact Or.inr ⟨rfl, rfl, k, snd, rfl, hk, hframe⟩
      · have hlt := (List.getElem?_eq_some_iff.mp ho).1
        omega
    · rcases getElem?_append_singleton_cases ho with ⟨rfl, -⟩ | ho
      · have hlt := (List.getElem?_eq_some_iff.mp hi).1
        omega
      · exact Or.inl ⟨hi, k, snd, ho, hk, hframe⟩
  · rintro (⟨hi, k, snd, ho, hk, hframe⟩ | ⟨rfl, rfl, k, snd, rfl, hk, hframe⟩)
    · exact ⟨getElem?_append_of_some hi, k, snd, getElem?_append_of_some ho, hk, hframe⟩
    · exact ⟨List.getElem?_concat_length, k, snd,
        by rw [← hlen]; exact List.getElem?_concat_length, hk, hframe⟩

/-- Bytes on the stream of a handler leave the handlers their frames and places. -/
theorem serves_uplink {b : Server.Action} {i : Nat} {t : Server.Task} {recv : Server.RecvStream}
    (hi : s.server.tasks[i]? = some t) {j : Nat} {f : Client.Frame} {P : Server.Pc → Prop} :
    (∃ t', Serves { s with
        toDuplex := s.withServer b
          { s.server with tasks := s.server.tasks.set i { t with recv := recv } } } j t' f ∧
        P t'.pc) ↔ ∃ t', s.Serves j t' f ∧ P t'.pc := by
  constructor
  · rintro ⟨t', ⟨hj, horigin⟩, hpc⟩
    rcases getElem?_set_cases hj with ⟨rfl, rfl⟩ | ⟨-, hj⟩
    · exact ⟨t, ⟨hi, horigin⟩, hpc⟩
    · exact ⟨t', ⟨hj, horigin⟩, hpc⟩
  · rintro ⟨t', ⟨hj, horigin⟩, hpc⟩
    by_cases hij : i = j
    · subst hij
      rw [hi] at hj
      cases hj
      exact ⟨_, ⟨getElem?_set_of_some hi, horigin⟩, hpc⟩
    · exact ⟨t', ⟨(List.getElem?_set_ne hij).trans hj, horigin⟩, hpc⟩

/-- The command a handler has is that of its frame. -/
theorem cmd_eq (hf : s.Fed) {i : Nat} {t : Server.Task} {f : Client.Frame} {cmd : Command}
    (hserves : s.Serves i t f) (hc : Server.Carries t.recv.data cmd) : cmd = f.cmd.onWire := by
  obtain ⟨hi, k, snd, ho, hk, rfl⟩ := hserves
  obtain ⟨snd', t', hk', hi', hfeeds⟩ := hf.handler_of_send ho
  rw [hi] at hi'
  cases hi'
  rw [hk] at hk'
  cases hk'
  obtain ⟨hw, hwhole⟩ := hf.sends k snd hk
  exact hfeeds.carries (wf_of_send hw hwhole) hc

/-- A handler with a packet has the frame of a sending task: a `CONNECT` is no packet. -/
theorem serves_of_packet (hf : s.Fed) {i : Nat} {t : Server.Task} {len : UInt16} {addr : Address}
    (hi : s.server.tasks[i]? = some t)
    (hc : Server.Carries t.recv.data (.packet assocId len addr)) : ∃ f, s.Serves i t f := by
  obtain ⟨o, out, ho, hout, hfeeds⟩ := hf.handler i t hi
  cases o with
  | send k =>
    obtain ⟨snd, hk, -⟩ := Option.map_eq_some_iff.mp hout
    exact ⟨snd.frame, hi, k, snd, ho, hk, rfl⟩
  | connect j =>
    have hcmd := hfeeds.carries (hf.outgoing_wf hout) hc
    obtain ⟨c, -, rfl⟩ := Option.map_eq_some_iff.mp hout
    cases hcmd

/-! ## What a step does to what is pending -/

/-- A frame with a packet on the wire is a packet. -/
theorem packetId_of_onWire {f : Client.Frame} {len : UInt16} {addr : Address}
    (h : .packet assocId len addr = f.cmd.onWire) : f.packetId = some assocId := by
  cases f with
  | packet mode assocId' pkt addr' fits =>
    cases h
    rfl
  | dissociate assocId' => cases h
  | token tokenDigest => cases h
  | heartbeat => cases h

/-- A frame with a `Dissociate` has it on the wire. -/
theorem onWire_of_dissociateId {f : Client.Frame} (h : f.dissociateId = some assocId) :
    f.cmd.onWire = .dissociate assocId := by
  cases f with
  | dissociate assocId' =>
    cases h
    rfl
  | packet mode assocId' pkt addr fits => cases h
  | token tokenDigest => cases h
  | heartbeat => cases h

/-- The server has a session for the association in its table. -/
def InTable (s : Link) (assocId : UInt32) : Prop :=
  ∃ sid, s.server.conn.udpSessions.map.lookup assocId = some sid

/-- What is in the table was there before, or its packet was pending. -/
theorem Step.inTable (h : Step cfg s a s') (hf : s.Fed)
    (hs : All (fun _ t => t.Sound cfg.server.token s.server.conn) s.server.tasks)
    (hin : s'.InTable assocId) : s.InTable assocId ∨ s.PacketPending assocId := by
  obtain ⟨sid, hsid⟩ := hin
  cases h with
  | server b e hown hstep =>
    -- a new entry is from a handler with a packet, and the packet is that of its frame
    rcases (Server.Established.step_cases hstep).entry_cases hs hsid with
      hsid | ⟨i, t, len, addr, hi, hpc, hc⟩
    · exact Or.inl ⟨sid, hsid⟩
    · obtain ⟨f, hserves⟩ := serves_of_packet hf hi hc
      exact Or.inr (Or.inr ⟨i, t, f, hserves, packetId_of_onWire (cmd_eq hf hserves hc), hpc⟩)
  | client b c hstep => exact Or.inl ⟨sid, hsid⟩
  | accept o out t ho hsent hnew hlost hpc => exact Or.inl ⟨sid, hsid⟩
  | uplink i d t ev recv hi => exact Or.inl ⟨sid, hsid⟩
  | other b connects receiving replyOf => exact Or.inl ⟨sid, hsid⟩
  | lose k snd hk hch => exact Or.inl ⟨sid, hsid⟩

/-- A packet is pending because it was, or because an active association has just handed it over. -/
theorem Step.packetPending (h : Step cfg s a s') (hf : s.Fed) (hp : s'.PacketPending assocId) :
    s.PacketPending assocId ∨ s'.client.Active assocId := by
  cases h with
  | client b c hstep =>
    rcases hp with ⟨k, snd', hk', hid, hnew, hlost, href⟩ | ⟨i, t, f, hserves, hid, hpc⟩
    · rcases hstep.send_cases hk' with ⟨snd, hk, rfl | ⟨outcome, hsend⟩⟩ |
        ⟨f, -, rfl, hactive⟩
      · exact Or.inl (Or.inl ⟨k, snd', hk, hid, hnew, hlost, href⟩)
      · obtain ⟨-, hframe, -⟩ := (hf.sends k snd hk).1.step hsend
        exact Or.inl (Or.inl ⟨k, snd, hk, hframe ▸ hid, hnew, hlost,
          Client.Send.not_refused_of_step hsend⟩)
      -- a packet that is new is from a request that still waits for packets
      · obtain ⟨b, assoc, hb, hassoc, hpc⟩ := hactive assocId hid
        exact Or.inr ⟨b, assoc, hb, hassoc, by rw [hpc]; decide⟩
    · exact Or.inl (Or.inr ⟨i, t, f, (serves_client hf hstep).mp hserves, hid, hpc⟩)
  | server b e hown hstep =>
    refine Or.inl (hp.imp_right ?_)
    rintro ⟨i, t', f, ⟨hi, horigin⟩, hid, hpc⟩
    obtain ⟨t, hi₀, -, -, -, heq | htask⟩ :=
      (Duplex.own_tasks hown (Server.Established.step_cases hstep)).2 i t' hi
    · exact ⟨i, t, f, ⟨hi₀, horigin⟩, hid, heq ▸ hpc⟩
    · exact ⟨i, t, f, ⟨hi₀, horigin⟩, hid, htask.mayInsert hpc⟩
  | accept o out t ho hsent hnew hlost hpc =>
    refine Or.inl ?_
    rcases hp with ⟨k', snd', hk', hid, hnew', hrest⟩ | ⟨i, t', f, hserves, hid, hpc'⟩
    · exact Or.inl ⟨k', snd', hk', hid, fun hmem => hnew' (List.mem_append_left _ hmem), hrest⟩
    · rcases (serves_accept hf).mp hserves with hserves | ⟨-, -, k, snd, rfl, hk, rfl⟩
      · exact Or.inr ⟨i, t', f, hserves, hid, hpc'⟩
      -- the frame has arrived: it was on its way before, since something of it was sent
      · obtain ⟨snd', hk', rfl⟩ := Option.map_eq_some_iff.mp ho
        rw [hk] at hk'
        cases hk'
        exact Or.inl ⟨k, snd, hk, hid, hnew, hlost k rfl, fun href => hsent href.2⟩
  | uplink i d t ev recv hi =>
    refine Or.inl (hp.imp_right ?_)
    rintro ⟨j, t', f, hserves, hid, hpc⟩
    obtain ⟨t₀, hserves₀, hpc₀⟩ :=
      (serves_uplink hi (P := fun pc => pc.mayInsert = true)).mp ⟨t', hserves, hpc⟩
    exact ⟨j, t₀, f, hserves₀, hid, hpc₀⟩
  | other b connects receiving replyOf => exact Or.inl hp
  | lose k snd hk hch =>
    refine Or.inl (hp.imp_left ?_)
    rintro ⟨k', snd', hk', hid, hnew, hlost, href⟩
    exact ⟨k', snd', hk', hid, hnew, fun hmem => hlost (List.mem_cons_of_mem _ hmem), href⟩

/-- An active association stays active, or its `Dissociate` is to be sent. -/
theorem Step.of_active (h : Step cfg s a s') (hf : s.Fed) (hact : s.client.Active assocId) :
    s'.DissociatePending assocId := by
  cases h with
  | client b c hstep =>
    rcases hstep.active hact with hact | hnew
    · exact Or.inl hact
    -- the task of the `Dissociate` is new, so no handler comes from it yet
    · refine Or.inr (Or.inl ⟨_, _, hnew, rfl, fun hmem => ?_⟩)
      have hlt := origin_lt hf hmem
      omega
  | server b e hown hstep => exact Or.inl hact
  | accept o out t ho hsent hnew hlost hpc => exact Or.inl hact
  | uplink i d t ev recv hi => exact Or.inl hact
  | other b connects receiving replyOf => exact Or.inl hact
  | lose k snd hk hch => exact Or.inl hact

/-- A `Dissociate` that has not arrived is still to arrive, or its handler is to run. -/
theorem Step.of_not_arrived (h : Step cfg s a s') (hf : s.Fed) {k : Nat} {snd : Client.Send}
    (hk : s.client.sends[k]? = some snd) (hid : snd.frame.dissociateId = some assocId)
    (hnew : .send k ∉ s.origin) : s'.DissociatePending assocId := by
  cases h with
  | client b c hstep =>
    obtain ⟨snd', hk', hframe⟩ := hf.frame_keep hstep hk
    exact Or.inr (Or.inl ⟨k, snd', hk', hframe ▸ hid, hnew⟩)
  | accept o out t ho hsent hnew' hlost hpc =>
    by_cases hko : o = .send k
    · exact Or.inr (Or.inr ⟨_, t, snd.frame,
        (serves_accept hf).mpr (Or.inr ⟨rfl, rfl, k, snd, hko, hk, rfl⟩), hid,
        by rw [hpc]; decide⟩)
    · refine Or.inr (Or.inl ⟨k, snd, hk, hid, fun hmem => ?_⟩)
      rcases List.mem_append.mp hmem with hmem | hmem
      · exact hnew hmem
      · exact hko (List.mem_singleton.mp hmem).symm
  | server b e hown hstep => exact Or.inr (Or.inl ⟨k, snd, hk, hid, hnew⟩)
  | uplink i d t ev recv hi => exact Or.inr (Or.inl ⟨k, snd, hk, hid, hnew⟩)
  | other b connects receiving replyOf => exact Or.inr (Or.inl ⟨k, snd, hk, hid, hnew⟩)
  | lose k' snd' hk' hch => exact Or.inr (Or.inl ⟨k, snd, hk, hid, hnew⟩)

/-- The handler of a `Dissociate` is still to run, or it has just executed it; then its entry is out
of the table. -/
theorem Step.of_serves (h : Step cfg s a s') (hf : s.Fed)
    (hs : All (fun _ t => t.Sound cfg.server.token s.server.conn) s.server.tasks)
    (hs' : All (fun _ t => t.Sound cfg.server.token s'.server.conn) s'.server.tasks) {i : Nat}
    {t : Server.Task} {f : Client.Frame} (hserves : s.Serves i t f)
    (hid : f.dissociateId = some assocId) (hpc : t.pc ≠ .done) :
    s'.DissociatePending assocId ∨ (∃ outcome, a = .duplex (.server (.task i outcome))) ∧
      t.pc = .relay (.dissociate assocId) ∧ ¬ s'.InTable assocId := by
  cases h with
  | client b c hstep =>
    exact Or.inl (Or.inr (Or.inr ⟨i, t, f, (serves_client hf hstep).mpr hserves, hid, hpc⟩))
  | accept o out t' ho hsent hnew hlost hpc' =>
    exact Or.inl (Or.inr (Or.inr ⟨i, t, f, (serves_accept hf).mpr (Or.inl hserves), hid, hpc⟩))
  | other b connects receiving replyOf =>
    exact Or.inl (Or.inr (Or.inr ⟨i, t, f, hserves, hid, hpc⟩))
  | uplink j d t' ev recv hj =>
    obtain ⟨t₀, hserves₀, hpc₀⟩ :=
      (serves_uplink hj (P := fun pc => pc ≠ .done)).mpr ⟨t, hserves, hpc⟩
    exact Or.inl (Or.inr (Or.inr ⟨i, t₀, f, hserves₀, hid, hpc₀⟩))
  | lose k snd hk hch => exact Or.inl (Or.inr (Or.inr ⟨i, t, f, hserves, hid, hpc⟩))
  | server b e hown hstep =>
    obtain ⟨hi, horigin⟩ := hserves
    rcases (Server.Established.step_cases hstep).task_keep hi with
      ⟨recv, hi', -⟩ | ⟨outcome, t', rfl, hi', htask⟩
    · exact Or.inl (Or.inr (Or.inr ⟨i, _, f, ⟨hi', horigin⟩, hid, hpc⟩))
    by_cases hdone : t'.pc = .done
    · -- the handler returns, so its command is there, and it is that of its frame
      have hpcs := (hs' i t' hi').2
      rw [hdone] at hpcs
      obtain ⟨cmd, hc, -⟩ := hpcs
      rw [htask.stream_eq.2.1] at hc
      obtain rfl : cmd = .dissociate assocId :=
        (cmd_eq hf ⟨hi, horigin⟩ hc).trans (onWire_of_dissociateId hid)
      obtain ⟨hrelay, hmap⟩ := htask.done_of_dissociate (hs i t hi) hc hdone
      refine Or.inr ⟨⟨outcome, rfl⟩, hrelay, ?_⟩
      rintro ⟨sid, hsid⟩
      have hsid : e.conn.udpSessions.map.lookup assocId = some sid := hsid
      rw [hmap, AList.lookup_erase] at hsid
      cases hsid
    · exact Or.inl (Or.inr (Or.inr ⟨i, t', f, ⟨hi', horigin⟩, hid, hdone⟩))

/-- **A `Dissociate` is to come until the last one is executed**, and then its entry is out of the
table. -/
theorem Step.dissociatePending (h : Step cfg s a s') (hf : s.Fed)
    (hs : All (fun _ t => t.Sound cfg.server.token s.server.conn) s.server.tasks)
    (hs' : All (fun _ t => t.Sound cfg.server.token s'.server.conn) s'.server.tasks)
    (hd : s.DissociatePending assocId) :
    s'.DissociatePending assocId ∨
      ∃ (i : Nat) (outcome : Server.Outcome) (t : Server.Task),
        a = .duplex (.server (.task i outcome)) ∧ s.server.tasks[i]? = some t ∧
        t.pc = .relay (.dissociate assocId) ∧ s.LastDissociate i assocId ∧
        ¬ s'.InTable assocId := by
  by_cases hd' : s'.DissociatePending assocId
  · exact Or.inl hd'
  rcases hd with hact | ⟨k, snd, hk, hid, hnew⟩ | ⟨i, t, f, hserves, hid, hpc⟩
  · exact Or.inl (h.of_active hf hact)
  · exact Or.inl (h.of_not_arrived hf hk hid hnew)
  obtain ⟨⟨outcome, rfl⟩, hrelay, hout⟩ :=
    (h.of_serves hf hs hs' hserves hid hpc).resolve_left hd'
  -- any other `Dissociate` to come would still be to come
  refine Or.inr ⟨i, outcome, t, rfl, hserves.1, hrelay, ⟨?_, ?_, ?_⟩, hout⟩
  · exact fun hact => hd' (h.of_active hf hact)
  · intro k snd hk hid'
    by_contra hnew
    exact hd' (h.of_not_arrived hf hk hid' hnew)
  · intro j t' f' hserves' hid'
    by_cases hdone : t'.pc = .done
    · exact Or.inr hdone
    · obtain ⟨⟨outcome', heq⟩, -⟩ :=
        (h.of_serves hf hs hs' hserves' hid' hdone).resolve_left hd'
      cases heq
      exact Or.inl rfl

/-- The handlers of its server are sound. -/
theorem sound_of_reachable {C : Link → Action → Prop} (h : (linkSystem cfg).ReachableBy C s) :
    All (fun _ t => t.Sound cfg.server.token s.server.conn) s.server.tasks :=
  Server.Established.sound_of_reachable (server_reachable h)

/-! ## The account -/

/-- **The account of sessions**: what is in the table, or may still get there, has a `Dissociate` to
come. -/
def Accounted (s : Link) : Prop :=
  ∀ assocId, s.InTable assocId ∨ s.PacketPending assocId → s.DissociatePending assocId

/-- The account holds as long as no last `Dissociate` overtakes a packet. -/
theorem accounted_of_reachable
    (h : (linkSystem cfg).ReachableBy (fun s a => s.overtakes a = false) s) : s.Accounted := by
  refine h.invariant (I := Accounted) ?_ ?_
  · rintro assocId (⟨sid, hsid⟩ | ⟨k, snd, hk, hid, -⟩ | ⟨i, t, f, ⟨hi, -⟩, -⟩)
    · cases hsid
    · have hmem : snd ∈ [Client.Send.new (.token cfg.tokenDigest)] := List.mem_of_getElem? hk
      rw [List.mem_singleton.mp hmem] at hid
      cases hid
    · cases hi
  · intro s a s' hs ih hok hstep assocId hp
    have hcases := step_cases hstep
    have hf := Duplex.fed_of_reachable (duplex_of_reachable hs)
    have hsound := sound_of_reachable hs
    have hsound' := sound_of_reachable (.step hs hok hstep)
    -- before the step a `Dissociate` was to come, unless the association is active now
    have hback : s.DissociatePending assocId ∨ s'.client.Active assocId := by
      rcases hp with hin | hpkt
      · exact Or.inl (ih assocId (hcases.inTable hf hsound hin))
      · exact (hcases.packetPending hf hpkt).imp_left fun hpkt => ih assocId (Or.inr hpkt)
    rcases hback with hd | hact
    · rcases hcases.dissociatePending hf hsound hsound' hd with
        hd | ⟨i, outcome, t, rfl, hi, hpc, hlast, hout⟩
      · exact hd
      · -- the last `Dissociate` is executed, and overtakes no packet
        have hnone : ¬ s.PacketPending assocId := by
          obtain ⟨src, recv, pc⟩ := t
          cases hpc
          intro hpkt
          simp [overtakes, hi, hpkt, hlast] at hok
        rcases hp with hin | hpkt
        · exact absurd hin hout
        · exact Or.inl ((hcases.packetPending hf hpkt).resolve_left hnone)
    · exact Or.inl hact

/-! ## At rest -/

/-- Everything has come to rest on an open connection. (A connection that is closed takes its
session table along.) -/
structure Quiescent (s : Link) : Prop where
  /-- The connection is open at both ends. -/
  up : s.client.closed = false ∧ s.server.conn.controller = none
  /-- Every association has ended. -/
  ended : ∀ assoc ∈ s.client.assocs, assoc.pc = .dissociate
  /-- Every sending task has returned. -/
  sent : ∀ snd ∈ s.client.sends, snd.pc = .returned true ∨ snd.pc = .returned false
  /-- Everything that was sent has reached a handler, but for lost datagrams. -/
  arrived : ∀ (k : Nat) (snd : Client.Send), s.client.sends[k]? = some snd →
    .send k ∈ s.origin ∨ k ∈ s.lost ∨ snd.Refused
  /-- Every handler has returned. -/
  returned : ∀ t ∈ s.server.tasks, t.returned = true

instance (s : Link) : Decidable s.Quiescent :=
  decidable_of_iff
    ((s.client.closed = false ∧ s.server.conn.controller = none) ∧
      (∀ assoc ∈ s.client.assocs, assoc.pc = .dissociate) ∧
      (∀ snd ∈ s.client.sends, snd.pc = .returned true ∨ snd.pc = .returned false) ∧
      (∀ e ∈ s.client.sends.zipIdx, .send e.2 ∈ s.origin ∨ e.2 ∈ s.lost ∨ e.1.Refused) ∧
      ∀ t ∈ s.server.tasks, t.returned = true)
    ⟨fun ⟨hup, hended, hsent, harrived, hreturned⟩ => ⟨hup, hended, hsent,
      fun k snd hk => harrived (snd, k) (List.mem_zipIdx_iff_getElem?.mpr hk), hreturned⟩,
    fun ⟨hup, hended, hsent, harrived, hreturned⟩ => ⟨hup, hended, hsent,
      fun e he => harrived e.2 e.1 (List.mem_zipIdx_iff_getElem?.mp he), hreturned⟩⟩

/-- A `Dissociate` is sent on a stream. -/
theorem channel_of_dissociateId {f : Client.Frame} (h : f.dissociateId = some assocId) :
    f.channel = .uniStream := by
  cases f with
  | dissociate assocId' => rfl
  | packet mode assocId' pkt addr fits => cases h
  | token tokenDigest => cases h
  | heartbeat => cases h

/-- At rest no `Dissociate` is to come. -/
theorem Quiescent.not_dissociatePending {C : Link → Action → Prop} (hq : s.Quiescent)
    (hs : (linkSystem cfg).ReachableBy C s) : ¬ s.DissociatePending assocId := by
  obtain ⟨⟨hclient, hserver⟩, hended, -, harrived, hreturned⟩ := hq
  have hf := Duplex.fed_of_reachable (duplex_of_reachable hs)
  rintro (⟨b, assoc, hb, -, hpc⟩ | ⟨k, snd, hk, hid, hnew⟩ | ⟨i, t, f, ⟨hi, -⟩, -, hpc⟩)
  · exact hpc (hended assoc (List.mem_of_getElem? hb))
  · -- a `Dissociate` is on a stream, which is not lost, nor refused while the connection is open
    have hch := channel_of_dissociateId hid
    rcases harrived k snd hk with horigin | hlost | ⟨hfailed, hnil⟩
    · exact hnew horigin
    · obtain ⟨snd', hk', hch'⟩ := lost_of_reachable hs k hlost
      rw [hk] at hk'
      cases hk'
      rw [hch] at hch'
      cases hch'
    · have hclosed := (hf.sends k snd hk).1.failed hfailed hnil hch
      rw [hclient] at hclosed
      cases hclosed
  · have hret := hreturned t (List.mem_of_getElem? hi)
    unfold Server.Task.returned at hret
    split at hret
    · rename_i hdone
      exact hpc hdone
    · rename_i err hfailed
      exact Server.Established.closed_of_failed (server_reachable hs) i t hi err hfailed hserver
    · cases hret

/-- **No session survives its association**, in every run in which the last `Dissociate` of an
association never overtakes a packet of it: once everything has come to rest, the server's session
table is empty. -/
theorem released_of_quiescent (cfg : Config) (s : Link)
    (hs : (linkSystem cfg).ReachableBy (fun s a => s.overtakes a = false) s) (hq : s.Quiescent) :
    s.server.conn.udpSessions.map = ∅ := by
  have hnone : ∀ assocId, assocId ∉ s.server.conn.udpSessions.map := by
    intro assocId hmem
    obtain ⟨sid, hsid⟩ := Option.isSome_iff_exists.mp (AList.lookup_isSome.mpr hmem)
    exact hq.not_dissociatePending hs (accounted_of_reachable hs assocId (Or.inl ⟨sid, hsid⟩))
  refine AList.ext (List.eq_nil_iff_forall_not_mem.mpr fun e he => ?_)
  exact hnone e.1 (List.mem_keys_of_mem he)

/-- A packet and then the `Dissociate` of its association: the session is created and released. -/
theorem released_of_quiescent_in_order :
    ∃ s, (linkSystem ⟨.quic, .replicate 32 7, ⟨[.replicate 32 7], 1500⟩⟩).ReachableBy
        (fun s a => s.overtakes a = false) s ∧ s.Quiescent ∧
      s.server.conn.udpSessions.sessions.length = 1 ∧ s.server.conn.udpSessions.map = ∅ := by
  obtain ⟨s, hs, hp⟩ := System.exists_reachableBy_of_runBy
    (linkSystem ⟨.quic, .replicate 32 7, ⟨[.replicate 32 7], 1500⟩⟩)
    (fun s a => !s.overtakes a)
    (.map .duplex [
      -- the client authenticates
      .client (.send 0 .ok), .client (.send 0 .ok), .client (.send 0 .ok),
      .accept (.send 0), .uplink 0 (.bytes 34),
      .server (.task 0 .ok), .server (.task 0 .ok), .server (.task 0 .ok),
      -- an association sends one packet and ends
      .client (.request 7), .client (.associate 0 .go),
      .client (.associate 0 (.recv (some ([1], .socketAddress (.v4 ⟨9, 9, 9, 9⟩ 53))))),
      .client (.associate 0 (.recv none)), .client (.associate 0 .go),
      -- the packet
      .client (.send 1 .ok), .client (.send 1 .ok), .client (.send 1 .ok), .client (.send 1 .ok),
      .accept (.send 1), .uplink 1 (.bytes 100),
      .server (.task 1 .ok), .server (.task 1 .ok), .server (.task 1 .ok), .server (.task 1 .ok),
      .server (.task 1 .ok), .server (.task 1 .ok), .server (.task 1 .ok), .server (.task 1 .ok),
      -- the `Dissociate`
      .client (.send 2 .ok), .client (.send 2 .ok), .client (.send 2 .ok),
      .accept (.send 2), .uplink 2 (.bytes 6),
      .server (.task 2 .ok), .server (.task 2 .ok), .server (.task 2 .ok), .server (.task 2 .ok)])
    (fun s => decide (s.Quiescent ∧ s.server.conn.udpSessions.sessions.length = 1)) (by decide)
  obtain ⟨hq, hlen⟩ := of_decide_eq_true hp
  have hs : (linkSystem ⟨.quic, .replicate 32 7, ⟨[.replicate 32 7], 1500⟩⟩).ReachableBy
      (fun s a => s.overtakes a = false) s :=
    hs.mono fun s a h => by simpa using h
  exact ⟨s, hs, hq, hlen, released_of_quiescent _ s hs hq⟩

/-- The same two commands, the `Dissociate` first: the session stays. -/
theorem not_released :
    ¬ ∀ s, (linkSystem ⟨.quic, .replicate 32 7, ⟨[.replicate 32 7], 1500⟩⟩).Reachable s →
      s.Quiescent → s.server.conn.udpSessions.map = ∅ := by
  intro hall
  obtain ⟨s, hs, hp⟩ := System.exists_reachable_of_run
    (linkSystem ⟨.quic, .replicate 32 7, ⟨[.replicate 32 7], 1500⟩⟩)
    (.map .duplex [
      .client (.send 0 .ok), .client (.send 0 .ok), .client (.send 0 .ok),
      .accept (.send 0), .uplink 0 (.bytes 34),
      .server (.task 0 .ok), .server (.task 0 .ok), .server (.task 0 .ok),
      .client (.request 7), .client (.associate 0 .go),
      .client (.associate 0 (.recv (some ([1], .socketAddress (.v4 ⟨9, 9, 9, 9⟩ 53))))),
      .client (.associate 0 (.recv none)), .client (.associate 0 .go),
      -- the `Dissociate` finds nothing to remove
      .client (.send 2 .ok), .client (.send 2 .ok), .client (.send 2 .ok),
      .accept (.send 2), .uplink 1 (.bytes 6),
      .server (.task 1 .ok), .server (.task 1 .ok), .server (.task 1 .ok), .server (.task 1 .ok),
      -- the packet creates its session
      .client (.send 1 .ok), .client (.send 1 .ok), .client (.send 1 .ok), .client (.send 1 .ok),
      .accept (.send 1), .uplink 2 (.bytes 100),
      .server (.task 2 .ok), .server (.task 2 .ok), .server (.task 2 .ok), .server (.task 2 .ok),
      .server (.task 2 .ok), .server (.task 2 .ok), .server (.task 2 .ok), .server (.task 2 .ok)])
    (fun s => decide (s.Quiescent ∧ s.server.conn.udpSessions.map.lookup 7 = some 0)) (by decide)
  obtain ⟨hq, hentry⟩ := of_decide_eq_true hp
  rw [hall s hs hq] at hentry
  cases hentry

end Tuic.EndToEnd.Link
