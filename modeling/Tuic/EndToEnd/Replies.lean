import Tuic.EndToEnd.Feed

/-! # What the client reads of the server's replies

Every task of the client's receiving side reads one reply of the server, and no two the same: its
bytes are a beginning of what was written on the channel of that reply, and all of it once the end
is there (`Reads`). What such a task hands on is the packet that its bytes are read as, and it goes
to the association that was entered under the id in the packet (`replying_of_reachable`). -/

namespace Tuic

open ByteCodec Reader Transition

/-! ## The tasks of the receiving side -/

namespace Client

/-- What the bytes of a task are read as, where it stands. -/
def Incoming.Stands (assocs : List Association) (t : Incoming) : Prop :=
  match t.pc with
  | .parse | .done => True
  | .get r => t.parse = .ok r
  | .send a pkt addr => ∃ assocId, t.parse = .ok (assocId, pkt, addr) ∧
      assocs[a]?.map Association.assocId = some assocId
  | .failed _ => t.recv.status = .failed ∨ ∃ err, t.parse = .error (.io err) ∧
      (err.kind = .unexpectedEof → t.recv.status ≠ .receiving)
  | .panicked => t.parse = .error .panic

variable {t : Incoming} {ev : Server.StreamEvent} {recv : RecvStream}

/-- Something arrives on a stream, so the task has no datagram. -/
theorem Incoming.uniStream_of_on (hdatagram : t.channel = .datagram → t.recv.status = .finished)
    (hon : t.recv.on ev = some recv) : t.channel = .uniStream := by
  obtain ⟨hst, -⟩ := Server.RecvStream.on_cases hon
  cases hch : t.channel with
  | uniStream => rfl
  | datagram =>
    rw [hdatagram hch] at hst
    cases hst

/-- More bytes do not change the packet that was read. -/
theorem Incoming.parse_ok_on (hch : t.channel = .uniStream) (hon : t.recv.on ev = some recv)
    {r : Received} (h : t.parse = .ok r) : ({ t with recv := recv } : Incoming).parse = .ok r := by
  obtain ⟨-, -, x, hx⟩ := Server.RecvStream.on_cases hon
  simp only [Incoming.parse, hch] at h ⊢
  cases hparse : parseUniStream t.recv.data with
  | error e =>
    rw [hparse] at h
    cases h
  | ok res =>
    rw [hparse] at h
    cases h
    rw [hx, final_parseUniStream.ok hparse x]
    rfl

/-- Nor the error, unless it is that the bytes ended. -/
theorem Incoming.parse_error_on (hch : t.channel = .uniStream) (hon : t.recv.on ev = some recv)
    {e : Failure} (h : t.parse = .error e) (hne : ¬ IsEof e) :
    ({ t with recv := recv } : Incoming).parse = .error e := by
  obtain ⟨-, -, x, hx⟩ := Server.RecvStream.on_cases hon
  simp only [Incoming.parse, hch] at h ⊢
  cases hparse : parseUniStream t.recv.data with
  | ok res =>
    rw [hparse] at h
    cases h
  | error e' =>
    rw [hparse] at h
    cases h
    rw [hx, final_parseUniStream.error hparse hne x]
    rfl

/-- More bytes keep what the bytes of a task are read as. -/
theorem Incoming.Stands.on {assocs : List Association} (h : t.Stands assocs)
    (hdatagram : t.channel = .datagram → t.recv.status = .finished)
    (hon : t.recv.on ev = some recv) : ({ t with recv := recv } : Incoming).Stands assocs := by
  have hch := Incoming.uniStream_of_on hdatagram hon
  obtain ⟨hst, -⟩ := Server.RecvStream.on_cases hon
  unfold Incoming.Stands at h ⊢
  cases hpc : t.pc with
  | parse => trivial
  | done => trivial
  | get r =>
    rw [hpc] at h
    exact Incoming.parse_ok_on hch hon h
  | send a pkt addr =>
    rw [hpc] at h
    obtain ⟨assocId, hparse, ha⟩ := h
    exact ⟨assocId, Incoming.parse_ok_on hch hon hparse, ha⟩
  | failed err =>
    rw [hpc] at h
    rcases h with hfailed | ⟨e, hparse, heof⟩
    · rw [hst] at hfailed
      cases hfailed
    -- the stream was still receiving, so the error is not that the bytes ended
    · have hne : ¬ IsEof (.io e) := fun h => heof h hst
      exact Or.inr ⟨e, Incoming.parse_error_on hch hon hparse hne, fun h => absurd h hne⟩
  | panicked =>
    rw [hpc] at h
    exact Incoming.parse_error_on hch hon h id

/-- A step of the client keeps the associations. -/
theorem Incoming.Stands.mono {assocs assocs' : List Association} (h : t.Stands assocs)
    (hkeep : ∀ (a : Nat) (assocId : UInt32), assocs[a]?.map Association.assocId = some assocId →
      assocs'[a]?.map Association.assocId = some assocId) : t.Stands assocs' := by
  unfold Incoming.Stands at h ⊢
  split at h
  · trivial
  · trivial
  · exact h
  · obtain ⟨assocId, hparse, ha⟩ := h
    exact ⟨assocId, hparse, hkeep _ _ ha⟩
  · exact h
  · exact h

/-- An association keeps its id. -/
theorem Connection.Step.assocIds {c c' : Connection} {b : Action} (h : c.Step b c') {a : Nat}
    {assocId : UInt32} (ha : c.assocs[a]?.map Association.assocId = some assocId) :
    c'.assocs[a]?.map Association.assocId = some assocId := by
  obtain ⟨assoc, hassoc, rfl⟩ := Option.map_eq_some_iff.mp ha
  obtain ⟨assoc', ha', hid⟩ := h.assocId_eq hassoc
  rw [ha', Option.map_some, hid]

/-- A connection keeps its relay mode. -/
theorem Connection.Step.udpRelayMode {c c' : Connection} {b : Action} (h : c.Step b c') :
    c'.udpRelayMode = c.udpRelayMode := by
  cases h <;> rfl

end Client

namespace EndToEnd.Duplex

variable {cfg : Config} {s s' : Duplex} {a : DuplexAction}

/-! ## Replies and the tasks that read them -/

/-- A task of the receiving side reads reply `k`. -/
structure Reads (s : Duplex) (k : Nat) (t : Client.Incoming) : Prop where
  /-- It came in on the channel of the relay mode. -/
  channel : t.channel = s.client.udpRelayMode.channel
  /-- The reply was written. -/
  written : s.replyBytes k ≠ []
  /-- The task has a beginning of it. -/
  data : t.recv.data <+: s.replyBytes k
  /-- A datagram is whole. -/
  datagram : t.channel = .datagram → t.recv.status = .finished
  /-- At the end of its stream it has all of it. -/
  finished : t.recv.status = .finished → t.recv.data = s.replyBytes k ∧
    (t.channel = .uniStream →
      .finish (s.client.udpRelayMode.peerChannel k) ∈ s.server.conn.log)
  /-- Its stream fails with the connection. -/
  failed : t.recv.status = .failed → s.client.closed = true

/-- Task `j` of the receiving side has put something into the receive channel of an association: the
packet that its bytes are read as, which is for that association. -/
def DeliveredBy (s : Duplex) (j : Nat) (x : Nat × Bytes × Address) : Prop :=
  ∃ t assocId, s.receiving.tasks[j]? = some t ∧ t.pc = .done ∧
    t.parse = .ok (assocId, x.2.1, x.2.2) ∧
    s.client.assocs[x.1]?.map Client.Association.assocId = some assocId

/-- **How the two ends hang together**, from the server to the client. -/
structure Replying (s : Duplex) : Prop where
  /-- The session table has live associations under their ids. -/
  entered : s.client.EntriesLive
  /-- Every task comes from a reply. -/
  length : s.replyOf.length = s.receiving.tasks.length
  /-- No two come from the same. -/
  nodup : s.replyOf.Nodup
  /-- What it has comes from that reply. -/
  reads : ∀ (j : Nat) (t : Client.Incoming), s.receiving.tasks[j]? = some t →
    ∃ k, s.replyOf[j]? = some k ∧ s.Reads k t
  /-- What it hands on is what its bytes are read as. -/
  stands : All (fun _ t => t.Stands s.client.assocs) s.receiving.tasks
  /-- So is what was put into the receive channels, each by a task of its own. -/
  delivered : Matched s.DeliveredBy s.receiving.delivered

/-- Where the channels of the replies are as they were, a task reads what it read. -/
theorem Reads.keep {k : Nat} {t : Client.Incoming} (h : s.Reads k t)
    (hmode : s'.client.udpRelayMode = s.client.udpRelayMode)
    (hclosed : s.client.closed = true → s'.client.closed = true)
    (hbytes : s.replyBytes k ≠ [] → s'.replyBytes k = s.replyBytes k)
    (hlog : ∀ e ∈ s.server.conn.log, e ∈ s'.server.conn.log) : s'.Reads k t := by
  have hsame := hbytes h.written
  refine ⟨by rw [hmode, h.channel], hsame ▸ h.written, hsame ▸ h.data, h.datagram, fun hst => ?_,
    fun hst => hclosed (h.failed hst)⟩
  obtain ⟨hall, hend⟩ := h.finished hst
  refine ⟨hsame ▸ hall, fun hch => ?_⟩
  rw [hmode]
  exact hlog _ (hend hch)

/-- A task keeps what it has put into a receive channel. -/
theorem deliveredBy_keep {j : Nat} {x : Nat × Bytes × Address} (h : s.DeliveredBy j x)
    (htask : ∀ t, s.receiving.tasks[j]? = some t → t.pc = .done →
      ∃ t', s'.receiving.tasks[j]? = some t' ∧ t'.pc = .done ∧
        ∀ r, t.parse = .ok r → t'.parse = .ok r)
    (hassocs : ∀ (a : Nat) (assocId : UInt32),
      s.client.assocs[a]?.map Client.Association.assocId = some assocId →
      s'.client.assocs[a]?.map Client.Association.assocId = some assocId) : s'.DeliveredBy j x := by
  obtain ⟨t, assocId, hj, hpc, hparse, ha⟩ := h
  obtain ⟨t', hj', hpc', hkeep⟩ := htask t hj hpc
  exact ⟨t', assocId, hj', hpc', hkeep _ hparse, hassocs _ _ ha⟩

/-- The two ends stay together when the receiving side does nothing, and the channels of the replies
are as they were. -/
theorem Replying.keep (h : s.Replying) (hreceiving : s'.receiving = s.receiving)
    (hreplyOf : s'.replyOf = s.replyOf) (hentered : s'.client.EntriesLive)
    (hmode : s'.client.udpRelayMode = s.client.udpRelayMode)
    (hclosed : s.client.closed = true → s'.client.closed = true)
    (hassocs : ∀ (a : Nat) (assocId : UInt32),
      s.client.assocs[a]?.map Client.Association.assocId = some assocId →
      s'.client.assocs[a]?.map Client.Association.assocId = some assocId)
    (hbytes : ∀ k, s.replyBytes k ≠ [] → s'.replyBytes k = s.replyBytes k)
    (hlog : ∀ e ∈ s.server.conn.log, e ∈ s'.server.conn.log) : s'.Replying := by
  refine ⟨hentered, by rw [hreceiving, hreplyOf]; exact h.length, by rw [hreplyOf]; exact h.nodup,
    fun j t hj => ?_, ?_, ?_⟩
  · rw [hreceiving] at hj
    obtain ⟨k, hk, hreads⟩ := h.reads j t hj
    exact ⟨k, by rw [hreplyOf, hk], hreads.keep hmode hclosed (hbytes k) hlog⟩
  · rw [hreceiving]
    exact h.stands.mono fun _ _ _ hstands => hstands.mono hassocs
  · rw [hreceiving]
    refine h.delivered.mono fun j x hx => deliveredBy_keep hx (fun t hj hpc => ?_) hassocs
    rw [hreceiving]
    exact ⟨t, hj, hpc, fun _ => id⟩

/-- The two ends stay together when only the server makes a step. -/
theorem Replying.server (h : s.Replying) {b : Server.Action} {e : Server.Established}
    (hr : (Server.connectionSystem cfg.server).Reachable s.server)
    (hstep : (Server.connectionSystem cfg.server).step s.server b = some e)
    (hserver : s'.server = e) (hclient : s'.client = s.client)
    (hreceiving : s'.receiving = s.receiving) (hreplyOf : s'.replyOf = s.replyOf) :
    s'.Replying := by
  have hstep := Server.Established.step_cases hstep
  obtain ⟨taken, htaken⟩ := Server.Established.replied_of_reachable hr
  obtain ⟨new, hlog⟩ := hstep.log_cases
  apply h.keep hreceiving hreplyOf
  · rw [hclient]
    exact h.entered
  · rw [hclient]
  · rw [hclient]
    exact id
  · rw [hclient]
    exact fun _ _ => id
  · intro k hne
    have howner : (s.client.udpRelayMode.peerChannel k).owner = .reply k := by
      cases s.client.udpRelayMode <;> rfl
    rw [replyBytes, hclient, hserver]
    exact htaken.fixed hstep howner hne
  · intro e he
    rw [hserver, hlog]
    exact List.mem_append_right _ he

/-- A step of the client keeps the two ends together. -/
theorem Replying.client (h : s.Replying) {b : Client.Action} {c : Client.Connection}
    (hstep : s.client.Step b c) : ({ s with client := c } : Duplex).Replying := by
  have hbytes : ∀ k, s.replyBytes k ≠ [] →
      ({ s with client := c } : Duplex).replyBytes k = s.replyBytes k := by
    intro k _
    rw [replyBytes, hstep.udpRelayMode]
    rfl
  exact h.keep rfl rfl (h.entered.step hstep) hstep.udpRelayMode hstep.closed
    (fun _ _ ha => hstep.assocIds ha) hbytes fun _ => id

/-! ## The receiving side goes on -/

/-- A task of the receiving side goes on at `pc`, and the receive channels are what they are. -/
def goto (s : Duplex) (j : Nat) (t : Client.Incoming) (pc : Client.IncomingPc)
    (inbox : Nat → Client.Inbox) (delivered : List (Nat × Bytes × Address)) : Duplex :=
  { s with receiving := ⟨s.receiving.tasks.set j { t with pc := pc }, inbox, delivered⟩ }

section Goto

variable {j : Nat} {t : Client.Incoming} {pc : Client.IncomingPc} {inbox : Nat → Client.Inbox}
  {delivered : List (Nat × Bytes × Address)}

/-- A task that goes on has put nothing into a receive channel, so what was put there stays. -/
theorem deliveredBy_goto (hj : s.receiving.tasks[j]? = some t) (hpc : t.pc ≠ .done) {i : Nat}
    {x : Nat × Bytes × Address} (hx : s.DeliveredBy i x) :
    (s.goto j t pc inbox delivered).DeliveredBy i x := by
  refine deliveredBy_keep hx (fun t' hi hdone => ?_) fun _ _ => id
  have hne : j ≠ i := by
    rintro rfl
    rw [hj] at hi
    cases hi
    exact hpc hdone
  exact ⟨t', (List.getElem?_set_ne hne).trans hi, hdone, fun _ => id⟩

/-- A task goes on, and stands where its bytes say. -/
theorem Replying.goto (h : s.Replying) (hj : s.receiving.tasks[j]? = some t)
    (hstands : ({ t with pc := pc } : Client.Incoming).Stands s.client.assocs)
    (hdelivered : Matched (s.goto j t pc inbox delivered).DeliveredBy delivered) :
    (s.goto j t pc inbox delivered).Replying := by
  refine ⟨h.entered, ?_, h.nodup, fun i t' hi => ?_, ?_, hdelivered⟩
  · exact h.length.trans List.length_set.symm
  · rcases getElem?_set_cases hi with ⟨rfl, rfl⟩ | ⟨-, hi⟩
    · obtain ⟨k, hk, hreads⟩ := h.reads i t hj
      exact ⟨k, hk, hreads.channel, hreads.written, hreads.data, hreads.datagram, hreads.finished,
        hreads.failed⟩
    · obtain ⟨k, hk, hreads⟩ := h.reads i t' hi
      exact ⟨k, hk, hreads.keep rfl id (fun _ => rfl) fun _ => id⟩
  · exact h.stands.set hstands fun _ _ _ _ => id

/-- The same for a task that puts nothing into a receive channel. -/
theorem Replying.goto_quiet (h : s.Replying) (hj : s.receiving.tasks[j]? = some t)
    (hpc : t.pc ≠ .done)
    (hstands : ({ t with pc := pc } : Client.Incoming).Stands s.client.assocs) :
    (s.goto j t pc inbox s.receiving.delivered).Replying :=
  h.goto hj hstands (h.delivered.mono fun _ _ hx => deliveredBy_goto hj hpc hx)

end Goto

/-- A step of the receiving side keeps the two ends together. -/
theorem Replying.receive (h : s.Replying) {r : Client.Receiving}
    (hstep : s.receiving.Step s.client.udpSessions r) :
    ({ s with receiving := r } : Duplex).Replying := by
  cases hstep with
  | parses j t res hj hpc hparse =>
    refine h.goto_quiet hj ?_ hparse
    rw [hpc]
    exact Client.IncomingPc.noConfusion
  | unreadable j t err hj hpc hparse =>
    refine h.goto_quiet hj ?_ (hparse.imp_right fun hp => ⟨err, hp⟩)
    rw [hpc]
    exact Client.IncomingPc.noConfusion
  | panics j t hj hpc hparse =>
    refine h.goto_quiet hj ?_ hparse
    rw [hpc]
    exact Client.IncomingPc.noConfusion
  | found j t assocId a pkt addr hj hpc ha =>
    have hstands : t.Stands s.client.assocs := h.stands j t hj
    unfold Client.Incoming.Stands at hstands
    rw [hpc] at hstands
    obtain ⟨assoc, hassoc, hid, -⟩ := h.entered assocId a ha
    refine h.goto_quiet hj ?_ ⟨assocId, hstands, ?_⟩
    · rw [hpc]
      exact Client.IncomingPc.noConfusion
    · rw [hassoc, Option.map_some, hid]
  | delivers j t a pkt addr hj hpc =>
    have hstands : t.Stands s.client.assocs := h.stands j t hj
    unfold Client.Incoming.Stands at hstands
    rw [hpc] at hstands
    obtain ⟨assocId, hparse, ha⟩ := hstands
    have hne : t.pc ≠ .done := by
      rw [hpc]
      exact Client.IncomingPc.noConfusion
    refine h.goto hj trivial (h.delivered.snoc (i := j) ?_ ?_ ?_)
    · rintro y ⟨t', -, hj', hdone, -⟩
      rw [hj] at hj'
      cases hj'
      exact hne hdone
    · exact fun _ _ hx => deliveredBy_goto hj hne hx
    · exact ⟨{ t with pc := .done }, assocId,
        getElem?_set_of_some hj, rfl, hparse, ha⟩
  | drops j t hj hpc =>
    refine h.goto_quiet hj ?_ trivial
    rcases hpc with ⟨res, hpc⟩ | ⟨a, pkt, addr, hpc⟩
    · rw [hpc]
      exact Client.IncomingPc.noConfusion
    · rw [hpc]
      exact Client.IncomingPc.noConfusion
  | application inbox =>
    refine ⟨h.entered, h.length, h.nodup, fun j t hj => ?_, h.stands, h.delivered⟩
    obtain ⟨k, hk, hreads⟩ := h.reads j t hj
    exact ⟨k, hk, hreads.keep rfl id (fun _ => rfl) fun _ => id⟩

/-- A reply that arrives is read from its beginning, or whole. -/
theorem reads_incoming {k : Nat} (hk : s.replyBytes k ≠ []) :
    s.Reads k (incoming s.client.udpRelayMode (s.replyBytes k)) := by
  cases hmode : s.client.udpRelayMode with
  | native =>
    refine ⟨by rw [hmode]; rfl, hk, List.prefix_refl _, fun _ => rfl, fun _ => ⟨rfl, nofun⟩, nofun⟩
  | quic => exact ⟨by rw [hmode]; rfl, hk, List.nil_prefix, nofun, nofun, nofun⟩

/-- A reply arrives, and is read by a task of its own. -/
theorem Replying.acceptReply (h : s.Replying) {k : Nat} (hk : s.replyBytes k ≠ [])
    (hnew : k ∉ s.replyOf) :
    ({ s with
        receiving := s.receiving.spawn (incoming s.client.udpRelayMode (s.replyBytes k))
        replyOf := s.replyOf ++ [k] } : Duplex).Replying := by
  refine ⟨h.entered, ?_, ?_, fun j t hj => ?_, ?_, ?_⟩
  · show (s.replyOf ++ [k]).length = (s.receiving.tasks ++ [_]).length
    rw [List.length_append, List.length_append, h.length]
    rfl
  · exact h.nodup.append (List.nodup_singleton k) (List.disjoint_singleton.mpr hnew)
  · rcases getElem?_append_singleton_cases hj with ⟨rfl, rfl⟩ | hj
    · refine ⟨k, ?_, (reads_incoming hk).keep rfl id (fun _ => rfl) fun _ => id⟩
      rw [← h.length]
      exact List.getElem?_concat_length
    · obtain ⟨k', hk', hreads⟩ := h.reads j t hj
      refine ⟨k', ?_, hreads.keep rfl id (fun _ => rfl) fun _ => id⟩
      exact getElem?_append_of_some hk'
  · refine h.stands.spawn ?_ fun _ _ _ => id
    cases s.client.udpRelayMode <;> trivial
  · refine h.delivered.mono fun j x hx => deliveredBy_keep hx (fun t hj hdone => ?_) fun _ _ => id
    exact ⟨t, getElem?_append_of_some hj, hdone,
      fun _ => id⟩

/-- Something arrives on the stream of a reply. -/
theorem Replying.reply (h : s.Replying) {j k : Nat} {t : Client.Incoming} {d : Delivery}
    {ended : Bool} {ev : Server.StreamEvent} {recv : Server.RecvStream}
    (hj : s.receiving.tasks[j]? = some t) (hk : s.replyOf[j]? = some k)
    (hended : ended = true → .finish (s.client.udpRelayMode.peerChannel k) ∈ s.server.conn.log)
    (hev : d.event (s.replyBytes k) ended s.client.closed t.recv.data = some ev)
    (hon : t.recv.on ev = some recv) : (s.setIncoming j { t with recv := recv }).Replying := by
  obtain ⟨k', hk', hreads⟩ := h.reads j t hj
  rw [hk] at hk'
  cases hk'
  have hch := Client.Incoming.uniStream_of_on hreads.datagram hon
  obtain ⟨hdata, -, hfinished, hfailed⟩ := Delivery.on hev hon hreads.data
  refine ⟨h.entered, h.length.trans List.length_set.symm, h.nodup, fun i t' hi => ?_, ?_, ?_⟩
  · rcases getElem?_set_cases hi with ⟨rfl, rfl⟩ | ⟨-, hi⟩
    · refine ⟨k, hk, hreads.channel, hreads.written, hdata, fun hd => ?_, fun hst => ?_, hfailed⟩
      · have hd : t.channel = .datagram := hd
        rw [hch] at hd
        cases hd
      · obtain ⟨hall, hend⟩ := hfinished hst
        exact ⟨hall, fun _ => hended hend⟩
    · obtain ⟨k', hk', hreads'⟩ := h.reads i t' hi
      exact ⟨k', hk', hreads'.keep rfl id (fun _ => rfl) fun _ => id⟩
  · exact h.stands.set ((h.stands j t hj).on hreads.datagram hon) fun _ _ _ _ => id
  · refine h.delivered.mono fun i x hx => deliveredBy_keep hx (fun t' hi hdone => ?_) fun _ _ => id
    by_cases hji : j = i
    · subst hji
      rw [hj] at hi
      cases hi
      exact ⟨_, getElem?_set_of_some hj, hdone,
        fun _ hp => Client.Incoming.parse_ok_on hch hon hp⟩
    · exact ⟨t', (List.getElem?_set_ne hji).trans hi, hdone, fun _ => id⟩

/-- **The two ends stay together** at every step. -/
theorem Replying.step (h : s.Replying)
    (hr : (Server.connectionSystem cfg.server).Reachable s.server) (hstep : Step cfg s a s') :
    s'.Replying := by
  cases hstep with
  | client b c hclient => exact h.client hclient
  | receive b r hreceive => exact h.receive hreceive
  | server b e hown hserver => exact h.server hr hserver rfl rfl rfl rfl
  | accept o out t ho hsent hnew hfresh hsrc hdata hserver =>
    exact h.server hr hserver rfl rfl rfl rfl
  | uplink i d o out t ev recv hi ho ht hev hon hserver =>
    exact h.server hr hserver rfl rfl rfl rfl
  | acceptReply k hk hnew => exact h.acceptReply hk hnew
  | reply j d k t ended ev recv hj hk hended hev hon => exact h.reply hj hk hended hev hon
  | connect addr canonical =>
    exact h.keep rfl rfl h.entered rfl id (fun _ _ => id) (fun _ _ => rfl) fun _ => id
  | connectStep j b c c' hj hconnect hrecv =>
    exact h.keep rfl rfl h.entered rfl id (fun _ _ => id) (fun _ _ => rfl) fun _ => id
  | response i d j c ended ev recv hi hj hev hon =>
    exact h.keep rfl rfl h.entered rfl id (fun _ _ => id) (fun _ _ => rfl) fun _ => id

/-- **What the client reads of the replies**, in every reachable state. -/
theorem replying_of_reachable {C : Duplex → DuplexAction → Prop}
    (h : (duplexSystem cfg).ReachableBy C s) : s.Replying := by
  refine h.invariant (I := Replying) ⟨?_, rfl, List.nodup_nil, ?_, All.nil, Matched.nil⟩
    fun s a s' hr hreplying _ hs => hreplying.step (server_reachable hr) (step_cases hs)
  · intro assocId a hl
    cases hl
  · intro j t hj
    cases hj

/-- **What a task has is a beginning of the packet its reply is for**, and all of it at the end of
its stream or datagram. -/
theorem Reads.reply {taken : List Server.Reply} {k : Nat} {t : Client.Incoming} (h : s.Reads k t)
    (htaken : s.server.Replied taken) :
    ∃ r, taken[k]? = some r ∧ t.recv.data <+: r.bytes ∧
      (t.recv.status = .finished → t.recv.data = r.bytes) := by
  have hne := h.written
  have hdata := h.data
  have hfinished := h.finished
  have hchannel := h.channel
  unfold replyBytes at hne hdata hfinished
  have hk : k < s.server.replies.length := by
    by_contra hk
    obtain ⟨huni, hdatagram, -⟩ := htaken.unwritten k (Nat.le_of_not_lt hk)
    cases hmode : s.client.udpRelayMode with
    | native =>
      rw [hmode] at hne
      exact hne hdatagram
    | quic =>
      rw [hmode] at hne
      exact hne huni
  have hpc := List.getElem?_eq_getElem hk
  have hr := List.getElem?_eq_getElem (htaken.length.symm ▸ hk)
  have hwrote := htaken.replies k _ _ hpc hr
  refine ⟨_, hr, ?_⟩
  cases hmode : s.client.udpRelayMode with
  | native =>
    rw [hmode] at hne hdata hfinished
    have hall := hwrote.datagram hne
    refine ⟨?_, fun hst => ?_⟩
    · rw [← hall]
      exact hdata
    · rw [← hall]
      exact (hfinished hst).1
  | quic =>
    rw [hmode] at hdata hfinished hchannel
    refine ⟨hdata.trans hwrote.uniStream, fun hst => ?_⟩
    obtain ⟨hall, hend⟩ := hfinished hst
    exact hall.trans (hwrote.finished (hend hchannel))

end EndToEnd.Duplex

end Tuic
