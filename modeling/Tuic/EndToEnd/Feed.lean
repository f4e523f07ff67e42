import Tuic.EndToEnd.Duplex

/-! # What feeds the handlers of the server

Every handler of the server is fed by one task of the client, and no two by the same: its bytes are
a beginning of what that task has sent, the end of its stream is there only behind a whole header,
and its stream fails only with the connection (`Feeds`, `fed_of_reachable`). So the command a
handler decodes is the one its task sends (`Feeds.carries`). -/

namespace Tuic

open ByteCodec Transition

/-- A datagram comes from a datagram. -/
theorem Client.Channel.source_eq_datagram {ch : Client.Channel} (h : ch.source = .datagram) :
    ch = .datagram := by
  cases ch with
  | uniStream => cases h
  | datagram => rfl

/-- A datagram is sent as a whole or not at all. -/
def Client.Send.Whole (snd : Client.Send) : Prop :=
  snd.frame.channel = .datagram →
    (∀ bufs, snd.pc ≠ .write bufs) ∧ (snd.sent = [] ∨ snd.sent = snd.frame.bytes)

/-- A step of a sending task keeps a datagram whole, and does not change one that was sent. -/
theorem Client.Send.Whole.step {closed : Bool} {snd snd' : Client.Send}
    {outcome : Client.SendOutcome} (hw : snd.Whole) (hwf : snd.Wf closed)
    (h : snd.step closed outcome = some snd') :
    snd'.Whole ∧ (snd.frame.channel = .datagram → snd.sent = []) := by
  obtain ⟨-, hframe, -⟩ := hwf.step h
  by_cases hch : snd.frame.channel = .datagram
  · obtain ⟨hwrite, -⟩ := hw hch
    have hsent := hwf.sent
    -- a datagram is handed over in one step, so it is the first
    cases hpc : snd.pc with
    | start =>
      rw [hpc] at hsent
      unfold Client.Send.step at h
      cases outcome with
      | ok =>
        simp only [hpc, hch] at h
        cases h
        exact ⟨fun _ => ⟨fun _ => Client.SendPc.noConfusion, Or.inr rfl⟩, fun _ => hsent⟩
      | fail n =>
        simp only [hpc, hch] at h
        cases h
        exact ⟨fun _ => ⟨fun _ => Client.SendPc.noConfusion, Or.inl hsent⟩, fun _ => hsent⟩
    | write bufs => exact absurd hpc (hwrite bufs)
    | returned isOk =>
      unfold Client.Send.step at h
      simp only [hpc] at h
      cases h
  · refine ⟨fun h' => absurd ?_ hch, fun h' => absurd h' hch⟩
    rw [← hframe]
    exact h'

namespace EndToEnd

/-! ## What a task of the client sends -/

/-- What holds of what a task of the client sends. -/
structure Outgoing.Wf (out : Outgoing) : Prop where
  /-- The command fits its encoding. -/
  fits : out.cmd.Fits
  /-- It comes first. -/
  begins : ∃ rest, out.sent <+: out.cmd.writeToBuf ++ rest
  /-- A stream is finished behind it. -/
  finished : out.finished = true → out.cmd.writeToBuf <+: out.sent
  /-- A datagram has it. -/
  datagram : out.source = .datagram → out.sent ≠ [] → out.cmd.writeToBuf <+: out.sent

/-- More was sent. -/
structure Outgoing.Extends (out out' : Outgoing) : Prop where
  /-- On the same channel. -/
  source : out'.source = out.source
  /-- With the same command. -/
  cmd : out'.cmd = out.cmd
  /-- Nothing is taken back. -/
  sent : out.sent <+: out'.sent
  /-- A datagram that was sent stays as it is. -/
  datagram : out.source = .datagram → out.sent ≠ [] → out'.sent = out.sent

/-- Nothing changed. -/
theorem Outgoing.Extends.refl (out : Outgoing) : out.Extends out :=
  ⟨rfl, rfl, List.prefix_refl _, fun _ _ => rfl⟩

/-- The frame of a sending task begins with its command, and is finished behind it. -/
theorem wf_of_send {closed : Bool} {snd : Client.Send} (hw : snd.Wf closed) (hwhole : snd.Whole) :
    (⟨snd.frame.channel.source, snd.frame.cmd, snd.sent, snd.finished⟩ : Outgoing).Wf := by
  obtain ⟨rest, hrest⟩ := snd.frame.cmd_prefix_bytes
  refine ⟨snd.frame.cmd_fits, ⟨rest, hrest ▸ hw.begins⟩, fun h => ?_, fun hsrc hne => ?_⟩
  · have hall : snd.sent = snd.frame.bytes := by
      have hsent := hw.sent
      have h : snd.finished = true := h
      unfold Client.Send.finished at h
      split at h
      · rename_i hpc
        rw [hpc] at hsent
        simpa using hsent
      · exact of_decide_eq_true h
      · cases h
    show snd.frame.cmd.writeToBuf <+: snd.sent
    rw [hall]
    exact snd.frame.cmd_prefix_bytes
  · have hch := Client.Channel.source_eq_datagram hsrc
    show snd.frame.cmd.writeToBuf <+: snd.sent
    rw [(hwhole hch).2.resolve_left hne]
    exact snd.frame.cmd_prefix_bytes

/-- The stream of a `CONNECT` begins with its command, and is finished behind it. -/
theorem wf_of_connect {c : Client.Connect} (hs : c.Sound) :
    (⟨.biStream, .connect c.addr, c.sent, c.finished⟩ : Outgoing).Wf :=
  ⟨c.canonical.1, ⟨c.fromApp, hs.1.sent⟩, hs.1.finished, fun h => by cases h⟩

namespace Duplex

variable {cfg : Config} {s s' : Duplex} {a : DuplexAction}

/-! ## How the two ends hang together -/

/-- A handler is fed by a task of the client: it has a beginning of what was sent, the whole of it
if it is a datagram; the end of its stream is behind the header; and its stream fails with the
connection. -/
structure Feeds (closed : Bool) (out : Outgoing) (t : Server.Task) : Prop where
  /-- It came in on the channel. -/
  source : t.source = out.source
  /-- It has a beginning of what was sent. -/
  data : t.recv.data <+: out.sent
  /-- A datagram is whole. -/
  datagram : out.source = .datagram → t.recv.data = out.sent ∧ out.sent ≠ []
  /-- A finished stream has the header. -/
  finished : t.recv.status = .finished → out.cmd.writeToBuf <+: t.recv.data
  /-- A stream fails with the connection. -/
  failed : t.recv.status = .failed → closed = true

/-- **How the two ends hang together**, from the client to the server. -/
structure Fed (s : Duplex) : Prop where
  /-- Every sending task has sent a beginning of its frame. -/
  sends : All (fun _ snd => snd.Wf s.client.closed ∧ snd.Whole) s.client.sends
  /-- Every `CONNECT` is where it says. -/
  connects : All (fun _ c => c.Sound) s.connects
  /-- Every handler comes from a task of the client. -/
  length : s.origin.length = s.server.tasks.length
  /-- No two come from the same. -/
  nodup : s.origin.Nodup
  /-- What it has comes from that task. -/
  handler : ∀ (i : Nat) (t : Server.Task), s.server.tasks[i]? = some t →
    ∃ (o : Origin) (out : Outgoing), s.origin[i]? = some o ∧ s.outgoing o = some out ∧
      Feeds s.server.conn.controller.isSome out t

/-- The handler of a task of the client, with what feeds it. -/
theorem Fed.handler_of_origin (hf : s.Fed) {i : Nat} {o : Origin} (ho : s.origin[i]? = some o) :
    ∃ (out : Outgoing) (t : Server.Task), s.outgoing o = some out ∧
      s.server.tasks[i]? = some t ∧ Feeds s.server.conn.controller.isSome out t := by
  have hlt := (List.getElem?_eq_some_iff.mp ho).1
  rw [hf.length] at hlt
  obtain ⟨o', out, ho', hout, hfeeds⟩ := hf.handler i _ (List.getElem?_eq_getElem hlt)
  rw [ho] at ho'
  cases ho'
  exact ⟨out, _, hout, List.getElem?_eq_getElem hlt, hfeeds⟩

/-- The handler of a sending task. -/
theorem Fed.handler_of_send (hf : s.Fed) {i k : Nat} (ho : s.origin[i]? = some (.send k)) :
    ∃ (snd : Client.Send) (t : Server.Task), s.client.sends[k]? = some snd ∧
      s.server.tasks[i]? = some t ∧ Feeds s.server.conn.controller.isSome
        ⟨snd.frame.channel.source, snd.frame.cmd, snd.sent, snd.finished⟩ t := by
  obtain ⟨out, t, hout, ht, hfeeds⟩ := hf.handler_of_origin ho
  obtain ⟨snd, hk, rfl⟩ := Option.map_eq_some_iff.mp hout
  exact ⟨snd, t, hk, ht, hfeeds⟩

/-- The handler of a `CONNECT`. -/
theorem Fed.handler_of_connect (hf : s.Fed) {i j : Nat} (ho : s.origin[i]? = some (.connect j))
    {c : Client.Connect} (hj : s.connects[j]? = some c) :
    ∃ t : Server.Task, s.server.tasks[i]? = some t ∧
      Feeds s.server.conn.controller.isSome ⟨.biStream, .connect c.addr, c.sent, c.finished⟩ t := by
  obtain ⟨out, t, hout, ht, hfeeds⟩ := hf.handler_of_origin ho
  obtain ⟨c', hj', rfl⟩ := Option.map_eq_some_iff.mp hout
  rw [hj] at hj'
  cases hj'
  exact ⟨t, ht, hfeeds⟩

/-- A sending task keeps its frame. -/
theorem Fed.frame_keep (hf : s.Fed) {b : Client.Action} {c : Client.Connection}
    (h : s.client.Step b c) {k : Nat} {snd : Client.Send} (hk : s.client.sends[k]? = some snd) :
    ∃ snd', c.sends[k]? = some snd' ∧ snd'.frame = snd.frame := by
  obtain ⟨snd', hk', rfl | ⟨outcome, hstep⟩⟩ := h.send_keep hk
  · exact ⟨snd', hk', rfl⟩
  · obtain ⟨-, hframe, -⟩ := (hf.sends k snd hk).1.step hstep
    exact ⟨snd', hk', hframe⟩

/-- What the tasks of the client send is well-formed. -/
theorem Fed.outgoing_wf (hf : s.Fed) {o : Origin} {out : Outgoing} (ho : s.outgoing o = some out) :
    out.Wf := by
  cases o with
  | send k =>
    obtain ⟨snd, hk, rfl⟩ := Option.map_eq_some_iff.mp ho
    obtain ⟨hw, hwhole⟩ := hf.sends k snd hk
    exact wf_of_send hw hwhole
  | connect j =>
    obtain ⟨c, hj, rfl⟩ := Option.map_eq_some_iff.mp ho
    exact wf_of_connect (hf.connects j c hj)

/-- A `CONNECT` that makes a step sends on. -/
theorem Fed.setConnect_outgoing (hf : s.Fed) {j : Nat} {c c' : Client.Connect}
    (hj : s.connects[j]? = some c) (hstep : c.Step c') {o : Origin} {out : Outgoing}
    (ho : s.outgoing o = some out) :
    ∃ out', (s.setConnect j c').outgoing o = some out' ∧ out.Extends out' := by
  cases o with
  | send k => exact ⟨out, ho, .refl out⟩
  | connect j' =>
    by_cases hjj : j = j'
    · subst hjj
      obtain ⟨c₀, hc₀, rfl⟩ := Option.map_eq_some_iff.mp ho
      rw [hj] at hc₀
      cases hc₀
      obtain ⟨haddr, hsent⟩ := (hf.connects j c hj).sends_on hstep
      have hj' : (s.connects.set j c')[j]? = some c' :=
        getElem?_set_of_some hj
      refine ⟨⟨.biStream, .connect c'.addr, c'.sent, c'.finished⟩, ?_, rfl, ?_, hsent, nofun⟩
      · show (s.connects.set j c')[j]?.map _ = _
        rw [hj']
        rfl
      · show Command.connect c'.addr = .connect c.addr
        rw [haddr]
    · refine ⟨out, ?_, .refl out⟩
      show (s.connects.set j c')[j']?.map _ = some out
      rw [List.getElem?_set_ne hjj]
      exact ho

/-- **What a task of the client has sent is not taken back** by any step. -/
theorem Fed.outgoing_keep (hf : s.Fed) (h : Step cfg s a s') {o : Origin} {out : Outgoing}
    (ho : s.outgoing o = some out) : ∃ out', s'.outgoing o = some out' ∧ out.Extends out' := by
  cases h with
  | client b c hstep =>
    cases o with
    | connect j => exact ⟨out, ho, .refl out⟩
    | send k =>
      obtain ⟨snd, hk, rfl⟩ := Option.map_eq_some_iff.mp ho
      obtain ⟨snd', hk', hsnd⟩ := hstep.send_keep hk
      have ho' : ({ s with client := c } : Duplex).outgoing (.send k) =
          some ⟨snd'.frame.channel.source, snd'.frame.cmd, snd'.sent, snd'.finished⟩ := by
        show c.sends[k]?.map _ = _
        rw [hk']
        rfl
      refine ⟨_, ho', ?_⟩
      rcases hsnd with rfl | ⟨outcome, hsend⟩
      · exact .refl _
      · obtain ⟨hw, hwhole⟩ := hf.sends k snd hk
        obtain ⟨-, hframe, hsent⟩ := hw.step hsend
        obtain ⟨-, hnil⟩ := hwhole.step hw hsend
        refine ⟨?_, ?_, hsent, fun hsrc hne => ?_⟩
        · show snd'.frame.channel.source = snd.frame.channel.source
          rw [hframe]
        · show snd'.frame.cmd = snd.frame.cmd
          rw [hframe]
        · exact absurd (hnil (Client.Channel.source_eq_datagram hsrc)) hne
  | connect addr canonical =>
    cases o with
    | send k => exact ⟨out, ho, .refl out⟩
    | connect j =>
      obtain ⟨c, hj, rfl⟩ := Option.map_eq_some_iff.mp ho
      refine ⟨_, ?_, .refl _⟩
      show (s.connects ++ [_])[j]?.map _ = _
      rw [getElem?_append_of_some hj]
      rfl
  | connectStep j b c c' hj hstep hrecv =>
    exact hf.setConnect_outgoing hj (Client.Connect.step_cases hstep) ho
  | response i d j c ended ev recv hi hj hev hon =>
    exact hf.setConnect_outgoing hj (.stream ev recv hon) ho
  | receive b r hstep => exact ⟨out, ho, .refl out⟩
  | server b e hown hstep => exact ⟨out, ho, .refl out⟩
  | accept o' out' t ho' hsent hnew hfresh hsrc hdata hstep => exact ⟨out, ho, .refl out⟩
  | uplink i d o' out' t ev recv hi ho' ht hev hon hstep => exact ⟨out, ho, .refl out⟩
  | acceptReply k hk hnew => exact ⟨out, ho, .refl out⟩
  | reply j d k t ended ev recv hj hk hended hev hon => exact ⟨out, ho, .refl out⟩

/-- A handler stays fed when more was sent, and when the connection is closed. -/
theorem Feeds.extend {closed closed' : Bool} {out out' : Outgoing} {t : Server.Task}
    (h : Feeds closed out t) (hext : out.Extends out') (hclosed : closed = true → closed' = true) :
    Feeds closed' out' t := by
  refine ⟨h.source.trans hext.source.symm, h.data.trans hext.sent, fun hsrc => ?_, fun hst => ?_,
    fun hst => hclosed (h.failed hst)⟩
  · rw [hext.source] at hsrc
    obtain ⟨hdata, hne⟩ := h.datagram hsrc
    rw [hext.datagram hsrc hne]
    exact ⟨hdata, hne⟩
  · rw [hext.cmd]
    exact h.finished hst

/-- A step of its own leaves the handlers of the server their items, and moves at most one of them.
-/
theorem own_tasks {b : Server.Action} {e : Server.Established} (hown : onItsOwn b = true)
    (h : Server.Established.Step cfg.server s.server b e) :
    e.tasks.length = s.server.tasks.length ∧
      ∀ (i : Nat) (t' : Server.Task), e.tasks[i]? = some t' →
        ∃ t, s.server.tasks[i]? = some t ∧ t'.source = t.source ∧ t'.recv.data = t.recv.data ∧
          t'.recv.status = t.recv.status ∧
          (t'.pc = t.pc ∨ Server.TaskStep cfg.server.token s.server.conn i t e.conn t') := by
  -- what accepts a stream or a datagram is no step of its own
  obtain ⟨hlen, htasks⟩ := h.tasks_of_not_accept fun st hst => by simpa [onItsOwn, hst] using hown
  refine ⟨hlen, fun i t' hi => ?_⟩
  obtain ⟨t, hi₀, hsrc, ⟨hdata, hst, hpc⟩ | ⟨ev, rfl, -⟩⟩ := htasks i t' hi
  · exact ⟨t, hi₀, hsrc, hdata, hst, hpc⟩
  · cases hown

/-- A handler that has just come in is fed. -/
theorem feeds_fresh {closed : Bool} {out : Outgoing} {t : Server.Task} (hw : out.Wf)
    (hsent : out.sent ≠ []) (hfresh : t.Fresh) (hsrc : t.source = out.source)
    (hdata : out.source = .datagram → t.recv.data = out.sent) : Feeds closed out t := by
  obtain ⟨-, -, hdatagram, hstream⟩ := hfresh
  by_cases hd : out.source = .datagram
  · refine ⟨hsrc, ?_, fun _ => ⟨hdata hd, hsent⟩, fun _ => ?_, fun hst => ?_⟩
    · rw [hdata hd]
    · rw [hdata hd]
      exact hw.datagram hd hsent
    · rw [hdatagram (hsrc.trans hd)] at hst
      cases hst
  · have hne : t.source ≠ .datagram := fun h => hd (hsrc.symm.trans h)
    obtain ⟨hnil, hst⟩ := hstream hne
    refine ⟨hsrc, ?_, fun h => absurd h hd, fun hfin => ?_, fun hfail => ?_⟩
    · rw [hnil]
      exact List.nil_prefix
    · rw [hst] at hfin
      cases hfin
    · rw [hst] at hfail
      cases hfail

/-- A handler stays fed when something arrives on its stream. -/
theorem Feeds.deliver {closed : Bool} {out : Outgoing} {t : Server.Task} (h : Feeds closed out t)
    (hw : out.Wf) {d : Delivery} {ev : Server.StreamEvent} {recv : Server.RecvStream}
    (hev : d.event out.sent out.finished closed t.recv.data = some ev)
    (hon : t.recv.on ev = some recv) : Feeds closed out { t with recv := recv } := by
  obtain ⟨hdata, hmore, hfinished, hfailed⟩ := Delivery.on hev hon h.data
  refine ⟨h.source, hdata, fun hsrc => ⟨?_, (h.datagram hsrc).2⟩, fun hst => ?_, hfailed⟩
  · -- all of a datagram is there from the start
    obtain ⟨hall, -⟩ := h.datagram hsrc
    rw [hall] at hmore
    exact hdata.eq_of_length_le hmore.length_le
  · obtain ⟨hall, hend⟩ := hfinished hst
    show _ <+: recv.data
    rw [hall]
    exact hw.finished hend

/-- The ends stay together where the handlers do not change. -/
theorem Fed.keep (hf : s.Fed) (h : Step cfg s a s') (hserver : s'.server = s.server)
    (horigin : s'.origin = s.origin)
    (hsends : All (fun _ snd => snd.Wf s'.client.closed ∧ snd.Whole) s'.client.sends)
    (hconnects : All (fun _ c => c.Sound) s'.connects) : s'.Fed := by
  refine ⟨hsends, hconnects, by rw [hserver, horigin, hf.length], horigin ▸ hf.nodup, ?_⟩
  intro i t hi
  rw [hserver] at hi ⊢
  obtain ⟨o, out, ho, hout, hfeeds⟩ := hf.handler i t hi
  obtain ⟨out', hout', hext⟩ := hf.outgoing_keep h hout
  exact ⟨o, out', by rw [horigin, ho], hout', hfeeds.extend hext id⟩

/-- What is said of a sending task stays so when the client makes a step. -/
theorem Fed.sends_step (hf : s.Fed) {b : Client.Action} {c : Client.Connection}
    (h : s.client.Step b c) : All (fun _ snd => snd.Wf c.closed ∧ snd.Whole) c.sends := by
  intro k snd' hk
  refine ⟨h.wf (hf.sends.mono fun _ _ _ h => h.1) k snd' hk, ?_⟩
  rcases h.send_cases hk with ⟨snd, hk₀, rfl | ⟨outcome, hsend⟩⟩ | ⟨f, -, rfl, -⟩
  · exact (hf.sends k snd' hk₀).2
  · obtain ⟨hw, hwhole⟩ := hf.sends k snd hk₀
    exact (hwhole.step hw hsend).1
  · exact fun _ => ⟨fun _ => Client.SendPc.noConfusion, Or.inl rfl⟩

/-- The ends stay together when the server makes a step of its own. -/
theorem Fed.server (hf : s.Fed) {b : Server.Action} {e : Server.Established}
    (hown : onItsOwn b = true)
    (hstep : (Server.connectionSystem cfg.server).step s.server b = some e) :
    (s.withServer b e).Fed := by
  have hserver := Server.Established.step_cases hstep
  obtain ⟨hlen, htasks⟩ := own_tasks hown hserver
  refine ⟨hf.sends, hf.connects, hf.length.trans hlen.symm, hf.nodup, fun i t' hi => ?_⟩
  obtain ⟨t, hi₀, hsrc, hdata, hst, -⟩ := htasks i t' hi
  obtain ⟨o, out, ho, hout, hfeeds⟩ := hf.handler i t hi₀
  refine ⟨o, out, ho, hout, hsrc.trans hfeeds.source, hdata ▸ hfeeds.data,
    hdata ▸ hfeeds.datagram, fun hfin => ?_, fun hfail => ?_⟩
  · rw [hdata]
    exact hfeeds.finished (hst ▸ hfin)
  · have hclosed := hfeeds.failed (hst ▸ hfail)
    rw [Option.isSome_iff_ne_none] at hclosed ⊢
    exact hserver.controller hclosed

/-- The ends stay together when a stream or a datagram arrives. -/
theorem Fed.accept (hf : s.Fed) {o : Origin} {out : Outgoing} {t : Server.Task}
    (ho : s.outgoing o = some out) (hsent : out.sent ≠ []) (hnew : o ∉ s.origin)
    (hfresh : t.Fresh) (hsrc : t.source = out.source)
    (hdata : out.source = .datagram → t.recv.data = out.sent) :
    ({ s.withServer (.handle (arrival out)) (s.server.spawn t) with
        origin := s.origin ++ [o] } : Duplex).Fed := by
  refine ⟨hf.sends, hf.connects, ?_, ?_, fun i t' hi => ?_⟩
  · show (s.origin ++ [o]).length = (s.server.tasks ++ [t]).length
    rw [List.length_append, List.length_append, hf.length]
    rfl
  · exact hf.nodup.append (List.nodup_singleton o) (List.disjoint_singleton.mpr hnew)
  · rcases getElem?_append_singleton_cases hi with ⟨rfl, rfl⟩ | hi
    · refine ⟨o, out, ?_, ho, feeds_fresh (hf.outgoing_wf ho) hsent hfresh hsrc hdata⟩
      rw [← hf.length]
      exact List.getElem?_concat_length
    · obtain ⟨o', out', ho', hout', hfeeds⟩ := hf.handler i t' hi
      exact ⟨o', out', getElem?_append_of_some ho', hout', hfeeds⟩

/-- The ends stay together when something arrives on the stream of a handler. -/
theorem Fed.uplink (hf : s.Fed) {i : Nat} {d : Delivery} {o : Origin} {out : Outgoing}
    {t : Server.Task} {ev : Server.StreamEvent} {recv : Server.RecvStream}
    (hi : s.origin[i]? = some o) (ho : s.outgoing o = some out)
    (ht : s.server.tasks[i]? = some t)
    (hev : d.event out.sent out.finished s.server.conn.controller.isSome t.recv.data = some ev)
    (hon : t.recv.on ev = some recv) :
    (s.withServer (.stream i ev)
      { s.server with tasks := s.server.tasks.set i { t with recv := recv } }).Fed := by
  refine ⟨hf.sends, hf.connects, hf.length.trans List.length_set.symm, hf.nodup, fun j t' hj => ?_⟩
  rcases getElem?_set_cases hj with ⟨rfl, rfl⟩ | ⟨-, hj⟩
  · obtain ⟨o', out', ho', hout', hfeeds⟩ := hf.handler j t ht
    rw [hi] at ho'
    cases ho'
    rw [ho] at hout'
    cases hout'
    exact ⟨o, out, hi, ho, hfeeds.deliver (hf.outgoing_wf ho) hev hon⟩
  · exact hf.handler j t' hj

/-- **The two ends stay together** at every step. -/
theorem Fed.step (hf : s.Fed) (h : Step cfg s a s') : s'.Fed := by
  have hkeep := hf.keep h
  cases h with
  | client b c hstep => exact hkeep rfl rfl (hf.sends_step hstep) hf.connects
  | connect addr canonical =>
    exact hkeep rfl rfl hf.sends
      (hf.connects.spawn (Client.Connect.sound_new addr canonical) fun _ _ _ h => h)
  | connectStep j b c c' hj hstep hrecv =>
    refine hkeep rfl rfl hf.sends (hf.connects.set ?_ fun _ _ _ _ h => h)
    exact (hf.connects j c hj).step (Client.Connect.step_cases hstep)
  | response i d j c ended ev recv hi hj hev hon =>
    refine hkeep rfl rfl hf.sends (hf.connects.set ?_ fun _ _ _ _ h => h)
    exact (hf.connects j c hj).step (.stream ev recv hon)
  | receive b r hstep => exact hkeep rfl rfl hf.sends hf.connects
  | acceptReply k hk hnew => exact hkeep rfl rfl hf.sends hf.connects
  | reply j d k t ended ev recv hj hk hended hev hon => exact hkeep rfl rfl hf.sends hf.connects
  | server b e hown hstep => exact hf.server hown hstep
  | accept o out t ho hsent hnew hfresh hsrc hdata hstep =>
    exact hf.accept ho hsent hnew hfresh hsrc hdata
  | uplink i d o out t ev recv hi ho ht hev hon hstep => exact hf.uplink hi ho ht hev hon

/-- **The two ends hang together** in every reachable state. -/
theorem fed_of_reachable {C : Duplex → DuplexAction → Prop}
    (h : (duplexSystem cfg).ReachableBy C s) : s.Fed := by
  refine h.invariant (I := Fed) ⟨?_, All.nil, rfl, List.nodup_nil, ?_⟩
    fun s a s' _ hf _ hs => hf.step (step_cases hs)
  · intro k snd hk
    have hmem : snd ∈ [Client.Send.new (.token cfg.tokenDigest)] := List.mem_of_getElem? hk
    rw [List.mem_singleton.mp hmem]
    exact ⟨.new _ _, fun _ => ⟨fun _ => Client.SendPc.noConfusion, Or.inl rfl⟩⟩
  · intro i t hi
    cases hi

/-- **What a handler decodes is what was sent**, up to the fields of an IPv6 address that are not on
the wire. -/
theorem Feeds.carries {closed : Bool} {out : Outgoing} {t : Server.Task} (h : Feeds closed out t)
    (hw : out.Wf) {cmd : Command} (hc : Server.Carries t.recv.data cmd) : cmd = out.cmd.onWire := by
  obtain ⟨rest, hbegins⟩ := hw.begins
  exact hc.eq_onWire out.cmd hw.fits (h.data.trans hbegins)

/-- A handler whose header is there decodes its command. -/
theorem Feeds.carries_of_header {closed : Bool} {out : Outgoing} {t : Server.Task}
    (h : Feeds closed out t) (hw : out.Wf) (hst : t.recv.status = .finished) :
    Server.Carries t.recv.data out.cmd.onWire := by
  obtain ⟨x, hx⟩ := h.finished hst
  rw [← hx]
  exact .of_writeToBuf hw.fits x

end Duplex

end EndToEnd

end Tuic
