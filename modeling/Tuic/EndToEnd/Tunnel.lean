import Tuic.EndToEnd.Conform

/-! # The TCP relay, end to end

A `CONNECT` of the client, its bidirectional stream, and the handler of the server that the stream
feeds. What the client has got on the stream is a beginning of what the handler has written there
(`Tunneled.responses`), so a decoded `Response(true)` is the one the handler wrote after it had a
TCP connection, and what the copy loops move comes out of the stream as it went in: behind the
header of the `Connect` on the one side, and behind the response on the other. -/

namespace Tuic

open ByteCodec Transition

/-- The addresses an address resolves to, given those of the names. -/
def Address.ResolvesTo (lookup : String → UInt16 → SocketAddr → Prop) (addr : Address)
    (target : SocketAddr) : Prop :=
  match addr with
  | .domainAddress domain port => lookup domain port target
  | .socketAddress sock => target = sock

namespace EndToEnd.Duplex

variable {cfg : Config} {s s' : Duplex} {a : DuplexAction}
  {lookup : String → UInt16 → SocketAddr → Prop}

/-- Names are resolved as `lookup` says. -/
def LooksUp (lookup : String → UInt16 → SocketAddr → Prop) (s : Duplex) (a : DuplexAction) : Prop :=
  ∀ b, a = .server b → s.server.ResolvesBy (Address.ResolvesTo lookup) b

/-! ## Both sides of a bidirectional stream -/

/-- What holds of the handlers of the server and of the `CONNECT`s of the client. -/
structure Tunneled (lookup : String → UInt16 → SocketAddr → Prop) (s : Duplex) : Prop where
  /-- Every handler has relayed what its place says. -/
  handlers : s.server.Tunnels (Address.ResolvesTo lookup) s.fromTarget
  /-- What a `CONNECT` has got was written by its handler. -/
  responses : ∀ (j : Nat) (c : Client.Connect), s.connects[j]? = some c → c.recv.data = [] ∨
    ∃ i : Nat, s.origin[i]? = some (.connect j) ∧
      c.recv.data <+: Server.written (.biStream i) s.server.conn.log

/-- What a `CONNECT` has got stays what its handler has written. -/
theorem Tunneled.responses_keep (h : s.Tunneled lookup) {j : Nat} {c c' : Client.Connect}
    (hj : s.connects[j]? = some c) (hrecv : c'.recv.data = c.recv.data)
    (horigin : ∀ (i : Nat) (o : Origin), s.origin[i]? = some o → s'.origin[i]? = some o)
    (hwritten : ∀ i, Server.written (.biStream i) s.server.conn.log <+:
      Server.written (.biStream i) s'.server.conn.log) :
    c'.recv.data = [] ∨ ∃ i : Nat, s'.origin[i]? = some (.connect j) ∧
      c'.recv.data <+: Server.written (.biStream i) s'.server.conn.log := by
  rw [hrecv]
  refine (h.responses j c hj).imp_right ?_
  rintro ⟨i, hi, hdata⟩
  exact ⟨i, horigin i _ hi, hdata.trans (hwritten i)⟩

/-- A step of the server keeps both sides of the streams together. -/
theorem Tunneled.server (h : s.Tunneled lookup)
    (hr : (Server.connectionSystem cfg.server).Reachable s.server) {b : Server.Action}
    {e : Server.Established}
    (hstep : (Server.connectionSystem cfg.server).step s.server b = some e)
    (hres : s.server.ResolvesBy (Address.ResolvesTo lookup) b) (hserver : s'.server = e)
    (hfrom : s'.fromTarget = fun i => s.fromTarget i ++ s.server.fromTarget b i)
    (hconnects : s'.connects = s.connects)
    (horigin : ∀ (i : Nat) (o : Origin), s.origin[i]? = some o → s'.origin[i]? = some o) :
    s'.Tunneled lookup := by
  refine ⟨?_, fun j c hj => ?_⟩
  · rw [hserver, hfrom]
    exact h.handlers.step hr (fun _ => rfl) hres hstep
  · rw [hconnects] at hj
    refine h.responses_keep hj rfl horigin fun i => ?_
    -- the server only adds to what is on a stream
    obtain ⟨events, hlog, -⟩ := (Server.Established.step_cases hstep).events
    rw [hserver, hlog, Server.written_append]
    exact List.prefix_append _ _

/-- **Every step keeps both sides of the streams together.** -/
theorem Tunneled.step (h : s.Tunneled lookup) (hf : s.Fed)
    (hr : (Server.connectionSystem cfg.server).Reachable s.server) (hlook : s.LooksUp lookup a)
    (hstep : Step cfg s a s') : s'.Tunneled lookup := by
  -- a step that makes no `CONNECT` receive anything, with the server as it was
  have hset : ∀ {j : Nat} {c c' : Client.Connect}, s.connects[j]? = some c →
      (c'.recv.data = [] ∨ ∃ i : Nat, s.origin[i]? = some (.connect j) ∧
        c'.recv.data <+: Server.written (.biStream i) s.server.conn.log) →
      (s.setConnect j c').Tunneled lookup := by
    intro j c c' hj hdata
    refine ⟨h.handlers, fun k c₀ hk => ?_⟩
    rcases getElem?_set_cases hk with ⟨rfl, rfl⟩ | ⟨-, hk⟩
    · exact hdata
    · exact h.responses k c₀ hk
  cases hstep with
  | client b c hclient => exact ⟨h.handlers, h.responses⟩
  | receive b r hreceive => exact ⟨h.handlers, h.responses⟩
  | acceptReply k hk hnew => exact ⟨h.handlers, h.responses⟩
  | reply j d k t ended ev recv hj hk hended hev hon => exact ⟨h.handlers, h.responses⟩
  | connect addr canonical =>
    refine ⟨h.handlers, fun j c hj => ?_⟩
    rcases getElem?_append_singleton_cases hj with ⟨-, rfl⟩ | hj
    · exact Or.inl rfl
    · exact h.responses j c hj
  | connectStep j b c c' hj hconnect hrecv =>
    exact hset hj (h.responses_keep hj hrecv (fun _ _ => id) fun _ => List.prefix_refl _)
  | response i d j c ended ev recv hi hj hev hon =>
    -- it is the stream of this handler and of no other
    have hdata : c.recv.data <+: Server.written (.biStream i) s.server.conn.log := by
      rcases h.responses j c hj with hnil | ⟨i', hi', hdata⟩
      · rw [hnil]
        exact List.nil_prefix
      · rw [← index_unique hf.nodup hi' hi]
        exact hdata
    exact hset hj (Or.inr ⟨i, hi, (Delivery.on hev hon hdata).1⟩)
  | server b e hown hserver => exact h.server hr hserver (hlook b rfl) rfl rfl rfl fun _ _ => id
  | accept o out t ho hsent hnew hfresh hsrc hdata hserver =>
    refine h.server hr hserver (fun _ _ _ _ _ heq => ?_) rfl rfl rfl fun i o' hi => ?_
    · cases heq
    · exact getElem?_append_of_some hi
  | uplink i d o out t ev recv hi ho ht hev hon hserver =>
    refine h.server hr hserver (fun _ _ _ _ _ heq => ?_) rfl rfl rfl fun _ _ => id
    cases heq

/-- **Both sides of the streams are together** in every reachable state. -/
theorem tunneled_of_reachable (h : (duplexSystem cfg).ReachableBy (LooksUp lookup) s) :
    s.Tunneled lookup := by
  have hinit : (Duplex.new cfg).Tunneled lookup := by
    refine ⟨⟨All.nil, fun i _ => ⟨⟨rfl, rfl⟩, rfl⟩⟩, fun j c hj => ?_⟩
    cases hj
  refine h.invariant (I := Tunneled lookup) hinit fun s a s' hr ht hlook hs => ?_
  exact ht.step (fed_of_reachable hr) (server_reachable hr) hlook (step_cases hs)

/-! ## A `CONNECT` and its handler -/

/-- The `Connect` that the handler has decoded is the one that was requested. -/
theorem addr_of_carries {closed : Bool} {c : Client.Connect} {t : Server.Task} {addr : Address}
    (hs : c.Sound) (hfeeds : Feeds closed ⟨.biStream, .connect c.addr, c.sent, c.finished⟩ t)
    (hc : Server.Carries t.recv.data (.connect addr)) : addr = c.addr := by
  have hcmd := hfeeds.carries (wf_of_connect hs) hc
  have hwire : c.addr.onWire = c.addr := c.canonical.2
  cases hcmd
  exact hwire

section Pair

variable {i j : Nat} {c : Client.Connect} (h : s.Tunneled lookup) (hf : s.Fed)
  (hj : s.connects[j]? = some c) (hi : s.origin[i]? = some (.connect j))

include h hf hj hi

/-- The handler of a `CONNECT`: what it has of its stream was sent by the `CONNECT`, and it has
relayed what it may. -/
theorem Tunneled.handler :
    ∃ t, Feeds s.server.conn.controller.isSome
        ⟨.biStream, .connect c.addr, c.sent, c.finished⟩ t ∧
      Server.Relayed (Address.ResolvesTo lookup) s.server.conn.log i t.recv.data
        (s.fromTarget i) := by
  obtain ⟨t, ht, hfeeds⟩ := hf.handler_of_connect hi hj
  exact ⟨t, hfeeds, (h.handlers.handlers i t ht).relayed⟩

/-- **The target has received a beginning of what the application has sent.** -/
theorem Tunneled.toTarget_prefix : Server.toTarget i s.server.conn.log <+: c.fromApp := by
  obtain ⟨t, hfeeds, hrelayed⟩ := h.handler hf hj hi
  by_cases hne : Server.toTarget i s.server.conn.log = []
  · rw [hne]
    exact List.nil_prefix
  · obtain ⟨addr, hc, hprefix⟩ := hrelayed.toTarget hne
    obtain rfl := addr_of_carries (hf.connects j c hj) hfeeds hc
    have hsent : t.recv.data <+: c.header ++ c.fromApp :=
      hfeeds.data.trans (hf.connects j c hj).1.sent
    -- behind the header of the `Connect` there are the bytes of the application
    have hdrop := hsent.drop (Command.connect c.addr).serializedLen
    rw [← Command.length_writeToBuf] at hdrop hprefix
    rw [Client.Connect.header, List.drop_left] at hdrop
    exact hprefix.trans hdrop

/-- What the stream has of a `Response(true)`: the handler has a TCP connection, and behind the
response there are the bytes of the target. -/
theorem Tunneled.response_true
    (hdata : c.recv.data <+: Server.written (.biStream i) s.server.conn.log)
    (hc : Server.Carries c.recv.data (.response true)) :
    Server.Connected (Address.ResolvesTo lookup) s.server.conn.log i c.addr ∧
      c.recv.data.drop (Command.response true).serializedLen <+: s.fromTarget i := by
  obtain ⟨t, hfeeds, hrelayed⟩ := h.handler hf hj hi
  rcases hrelayed.written with hfalse | ⟨addr, hconnect, hconnected, htrue⟩
  · -- a refusal is no `Response(true)`
    have hrefusal := hdata.trans hfalse
    rw [← List.append_nil (Command.response false).writeToBuf] at hrefusal
    cases hc.eq_onWire (.response false) trivial hrefusal
  · obtain rfl := addr_of_carries (hf.connects j c hj) hfeeds hconnect
    refine ⟨hconnected, ?_⟩
    have hdrop := (hdata.trans htrue).drop (Command.response true).writeToBuf.length
    rw [List.drop_left, Command.length_writeToBuf] at hdrop
    exact hdrop

end Pair

/-- What a `CONNECT` has decoded came from its handler. -/
theorem Tunneled.origin_of_resp (h : s.Tunneled lookup) (hf : s.Fed) {j : Nat} {c : Client.Connect}
    (hj : s.connects[j]? = some c) (hresp : c.resp = some (.response true)) :
    ∃ i : Nat, s.origin[i]? = some (.connect j) ∧
      c.recv.data <+: Server.written (.biStream i) s.server.conn.log := by
  have hc := (hf.connects j c hj).1.resp _ hresp
  refine (h.responses j c hj).resolve_left fun hnil => ?_
  have hlen := hc.serializedLen_le
  rw [hnil] at hlen
  cases hlen

/-- What the application has got is a beginning of what the target has sent. -/
theorem Tunneled.toApp_prefix (h : s.Tunneled lookup) (hf : s.Fed) {i j : Nat} {c : Client.Connect}
    (hj : s.connects[j]? = some c) (hi : s.origin[i]? = some (.connect j)) :
    c.toApp <+: s.fromTarget i := by
  by_cases hne : c.toApp = []
  · rw [hne]
    exact List.nil_prefix
  · have hsound := hf.connects j c hj
    obtain ⟨hresp, hprefix⟩ := hsound.1.toApp hne
    obtain ⟨i', hi', hdata⟩ := h.origin_of_resp hf hj hresp
    obtain rfl := index_unique hf.nodup hi' hi
    exact hprefix.trans (h.response_true hf hj hi hdata (hsound.1.resp _ hresp)).2

/-- How a `CONNECT` agrees with the target of its handler. -/
structure Agrees (lookup : String → UInt16 → SocketAddr → Prop) (s : Duplex) (j : Nat)
    (c : Client.Connect) : Prop where
  /-- `Succeeded` says that there is a TCP connection to one of the addresses that were asked for.
  -/
  connected : .succeeded ∈ c.replies → ∃ i, s.origin[i]? = some (.connect j) ∧
    Server.Connected (Address.ResolvesTo lookup) s.server.conn.log i c.addr
  /-- The target has received a beginning of what the application has sent behind its request. -/
  toTarget : ∀ i, s.origin[i]? = some (.connect j) →
    Server.toTarget i s.server.conn.log <+: c.fromApp
  /-- The application has got a beginning of what the target has sent. -/
  toApp : ∀ i, s.origin[i]? = some (.connect j) → c.toApp <+: s.fromTarget i
  /-- It has got nothing without a handler. -/
  handled : c.toApp ≠ [] → ∃ i : Nat, s.origin[i]? = some (.connect j)

/-- **Both ends of a tunnel agree.** -/
theorem Tunneled.agrees (h : s.Tunneled lookup) (hf : s.Fed) {j : Nat} {c : Client.Connect}
    (hj : s.connects[j]? = some c) : s.Agrees lookup j c := by
  have hsound := hf.connects j c hj
  refine ⟨fun hmem => ?_, fun i hi => h.toTarget_prefix hf hj hi,
    fun i hi => h.toApp_prefix hf hj hi, fun hne => ?_⟩
  · have hresp := (hsound.answers.succeeded _ hmem).mp rfl
    obtain ⟨i, hi, hdata⟩ := h.origin_of_resp hf hj hresp
    exact ⟨i, hi, (h.response_true hf hj hi hdata (hsound.1.resp _ hresp)).1⟩
  · obtain ⟨hresp, -⟩ := hsound.1.toApp hne
    obtain ⟨i, hi, -⟩ := h.origin_of_resp hf hj hresp
    exact ⟨i, hi⟩

/-- **TCP relay agreement and byte alignment.** With any server, a `CONNECT` answers its application
as the stream says; with the server of this repository, a `Succeeded` says that the server has a TCP
connection to one of the addresses the requested one resolves to, the target has received a
beginning of what the application has sent behind its request, which is what it has sent behind the
reply when it waited for that, and the application has got a beginning of what the target has sent.
-/
theorem tcp_relay_agreement (cfg : Config) (lookup : String → UInt16 → SocketAddr → Prop) :
    (∀ (addr : Address) (canonical : addr.Canonical) (c : Client.Connect),
      (Client.connectSystem addr canonical).Reachable c → c.Answers) ∧
    ∀ s, (duplexSystem cfg).ReachableBy (LooksUp lookup) s →
      ∀ (j : Nat) (c : Client.Connect), s.connects[j]? = some c →
        c.Answers ∧ s.Agrees lookup j c ∧
        (c.early = [] → ∀ i, s.origin[i]? = some (.connect j) →
          Server.toTarget i s.server.conn.log <+: c.late) := by
  refine ⟨fun addr canonical c hc => (Client.Connect.sound_of_reachable hc).answers,
    fun s hs j c hj => ?_⟩
  have hf := fed_of_reachable hs
  have hagrees := (tunneled_of_reachable hs).agrees hf hj
  refine ⟨(hf.connects j c hj).answers, hagrees, fun hearly i hi => ?_⟩
  have hprefix := hagrees.toTarget i hi
  rw [Client.Connect.fromApp, hearly, List.nil_append] at hprefix
  exact hprefix

/-- A run with one tunnel: the application sends `early` before its reply and `late` after it, the
copy loops move `n` bytes to the target, and the target sends `back`, which the application gets. -/
def dial (early late : Bytes) (n : Nat) (back : Bytes) : List DuplexAction :=
  authenticate ++ ([.connect (.socketAddress (.v4 ⟨1, 2, 3, 4⟩ 80)), .connectStep 0 .go,
    .connectStep 0 .go, .connectStep 0 .go, .connectStep 0 .go, .connectStep 0 (.app early),
    .accept (.connect 0), .uplink 1 (.bytes 9), .server (.task 1 .ok), .server (.task 1 .ok),
    .server (.task 1 .ok), .server (.task 1 .ok), .server (.task 1 .ok), .server (.task 1 .ok),
    .response 1 (.bytes 3), .connectStep 0 .go, .connectStep 0 .go, .connectStep 0 (.app late),
    .connectStep 0 (.readApp n), .connectStep 0 (.writeStream n), .uplink 1 (.bytes n),
    .server (.task 1 (.readStream n)), .server (.task 1 (.writeTarget n)),
    .server (.task 1 (.readTarget back)), .server (.task 1 (.writeStream back.length)),
    .response 1 (.bytes back.length), .connectStep 0 (.readStream back.length),
    .connectStep 0 (.writeApp back.length)] : List DuplexAction)

/-- Where such a run leads, if names resolve to anything. -/
theorem exists_reachable_of_dial (early late : Bytes) (n : Nat) (back : Bytes) (p : Duplex → Bool)
    (hrun : ((duplexSystem (sample .native)).run (duplexSystem (sample .native)).init
      (dial early late n back)).any p = true) :
    ∃ s, (duplexSystem (sample .native)).ReachableBy (LooksUp fun _ _ _ => True) s ∧
      p s = true := by
  obtain ⟨s, hs, hp⟩ := System.exists_reachable_of_run (duplexSystem (sample .native))
    (dial early late n back) p hrun
  refine ⟨s, hs.mono fun s a _ b _ i t domain port addrs _ _ _ x _ => ?_, hp⟩
  trivial

/-- The theorem in a run in which an application that waited for its reply sends one byte and gets
two back. -/
theorem tcp_relay_agreement_dial :
    ∃ s c, (duplexSystem (sample .native)).ReachableBy (LooksUp fun _ _ _ => True) s ∧
      s.connects[0]? = some c ∧ c.toApp = [7, 8] ∧ Server.toTarget 1 s.server.conn.log = [1] ∧
      s.Agrees (fun _ _ _ => True) 0 c := by
  obtain ⟨s, hs, hp⟩ := exists_reachable_of_dial [] [1] 1 [7, 8]
    (fun s => decide (s.connects[0]?.map Client.Connect.toApp = some [7, 8] ∧
      Server.toTarget 1 s.server.conn.log = [1])) (by decide)
  obtain ⟨hconnect, htarget⟩ := of_decide_eq_true hp
  obtain ⟨c, hc, htoApp⟩ := Option.map_eq_some_iff.mp hconnect
  exact ⟨s, c, hs, hc, htoApp, htarget,
    ((tcp_relay_agreement (sample .native) fun _ _ _ => True).2 s hs 0 c hc).2.1⟩

/-- **What an application sends before its reply gets to the target** like the rest, so what the
target has received need not be a beginning of what was sent after the reply; and a request ends
without a reply when the application hangs up before it. -/
theorem not_only_after_reply :
    (∃ s c, (duplexSystem (sample .native)).ReachableBy (LooksUp fun _ _ _ => True) s ∧
      s.connects[0]? = some c ∧ s.origin[1]? = some (Origin.connect 0) ∧
      ¬ Server.toTarget 1 s.server.conn.log <+: c.late) ∧
    ∃ c, (Client.connectSystem (.socketAddress (.v4 ⟨1, 2, 3, 4⟩ 80)) (by decide)).Reachable c ∧
      c.pc = .aborted ∧ c.replies = [] := by
  constructor
  · obtain ⟨s, hs, hp⟩ := exists_reachable_of_dial [1] [] 1 [7]
      (fun s => decide (s.connects[0]?.map Client.Connect.late = some [] ∧
        s.origin[1]? = some (Origin.connect 0) ∧ Server.toTarget 1 s.server.conn.log = [1]))
      (by decide)
    obtain ⟨hconnect, horigin, htarget⟩ := of_decide_eq_true hp
    obtain ⟨c, hc, hlate⟩ := Option.map_eq_some_iff.mp hconnect
    refine ⟨s, c, hs, hc, horigin, ?_⟩
    rw [htarget, hlate]
    decide
  · obtain ⟨c, hc, hp⟩ := System.exists_reachable_of_run
      (Client.connectSystem (.socketAddress (.v4 ⟨1, 2, 3, 4⟩ 80)) (by decide))
      [.go, .fail 0, .fail 0] (fun c => decide (c.pc = .aborted ∧ c.replies = [])) (by decide)
    exact ⟨c, hc, of_decide_eq_true hp⟩

end EndToEnd.Duplex

end Tuic
