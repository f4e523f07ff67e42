import Tuic.EndToEnd.Tunnel

/-! # Where the bytes of a tunnel are

`Tunnel` says that what comes out of a tunnel is a beginning of what went in. While both copy loops
run, nothing is missing: every byte that the application has sent is at the target, held by one of
the copy loops, arrived and not read, on its way in the stream, or not read yet, in this order, and
the same holds of the bytes of the target (`Pipes`). -/

namespace Tuic

open ByteCodec Transition

/-- **What was sent on a stream, behind the first `n` bytes**: what was read of it behind them, what
has arrived and was not read, and what has not arrived. -/
theorem drop_eq_pipe {α : Type} {n pos : Nat} {data sent : List α} (h : data <+: sent)
    (hn : n ≤ pos) (hpos : pos ≤ data.length) :
    sent.drop n = (data.take pos).drop n ++ data.drop pos ++ sent.drop data.length := by
  obtain ⟨rest, rfl⟩ := h
  have hread : data.drop n = (data.take pos).drop n ++ data.drop pos := by
    have hlen : n ≤ (data.take pos).length := by
      rw [List.length_take]
      omega
    rw [← List.drop_append_of_le_length hlen, List.take_append_drop]
  rw [List.drop_left, List.drop_append_of_le_length (Nat.le_trans hn hpos), hread]

namespace Server

/-- Before its copy loop a handler has written nothing but a refusal. -/
theorem Task.Tunnels.before {resolves : Address → SocketAddr → Prop} {log : List Event} {i : Nat}
    {fromTarget : Bytes} {t : Task} (h : t.Tunnels resolves log i fromTarget)
    (htunnel : ∀ up down, t.pc ≠ .relay (.connect (.tunnel up down))) (hdone : t.pc ≠ .done) :
    written (.biStream i) log <+: (Command.response false).writeToBuf := by
  have hsilent : Silent log i → written (.biStream i) log <+: (Command.response false).writeToBuf :=
    fun h => by
      rw [h.2]
      exact List.nil_prefix
  unfold Task.Tunnels at h
  split at h
  · rename_i pc hpc
    obtain ⟨addr, -, hconnect⟩ := h
    cases pc with
    | resolve addr' => exact hsilent hconnect.2.2.1
    | attempt addrs => exact hsilent hconnect.2.2.1
    | respond isSucceeded => exact hsilent hconnect.2.2.1
    | tunnel up down => exact absurd hpc (htunnel up down)
    | finish => rw [hconnect.2.2]
  · rename_i hpc
    exact absurd hpc hdone
  · exact hsilent h.1

end Server

namespace EndToEnd.Duplex

variable {cfg : Config} {s : Duplex} {lookup : String → UInt16 → SocketAddr → Prop}

/-- The handler of a tunnel whose application was told that it succeeded. -/
theorem tunnel_handler (h : (duplexSystem cfg).ReachableBy (LooksUp lookup) s) {j : Nat}
    {c : Client.Connect} (hj : s.connects[j]? = some c) (hpc : c.pc = .tunnel) :
    ∃ (i : Nat) (t : Server.Task), s.origin[i]? = some (.connect j) ∧
      s.server.tasks[i]? = some t ∧
      Feeds s.server.conn.controller.isSome ⟨.biStream, .connect c.addr, c.sent, c.finished⟩ t ∧
      c.recv.data <+: Server.written (.biStream i) s.server.conn.log ∧
      (t.pc = .done ∨ ∃ up down, t.pc = .relay (.connect (.tunnel up down))) := by
  have hf := fed_of_reachable h
  have htunneled := tunneled_of_reachable h
  have hsound := hf.connects j c hj
  have hresp := (hsound.2.tunnel hpc).resp
  obtain ⟨i, hi, hdata⟩ := htunneled.origin_of_resp hf hj hresp
  obtain ⟨t, ht, hfeeds⟩ := hf.handler_of_connect hi hj
  refine ⟨i, t, hi, ht, hfeeds, hdata, ?_⟩
  -- another handler has written a refusal at most, which is not what the client has decoded
  by_contra hpc'
  rw [not_or] at hpc'
  have hrefusal := hdata.trans ((htunneled.handlers.handlers i _ ht).before
    (fun up down h => hpc'.2 ⟨up, down, h⟩) hpc'.1)
  rw [← List.append_nil (Command.response false).writeToBuf] at hrefusal
  cases (hsound.1.resp _ hresp).eq_onWire (.response false) trivial hrefusal

/-- Where the bytes of a tunnel are, between a `CONNECT` and handler `i`, whose copy loop holds `up`
and `down`. -/
structure Pipes (s : Duplex) (c : Client.Connect) (i : Nat) (t : Server.Task) (up down : Bytes) :
    Prop where
  /-- What was read from the target is what the application has got, what the client holds, what has
  arrived at the client, what is in the stream, and what the server holds. -/
  fromTarget : s.fromTarget i = c.toApp ++ c.down ++ c.recv.unread ++
    (Server.written (.biStream i) s.server.conn.log).drop c.recv.data.length ++ down
  /-- What the application has sent is what was written to the target, what the server holds, what
  has arrived at the server, what is in the stream, what the client holds, and what was not read
  from the application yet. -/
  fromApp : c.fromApp = Server.toTarget i s.server.conn.log ++ up ++ t.recv.unread ++
    c.sent.drop t.recv.data.length ++ c.up ++ c.fromApp.drop c.taken

/-- **While both copy loops run**, every byte is in one of these places. -/
theorem Tunneled.pipes (h : s.Tunneled lookup) {i : Nat} {c : Client.Connect} {t : Server.Task}
    (hsound : c.Sound) (hpc : c.pc = .tunnel) (ht : s.server.tasks[i]? = some t)
    (hfeeds : Feeds s.server.conn.controller.isSome
      ⟨.biStream, .connect c.addr, c.sent, c.finished⟩ t)
    (hdata : c.recv.data <+: Server.written (.biStream i) s.server.conn.log) {up down : Bytes}
    (hpc' : t.pc = .relay (.connect (.tunnel up down))) : s.Pipes c i t up down := by
  have hcopies := hsound.2.tunnel hpc
  have htunnels : t.Tunnels (Address.ResolvesTo lookup) s.server.conn.log i (s.fromTarget i) :=
    h.handlers.handlers i t ht
  rw [Server.Task.Tunnels, hpc'] at htunnels
  obtain ⟨addr, hcarries, -, hle, hlen, htarget, hwritten⟩ := htunnels
  obtain rfl := addr_of_carries hsound hfeeds hcarries
  constructor
  · -- behind the response, the handler has written and holds what it has read
    have hpipe := drop_eq_pipe hdata hcopies.behind hcopies.pos
    have hresp : (Command.response true).serializedLen ≤
        (Server.written (.biStream i) s.server.conn.log).length :=
      Nat.le_trans hcopies.behind (Nat.le_trans hcopies.pos hdata.length_le)
    calc s.fromTarget i
        = (Server.written (.biStream i) s.server.conn.log ++ down).drop
            (Command.response true).serializedLen := by
          rw [hwritten, ← Command.length_writeToBuf, List.drop_left]
      _ = (Server.written (.biStream i) s.server.conn.log).drop
            (Command.response true).serializedLen ++ down := List.drop_append_of_le_length hresp
      _ = _ := by
          rw [hpipe, ← hcopies.toApp]
          rfl
  · -- behind the header, the client has sent and holds what it has taken
    have hpipe := drop_eq_pipe hfeeds.data hle hlen
    have hheader : (Command.connect c.addr).serializedLen ≤ c.sent.length := by
      rw [← Command.length_writeToBuf]
      exact hcopies.header.length_le
    have htaken : c.sent.drop (Command.connect c.addr).serializedLen ++ c.up =
        c.fromApp.take c.taken := by
      rw [← List.drop_append_of_le_length hheader, hcopies.sent, Client.Connect.header,
        ← Command.length_writeToBuf, List.drop_left]
    calc c.fromApp = c.fromApp.take c.taken ++ c.fromApp.drop c.taken :=
          (List.take_append_drop _ _).symm
      _ = _ := by
          rw [← htaken, hpipe, ← htarget]
          rfl

/-- **No byte of a tunnel gets lost, doubled or out of order while it is copied.** In every
reachable state, for every `CONNECT` whose application was told that it succeeded and whose copy
loop runs, there is a handler of the server for its stream; and unless this handler has returned,
every byte that was read from the target, or comes from the application, is in one of the places
between the two, in order. -/
theorem tunnel_conserves (cfg : Config) (s : Duplex) (h : (duplexSystem cfg).Reachable s) (j : Nat)
    (c : Client.Connect) (hj : s.connects[j]? = some c) (hpc : c.pc = .tunnel) :
    ∃ (i : Nat) (t : Server.Task), s.origin[i]? = some (.connect j) ∧
      s.server.tasks[i]? = some t ∧
      (t.pc = .done ∨ ∃ up down, t.pc = .relay (.connect (.tunnel up down)) ∧
        s.Pipes c i t up down) := by
  have hlook : (duplexSystem cfg).ReachableBy (LooksUp fun _ _ _ => True) s :=
    h.mono fun s a _ b _ i t domain port addrs _ _ _ x _ => trivial
  have hsound := (fed_of_reachable hlook).connects j c hj
  obtain ⟨i, t, hi, ht, hfeeds, hdata, hdone | ⟨up, down, hpc'⟩⟩ := tunnel_handler hlook hj hpc
  · exact ⟨i, t, hi, ht, Or.inl hdone⟩
  · exact ⟨i, t, hi, ht, Or.inr ⟨up, down, hpc',
      (tunneled_of_reachable hlook).pipes hsound hpc ht hfeeds hdata hpc'⟩⟩

/-- The theorem in a run in which a byte of the application is in the stream, one is held by the
client and one is still to be read, and one of the target is held by the server. -/
theorem tunnel_conserves_dial :
    ∃ s c, (duplexSystem (sample .native)).Reachable s ∧ s.connects[0]? = some c ∧
      c.fromApp = [1, 2, 3, 4] ∧ Server.toTarget 1 s.server.conn.log = [1] ∧ c.up = [3] ∧
      c.toApp = [7, 8] ∧ s.fromTarget 1 = [7, 8, 9] ∧
      ∃ (i : Nat) (t : Server.Task), s.origin[i]? = some (.connect 0) ∧
        s.server.tasks[i]? = some t ∧
        (t.pc = .done ∨ ∃ up down, t.pc = .relay (.connect (.tunnel up down)) ∧
          s.Pipes c i t up down) := by
  obtain ⟨s, hs, hp⟩ := System.exists_reachable_of_run (duplexSystem (sample .native))
    (dial [] [1, 2, 3, 4] 1 [7, 8] ++ [.connectStep 0 (.readApp 2), .connectStep 0 (.writeStream 1),
      .server (.task 1 (.readTarget [9]))]) (fun s => decide (
      s.connects[0]?.map Client.Connect.pc = some Client.ConnectPc.tunnel ∧
      s.connects[0]?.map Client.Connect.fromApp = some [1, 2, 3, 4] ∧
      Server.toTarget 1 s.server.conn.log = [1] ∧ s.connects[0]?.map Client.Connect.up = some [3] ∧
      s.connects[0]?.map Client.Connect.toApp = some [7, 8] ∧ s.fromTarget 1 = [7, 8, 9]))
    (by decide +kernel)
  obtain ⟨hpc, happ, htarget, hup, htoApp, hfrom⟩ := of_decide_eq_true hp
  obtain ⟨c, hc, hpc⟩ := Option.map_eq_some_iff.mp hpc
  rw [hc] at happ hup htoApp
  exact ⟨s, c, hs, hc, Option.some.inj happ, htarget, Option.some.inj hup, Option.some.inj htoApp,
    hfrom, tunnel_conserves (sample .native) s hs 0 c hc hpc⟩

end EndToEnd.Duplex

end Tuic
