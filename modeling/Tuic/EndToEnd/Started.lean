import Tuic.Client.Startup
import Tuic.EndToEnd.Delivery
import Tuic.EndToEnd.Tunnel
import Tuic.Server.Config

/-! # A client and a server that are started

What becomes of the two command lines when the programs meet: the client has the digest of its token
and its relay mode, the server the digests of its tokens (`deployed`). The token decides. A client
with one of the server's is let in and never turned away for what it sends; for any other, the
server does nothing at all, and nothing comes back. -/

namespace Tuic.EndToEnd

open ByteCodec Transition

namespace Duplex

variable {cfg : Config} {s : Duplex} {C : Duplex → DuplexAction → Prop}

/-- The only `Authenticate` that the client sends has its own digest. -/
theorem digest_of_outgoing (h : (duplexSystem cfg).ReachableBy C s) {o : Origin} {out : Outgoing}
    (ho : s.outgoing o = some out) {digest : Server.Digest}
    (hcmd : .authenticate digest = out.cmd.onWire) : digest = cfg.tokenDigest := by
  cases o with
  | connect j =>
    obtain ⟨c, -, rfl⟩ := Option.map_eq_some_iff.mp ho
    cases hcmd
  | send k =>
    obtain ⟨snd, hk, rfl⟩ := Option.map_eq_some_iff.mp ho
    have hframe : snd.frame.Of cfg.mode cfg.tokenDigest := (speaks_of_reachable h).frames k snd hk
    have hcmd : .authenticate digest = snd.frame.cmd.onWire := hcmd
    cases hf : snd.frame with
    | token digest' =>
      rw [hf] at hframe hcmd
      cases hcmd
      exact hframe
    | _ =>
      rw [hf] at hcmd
      cases hcmd

/-- **The client is authenticated only with a token of the server.** -/
theorem token_of_authenticated (h : (duplexSystem cfg).ReachableBy C s)
    (hflag : s.server.conn.isAuthenticated.isAuthenticated = true) :
    cfg.tokenDigest ∈ cfg.server.token := by
  refine h.invariant (I := fun s => s.server.conn.isAuthenticated.isAuthenticated = true →
    cfg.tokenDigest ∈ cfg.server.token) (fun hflag => by cases hflag) ?_ hflag
  intro s a s' hr ih _ hs hflag'
  rcases (step_cases hs).server_cases with heq | ⟨b, hstep, -⟩
  · rw [heq] at hflag'
    exact ih hflag'
  · rcases (Server.Established.step_cases hstep).flag_cases with heq | ⟨-, i, t, hi, hpc, -⟩
    · rw [heq] at hflag'
      exact ih hflag'
    · -- the handler that sets the flag has a valid digest, which came from the client
      have hsound := (Server.Established.sound_of_reachable (server_reachable hr) i t hi).2
      rw [hpc] at hsound
      obtain ⟨-, digest, hmem, hcarries⟩ := hsound
      have hf := fed_of_reachable hr
      obtain ⟨o, out, -, ho, hfeeds⟩ := hf.handler i t hi
      rw [← digest_of_outgoing hr ho (hfeeds.carries (hf.outgoing_wf ho) hcarries)]
      exact hmem

/-- Nothing is written on a channel where nothing was relayed. -/
theorem written_eq_nil {ch : Server.PeerChannel} {log : List Server.Event}
    (h : ∀ e ∈ log, e.isRelay = false) : Server.written ch log = [] := by
  refine List.flatMap_eq_nil_iff.mpr fun e he => ?_
  have hquiet := h e (List.mem_reverse.mp he)
  cases e with
  | toPeer ch' data => cases hquiet
  | _ => rfl

/-- **Nothing comes back from a server that is quiet.** -/
theorem silent_of_quiet (h : (duplexSystem cfg).Reachable s) (hquiet : s.server.Quiet) :
    s.emitted = [] ∧ s.deliveries = [] ∧ ∀ c ∈ s.connects, c.recv.data = [] := by
  refine ⟨?_, ?_, fun c hc => ?_⟩
  · rw [emitted, Server.Udp.sentBy, hquiet.udp.log]
    rfl
  · have hreplying := replying_of_reachable h
    obtain ⟨sources, -, hmatched⟩ := hreplying.delivered
    cases hdelivered : s.receiving.delivered with
    | nil => rw [deliveries, hdelivered, List.map_nil]
    | cons x xs =>
      -- it came from a reply, and none was written
      rw [hdelivered] at hmatched
      cases hmatched with
      | cons hx _ =>
        obtain ⟨t, assocId, ht, -⟩ := hx
        obtain ⟨k, -, hreads⟩ := hreplying.reads _ t ht
        exact absurd (written_eq_nil hquiet.log) hreads.written
  · have hlook : (duplexSystem cfg).ReachableBy (LooksUp fun _ _ _ => True) s :=
      h.mono fun _ _ _ _ _ _ _ _ _ _ _ _ _ _ _ => trivial
    obtain ⟨j, hj⟩ := List.mem_iff_getElem?.mp hc
    rcases (tunneled_of_reachable hlook).responses j c hj with hnil | ⟨i, -, hprefix⟩
    · exact hnil
    · rw [written_eq_nil hquiet.log] at hprefix
      exact List.prefix_nil.mp hprefix

end Duplex

/-- The two programs, as they meet. -/
def deployed {α : Type} (c : Client.Startup.Config α) (s : Server.Startup.Config) : Config :=
  ⟨c.udpRelayMode, c.tokenDigest, s.connection⟩

/-- **The token decides.** For all command lines, configuration files and certificates with which a
client and a server are started, and every reachable state of the two:

* when the client's token has the digest of a token of the server, the server closes the connection
  for nothing but the time-out of the authentication, and once everything that the client has sent
  has arrived and been dealt with while the connection lasts, the client is authenticated;
* when it has not, the client is never authenticated, the server does nothing for it, towards a
  target, a name server or itself, no datagram is emitted and none is delivered, and no `CONNECT`
  gets a single byte. -/
theorem token_decides {α : Type} (cenv : Client.Startup.Env α) (senv : Server.Startup.Env)
    (hhash : cenv.hash = senv.hash) (cargs sargs : List String) (c : Client.Startup.Config α)
    (s : Server.Startup.Config) (hc : Client.Startup.Config.parse cenv cargs = .ok c)
    (hs : Server.Startup.Config.parse senv sargs = .ok s) :
    ∃ craw sraw token, Client.RawConfig.parse cenv.toEnv cargs = .ok craw ∧
      Server.Startup.RawConfig.parse senv sargs = .ok sraw ∧ craw.relay.token = some token ∧
      ∀ d, (duplexSystem (deployed c s)).Reachable d →
        ((∃ token' ∈ sraw.token, senv.hash (asBytes token') = senv.hash (asBytes token)) →
          (∀ code reason, d.server.conn.controller = some (.closed code reason) →
            code = Server.DispatchError.codeAuthenticationTimeout) ∧
          (d.Settled (deployed c s) → d.server.conn.isAuthenticated.isAuthenticated = true)) ∧
        ((∀ token' ∈ sraw.token, senv.hash (asBytes token') ≠ senv.hash (asBytes token)) →
          d.server.conn.isAuthenticated.isAuthenticated = false ∧ d.server.Quiet ∧
            d.emitted = [] ∧ d.deliveries = [] ∧ ∀ conn ∈ d.connects, conn.recv.data = []) := by
  obtain ⟨craw, hcraw, hcfg⟩ := except_bind_eq_ok.mp hc
  obtain ⟨sraw, hsraw, hscfg⟩ := except_bind_eq_ok.mp hs
  obtain ⟨token, htoken, hdigest⟩ := (Client.Startup.Means.of_ofRaw hcfg).token
  have hmem : c.tokenDigest ∈ s.token ↔
      ∃ token' ∈ sraw.token, senv.hash (asBytes token') = senv.hash (asBytes token) := by
    rw [(Server.Startup.Means.of_ofRaw hscfg).token, hdigest, hhash]
  refine ⟨craw, sraw, token, mapError_eq_ok.mp hcraw, mapError_eq_ok.mp hsraw, htoken,
    fun d hd => ⟨fun hshared => ?_, fun hother => ?_⟩⟩
  · have htoken : (deployed c s).tokenDigest ∈ (deployed c s).server.token := hmem.mpr hshared
    exact ⟨Duplex.closed_of_reachable hd htoken, fun hrest => hrest.authenticated hd htoken⟩
  · have hflag : d.server.conn.isAuthenticated.isAuthenticated = false := by
      refine eq_false_of_ne_true fun hflag => ?_
      obtain ⟨token', hmem', heq⟩ := hmem.mp (Duplex.token_of_authenticated hd hflag)
      exact hother token' hmem' heq
    have hquiet :=
      (Server.Established.gate_of_reachable (Duplex.server_reachable hd)).quiet hflag
    exact ⟨hflag, hquiet, Duplex.silent_of_quiet hd hquiet⟩

/-- The sample command lines have a token in common, and the client is let in. -/
theorem token_decides_sample :
    ∃ d, (duplexSystem (deployed Client.Startup.sampleConfig
        (Server.Startup.sampleConfig (.fromSecs 1000)))).Reachable d ∧
      d.server.conn.isAuthenticated.isAuthenticated = true ∧
      ∀ code reason, d.server.conn.controller = some (.closed code reason) →
        code = Server.DispatchError.codeAuthenticationTimeout := by
  obtain ⟨d, hd, hflag⟩ := System.exists_reachable_of_run
    (duplexSystem (deployed Client.Startup.sampleConfig
      (Server.Startup.sampleConfig (.fromSecs 1000)))) Duplex.authenticate
    (fun d => d.server.conn.isAuthenticated.isAuthenticated) (by decide)
  have hserver : Server.Startup.Config.parse Server.Startup.sampleEnv
      ("tuic-server" :: Server.Startup.sampleArgs) =
        .ok (Server.Startup.sampleConfig (.fromSecs 1000)) := by decide
  obtain ⟨craw, sraw, token, hcraw, hsraw, htoken, h⟩ :=
    token_decides Client.Startup.sampleEnv Server.Startup.sampleEnv rfl _ _ _ _
      Client.Startup.parse_sampleArgs hserver
  -- both have the token `secret`
  have hclient : (Client.RawConfig.parse Client.Startup.sampleEnv.toEnv
      ("tuic-client" :: Client.sampleArgs)).map (·.relay.token) = .ok (some "secret") := by decide
  have htokens : (Server.Startup.RawConfig.parse Server.Startup.sampleEnv
      ("tuic-server" :: Server.Startup.sampleArgs)).map (·.token) = .ok ["secret"] := by decide
  rw [hcraw] at hclient
  rw [hsraw] at htokens
  have hsecret : token = "secret" := Option.some.inj (htoken.symm.trans (Except.ok.inj hclient))
  have hsraw : sraw.token = ["secret"] := Except.ok.inj htokens
  have hmem : "secret" ∈ sraw.token := by simp [hsraw]
  exact ⟨d, hd, hflag, ((h d hd).1 ⟨"secret", hmem, by rw [hsecret]⟩).1⟩

end Tuic.EndToEnd
