import Tuic.Client.Config

/-! # The client is started

`Config::parse` of `client/src/config.rs` makes what the client is run with out of its settings, and
`Connection::connect` of `client/src/relay/connection.rs` gets a connection to the server that was
set. The settings that have no default are unwrapped on the way, which never panics since
`RawConfig::parse` has filled them in (`RawConfig.Filled`).

The addresses of the server are tried one after the other. What a try meets with is given by its
number (`Attempt`), since the same address may be tried twice with different outcomes. -/

namespace Tuic.Client

open ByteCodec Getopts

/-! ## What is filled in -/

section Filled

variable {env : Env} {m : Matches} {args : List String} {raw raw₀ raw₁ : RawConfig}

/-- The settings that have no default are there. -/
structure RawConfig.Filled (raw : RawConfig) : Prop where
  server : raw.relay.server ≠ none
  port : raw.relay.port ≠ none
  token : raw.relay.token ≠ none
  localPort : raw.localConfig.port ≠ none

theorem RawConfig.filled_of_withFile (h : RawConfig.withFile m raw₀ = .ok raw₁) : raw₁.Filled := by
  obtain ⟨server, port, token, lport, -, -, -, -, rfl⟩ := RawConfig.withFile_eq_ok h
  exact ⟨Option.some_ne_none _, Option.some_ne_none _, Option.some_ne_none _,
    Option.some_ne_none _⟩

/-- The command line does not take them away again. -/
theorem RawConfig.Filled.overrideWith (hfilled : raw₁.Filled)
    (h : raw₁.overrideWith env m = .ok raw) : raw.Filled := by
  unfold RawConfig.overrideWith at h
  simp only [except_bind_eq_ok] at h
  obtain ⟨ip, -, mode, -, cc, -, interval, -, timeout, -, size, -, lip, -, level, -, h⟩ := h
  cases h
  exact ⟨hfilled.server, hfilled.port, hfilled.token, hfilled.localPort⟩

/-- **Settings that are put together have no gaps.** -/
theorem RawConfig.filled_of_parse (h : RawConfig.parse env args = .ok raw) : raw.Filled := by
  unfold RawConfig.parse at h
  split at h
  · cases h
  · split_ifs at h
    rw [RawConfig.ofMatches_eq_bind] at h
    obtain ⟨raw₀, -, h⟩ := except_bind_eq_ok.mp h
    obtain ⟨raw₁, h₁, h⟩ := except_bind_eq_ok.mp h
    exact (RawConfig.filled_of_withFile h₁).overrideWith h

end Filled

namespace Startup

/-! ## The configuration -/

/-- `relay::ServerAddr` -/
inductive ServerAddr where
  /-- The address of the server is set, and its name is for TLS only. -/
  | socketAddr (addr : SocketAddr) (name : String)
  /-- The name of the server is looked up. -/
  | domainAddr (domain : String) (port : UInt16)
  deriving DecidableEq

/-- How the SOCKS5 server authenticates the applications. -/
inductive Auth where
  /-- Not at all. -/
  | noAuth
  /-- By a user name and a password. -/
  | password (username password : Bytes)
  deriving DecidableEq

/-- `quinn::ClientConfig`, as far as it is set. -/
structure ClientConfig (α : Type) where
  rootCertificates : List α
  alpnProtocols : List Bytes
  enableEarlyData : Bool
  enableSni : Bool
  congestionController : CongestionController
  maxIdleTimeout : Option Duration
  deriving DecidableEq

/-- What the client is run with. -/
structure Config (α : Type) where
  clientConfig : ClientConfig α
  serverAddr : ServerAddr
  tokenDigest : List.Vector UInt8 32
  udpRelayMode : UdpRelayMode
  heartbeatInterval : UInt64
  reduceRtt : Bool
  requestTimeout : UInt64
  maxUdpRelayPacketSize : Nat
  localAddr : SocketAddr
  socks5Auth : Auth
  logLevel : LevelFilter
  deriving DecidableEq

/-- What is outside the program. -/
structure Env (α : Type) extends Client.Env where
  tls : Tls α
  files : FileSystem
  hash : Bytes → List.Vector UInt8 32

/-- How `Config::parse` ends without a configuration. -/
inductive Stop where
  /-- With an error. -/
  | failed (err : ConfigError)
  /-- In an `unwrap`. -/
  | panicked
  deriving DecidableEq

/-- `Option::unwrap` -/
def unwrap {α : Type} (x : Option α) : Except Stop α := okOr x .panicked

/-- The authentication of the applications: both of user name and password, or none. -/
def Auth.ofSettings : Option String → Option String → Except ConfigError Auth
  | none, none => .ok .noAuth
  | some name, some word => .ok (.password (asBytes name) (asBytes word))
  | some _, none | none, some _ => .error .localAuthentication

section Config

variable {α : Type} (env : Env α)

/-- The second part of `Config::parse`. -/
def Config.ofRaw (raw : RawConfig) : Except Stop (Config α) := do
  let certs ← (loadCertificates env.tls env.files raw.relay.certificates).mapError .failed
  let name ← unwrap raw.relay.server
  let port ← unwrap raw.relay.port
  let serverAddr := match raw.relay.ip with
    | some ip => .socketAddr (.new ip port) name
    | none => .domainAddr name port
  let token ← unwrap raw.relay.token
  let localPort ← unwrap raw.localConfig.port
  let auth ← (Auth.ofSettings raw.localConfig.username raw.localConfig.password).mapError .failed
  return {
    clientConfig := {
      rootCertificates := certs
      alpnProtocols := raw.relay.alpn.map asBytes
      enableEarlyData := true
      enableSni := !raw.relay.disableSni
      congestionController := raw.relay.congestionController
      maxIdleTimeout := none }
    serverAddr := serverAddr
    tokenDigest := env.hash (asBytes token)
    udpRelayMode := raw.relay.udpRelayMode
    heartbeatInterval := raw.relay.heartbeatInterval
    reduceRtt := raw.relay.reduceRtt
    requestTimeout := raw.relay.requestTimeout
    maxUdpRelayPacketSize := raw.relay.maxUdpRelayPacketSize
    localAddr := .new raw.localConfig.ip localPort
    socks5Auth := auth
    logLevel := raw.logLevel }

/-- `Config::parse` -/
def Config.parse (args : List String) : Except Stop (Config α) := do
  let raw ← (RawConfig.parse env.toEnv args).mapError .failed
  Config.ofRaw env raw

end Config

section Means

variable {α : Type} {env : Env α} {args : List String} {raw : RawConfig} {cfg : Config α}

/-- **`Config::parse` does not panic.** -/
theorem Config.parse_ne_panicked (env : Env α) (args : List String) :
    Config.parse env args ≠ .error .panicked := by
  intro h
  rcases except_bind_eq_error.mp h with h | ⟨raw, hraw, h⟩
  · exact FailsOnly.mapError (P := (· ≠ .panicked)) (by simp) _ h rfl
  have hfilled := RawConfig.filled_of_parse (mapError_eq_ok.mp hraw)
  have hfails : FailsOnly (· ≠ .panicked) (Config.ofRaw env raw) := by
    unfold Config.ofRaw
    refine .bind (.mapError (by simp)) fun certs => ?_
    refine .bind (.okOr fun hnone => absurd hnone hfilled.server) fun name => ?_
    refine .bind (.okOr fun hnone => absurd hnone hfilled.port) fun port => ?_
    refine .bind (.okOr fun hnone => absurd hnone hfilled.token) fun token => ?_
    refine .bind (.okOr fun hnone => absurd hnone hfilled.localPort) fun localPort => ?_
    exact .bind (.mapError (by simp)) fun auth => .ok
  exact hfails _ h rfl

/-- **What the settings of the relay become**: where the client connects to, what it authenticates
itself with, and how it relays packets. -/
structure Means (env : Env α) (raw : RawConfig) (cfg : Config α) : Prop where
  serverAddr : ∃ name port, raw.relay.server = some name ∧ raw.relay.port = some port ∧
    cfg.serverAddr = match raw.relay.ip with
      | some ip => .socketAddr (.new ip port) name
      | none => .domainAddr name port
  token : ∃ token, raw.relay.token = some token ∧ cfg.tokenDigest = env.hash (asBytes token)
  udpRelayMode : cfg.udpRelayMode = raw.relay.udpRelayMode
  reduceRtt : cfg.reduceRtt = raw.relay.reduceRtt
  socks5Auth : Auth.ofSettings raw.localConfig.username raw.localConfig.password =
    .ok cfg.socks5Auth

theorem Means.of_ofRaw (h : Config.ofRaw env raw = .ok cfg) : Means env raw cfg := by
  unfold Config.ofRaw unwrap at h
  simp only [except_bind_eq_ok, okOr_eq_ok, mapError_eq_ok] at h
  obtain ⟨certs, -, name, hname, port, hport, token, htoken, localPort, -, auth, hauth, h⟩ := h
  cases h
  exact ⟨⟨name, port, hname, hport, rfl⟩, ⟨token, htoken, rfl⟩, rfl, rfl, hauth⟩

end Means

/-! ## Connecting to the server -/

/-- What a try to connect to an address meets with. -/
structure Attempt (κ : Type) where
  /-- Binding a socket. -/
  endpoint : Except IoError Unit
  /-- Whether the address and the name can be used. -/
  connectWith : Except IoError Unit
  /-- A connection without a handshake, if the server is known. -/
  into0rtt : Option κ
  /-- The handshake. -/
  handshake : Except IoError κ

/-- What is done in a try. -/
inductive Effect where
  /-- A socket is bound. -/
  | endpoint (bindAddr : SocketAddr)
  /-- A connection is begun. -/
  | connectWith (addr : SocketAddr) (name : String)
  /-- It is awaited. -/
  | handshake
  deriving DecidableEq

section Connect

variable {κ : Type}

/-- The address a socket is bound to, of the IP version of the server's address. -/
def bindAddr : SocketAddr → SocketAddr
  | .v4 _ _ => .v4 ⟨0, 0, 0, 0⟩ 0
  | .v6 _ _ _ _ => .v6 ⟨0, 0, 0, 0, 0, 0, 0, 0⟩ 0 0 0

/-- `Connection::connect_addr`: what is done, and what comes of it. -/
def connectAddr (reduceRtt : Bool) (name : String) (addr : SocketAddr) (att : Attempt κ) :
    List Effect × Except IoError κ :=
  let bound := Effect.endpoint (bindAddr addr)
  let begun := Effect.connectWith addr name
  match att.endpoint, att.connectWith with
  | .error err, _ => ([bound], .error err)
  | .ok (), .error err => ([bound, begun], .error err)
  | .ok (), .ok () =>
    match reduceRtt, att.into0rtt with
    | true, some conn => ([bound, begun], .ok conn)
    -- "Unable to convert the connection into 0-RTT"
    | true, none | false, _ => ([bound, begun, .handshake], att.handshake)

/-- The loop of `Connection::connect` from try `n` on: what is done, the connection and the last
error. -/
def tryAddrs (reduceRtt : Bool) (name : String) (att : Nat → Attempt κ) :
    Nat → Option IoError → List SocketAddr → List Effect × Option κ × Option IoError
  | _, lastErr, [] => ([], none, lastErr)
  | n, lastErr, addr :: addrs =>
    match connectAddr reduceRtt name addr (att n) with
    | (effects, .ok conn) => (effects, some conn, lastErr)
    | (effects, .error err) =>
      let rest := tryAddrs reduceRtt name att (n + 1) (some err) addrs
      (effects ++ rest.1, rest.2)

/-- The addresses of the server, and its name. -/
def ServerAddr.resolve (lookupHost : String → UInt16 → Except IoError (List SocketAddr)) :
    ServerAddr → Except IoError (List SocketAddr × String)
  | .socketAddr addr name => .ok ([addr], name)
  | .domainAddr domain port => (lookupHost domain port).map (·, domain)

/-- `Connection::connect`: what is done, and what comes of it. -/
def connect {α : Type} (cfg : Config α)
    (lookupHost : String → UInt16 → Except IoError (List SocketAddr)) (att : Nat → Attempt κ) :
    List Effect × Except IoError κ :=
  match cfg.serverAddr.resolve lookupHost with
  | .error err => ([], .error err)
  | .ok (addrs, name) =>
    match tryAddrs cfg.reduceRtt name att 0 none addrs with
    | (effects, some conn, _) => (effects, .ok conn)
    | (effects, none, lastErr) =>
      (effects, .error (lastErr.getD ⟨.other, "Unable to connect to the server"⟩))

/-! ## Which addresses are tried -/

section Tries

variable {reduceRtt : Bool} {name : String} {att : Nat → Attempt κ}

/-- What is done in the tries for these addresses, from try `n` on. -/
def effectsOf (reduceRtt : Bool) (name : String) (att : Nat → Attempt κ) :
    Nat → List SocketAddr → List Effect
  | _, [] => []
  | n, addr :: addrs =>
    (connectAddr reduceRtt name addr (att n)).1 ++ effectsOf reduceRtt name att (n + 1) addrs

/-- The tries for these addresses fail, from try `n` on. -/
def FailFrom (reduceRtt : Bool) (name : String) (att : Nat → Attempt κ) (n : Nat)
    (addrs : List SocketAddr) : Prop :=
  ∀ i addr, addrs[i]? = some addr →
    ∃ err, (connectAddr reduceRtt name addr (att (n + i))).2 = .error err

/-- No try fails. -/
theorem FailFrom.nil (n : Nat) : FailFrom reduceRtt name att n [] := by
  intro i addr hi
  cases hi

/-- A try that fails, and those after it. -/
theorem FailFrom.cons {n : Nat} {addr : SocketAddr} {addrs : List SocketAddr} {err : IoError}
    (herr : (connectAddr reduceRtt name addr (att n)).2 = .error err)
    (h : FailFrom reduceRtt name att (n + 1) addrs) :
    FailFrom reduceRtt name att n (addr :: addrs) := by
  intro i a hi
  cases i with
  | zero =>
    cases hi
    exact ⟨err, herr⟩
  | succ i =>
    obtain ⟨err, herr⟩ := h i a hi
    exact ⟨err, by rwa [Nat.add_right_comm, Nat.add_assoc] at herr⟩

/-- **How the loop ends**: with the first try that succeeds, after those before it have failed, or
when all have failed, with the error of the last one. -/
theorem tryAddrs_cases (reduceRtt : Bool) (name : String) (att : Nat → Attempt κ) (n : Nat)
    (lastErr : Option IoError) (addrs : List SocketAddr) :
    (∃ before addr after conn lastErr', addrs = before ++ addr :: after ∧
      FailFrom reduceRtt name att n before ∧
      (connectAddr reduceRtt name addr (att (n + before.length))).2 = .ok conn ∧
      tryAddrs reduceRtt name att n lastErr addrs =
        (effectsOf reduceRtt name att n (before ++ [addr]), some conn, lastErr')) ∨
    FailFrom reduceRtt name att n addrs ∧ ∃ lastErr',
      tryAddrs reduceRtt name att n lastErr addrs =
        (effectsOf reduceRtt name att n addrs, none, lastErr') ∧
      (addrs = [] → lastErr' = lastErr) ∧
      ∀ init last, addrs = init ++ [last] → ∃ err, lastErr' = some err ∧
        (connectAddr reduceRtt name last (att (n + init.length))).2 = .error err := by
  induction addrs generalizing n lastErr with
  | nil =>
    refine Or.inr ⟨.nil n, lastErr, rfl, fun _ => rfl, fun init last h => ?_⟩
    exact absurd h.symm (List.append_ne_nil_of_right_ne_nil _ (List.cons_ne_nil _ _))
  | cons addr addrs ih =>
    cases htry : (connectAddr reduceRtt name addr (att n)).2 with
    | ok conn =>
      refine Or.inl ⟨[], addr, addrs, conn, lastErr, rfl, .nil n, htry, ?_⟩
      rw [tryAddrs, ← Prod.mk.eta (p := connectAddr reduceRtt name addr (att n)), htry]
      simp [effectsOf]
    | error err =>
      -- the rest is tried, with this error as the last one so far
      have hstep : tryAddrs reduceRtt name att n lastErr (addr :: addrs) =
          ((connectAddr reduceRtt name addr (att n)).1 ++
            (tryAddrs reduceRtt name att (n + 1) (some err) addrs).1,
            (tryAddrs reduceRtt name att (n + 1) (some err) addrs).2) := by
        rw [tryAddrs, ← Prod.mk.eta (p := connectAddr reduceRtt name addr (att n)), htry]
      rcases ih (n + 1) (some err) with
        ⟨before, a, after, conn, lastErr', rfl, hfail, hok, hrest⟩ |
        ⟨hfail, lastErr', hrest, hnil, hlast⟩
      · refine Or.inl ⟨addr :: before, a, after, conn, lastErr', rfl, hfail.cons htry, ?_, ?_⟩
        · rw [List.length_cons, ← Nat.add_assoc, Nat.add_right_comm]
          exact hok
        · rw [hstep, hrest]
          rfl
      · refine Or.inr ⟨hfail.cons htry, lastErr', by rw [hstep, hrest]; rfl, nofun, ?_⟩
        intro init last heq
        cases init with
        | nil =>
          cases heq
          exact ⟨err, hnil rfl, htry⟩
        | cons first init =>
          cases heq
          obtain ⟨err', hsome, herr⟩ := hlast init last rfl
          refine ⟨err', hsome, ?_⟩
          rw [List.length_cons, ← Nat.add_assoc, Nat.add_right_comm]
          exact herr

end Tries

/-- The addresses that are to be tried: the one that is set, or what the name of the server resolves
to. -/
def serverAddrs (lookupHost : String → UInt16 → Except IoError (List SocketAddr))
    (ip : Option IpAddr) (name : String) (port : UInt16) : Except IoError (List SocketAddr) :=
  match ip with
  | some ip => .ok [.new ip port]
  | none => lookupHost name port

/-- **The addresses of the server are tried in order.** For every command line that the client is
started with, and whatever the name resolution and the tries come to: the address that is set is
tried, or else those that the name of the server resolves to, under that name. When that fails,
nothing is tried. Otherwise the connection is that of the first try that succeeds, and no address
behind it is tried; or all are tried and fail, and the error is that of the last one, or says that
there was none. -/
theorem connect_in_order {α : Type} (env : Env α) (args : List String) (cfg : Config α)
    (hparse : Config.parse env args = .ok cfg)
    (lookupHost : String → UInt16 → Except IoError (List SocketAddr)) (att : Nat → Attempt κ) :
    ∃ raw name port, RawConfig.parse env.toEnv args = .ok raw ∧ raw.relay.server = some name ∧
      raw.relay.port = some port ∧
      (∀ err, serverAddrs lookupHost raw.relay.ip name port = .error err →
        connect cfg lookupHost att = ([], .error err)) ∧
      ∀ addrs, serverAddrs lookupHost raw.relay.ip name port = .ok addrs →
        (∃ before addr after conn, addrs = before ++ addr :: after ∧
          FailFrom raw.relay.reduceRtt name att 0 before ∧
          (connectAddr raw.relay.reduceRtt name addr (att before.length)).2 = .ok conn ∧
          connect cfg lookupHost att =
            (effectsOf raw.relay.reduceRtt name att 0 (before ++ [addr]), .ok conn)) ∨
        FailFrom raw.relay.reduceRtt name att 0 addrs ∧ ∃ err,
          connect cfg lookupHost att =
            (effectsOf raw.relay.reduceRtt name att 0 addrs, .error err) ∧
          (addrs = [] → err = ⟨.other, "Unable to connect to the server"⟩) ∧
          ∀ init last, addrs = init ++ [last] →
            (connectAddr raw.relay.reduceRtt name last (att init.length)).2 = .error err := by
  obtain ⟨raw, hraw, hcfg⟩ := except_bind_eq_ok.mp hparse
  have hmeans := Means.of_ofRaw hcfg
  obtain ⟨name, port, hname, hport, haddr⟩ := hmeans.serverAddr
  have hresolve : cfg.serverAddr.resolve lookupHost =
      (serverAddrs lookupHost raw.relay.ip name port).map (·, name) := by
    rw [haddr]
    cases raw.relay.ip <;> rfl
  refine ⟨raw, name, port, mapError_eq_ok.mp hraw, hname, hport, fun err herr => ?_,
    fun addrs haddrs => ?_⟩
  · rw [connect, hresolve, herr]
    rfl
  · rw [← hmeans.reduceRtt]
    rcases tryAddrs_cases cfg.reduceRtt name att 0 none addrs with
      ⟨before, addr, after, conn, lastErr, heq, hfail, hok, htry⟩ |
      ⟨hfail, lastErr, htry, hnil, hlast⟩
    · rw [Nat.zero_add] at hok
      refine Or.inl ⟨before, addr, after, conn, heq, hfail, hok, ?_⟩
      simp only [connect, hresolve, haddrs, Except.map, htry]
    · refine Or.inr ⟨hfail, lastErr.getD ⟨.other, "Unable to connect to the server"⟩, ?_,
        fun h => ?_, fun init last h => ?_⟩
      · simp only [connect, hresolve, haddrs, Except.map, htry]
      · rw [hnil h]
        rfl
      · obtain ⟨err, hsome, herr⟩ := hlast init last h
        rw [Nat.zero_add] at herr
        rw [hsome]
        exact herr

end Connect

/-- There is no configuration file, and there are no native roots. -/
def sampleEnv : Env Bytes where
  toEnv := Client.sampleEnv
  tls := ⟨.ok, .ok []⟩
  files _ := .error ⟨.other, "No such file or directory"⟩
  hash bytes := .replicate 32 (bytes.headD 0)

/-- What becomes of a command line with the settings that have no default. -/
def sampleConfig : Config Bytes where
  clientConfig := ⟨[], [], true, true, .cubic, none⟩
  serverAddr := .domainAddr "tuic.example" 443
  tokenDigest := .replicate 32 115
  udpRelayMode := .native
  heartbeatInterval := 10000
  reduceRtt := false
  requestTimeout := 8000
  maxUdpRelayPacketSize := 1500
  localAddr := .v4 ⟨127, 0, 0, 1⟩ 1080
  socks5Auth := .noAuth
  logLevel := .info

/-- The client is started with it. -/
theorem parse_sampleArgs :
    Config.parse sampleEnv ("tuic-client" :: sampleArgs) = .ok sampleConfig := by decide

/-- The name of the server resolves to two addresses, and the second try succeeds. -/
theorem connect_in_order_second :
    let addrs : List SocketAddr := [.v4 ⟨1, 2, 3, 4⟩ 443, .v4 ⟨1, 2, 3, 5⟩ 443]
    let att : Nat → Attempt Nat := fun n =>
      ⟨.ok (), .ok (), none, if n = 1 then .ok n else .error ⟨.other, "timed out"⟩⟩
    ∃ name before addr after conn, addrs = before ++ addr :: after ∧
      FailFrom false name att 0 before ∧
      (connectAddr false name addr (att before.length)).2 = .ok conn ∧
      connect sampleConfig (fun _ _ => .ok addrs) att =
        (effectsOf false name att 0 (before ++ [addr]), .ok conn) := by
  intro addrs att
  obtain ⟨raw, name, port, hraw, -, -, -, h⟩ :=
    connect_in_order sampleEnv _ sampleConfig parse_sampleArgs (fun _ _ => .ok addrs) att
  have hsettings : (RawConfig.parse sampleEnv.toEnv ("tuic-client" :: sampleArgs)).map
      (fun raw => (raw.relay.ip, raw.relay.reduceRtt)) = .ok (none, false) := by decide
  rw [hraw] at hsettings
  obtain ⟨hip, hrtt⟩ := Prod.mk.inj (Except.ok.inj hsettings)
  have h := h addrs (by rw [hip]; rfl)
  rw [hrtt] at h
  rcases h with hfirst | ⟨hfail, -⟩
  · exact ⟨name, hfirst⟩
  · obtain ⟨err, herr⟩ := hfail 1 _ rfl
    cases herr

end Startup

end Tuic.Client
