import Tuic.Client.Associate
import Tuic.Client.Certificates

/-! # The settings of the client

`RawConfig::parse` of `client/src/config.rs`. A setting comes from the command line, from the
configuration file or from a default. With a configuration file and without one, the four settings
that have no default are put together by two separate pieces of code (`withFile`, `withoutFile`);
the others are overridden by the command line afterwards (`overrideWith`).

A configuration file is given by its keys (`ConfigFile`), and `RawConfig.deserialize` is its schema:
which keys there must be and what is put in the place of the others. Files that cannot be read, that
are no JSON or have other keys or values of other types are given by the error they lead to. -/

namespace Tuic.Client

open ByteCodec Getopts

/-! ## The schema -/

/-- The settings of the relay. -/
structure RawRelayConfig where
  server : Option String
  port : Option UInt16
  token : Option String
  ip : Option IpAddr
  certificates : List String
  udpRelayMode : UdpRelayMode
  congestionController : CongestionController
  heartbeatInterval : UInt64
  alpn : List String
  disableSni : Bool
  reduceRtt : Bool
  requestTimeout : UInt64
  maxUdpRelayPacketSize : Nat
  deriving DecidableEq

/-- The settings of the SOCKS5 server. -/
structure RawLocalConfig where
  port : Option UInt16
  ip : IpAddr
  username : Option String
  password : Option String
  deriving DecidableEq

/-- All settings. -/
structure RawConfig where
  relay : RawRelayConfig
  localConfig : RawLocalConfig
  logLevel : LevelFilter
  deriving DecidableEq

namespace Default

def certificates : List String := []

def udpRelayMode : UdpRelayMode := .native

def congestionController : CongestionController := .cubic

def heartbeatInterval : UInt64 := 10000

def alpn : List String := []

def disableSni : Bool := false

def reduceRtt : Bool := false

def requestTimeout : UInt64 := 8000

def maxUdpRelayPacketSize : Nat := 1500

def localIp : IpAddr := .v4 ⟨127, 0, 0, 1⟩

def logLevel : LevelFilter := .info

end Default

/-- `RawRelayConfig::default` -/
def RawRelayConfig.default : RawRelayConfig where
  server := none
  port := none
  ip := none
  token := none
  certificates := Default.certificates
  udpRelayMode := Default.udpRelayMode
  congestionController := Default.congestionController
  heartbeatInterval := Default.heartbeatInterval
  alpn := Default.alpn
  disableSni := Default.disableSni
  reduceRtt := Default.reduceRtt
  requestTimeout := Default.requestTimeout
  maxUdpRelayPacketSize := Default.maxUdpRelayPacketSize

/-- `RawLocalConfig::default` -/
def RawLocalConfig.default : RawLocalConfig where
  port := none
  ip := Default.localIp
  username := none
  password := none

/-- `RawConfig::default` -/
def RawConfig.default : RawConfig where
  relay := .default
  localConfig := .default
  logLevel := Default.logLevel

/-- The keys of the `relay` object of a configuration file. -/
structure RelayFile where
  server : Option String
  port : Option UInt16
  token : Option String
  ip : Option IpAddr
  certificates : Option (List String)
  udpRelayMode : Option UdpRelayMode
  congestionController : Option CongestionController
  heartbeatInterval : Option UInt64
  alpn : Option (List String)
  disableSni : Option Bool
  reduceRtt : Option Bool
  requestTimeout : Option UInt64
  maxUdpRelayPacketSize : Option Nat

/-- The keys of the `local` object of a configuration file. -/
structure LocalFile where
  port : Option UInt16
  ip : Option IpAddr
  username : Option String
  password : Option String

/-- The keys of a configuration file. -/
structure ConfigFile where
  relay : Option RelayFile
  localConfig : Option LocalFile
  logLevel : Option LevelFilter

/-- The object without keys. -/
def RelayFile.empty : RelayFile :=
  ⟨none, none, none, none, none, none, none, none, none, none, none, none, none⟩

/-- The object without keys. -/
def LocalFile.empty : LocalFile := ⟨none, none, none, none⟩

/-- A file with two empty objects. -/
def ConfigFile.empty : ConfigFile := ⟨some .empty, some .empty, none⟩

/-- The schema of the `relay` object. -/
def RawRelayConfig.deserialize (file : RelayFile) : RawRelayConfig where
  server := file.server
  port := file.port
  token := file.token
  ip := file.ip
  certificates := file.certificates.getD Default.certificates
  udpRelayMode := file.udpRelayMode.getD Default.udpRelayMode
  congestionController := file.congestionController.getD Default.congestionController
  heartbeatInterval := file.heartbeatInterval.getD Default.heartbeatInterval
  alpn := file.alpn.getD Default.alpn
  disableSni := file.disableSni.getD Default.disableSni
  reduceRtt := file.reduceRtt.getD Default.reduceRtt
  requestTimeout := file.requestTimeout.getD Default.requestTimeout
  maxUdpRelayPacketSize := file.maxUdpRelayPacketSize.getD Default.maxUdpRelayPacketSize

/-- The schema of the `local` object. -/
def RawLocalConfig.deserialize (file : LocalFile) : RawLocalConfig where
  port := file.port
  ip := file.ip.getD Default.localIp
  username := file.username
  password := file.password

/-- The schema of a configuration file: the two objects have no default. -/
def RawConfig.deserialize (file : ConfigFile) : Except JsonError RawConfig :=
  match file.relay, file.localConfig with
  | none, _ => .error (.missingField "relay")
  | some _, none => .error (.missingField "local")
  | some relay, some loc =>
    .ok ⟨.deserialize relay, .deserialize loc, file.logLevel.getD Default.logLevel⟩

/-- **The defaults of the schema are the defaults of the code.** -/
theorem RawConfig.deserialize_empty :
    RawConfig.deserialize .empty = .ok RawConfig.default := rfl

/-! ## The command line -/

/-- The options of the client. -/
def options : Options :=
  [optopt "c" "config", optopt "" "server", optopt "" "server-port", optopt "" "token",
    optopt "" "server-ip", optopt "" "certificate", optopt "" "udp-relay-mode",
    optopt "" "congestion-controller", optopt "" "heartbeat-interval", optopt "" "alpn",
    optflag "" "disable-sni", optflag "" "reduce-rtt", optopt "" "request-timeout",
    optopt "" "max-udp-relay-packet-size", optopt "" "local-port", optopt "" "local-ip",
    optopt "" "local-username", optopt "" "local-password", optopt "" "log-level",
    optflag "v" "version", optflag "h" "help"]

/-- `UdpRelayMode::from_str` -/
def UdpRelayMode.fromStr (s : String) : Option UdpRelayMode :=
  if eqIgnoreAsciiCase s "native" then some .native
  else if eqIgnoreAsciiCase s "quic" then some .quic
  else none

/-- What is outside the program: how a command line is parsed and an IP address is read, and the
configuration files. -/
structure Env where
  getopts : Getopts.Parser
  parseIp : String → Option IpAddr
  readConfig : String → Except IoError (Except JsonError ConfigFile)

section Parse

variable (env : Env) (m : Matches)

/-- An integer option. -/
def intOption {α : Type} (parse : String → Except IntErrorKind α) (s : String) :
    Except ConfigError α := (parse s).mapError .parseInt

/-- An IP address option. -/
def ipOption (s : String) : Except ConfigError IpAddr := okOr (env.parseIp s) .parseAddr

/-- `RawConfig::from_file` -/
def RawConfig.fromFile (path : String) : Except ConfigError RawConfig :=
  match env.readConfig path with
  | .error err => .error (.io path err)
  | .ok (.error err) => .error (.parseConfigJson err)
  | .ok (.ok file) => (RawConfig.deserialize file).mapError .parseConfigJson

/-- The settings without a default, from the command line or the configuration file. -/
def RawConfig.withFile (raw : RawConfig) : Except ConfigError RawConfig := do
  let serverPort := (m.optStr "server-port").map (intOption parseU16)
  let localPort := (m.optStr "local-port").map (intOption parseU16)
  let server ← okOr ((m.optStr "server").or raw.relay.server) (.missingOption "server address")
  let port ← okOr ((← transpose serverPort).or raw.relay.port) (.missingOption "server port")
  let token ← okOr ((m.optStr "token").or raw.relay.token) (.missingOption "token")
  let lport ← okOr ((← transpose localPort).or raw.localConfig.port) (.missingOption "local port")
  return { raw with
    relay := { raw.relay with server := some server, port := some port, token := some token }
    localConfig := { raw.localConfig with port := some lport } }

/-- The settings without a default, from the command line only. -/
def RawConfig.withoutFile : Except ConfigError RawConfig := do
  let serverPort := (m.optStr "server-port").map (intOption parseU16)
  let localPort := (m.optStr "local-port").map (intOption parseU16)
  let server ← okOr (m.optStr "server") (.missingOption "server address")
  let port ← (← okOr serverPort (.missingOption "server port"))
  let token ← okOr (m.optStr "token") (.missingOption "token")
  let lport ← (← okOr localPort (.missingOption "local port"))
  return { RawConfig.default with
    relay := { RawRelayConfig.default with
      server := some server, port := some port, token := some token }
    localConfig := { RawLocalConfig.default with port := some lport } }

/-- The other settings are overridden by the command line. -/
def RawConfig.overrideWith (raw : RawConfig) : Except ConfigError RawConfig := do
  let ip ← overridden (m.optStr "server-ip") (fun s => some <$> ipOption env s) raw.relay.ip
  let udpRelayMode ← overridden (m.optStr "udp-relay-mode")
    (fun s => okOr (UdpRelayMode.fromStr s) .invalidUdpRelayMode) raw.relay.udpRelayMode
  let congestionController ← overridden (m.optStr "congestion-controller")
    (fun s => okOr (CongestionController.fromStr s) .invalidCongestionController)
    raw.relay.congestionController
  let heartbeatInterval ← overridden (m.optStr "heartbeat-interval") (intOption parseU64)
    raw.relay.heartbeatInterval
  let requestTimeout ← overridden (m.optStr "request-timeout") (intOption parseU64)
    raw.relay.requestTimeout
  let maxUdpRelayPacketSize ← overridden (m.optStr "max-udp-relay-packet-size")
    (intOption parseUsize) raw.relay.maxUdpRelayPacketSize
  let localIp ← overridden (m.optStr "local-ip") (ipOption env) raw.localConfig.ip
  let logLevel ← overridden (m.optStr "log-level")
    (fun s => okOr (LevelFilter.fromStr s) .parseLogLevel) raw.logLevel
  return {
    relay := { raw.relay with
      ip := ip
      certificates := overriddenList (m.optStrs "certificate") raw.relay.certificates
      udpRelayMode := udpRelayMode
      congestionController := congestionController
      heartbeatInterval := heartbeatInterval
      alpn := overriddenList (m.optStrs "alpn") raw.relay.alpn
      disableSni := raw.relay.disableSni || m.optPresent "disable-sni"
      reduceRtt := raw.relay.reduceRtt || m.optPresent "reduce-rtt"
      requestTimeout := requestTimeout
      maxUdpRelayPacketSize := maxUdpRelayPacketSize }
    localConfig := { raw.localConfig with
      ip := localIp
      username := (m.optStr "local-username").or raw.localConfig.username
      password := (m.optStr "local-password").or raw.localConfig.password }
    logLevel := logLevel }

/-- The settings, once the command line is parsed. -/
def RawConfig.ofMatches : Except ConfigError RawConfig := do
  let raw ← match m.optStr "config" with
    | some path => RawConfig.fromFile env path >>= RawConfig.withFile m
    | none => RawConfig.withoutFile m
  raw.overrideWith env m

/-- `RawConfig::parse` -/
def RawConfig.parse (args : List String) : Except ConfigError RawConfig :=
  match env.getopts.parse options (args.drop 1) with
  | .error err => .error (.parseArgument err)
  | .ok m =>
    if m.optPresent "help" then .error .help
    else if m.optPresent "version" then .error .version
    else if m.free ≠ [] then .error (.unexpectedArguments (", ".intercalate m.free))
    else RawConfig.ofMatches env m

end Parse

/-! ## With a configuration file and without one -/

section Paths

variable {env : Env} {m m' : Matches}

/-- **The two pieces of code agree**: no configuration file is as good as one with empty objects. -/
theorem RawConfig.withFile_default (m : Matches) :
    RawConfig.withFile m .default = RawConfig.withoutFile m := by
  unfold RawConfig.withFile RawConfig.withoutFile
  simp only [RawConfig.default, RawRelayConfig.default, RawLocalConfig.default, Option.or_none,
    transpose_okOr]

/-- The settings before the command line: those of the file, or else the defaults. -/
def RawConfig.base (env : Env) (m : Matches) : Except ConfigError RawConfig :=
  match m.optStr "config" with
  | some path => RawConfig.fromFile env path
  | none => .ok .default

/-- So the settings are put together in one way. -/
theorem RawConfig.ofMatches_eq_bind : RawConfig.ofMatches env m =
    RawConfig.base env m >>= fun raw =>
      RawConfig.withFile m raw >>= RawConfig.overrideWith env m := by
  unfold RawConfig.ofMatches RawConfig.base
  cases m.optStr "config" with
  | none =>
    simp only [← RawConfig.withFile_default]
    rfl
  | some path => simp only [bind_assoc]

/-- The settings without a default are read from four options only. -/
theorem RawConfig.withFile_of_agreeExcept {but : String} (h : AgreeExcept but m m')
    (hbut : ∀ name ∈ ["server", "server-port", "token", "local-port"],
      name ≠ but) :
    RawConfig.withFile m' = RawConfig.withFile m := by
  simp only [List.forall_mem_cons] at hbut
  obtain ⟨hserver, hport, htoken, hlocal, -⟩ := hbut
  funext raw
  simp only [RawConfig.withFile, h.optStr _ hserver, h.optStr _ hport, h.optStr _ htoken,
    h.optStr _ hlocal]

/-- No setting but the file itself is read from the option `config`. -/
theorem RawConfig.overrideWith_of_config (h : AgreeExcept "config" m m') :
    RawConfig.overrideWith env m' = RawConfig.overrideWith env m := by
  funext raw
  simp only [RawConfig.overrideWith, h.optStr "server-ip" (by decide),
    h.optStr "udp-relay-mode" (by decide), h.optStr "congestion-controller" (by decide),
    h.optStr "heartbeat-interval" (by decide), h.optStr "request-timeout" (by decide),
    h.optStr "max-udp-relay-packet-size" (by decide), h.optStr "local-ip" (by decide),
    h.optStr "log-level" (by decide), h.optStr "local-username" (by decide),
    h.optStr "local-password" (by decide), h.optStrs "certificate" (by decide),
    h.optStrs "alpn" (by decide), h.optPresent "disable-sni" (by decide),
    h.optPresent "reduce-rtt" (by decide)]

/-- **A file with empty objects changes nothing.** -/
theorem RawConfig.ofMatches_of_config {path : String} (h : AgreeExcept "config" m m')
    (hnone : m.optStr "config" = none) (hsome : m'.optStr "config" = some path)
    (hfile : env.readConfig path = .ok (.ok .empty)) :
    RawConfig.ofMatches env m' = RawConfig.ofMatches env m := by
  have hbase : RawConfig.base env m' = RawConfig.base env m := by
    simp only [RawConfig.base, hnone, hsome, RawConfig.fromFile, hfile]
    rfl
  rw [RawConfig.ofMatches_eq_bind, RawConfig.ofMatches_eq_bind, hbase,
    RawConfig.withFile_of_agreeExcept h (by decide), RawConfig.overrideWith_of_config h]

end Paths

/-! ## Where the settings come from -/

/-- A port, from the text of an option. -/
def portOption (s : String) : Except ConfigError (Option UInt16) := some <$> intOption parseU16 s

/-- A text, from the text of an option. -/
def textOption (s : String) : Except ConfigError (Option String) := .ok (some s)

/-- **Where each setting comes from**: the command line if the option is there, else the
configuration file, else the default. The flags are set by either. -/
structure Resolved (env : Env) (m : Matches) (relay : RelayFile) (loc : LocalFile)
    (logLevel : Option LevelFilter) (raw : RawConfig) : Prop where
  server : Chosen (m.optStr "server") textOption relay.server raw.relay.server
  port : Chosen (m.optStr "server-port") portOption relay.port raw.relay.port
  token : Chosen (m.optStr "token") textOption relay.token raw.relay.token
  ip : Chosen (m.optStr "server-ip") (fun s => some <$> ipOption env s) relay.ip raw.relay.ip
  certificates : raw.relay.certificates = overriddenList (m.optStrs "certificate")
    (relay.certificates.getD Default.certificates)
  udpRelayMode : Chosen (m.optStr "udp-relay-mode")
    (fun s => okOr (UdpRelayMode.fromStr s) ConfigError.invalidUdpRelayMode)
    (relay.udpRelayMode.getD Default.udpRelayMode) raw.relay.udpRelayMode
  congestionController : Chosen (m.optStr "congestion-controller")
    (fun s => okOr (CongestionController.fromStr s) ConfigError.invalidCongestionController)
    (relay.congestionController.getD Default.congestionController) raw.relay.congestionController
  heartbeatInterval : Chosen (m.optStr "heartbeat-interval") (intOption parseU64)
    (relay.heartbeatInterval.getD Default.heartbeatInterval) raw.relay.heartbeatInterval
  alpn : raw.relay.alpn = overriddenList (m.optStrs "alpn") (relay.alpn.getD Default.alpn)
  disableSni : raw.relay.disableSni =
    (relay.disableSni.getD Default.disableSni || m.optPresent "disable-sni")
  reduceRtt : raw.relay.reduceRtt =
    (relay.reduceRtt.getD Default.reduceRtt || m.optPresent "reduce-rtt")
  requestTimeout : Chosen (m.optStr "request-timeout") (intOption parseU64)
    (relay.requestTimeout.getD Default.requestTimeout) raw.relay.requestTimeout
  maxUdpRelayPacketSize : Chosen (m.optStr "max-udp-relay-packet-size") (intOption parseUsize)
    (relay.maxUdpRelayPacketSize.getD Default.maxUdpRelayPacketSize)
    raw.relay.maxUdpRelayPacketSize
  localPort : Chosen (m.optStr "local-port") portOption loc.port raw.localConfig.port
  localIp : Chosen (m.optStr "local-ip") (ipOption env) (loc.ip.getD Default.localIp)
    raw.localConfig.ip
  username : Chosen (m.optStr "local-username") textOption loc.username raw.localConfig.username
  password : Chosen (m.optStr "local-password") textOption loc.password raw.localConfig.password
  logLevel : Chosen (m.optStr "log-level")
    (fun s => okOr (LevelFilter.fromStr s) ConfigError.parseLogLevel)
    (logLevel.getD Default.logLevel) raw.logLevel

section Resolve

variable {env : Env} {m : Matches} {raw raw₀ raw₁ : RawConfig} {file : ConfigFile}
  {relay : RelayFile} {loc : LocalFile}

/-- The settings without a default, when they are all there. -/
theorem RawConfig.withFile_eq_ok (h : RawConfig.withFile m raw₀ = .ok raw₁) :
    ∃ server port token lport,
      Chosen (m.optStr "server") textOption raw₀.relay.server (some server) ∧
      Chosen (m.optStr "server-port") portOption raw₀.relay.port (some port) ∧
      Chosen (m.optStr "token") textOption raw₀.relay.token (some token) ∧
      Chosen (m.optStr "local-port") portOption raw₀.localConfig.port (some lport) ∧
      raw₁ = { raw₀ with
        relay := { raw₀.relay with server := some server, port := some port, token := some token }
        localConfig := { raw₀.localConfig with port := some lport } } := by
  unfold RawConfig.withFile at h
  simp only [except_bind_eq_ok, okOr_eq_ok] at h
  obtain ⟨server, hserver, y, hy, port, hport, token, htoken, z, hz, lport, hlport, h⟩ := h
  cases h
  exact ⟨server, port, token, lport, or_eq_iff_chosen.mp hserver,
    transpose_map_eq_ok.mp ⟨y, hy, hport⟩,
    or_eq_iff_chosen.mp htoken, transpose_map_eq_ok.mp ⟨z, hz, hlport⟩, rfl⟩

/-- **The settings of a file, overridden by the command line**, are where they should come from. -/
theorem Resolved.of_eq_ok {logLevel : Option LevelFilter}
    (h : (RawConfig.withFile m ⟨.deserialize relay, .deserialize loc,
      logLevel.getD Default.logLevel⟩ >>= RawConfig.overrideWith env m) = .ok raw) :
    Resolved env m relay loc logLevel raw := by
  obtain ⟨raw₁, h₁, h⟩ := except_bind_eq_ok.mp h
  obtain ⟨server, port, token, lport, hserver, hport, htoken, hlport, rfl⟩ :=
    RawConfig.withFile_eq_ok h₁
  unfold RawConfig.overrideWith at h
  simp only [except_bind_eq_ok, overridden_eq_ok] at h
  obtain ⟨ip, hip, mode, hmode, cc, hcc, interval, hinterval, timeout, htimeout, size, hsize, lip,
    hlip, level, hlevel, h⟩ := h
  cases h
  exact ⟨hserver, hport, htoken, hip, rfl, hmode, hcc, hinterval, rfl, rfl, rfl, htimeout, hsize,
    hlport, hlip, or_eq_iff_chosen.mp rfl, or_eq_iff_chosen.mp rfl, hlevel⟩

end Resolve

/-! ## Which settings are missing -/

/-- A port on the command line is one. -/
def PortParses (given : Option String) : Prop := ∀ s, given = some s → ∃ port, parseU16 s = .ok port

/-- **The setting that is reported as missing**: the first one that is absent, unless a port on the
command line that is none comes before it. -/
inductive Missing (m : Matches) (relay : RelayFile) (loc : LocalFile) : String → Prop where
  | server (h : Absent (m.optStr "server") relay.server) : Missing m relay loc "server address"
  | port (hserver : ¬ Absent (m.optStr "server") relay.server)
      (h : Absent (m.optStr "server-port") relay.port) : Missing m relay loc "server port"
  | token (hserver : ¬ Absent (m.optStr "server") relay.server)
      (hport : ¬ Absent (m.optStr "server-port") relay.port)
      (hparse : PortParses (m.optStr "server-port"))
      (h : Absent (m.optStr "token") relay.token) : Missing m relay loc "token"
  | localPort (hserver : ¬ Absent (m.optStr "server") relay.server)
      (hport : ¬ Absent (m.optStr "server-port") relay.port)
      (hparse : PortParses (m.optStr "server-port"))
      (htoken : ¬ Absent (m.optStr "token") relay.token)
      (h : Absent (m.optStr "local-port") loc.port) : Missing m relay loc "local port"

section Missing

variable {env : Env} {m : Matches} {raw : RawConfig} {relay : RelayFile} {loc : LocalFile}
  {name : String} {given : Option String}

theorem intOption_ne_missingOption {α : Type} (parse : String → Except IntErrorKind α)
    (s : String) : intOption parse s ≠ .error (.missingOption name) := by
  unfold intOption
  cases parse s <;> simp [Except.mapError]

/-- A port is there if it is not absent, and is one if it is on the command line. -/
theorem exists_port_iff {inFile : Option UInt16} :
    (∃ port, Chosen given portOption inFile (some port)) ↔
      ¬ Absent given inFile ∧ PortParses given := by
  have hparses : PortParses given ↔
      ∀ s, given = some s → ∃ port, intOption parseU16 s = .ok port := by
    simp only [PortParses, intOption, mapError_eq_ok]
  rw [hparses]
  exact exists_value_iff

/-- Only the settings without a default are ever missing. -/
theorem RawConfig.overrideWith_ne_missingOption :
    raw.overrideWith env m ≠ .error (.missingOption name) := by
  have hint : ∀ {α : Type} (parse : String → Except IntErrorKind α) (s : String),
      FailsOnly (· ≠ .missingOption name) (intOption parse s) := fun _ _ => .mapError (by simp)
  have hip : ∀ s, FailsOnly (· ≠ .missingOption name) (ipOption env s) := fun _ => .okOr (by simp)
  have hfails : FailsOnly (· ≠ .missingOption name) (raw.overrideWith env m) := by
    unfold RawConfig.overrideWith
    refine .bind (.overridden fun s => .bind (hip s) fun _ => .ok) fun ip => ?_
    refine .bind (.overridden fun s => .okOr (by simp)) fun mode => ?_
    refine .bind (.overridden fun s => .okOr (by simp)) fun cc => ?_
    refine .bind (.overridden (hint _)) fun interval => ?_
    refine .bind (.overridden (hint _)) fun timeout => ?_
    refine .bind (.overridden (hint _)) fun size => ?_
    refine .bind (.overridden hip) fun lip => ?_
    exact .bind (.overridden fun s => .okOr (by simp)) fun level => .ok
  exact fun h => hfails _ h rfl

/-- **What is reported as missing**, with a file. -/
theorem RawConfig.withFile_missing_iff {level : LevelFilter} :
    RawConfig.withFile m ⟨.deserialize relay, .deserialize loc, level⟩ =
      .error (.missingOption name) ↔ Missing m relay loc name := by
  unfold RawConfig.withFile
  simp only [RawRelayConfig.deserialize, RawLocalConfig.deserialize, text_eq_error_iff,
    value_eq_error_iff (intOption_ne_missingOption parseU16), ConfigError.missingOption.injEq]
  constructor
  · rintro (⟨h, rfl⟩ | ⟨server, hserver, ⟨h, rfl⟩ | ⟨port, hport, ⟨h, rfl⟩ | ⟨token, htoken,
      ⟨h, rfl⟩ | ⟨lport, -, h⟩⟩⟩⟩)
    · exact .server h
    · exact .port (exists_text_iff.mp ⟨_, hserver⟩) h
    · obtain ⟨hport, hparse⟩ := exists_port_iff.mp ⟨_, hport⟩
      exact .token (exists_text_iff.mp ⟨_, hserver⟩) hport hparse h
    · obtain ⟨hport, hparse⟩ := exists_port_iff.mp ⟨_, hport⟩
      exact .localPort (exists_text_iff.mp ⟨_, hserver⟩) hport hparse
        (exists_text_iff.mp ⟨_, htoken⟩) h
    · cases h
  · rintro (h | ⟨hserver, h⟩ | ⟨hserver, hport, hparse, h⟩ | ⟨hserver, hport, hparse, htoken, h⟩)
    · exact Or.inl ⟨h, rfl⟩
    · obtain ⟨server, hserver⟩ := exists_text_iff.mpr hserver
      exact Or.inr ⟨server, hserver, Or.inl ⟨h, rfl⟩⟩
    · obtain ⟨server, hserver⟩ := exists_text_iff.mpr hserver
      obtain ⟨port, hport⟩ := exists_port_iff.mpr ⟨hport, hparse⟩
      exact Or.inr ⟨server, hserver, Or.inr ⟨port, hport, Or.inl ⟨h, rfl⟩⟩⟩
    · obtain ⟨server, hserver⟩ := exists_text_iff.mpr hserver
      obtain ⟨port, hport⟩ := exists_port_iff.mpr ⟨hport, hparse⟩
      obtain ⟨token, htoken⟩ := exists_text_iff.mpr htoken
      exact Or.inr ⟨server, hserver, Or.inr ⟨port, hport, Or.inr ⟨token, htoken,
        Or.inl ⟨h, rfl⟩⟩⟩⟩

end Missing

/-! ## The settings of a command line -/

/-- The configuration file that is in effect; none is as good as one with empty objects. -/
def InEffect (env : Env) (m : Matches) (file : ConfigFile) : Prop :=
  match m.optStr "config" with
  | some path => env.readConfig path = .ok (.ok file)
  | none => file = .empty

section Parse

variable {env : Env} {m : Matches} {args : List String} {file : ConfigFile} {relay : RelayFile}
  {loc : LocalFile}

theorem RawConfig.parse_of_accepted (h : Accepted env.getopts options args m) :
    RawConfig.parse env args = RawConfig.ofMatches env m := by
  unfold RawConfig.parse
  simp only [h.parse, h.help, h.version, h.free, Bool.false_eq_true, if_false, ne_eq,
    not_true_eq_false]

/-- The settings are those of the file, overridden by the command line. -/
theorem InEffect.ofMatches_eq (h : InEffect env m file) (hrelay : file.relay = some relay)
    (hloc : file.localConfig = some loc) :
    RawConfig.ofMatches env m = (RawConfig.withFile m ⟨.deserialize relay, .deserialize loc,
      file.logLevel.getD Default.logLevel⟩ >>= RawConfig.overrideWith env m) := by
  have hbase : RawConfig.base env m = .ok ⟨.deserialize relay, .deserialize loc,
      file.logLevel.getD Default.logLevel⟩ := by
    unfold InEffect at h
    unfold RawConfig.base
    cases hconfig : m.optStr "config" with
    | none =>
      simp only [hconfig] at h ⊢
      subst h
      cases hrelay
      cases hloc
      rfl
    | some path =>
      simp only [hconfig] at h ⊢
      simp only [RawConfig.fromFile, RawConfig.deserialize, h, hrelay, hloc]
      rfl
  rw [RawConfig.ofMatches_eq_bind, hbase]
  rfl

/-- **The settings of the client.** For every command line that is accepted: without a configuration
file the result is the same, settings or error, as with one that has only empty objects; and for
every file that the schema accepts, the settings come from where they should, and a setting is
reported as missing exactly when it is absent from both sources and nothing fails before. -/
theorem parse_resolves (env : Env) (args : List String) (m : Matches)
    (h : Accepted env.getopts options args m) :
    (∀ (args' : List String) (m' : Matches) (path : String),
      Accepted env.getopts options args' m' →
      m.optStr "config" = none → m'.optStr "config" = some path →
      AgreeExcept "config" m m' → env.readConfig path = .ok (.ok .empty) →
      RawConfig.parse env args' = RawConfig.parse env args) ∧
    ∀ (file : ConfigFile) (relay : RelayFile) (loc : LocalFile), InEffect env m file →
      file.relay = some relay → file.localConfig = some loc →
      (∀ raw, RawConfig.parse env args = .ok raw →
        Resolved env m relay loc file.logLevel raw) ∧
      ∀ name, RawConfig.parse env args = .error (.missingOption name) ↔
        Missing m relay loc name := by
  constructor
  · intro args' m' path h' hnone hsome hagree hfile
    rw [RawConfig.parse_of_accepted h, RawConfig.parse_of_accepted h']
    exact RawConfig.ofMatches_of_config hagree hnone hsome hfile
  · intro file relay loc heffect hrelay hloc
    rw [RawConfig.parse_of_accepted h, heffect.ofMatches_eq hrelay hloc]
    refine ⟨fun raw hraw => Resolved.of_eq_ok hraw, fun name => ?_⟩
    rw [except_bind_eq_error, RawConfig.withFile_missing_iff]
    constructor
    · rintro (hmissing | ⟨raw, -, herr⟩)
      · exact hmissing
      · exact absurd herr RawConfig.overrideWith_ne_missingOption
    · exact Or.inl

end Parse

/-- The configuration file `c.json` has only empty objects, and there is no other file. -/
def sampleEnv : Env where
  getopts := .long
  parseIp _ := none
  readConfig path :=
    if path = "c.json" then .ok (.ok .empty) else .error ⟨.other, "No such file or directory"⟩

/-- A command line with the settings that have no default. -/
def sampleArgs : List String :=
  ["--server", "tuic.example", "--server-port", "443", "--token", "secret", "--local-port",
    "1080"]

/-- What is found in it. -/
def sampleMatches : Matches where
  found := [("server", .val "tuic.example"), ("server-port", .val "443"),
    ("token", .val "secret"), ("local-port", .val "1080")]
  free := []

theorem accepted_sampleArgs :
    Accepted sampleEnv.getopts options ("tuic-client" :: sampleArgs) sampleMatches where
  parse := rfl
  help := rfl
  version := rfl
  free := rfl

/-- The theorem with and without the file. -/
theorem parse_resolves_sample :
    RawConfig.parse sampleEnv ("tuic-client" :: "--config" :: "c.json" :: sampleArgs) =
        RawConfig.parse sampleEnv ("tuic-client" :: sampleArgs) ∧
      ∀ raw, RawConfig.parse sampleEnv ("tuic-client" :: sampleArgs) = .ok raw →
        Resolved sampleEnv sampleMatches .empty .empty none raw := by
  have hfound : sampleEnv.getopts.parse options ("--config" :: "c.json" :: sampleArgs) =
      .ok { sampleMatches with found := ("config", .val "c.json") :: sampleMatches.found } := rfl
  have h := parse_resolves sampleEnv _ _ accepted_sampleArgs
  refine ⟨h.1 _ _ "c.json" ⟨hfound, rfl, rfl, rfl⟩ rfl rfl
    (agreeExcept_cons _ _ _) rfl, ?_⟩
  exact (h.2 .empty .empty .empty rfl rfl rfl).1

end Tuic.Client
