import Tuic.Cli.Settings
import Tuic.Server.Connection

/-! # The settings of the server

`server/src/config.rs` and `server/src/certificate.rs`. `RawConfig.parse` puts the settings together
from the command line, the configuration file and the defaults, as in the client; `Config.parse`
makes of them what the server is run with: certificates and a key, an address to listen on, digests
of the tokens, and times.

`Resolved` says where each setting comes from and `Means` what becomes of it, in terms of the unit
that the authentication timeout is given in. That unit is what the code and the documentation do not
agree on. -/

namespace Tuic.Server.Startup

open ByteCodec Getopts

/-- The errors of the server's configuration. -/
inductive ConfigError where
  /-- The usage is to be printed. -/
  | help
  /-- The version is to be printed. -/
  | version
  /-- A file cannot be read. -/
  | io (path : String) (err : IoError)
  /-- The configuration file is rejected. -/
  | parseConfigJson (err : JsonError)
  /-- The command line is rejected. -/
  | parseArgument (err : Getopts.Fail)
  /-- There are free arguments. -/
  | unexpectedArguments (args : String)
  /-- A setting is neither on the command line nor in the configuration file. -/
  | missingOption (name : String)
  /-- An option is no integer. -/
  | parseInt (err : IntErrorKind)
  /-- An option is no IP address. -/
  | parseAddr
  /-- An option is no congestion controller. -/
  | invalidCongestionController
  /-- An option is no log level. -/
  | parseLogLevel
  /-- The certificates or the key cannot be used. -/
  | rustls (err : String)
  deriving DecidableEq

/-! ## The schema -/

/-- All settings. -/
structure RawConfig where
  port : Option UInt16
  token : List String
  certificate : Option String
  privateKey : Option String
  ip : IpAddr
  congestionController : CongestionController
  maxIdleTime : UInt32
  authenticationTimeout : UInt64
  alpn : List String
  maxUdpRelayPacketSize : Nat
  logLevel : LevelFilter
  deriving DecidableEq

namespace Default

def ip : IpAddr := .v4 ⟨0, 0, 0, 0⟩

def congestionController : CongestionController := .cubic

def maxIdleTime : UInt32 := 15000

def authenticationTimeout : UInt64 := 1000

def alpn : List String := []

def maxUdpRelayPacketSize : Nat := 1500

def logLevel : LevelFilter := .info

end Default

/-- `RawConfig::default` -/
def RawConfig.default : RawConfig where
  port := none
  token := []
  certificate := none
  privateKey := none
  ip := Default.ip
  congestionController := Default.congestionController
  maxIdleTime := Default.maxIdleTime
  authenticationTimeout := Default.authenticationTimeout
  alpn := Default.alpn
  maxUdpRelayPacketSize := Default.maxUdpRelayPacketSize
  logLevel := Default.logLevel

/-- The keys of a configuration file. -/
structure ConfigFile where
  port : Option UInt16
  token : Option (List String)
  certificate : Option String
  privateKey : Option String
  ip : Option IpAddr
  congestionController : Option CongestionController
  maxIdleTime : Option UInt32
  authenticationTimeout : Option UInt64
  alpn : Option (List String)
  maxUdpRelayPacketSize : Option Nat
  logLevel : Option LevelFilter

/-- The file with an object without keys. -/
def ConfigFile.empty : ConfigFile :=
  ⟨none, none, none, none, none, none, none, none, none, none, none⟩

/-- The settings of a file, once there are tokens. -/
def RawConfig.ofKeys (file : ConfigFile) (token : List String) : RawConfig where
  port := file.port
  token := token
  certificate := file.certificate
  privateKey := file.privateKey
  ip := file.ip.getD Default.ip
  congestionController := file.congestionController.getD Default.congestionController
  maxIdleTime := file.maxIdleTime.getD Default.maxIdleTime
  authenticationTimeout := file.authenticationTimeout.getD Default.authenticationTimeout
  alpn := file.alpn.getD Default.alpn
  maxUdpRelayPacketSize := file.maxUdpRelayPacketSize.getD Default.maxUdpRelayPacketSize
  logLevel := file.logLevel.getD Default.logLevel

/-- The schema of a configuration file: `token` is a list without a default. -/
def RawConfig.deserialize (file : ConfigFile) : Except JsonError RawConfig :=
  match file.token with
  | none => .error (.missingField "token")
  | some token => .ok (.ofKeys file token)

/-- **The defaults of the schema are the defaults of the code**, as far as it has any. -/
theorem RawConfig.ofKeys_empty : RawConfig.ofKeys .empty [] = RawConfig.default := rfl

/-! ## The command line -/

/-- The options of the server. -/
def options : Options :=
  [optopt "c" "config", optopt "" "port", optopt "" "token", optopt "" "certificate",
    optopt "" "private-key", optopt "" "ip", optopt "" "congestion-controller",
    optopt "" "max-idle-time", optopt "" "authentication-timeout", optopt "" "alpn",
    optopt "" "max-udp-relay-packet-size", optopt "" "log-level", optflag "v" "version",
    optflag "h" "help"]

/-- What is outside the program: how a command line is parsed and an IP address is read, the
configuration files and the others, the hash function, and whether TLS can use a chain of
certificates with a key. -/
structure Env where
  getopts : Getopts.Parser
  parseIp : String → Option IpAddr
  readConfig : String → Except IoError (Except JsonError ConfigFile)
  files : FileSystem
  hash : Bytes → Digest
  withSingleCert : List Bytes → Bytes → Except String Unit

section Parse

variable (env : Env) (m : Matches)

/-- An integer option. -/
def intOption {α : Type} (parse : String → Except IntErrorKind α) (s : String) :
    Except ConfigError α := (parse s).mapError .parseInt

/-- An IP address option. -/
def ipOption (s : String) : Except ConfigError IpAddr := okOr (env.parseIp s) .parseAddr

/-- `RawConfig::from_file` -/
def RawConfig.fromFile (path : String) : Except ConfigError RawConfig :=
  match env.readConfig path with
  | .error err => .error (.io path err)
  | .ok (.error err) => .error (.parseConfigJson err)
  | .ok (.ok file) => (RawConfig.deserialize file).mapError .parseConfigJson

/-- The tokens on the command line, or else those of the configuration file. -/
def tokenOr (given inFile : List String) : Except ConfigError (List String) :=
  if given ≠ [] then .ok given
  else if inFile = [] then .error (.missingOption "token")
  else .ok inFile

/-- The settings without a default, from the command line or the configuration file. -/
def RawConfig.withFile (raw : RawConfig) : Except ConfigError RawConfig := do
  let givenPort := (m.optStr "port").map (intOption parseU16)
  let port ← okOr ((← transpose givenPort).or raw.port) (.missingOption "port")
  let token ← tokenOr (m.optStrs "token") raw.token
  let certificate ← okOr ((m.optStr "certificate").or raw.certificate)
    (.missingOption "certificate")
  let privateKey ← okOr ((m.optStr "private-key").or raw.privateKey) (.missingOption "private key")
  return { raw with
    port := some port, token := token, certificate := some certificate
    privateKey := some privateKey }

/-- The settings without a default, from the command line only. -/
def RawConfig.withoutFile : Except ConfigError RawConfig := do
  let givenPort := (m.optStr "port").map (intOption parseU16)
  let port ← (← okOr givenPort (.missingOption "port"))
  let token := m.optStrs "token"
  let token ← okOr (if token ≠ [] then some token else none) (.missingOption "token")
  let certificate ← okOr (m.optStr "certificate") (.missingOption "certificate")
  let privateKey ← okOr (m.optStr "private-key") (.missingOption "private key")
  return { RawConfig.default with
    port := some port, token := token, certificate := some certificate
    privateKey := some privateKey }

/-- The other settings are overridden by the command line. -/
def RawConfig.overrideWith (raw : RawConfig) : Except ConfigError RawConfig := do
  let ip ← overridden (m.optStr "ip") (ipOption env) raw.ip
  let congestionController ← overridden (m.optStr "congestion-controller")
    (fun s => okOr (CongestionController.fromStr s) .invalidCongestionController)
    raw.congestionController
  let maxIdleTime ← overridden (m.optStr "max-idle-time") (intOption parseU32) raw.maxIdleTime
  let authenticationTimeout ← overridden (m.optStr "authentication-timeout") (intOption parseU64)
    raw.authenticationTimeout
  let maxUdpRelayPacketSize ← overridden (m.optStr "max-udp-relay-packet-size")
    (intOption parseUsize) raw.maxUdpRelayPacketSize
  let logLevel ← overridden (m.optStr "log-level")
    (fun s => okOr (LevelFilter.fromStr s) .parseLogLevel) raw.logLevel
  return { raw with
    ip := ip
    congestionController := congestionController
    maxIdleTime := maxIdleTime
    authenticationTimeout := authenticationTimeout
    alpn := overriddenList (m.optStrs "alpn") raw.alpn
    maxUdpRelayPacketSize := maxUdpRelayPacketSize
    logLevel := logLevel }

/-- The settings, once the command line is parsed. -/
def RawConfig.ofMatches : Except ConfigError RawConfig := do
  let raw ← match m.optStr "config" with
    | some path => RawConfig.fromFile env path >>= RawConfig.withFile m
    | none => RawConfig.withoutFile m
  raw.overrideWith env m

/-- `RawConfig::parse` -/
def RawConfig.parse (args : List String) : Except ConfigError RawConfig :=
  match env.getopts.parse options (args.drop 1) with
  | .error err => .error (.parseArgument err)
  | .ok m =>
    if m.optPresent "help" then .error .help
    else if m.optPresent "version" then .error .version
    else if m.free ≠ [] then .error (.unexpectedArguments (", ".intercalate m.free))
    else RawConfig.ofMatches env m

end Parse

/-! ## What the server is run with -/

section Load

variable (fs : FileSystem) (path : String)

/-- `load_certificates`: those of a PEM file, or else the file itself. -/
def loadCertificates : Except IoError (List Bytes) := do
  let file ← fs path
  if (pemCertificates file).isEmpty then
    let raw ← fs path
    return [raw.contents]
  else
    return pemCertificates file

/-- The private keys among the items of a PEM file. -/
def privateKey? : Item → Option Bytes
  | .rsaKey key | .pkcs8Key key | .ecKey key => some key
  | .x509Certificate _ => none

/-- `load_private_key`: the last one of a PEM file, or else the file itself. -/
def loadPrivateKey : Except IoError Bytes := do
  let file ← fs path
  match (itemsOf file.readOne).foldl (fun key item => (privateKey? item).or key) none with
  | some key => return key
  | none =>
    let raw ← fs path
    return raw.contents

end Load

/-- `quinn::IdleTimeout`, a number of milliseconds. -/
structure IdleTimeout where
  millis : UInt32
  deriving DecidableEq

/-- The time until an idle connection is closed. -/
def IdleTimeout.duration (t : IdleTimeout) : Duration := .fromMillis t.millis.toUInt64

/-- `quinn::ServerConfig`, as far as it is set. -/
structure ServerConfig where
  certs : List Bytes
  privKey : Bytes
  maxEarlyDataSize : UInt32
  alpnProtocols : List Bytes
  congestionController : CongestionController
  maxIdleTimeout : Option IdleTimeout
  deriving DecidableEq

/-- What the server is run with. The tokens are a set: it is only asked what is in it. -/
structure Config where
  serverConfig : ServerConfig
  listenAddr : SocketAddr
  token : List Digest
  authenticationTimeout : Duration
  maxUdpRelayPacketSize : Nat
  logLevel : LevelFilter
  deriving DecidableEq

/-- How `Config::parse` ends without a configuration. -/
inductive Stop where
  /-- With an error. -/
  | failed (err : ConfigError)
  /-- In an `unwrap`. -/
  | panicked
  deriving DecidableEq

/-- `Option::unwrap` -/
def unwrap {α : Type} (x : Option α) : Except Stop α := okOr x .panicked

section Config

variable (env : Env)

/-- The second part of `Config::parse`. -/
def Config.ofRaw (raw : RawConfig) : Except Stop Config := do
  let certPath ← unwrap raw.certificate
  let certs ← (loadCertificates env.files certPath).mapError fun err => .failed (.io certPath err)
  let privKeyPath ← unwrap raw.privateKey
  let privKey ← (loadPrivateKey env.files privKeyPath).mapError
    fun err => .failed (.io privKeyPath err)
  (env.withSingleCert certs privKey).mapError fun err => .failed (.rustls err)
  let port ← unwrap raw.port
  return {
    serverConfig := {
      certs := certs
      privKey := privKey
      maxEarlyDataSize := 0xffffffff
      alpnProtocols := raw.alpn.map asBytes
      congestionController := raw.congestionController
      maxIdleTimeout := some ⟨raw.maxIdleTime⟩ }
    listenAddr := .new raw.ip port
    token := raw.token.map fun token => env.hash (asBytes token)
    authenticationTimeout := .fromSecs raw.authenticationTimeout
    maxUdpRelayPacketSize := raw.maxUdpRelayPacketSize
    logLevel := raw.logLevel }

/-- `Config::parse` -/
def Config.parse (args : List String) : Except Stop Config := do
  let raw ← (RawConfig.parse env args).mapError .failed
  Config.ofRaw env raw

end Config

/-! ## Where the settings come from -/

/-- A port, from the text of an option. -/
def portOption (s : String) : Except ConfigError (Option UInt16) := some <$> intOption parseU16 s

/-- A text, from the text of an option. -/
def textOption (s : String) : Except ConfigError (Option String) := .ok (some s)

/-- **Where each setting comes from**: the command line if the option is there, else the
configuration file, else the default. -/
structure Resolved (env : Env) (m : Matches) (file : ConfigFile) (raw : RawConfig) : Prop where
  port : Chosen (m.optStr "port") portOption file.port raw.port
  token : raw.token = overriddenList (m.optStrs "token") (file.token.getD [])
  certificate : Chosen (m.optStr "certificate") textOption file.certificate raw.certificate
  privateKey : Chosen (m.optStr "private-key") textOption file.privateKey raw.privateKey
  ip : Chosen (m.optStr "ip") (ipOption env) (file.ip.getD Default.ip) raw.ip
  congestionController : Chosen (m.optStr "congestion-controller")
    (fun s => okOr (CongestionController.fromStr s) ConfigError.invalidCongestionController)
    (file.congestionController.getD Default.congestionController) raw.congestionController
  maxIdleTime : Chosen (m.optStr "max-idle-time") (intOption parseU32)
    (file.maxIdleTime.getD Default.maxIdleTime) raw.maxIdleTime
  authenticationTimeout : Chosen (m.optStr "authentication-timeout") (intOption parseU64)
    (file.authenticationTimeout.getD Default.authenticationTimeout) raw.authenticationTimeout
  alpn : raw.alpn = overriddenList (m.optStrs "alpn") (file.alpn.getD Default.alpn)
  maxUdpRelayPacketSize : Chosen (m.optStr "max-udp-relay-packet-size") (intOption parseUsize)
    (file.maxUdpRelayPacketSize.getD Default.maxUdpRelayPacketSize) raw.maxUdpRelayPacketSize
  logLevel : Chosen (m.optStr "log-level")
    (fun s => okOr (LevelFilter.fromStr s) ConfigError.parseLogLevel)
    (file.logLevel.getD Default.logLevel) raw.logLevel

/-- The configuration file that is in effect; without one, no key is there. -/
def InEffect (env : Env) (m : Matches) (file : ConfigFile) : Prop :=
  match m.optStr "config" with
  | some path => env.readConfig path = .ok (.ok file)
  | none => file = .empty

section Resolve

variable {env : Env} {m : Matches} {args : List String} {raw raw₀ raw₁ : RawConfig}
  {file : ConfigFile} {given token token' : List String}

/-- Tokens are found if there are any. -/
theorem tokenOr_eq_ok : tokenOr given token = .ok token' ↔
    overriddenList given token = token' ∧ token' ≠ [] := by
  unfold tokenOr overriddenList
  by_cases hgiven : given = []
  · by_cases htoken : token = []
    · simp [hgiven, htoken, eq_comm]
    · simp only [hgiven, htoken, ne_eq, not_true_eq_false, if_false, if_true, Except.ok.injEq]
      exact ⟨fun h => ⟨h, h ▸ htoken⟩, And.left⟩
  · simp only [hgiven, ne_eq, not_false_eq_true, if_true, if_false, Except.ok.injEq]
    exact ⟨fun h => ⟨h, h ▸ hgiven⟩, And.left⟩

/-- Without a configuration file there are no other tokens. -/
theorem tokenOr_nil : tokenOr given [] =
    okOr (if given ≠ [] then some given else none) (.missingOption "token") := by
  unfold tokenOr
  by_cases hgiven : given = []
  · simp [hgiven, okOr]
  · simp [hgiven, okOr]

/-- **The two pieces of code agree**: no configuration file is as good as the defaults. -/
theorem RawConfig.withFile_default (m : Matches) :
    RawConfig.withFile m .default = RawConfig.withoutFile m := by
  unfold RawConfig.withFile RawConfig.withoutFile
  simp only [RawConfig.default, Option.or_none, transpose_okOr, tokenOr_nil]

/-- The settings before the command line: those of the file, or else the defaults. -/
def RawConfig.base (env : Env) (m : Matches) : Except ConfigError RawConfig :=
  match m.optStr "config" with
  | some path => RawConfig.fromFile env path
  | none => .ok .default

/-- So the settings are put together in one way. -/
theorem RawConfig.ofMatches_eq_bind : RawConfig.ofMatches env m =
    RawConfig.base env m >>= fun raw =>
      RawConfig.withFile m raw >>= RawConfig.overrideWith env m := by
  unfold RawConfig.ofMatches RawConfig.base
  cases m.optStr "config" with
  | none =>
    simp only [← RawConfig.withFile_default]
    rfl
  | some path => simp only [bind_assoc]

/-- The settings without a default, when they are all there. -/
theorem RawConfig.withFile_eq_ok (h : RawConfig.withFile m raw₀ = .ok raw₁) :
    ∃ port token certificate privateKey,
      Chosen (m.optStr "port") portOption raw₀.port (some port) ∧
      overriddenList (m.optStrs "token") raw₀.token = token ∧
      Chosen (m.optStr "certificate") textOption raw₀.certificate (some certificate) ∧
      Chosen (m.optStr "private-key") textOption raw₀.privateKey (some privateKey) ∧
      raw₁ = { raw₀ with
        port := some port, token := token, certificate := some certificate
        privateKey := some privateKey } := by
  unfold RawConfig.withFile at h
  simp only [except_bind_eq_ok, okOr_eq_ok, tokenOr_eq_ok] at h
  obtain ⟨y, hy, port, hport, token, ⟨htoken, -⟩, cert, hcert, key, hkey, h⟩ := h
  cases h
  exact ⟨port, token, cert, key, transpose_map_eq_ok.mp ⟨y, hy, hport⟩, htoken,
    or_eq_iff_chosen.mp hcert, or_eq_iff_chosen.mp hkey, rfl⟩

/-- **The settings of a file, overridden by the command line**, are where they should come from. -/
theorem Resolved.of_eq_ok (htoken : file.token.getD [] = token)
    (h : (RawConfig.withFile m (.ofKeys file token) >>= RawConfig.overrideWith env m) = .ok raw) :
    Resolved env m file raw := by
  obtain ⟨raw₁, h₁, h⟩ := except_bind_eq_ok.mp h
  obtain ⟨port, token, cert, key, hport, rfl, hcert, hkey, rfl⟩ := RawConfig.withFile_eq_ok h₁
  unfold RawConfig.overrideWith at h
  simp only [except_bind_eq_ok, overridden_eq_ok] at h
  obtain ⟨ip, hip, cc, hcc, idle, hidle, auth, hauth, size, hsize, level, hlevel, h⟩ := h
  cases h
  exact ⟨hport, by rw [htoken]; rfl, hcert, hkey, hip, hcc, hidle, hauth, rfl, hsize, hlevel⟩

/-- The settings are those of some file, overridden by the command line. -/
theorem RawConfig.ofMatches_eq_ok (h : RawConfig.ofMatches env m = .ok raw) :
    ∃ file token, InEffect env m file ∧ file.token.getD [] = token ∧
      (RawConfig.withFile m (.ofKeys file token) >>= RawConfig.overrideWith env m) = .ok raw := by
  rw [RawConfig.ofMatches_eq_bind] at h
  obtain ⟨raw₀, hbase, h⟩ := except_bind_eq_ok.mp h
  unfold RawConfig.base at hbase
  unfold InEffect
  cases hconfig : m.optStr "config" with
  | none =>
    simp only [hconfig] at hbase
    cases hbase
    exact ⟨.empty, [], rfl, rfl, h⟩
  | some path =>
    simp only [hconfig, RawConfig.fromFile] at hbase
    split at hbase
    · cases hbase
    · cases hbase
    · rename_i file hfile
      rw [mapError_eq_ok] at hbase
      unfold RawConfig.deserialize at hbase
      split at hbase
      · cases hbase
      · rename_i token htoken
        cases hbase
        exact ⟨file, token, hfile, by rw [htoken]; rfl, h⟩

/-- There is one file in effect. -/
theorem InEffect.unique {file' : ConfigFile} (h : InEffect env m file) (h' : InEffect env m file') :
    file = file' := by
  unfold InEffect at h h'
  cases hconfig : m.optStr "config" with
  | none =>
    rw [hconfig] at h h'
    exact h.trans h'.symm
  | some path =>
    rw [hconfig] at h h'
    exact Except.ok.inj (Except.ok.inj (h.symm.trans h'))

/-- The settings of a command line that is accepted. -/
theorem RawConfig.parse_eq_ok (h : RawConfig.parse env args = .ok raw) :
    ∃ m, Accepted env.getopts options args m ∧ RawConfig.ofMatches env m = .ok raw := by
  unfold RawConfig.parse at h
  split at h
  · cases h
  · rename_i m hm
    split_ifs at h with hhelp hversion hfree
    exact ⟨m, ⟨hm, by simpa using hhelp, by simpa using hversion, by simpa using hfree⟩, h⟩

/-- The settings without a default are there. -/
structure RawConfig.Filled (raw : RawConfig) : Prop where
  port : raw.port ≠ none
  certificate : raw.certificate ≠ none
  privateKey : raw.privateKey ≠ none

theorem RawConfig.filled_of_withFile (h : RawConfig.withFile m raw₀ = .ok raw₁) : raw₁.Filled := by
  obtain ⟨port, token, cert, key, -, -, -, -, rfl⟩ := RawConfig.withFile_eq_ok h
  exact ⟨Option.some_ne_none _, Option.some_ne_none _, Option.some_ne_none _⟩

/-- The command line does not take them away again. -/
theorem RawConfig.Filled.overrideWith (hfilled : raw₁.Filled)
    (h : raw₁.overrideWith env m = .ok raw) : raw.Filled := by
  unfold RawConfig.overrideWith at h
  simp only [except_bind_eq_ok] at h
  obtain ⟨ip, -, cc, -, idle, -, auth, -, size, -, level, -, h⟩ := h
  cases h
  exact ⟨hfilled.port, hfilled.certificate, hfilled.privateKey⟩

/-- **Settings that are put together have no gaps.** -/
theorem RawConfig.filled_of_parse (h : RawConfig.parse env args = .ok raw) : raw.Filled := by
  obtain ⟨m, -, h⟩ := RawConfig.parse_eq_ok h
  obtain ⟨file, token, -, -, h⟩ := RawConfig.ofMatches_eq_ok h
  obtain ⟨raw₁, h₁, h⟩ := except_bind_eq_ok.mp h
  exact (RawConfig.filled_of_withFile h₁).overrideWith h

end Resolve

/-! ## What becomes of the settings -/

/-- **What the settings mean**, if the authentication timeout is given in this unit. -/
structure Means (env : Env) (unit : UInt64 → Duration) (raw : RawConfig) (cfg : Config) : Prop where
  certificate : ∃ path, raw.certificate = some path ∧
    loadCertificates env.files path = .ok cfg.serverConfig.certs
  privateKey : ∃ path, raw.privateKey = some path ∧
    loadPrivateKey env.files path = .ok cfg.serverConfig.privKey
  listenAddr : ∃ port, raw.port = some port ∧ cfg.listenAddr = .new raw.ip port
  token : ∀ digest, digest ∈ cfg.token ↔ ∃ token ∈ raw.token, env.hash (asBytes token) = digest
  congestionController : cfg.serverConfig.congestionController = raw.congestionController
  maxIdleTime : cfg.serverConfig.maxIdleTimeout.map IdleTimeout.duration =
    some (.fromMillis raw.maxIdleTime.toUInt64)
  authenticationTimeout : cfg.authenticationTimeout = unit raw.authenticationTimeout
  alpn : cfg.serverConfig.alpnProtocols = raw.alpn.map asBytes
  maxUdpRelayPacketSize : cfg.maxUdpRelayPacketSize = raw.maxUdpRelayPacketSize
  logLevel : cfg.logLevel = raw.logLevel

/-- **What is documented**: each setting comes from where it should, and the times are given in
milliseconds. -/
def Documented (env : Env) (m : Matches) (file : ConfigFile) (cfg : Config) : Prop :=
  ∃ raw, Resolved env m file raw ∧ Means env .fromMillis raw cfg

section Means

variable {env : Env} {m : Matches} {args : List String} {raw : RawConfig} {file : ConfigFile}
  {cfg : Config}

/-- Only the authentication timeout depends on the unit. -/
theorem Means.of_eq {unit unit' : UInt64 → Duration} (h : Means env unit raw cfg)
    (hunit : unit raw.authenticationTimeout = unit' raw.authenticationTimeout) :
    Means env unit' raw cfg :=
  { h with authenticationTimeout := h.authenticationTimeout.trans hunit }

/-- **The code takes the authentication timeout for a number of seconds**, and everything else for
what it is meant to be. -/
theorem Means.of_ofRaw (h : Config.ofRaw env raw = .ok cfg) : Means env .fromSecs raw cfg := by
  unfold Config.ofRaw unwrap at h
  simp only [except_bind_eq_ok, okOr_eq_ok, mapError_eq_ok] at h
  obtain ⟨certPath, hcertPath, certs, hcerts, keyPath, hkeyPath, key, hkey, -, -, port, hport, h⟩ :=
    h
  cases h
  exact ⟨⟨certPath, hcertPath, hcerts⟩, ⟨keyPath, hkeyPath, hkey⟩, ⟨port, hport, rfl⟩,
    fun digest => List.mem_map, rfl, rfl, rfl, rfl, rfl, rfl⟩

/-- What is handed to each connection. -/
def Config.connection (cfg : Config) : Server.Config := ⟨cfg.token, cfg.maxUdpRelayPacketSize⟩

/-- **What `Config::parse` returns.** -/
theorem Config.parse_spec (h : Accepted env.getopts options args m) (hfile : InEffect env m file)
    (hparse : Config.parse env args = .ok cfg) :
    ∃ raw, Resolved env m file raw ∧ Means env .fromSecs raw cfg := by
  obtain ⟨raw, hraw, hcfg⟩ := except_bind_eq_ok.mp hparse
  obtain ⟨m', h', hm'⟩ := RawConfig.parse_eq_ok (mapError_eq_ok.mp hraw)
  obtain rfl := h.unique h'
  obtain ⟨file', token, hfile', htoken, hm'⟩ := RawConfig.ofMatches_eq_ok hm'
  obtain rfl := hfile.unique hfile'
  exact ⟨raw, .of_eq_ok htoken hm', .of_ofRaw hcfg⟩

/-- **`Config::parse` does not panic.** -/
theorem Config.parse_ne_panicked (env : Env) (args : List String) :
    Config.parse env args ≠ .error .panicked := by
  intro h
  rcases except_bind_eq_error.mp h with h | ⟨raw, hraw, h⟩
  · exact FailsOnly.mapError (P := (· ≠ .panicked)) (by simp) _ h rfl
  have hfilled := RawConfig.filled_of_parse (mapError_eq_ok.mp hraw)
  have hfails : FailsOnly (· ≠ .panicked) (Config.ofRaw env raw) := by
    unfold Config.ofRaw
    refine .bind (.okOr fun hnone => absurd hnone hfilled.certificate) fun certPath => ?_
    refine .bind (.mapError (by simp)) fun certs => ?_
    refine .bind (.okOr fun hnone => absurd hnone hfilled.privateKey) fun keyPath => ?_
    refine .bind (.mapError (by simp)) fun key => ?_
    refine .bind (.mapError (by simp)) fun _ => ?_
    exact .bind (.okOr fun hnone => absurd hnone hfilled.port) fun port => .ok
  exact hfails _ h rfl

/-- The two readings of the authentication timeout are the same for one value only. -/
theorem documented_iff (hraw : Resolved env m file raw) (hcfg : Means env .fromSecs raw cfg) :
    Documented env m file cfg ↔ raw.authenticationTimeout = 0 := by
  rw [← Duration.fromSecs_eq_fromMillis_iff]
  constructor
  · rintro ⟨raw', hraw', hcfg'⟩
    rw [← hcfg.authenticationTimeout, hcfg'.authenticationTimeout,
      hraw.authenticationTimeout.unique hraw'.authenticationTimeout]
  · intro hzero
    exact ⟨raw, hraw, hcfg.of_eq hzero⟩

/-- **The settings of the server mean what is documented exactly when the authentication timeout is
zero.** Every other setting is what it should be, and this one is a thousand times as long. -/
theorem parse_documented_iff (env : Env) (args : List String) (m : Matches) (file : ConfigFile)
    (cfg : Config) (h : Accepted env.getopts options args m) (hfile : InEffect env m file)
    (hparse : Config.parse env args = .ok cfg) :
    Documented env m file cfg ↔
      Chosen (m.optStr "authentication-timeout") (intOption parseU64)
        (file.authenticationTimeout.getD Default.authenticationTimeout) 0 := by
  obtain ⟨raw, hraw, hcfg⟩ := Config.parse_spec h hfile hparse
  rw [documented_iff hraw hcfg]
  constructor
  · intro hzero
    have hauth := hraw.authenticationTimeout
    rwa [hzero] at hauth
  · exact hraw.authenticationTimeout.unique

end Means

/-- There are a certificate and a key, and no configuration file. -/
def sampleEnv : Env where
  getopts := .long
  parseIp _ := none
  readConfig _ := .error ⟨.other, "No such file or directory"⟩
  files path :=
    if path = "cert.pem" then .ok ⟨[1], [.ok (.x509Certificate [2])]⟩
    else if path = "key.der" then .ok ⟨[3], []⟩
    else .error ⟨.other, "No such file or directory"⟩
  hash bytes := .replicate 32 (bytes.headD 0)
  withSingleCert _ _ := .ok ()

/-- A command line with the settings that have no default. -/
def sampleArgs : List String :=
  ["--port", "443", "--token", "secret", "--certificate", "cert.pem", "--private-key", "key.der"]

/-- What is found in it. -/
def sampleMatches : Matches where
  found := [("port", .val "443"), ("token", .val "secret"), ("certificate", .val "cert.pem"),
    ("private-key", .val "key.der")]
  free := []

/-- What becomes of it, with an authentication timeout. -/
def sampleConfig (authenticationTimeout : Duration) : Config where
  serverConfig := ⟨[[2]], [3], 0xffffffff, [], .cubic, some ⟨15000⟩⟩
  listenAddr := .v4 ⟨0, 0, 0, 0⟩ 443
  token := [.replicate 32 115]
  authenticationTimeout := authenticationTimeout
  maxUdpRelayPacketSize := 1500
  logLevel := .info

/-- With a timeout of zero everything is as documented. -/
theorem parse_documented_iff_zero :
    ∃ m, Accepted sampleEnv.getopts options
        ("tuic-server" :: "--authentication-timeout" :: "0" :: sampleArgs) m ∧
      Documented sampleEnv m .empty (sampleConfig ⟨0⟩) := by
  let m : Matches :=
    { sampleMatches with found := ("authentication-timeout", .val "0") :: sampleMatches.found }
  have haccepted : Accepted sampleEnv.getopts options
      ("tuic-server" :: "--authentication-timeout" :: "0" :: sampleArgs) m := ⟨rfl, rfl, rfl, rfl⟩
  have hfile : InEffect sampleEnv m .empty := rfl
  have hparse : Config.parse sampleEnv
      ("tuic-server" :: "--authentication-timeout" :: "0" :: sampleArgs) =
        .ok (sampleConfig ⟨0⟩) := by decide
  exact ⟨m, haccepted, (parse_documented_iff _ _ _ _ _ haccepted hfile hparse).mpr rfl⟩

/-- **A timeout of a thousand milliseconds, the default, becomes one of a thousand seconds.** -/
theorem parse_not_documented :
    Accepted sampleEnv.getopts options ("tuic-server" :: sampleArgs) sampleMatches ∧
      InEffect sampleEnv sampleMatches .empty ∧
      Config.parse sampleEnv ("tuic-server" :: sampleArgs) =
        .ok (sampleConfig (.fromSecs 1000)) ∧
      ¬ Documented sampleEnv sampleMatches .empty (sampleConfig (.fromSecs 1000)) := by
  have haccepted : Accepted sampleEnv.getopts options ("tuic-server" :: sampleArgs) sampleMatches :=
    ⟨rfl, rfl, rfl, rfl⟩
  have hparse : Config.parse sampleEnv ("tuic-server" :: sampleArgs) =
      .ok (sampleConfig (.fromSecs 1000)) := by decide
  have hfile : InEffect sampleEnv sampleMatches .empty := rfl
  refine ⟨haccepted, hfile, hparse, ?_⟩
  obtain ⟨raw, hraw, hcfg⟩ := Config.parse_spec haccepted hfile hparse
  rw [documented_iff hraw hcfg]
  have htimeout : raw.authenticationTimeout = 1000 := hraw.authenticationTimeout
  rw [htimeout]
  decide

end Tuic.Server.Startup
