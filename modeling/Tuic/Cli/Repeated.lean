import Tuic.Client.Config
import Tuic.Server.Sources

/-! # Options that can be repeated

The tokens of the server, the certificates of the client and the ALPN protocols of both are lists,
and the help texts say that their options can be used multiple times. `overriddenList` takes a list
of any length; whether more than one value gets that far is decided by how the option was declared.
A program is taken here as its options and what it does with the result of parsing them (`Program`),
and an option as the list of settings that its values go into (`ListOption`). -/

namespace Tuic

open Getopts

/-- A program that is configured by its command line. -/
structure Program (ε R : Type) where
  /-- How the command line is parsed. -/
  getopts : Parser
  /-- The options. -/
  opts : Options
  /-- What becomes of a command line. -/
  parse : List String → Except ε R
  /-- What becomes of what was found in it. -/
  ofMatches : Matches → Except ε R
  /-- A command line that is accepted is what was found in it. -/
  parse_accepted : ∀ {args m}, Accepted getopts opts args m → parse args = ofMatches m
  /-- One that cannot be parsed is an error. -/
  parse_rejected : ∀ {args e}, getopts.parse opts (args.drop 1) = .error e →
    ∃ e', parse args = .error e'

/-- The values of an option go into a list of settings, in the order they are given. -/
structure ListOption {ε R : Type} (opts : Options) (ofMatches : Matches → Except ε R) (o : Opt)
    (field : R → List String) : Prop where
  /-- The options have names of their own. -/
  plain : opts.Plain
  /-- The option is declared. -/
  declared : o ∈ opts
  /-- It is none of the two that stop the program. -/
  help : "help" ≠ o.longName
  version : "version" ≠ o.longName
  /-- Whatever values it has, they are the settings. -/
  takes : ∀ {m m' : Matches} {raw : R}, AgreeExcept o.longName m m' →
    m'.optStrs o.longName ≠ [] → ofMatches m = .ok raw →
    ∃ raw', ofMatches m' = .ok raw' ∧ field raw' = m'.optStrs o.longName

/-- The command line gives these values to the option, and is valid otherwise: the program accepts
one, `args₀`, that differs from it only in the values of the option. -/
def OtherwiseValid {ε R : Type} (getopts : Parser) (opts : Options)
    (parse : List String → Except ε R) (name : String) (vs args : List String) : Prop :=
  ∃ args₀ m raw found, Accepted getopts opts args₀ m ∧ parse args₀ = .ok raw ∧
    Repeats getopts opts name m vs (args.drop 1) found

/-- The program accepts the command line, and the list of settings is the list of values. -/
def Honours {ε R : Type} (parse : List String → Except ε R) (field : R → List String)
    (vs args : List String) : Prop :=
  ∃ raw, parse args = .ok raw ∧ field raw = vs

section Program

variable {ε R : Type} {P : Program ε R} {getopts : Parser} {opts : Options} {name : String}
  {o : Opt} {field : R → List String} {m : Matches} {vs args args₀ : List String} {found : Found}

/-- What was found for the other options is the same. -/
theorem agreeExcept_of_repeats (h : Repeats getopts opts name m vs args found) :
    AgreeExcept name m ⟨found, m.free⟩ :=
  fun nm hne => h.others nm hne

/-- What was found for the option are the values. -/
theorem optStrs_of_repeats (h : Repeats getopts opts name m vs args found) :
    (⟨found, m.free⟩ : Matches).optStrs name = vs := by
  simp only [Matches.optStrs, Matches.optVals, h.given, List.filterMap_map]
  exact List.filterMap_some

/-- A command line with the option once per value. -/
def repeated (prog name : String) (vs args : List String) : List String :=
  prog :: ((vs.flatMap fun v => ["--" ++ name, v]) ++ args)

/-- **Every list of values can be given** to a program that can do without the option. -/
theorem otherwiseValid_repeated {parse : List String → Except ε R} {raw : R} {prog : String}
    (hacc : Accepted getopts opts (prog :: args) m) (hok : parse (prog :: args) = .ok raw)
    (hplain : opts.Plain) (ho : o ∈ opts) (harg : o.hasArg = .yes)
    (hnone : m.found.vals o.longName = []) (vs : List String) :
    OtherwiseValid getopts opts parse o.longName vs (repeated prog o.longName vs args) :=
  ⟨_, m, raw, _, hacc, hok, .front hacc.parse hplain ho harg hnone vs⟩

/-- **Which lists of values are honoured**: all of them if the option is declared as repeatable, and
otherwise those with one value. -/
theorem ListOption.honours_iff (hopt : ListOption P.opts P.ofMatches o field) (hvs : vs ≠ [])
    (h : OtherwiseValid P.getopts P.opts P.parse o.longName vs args) :
    Honours P.parse field vs args ↔ o.occur = .multi ∨ vs.length = 1 := by
  obtain ⟨args₀, m, raw, found, hacc, hok, hrep⟩ := h
  have hlen : vs.length ≤ 1 ↔ vs.length = 1 := by
    have hpos := List.length_pos_iff.mpr hvs
    omega
  by_cases hocc : o.occur = .multi ∨ vs.length ≤ 1
  · -- the values get through, and everything else was accepted before
    have hparse := hrep.parse_ok hacc.parse hopt.plain hopt.declared hocc
    have hagree := agreeExcept_of_repeats hrep
    have hstrs := optStrs_of_repeats hrep
    have hacc' : Accepted P.getopts P.opts args ⟨found, m.free⟩ :=
      ⟨hparse, (hagree.optPresent "help" hopt.help).trans hacc.help,
        (hagree.optPresent "version" hopt.version).trans hacc.version, hacc.free⟩
    rw [P.parse_accepted hacc] at hok
    obtain ⟨raw', hraw', hfield⟩ := hopt.takes hagree (by rwa [hstrs]) hok
    refine iff_of_true ⟨raw', ?_, hfield.trans hstrs⟩ (hocc.imp_right hlen.mp)
    rw [P.parse_accepted hacc', hraw']
  · obtain ⟨hmulti, hmany⟩ := not_or.mp hocc
    obtain ⟨e, hparse⟩ := hrep.parse_error hopt.plain hopt.declared hmulti
      (Nat.lt_of_not_le hmany)
    obtain ⟨e', he'⟩ := P.parse_rejected hparse
    refine iff_of_false ?_ fun hone => hocc (hone.imp_right hlen.mpr)
    rintro ⟨raw', hraw', -⟩
    rw [he'] at hraw'
    cases hraw'

end Program

end Tuic

/-! ## The server -/

namespace Tuic.Server.Startup

open Getopts

/-- The server, with its configuration files. -/
def program (env : Env) : Program ConfigError RawConfig where
  getopts := env.getopts
  opts := options
  parse := RawConfig.parse env
  ofMatches := RawConfig.ofMatches env
  parse_accepted := RawConfig.parse_of_accepted
  parse_rejected h := ⟨_, by unfold RawConfig.parse; rw [h]⟩

section Lists

variable {env : Env} {m m' : Matches} {raw raw₀ raw₁ : RawConfig}

/-- Other tokens on the command line are the only difference they make. -/
theorem RawConfig.withFile_of_tokens (h : AgreeExcept "token" m m')
    (hne : m'.optStrs "token" ≠ []) (hok : RawConfig.withFile m raw₀ = .ok raw₁) :
    RawConfig.withFile m' raw₀ = .ok { raw₁ with token := m'.optStrs "token" } := by
  unfold RawConfig.withFile at hok ⊢
  rw [h.optStr "port" (by decide), h.optStr "certificate" (by decide),
    h.optStr "private-key" (by decide)]
  simp only [except_bind_eq_ok] at hok ⊢
  obtain ⟨given, hgiven, port, hport, token, -, cert, hcert, key, hkey, hok⟩ := hok
  have htoken : tokenOr (m'.optStrs "token") raw₀.token = .ok (m'.optStrs "token") :=
    tokenOr_eq_ok.mpr ⟨if_neg hne, hne⟩
  cases hok
  exact ⟨given, hgiven, port, hport, _, htoken, cert, hcert, key, hkey, rfl⟩

/-- The settings that are overridden are the same, but for the ALPN protocols, and whatever the
tokens are. -/
theorem RawConfig.overrideWith_of_agreeExcept {but : String} (h : AgreeExcept but m m')
    (hbut : ∀ name ∈ ["ip", "congestion-controller", "max-idle-time", "authentication-timeout",
      "max-udp-relay-packet-size", "log-level"],
      name ≠ but)
    (token : List String) (hok : raw₁.overrideWith env m = .ok raw) :
    RawConfig.overrideWith env m' { raw₁ with token := token } =
      .ok { raw with
        token := token, alpn := overriddenList (m'.optStrs "alpn") raw₁.alpn } := by
  simp only [List.forall_mem_cons] at hbut
  obtain ⟨hip, hcc, hidle, hauth, hsize, hlevel, -⟩ := hbut
  unfold RawConfig.overrideWith at hok ⊢
  rw [h.optStr _ hip, h.optStr _ hcc, h.optStr _ hidle, h.optStr _ hauth, h.optStr _ hsize,
    h.optStr _ hlevel]
  simp only [except_bind_eq_ok] at hok ⊢
  obtain ⟨ip, hip, cc, hcc, idle, hidle, auth, hauth, size, hsize, level, hlevel, hok⟩ := hok
  cases hok
  exact ⟨ip, hip, cc, hcc, idle, hidle, auth, hauth, size, hsize, level, hlevel, rfl⟩

/-- The file is the same. -/
theorem RawConfig.base_of_agreeExcept {but : String} (h : AgreeExcept but m m')
    (hbut : "config" ≠ but) :
    RawConfig.base env m' = RawConfig.base env m := by
  unfold RawConfig.base
  rw [h.optStr "config" hbut]

end Lists

/-- The values of `token` are the tokens. -/
theorem listOption_token (env : Env) :
    ListOption options (RawConfig.ofMatches env) (optopt "" "token") RawConfig.token where
  plain := by decide
  declared := by decide
  help := by decide
  version := by decide
  takes {m m' raw} h hne hok := by
    rw [RawConfig.ofMatches_eq_bind] at hok ⊢
    rw [RawConfig.base_of_agreeExcept h (by decide)]
    simp only [except_bind_eq_ok] at hok ⊢
    obtain ⟨raw₀, hbase, raw₁, hfile, hok⟩ := hok
    exact ⟨_, ⟨raw₀, hbase, _, RawConfig.withFile_of_tokens h hne hfile,
      RawConfig.overrideWith_of_agreeExcept h (by decide) _ hok⟩, rfl⟩

/-- The values of `alpn` are the ALPN protocols. -/
theorem listOption_alpn (env : Env) :
    ListOption options (RawConfig.ofMatches env) (optopt "" "alpn") RawConfig.alpn where
  plain := by decide
  declared := by decide
  help := by decide
  version := by decide
  takes {m m' raw} h hne hok := by
    rw [RawConfig.ofMatches_eq_bind] at hok ⊢
    rw [RawConfig.base_of_agreeExcept h (by decide),
      RawConfig.withFile_of_agreeExcept h (by decide)]
    simp only [except_bind_eq_ok] at hok ⊢
    obtain ⟨raw₀, hbase, raw₁, hfile, hok⟩ := hok
    exact ⟨_, ⟨raw₀, hbase, raw₁, hfile,
      RawConfig.overrideWith_of_agreeExcept h (by decide) raw₁.token hok⟩, if_neg hne⟩

end Tuic.Server.Startup

/-! ## The client -/

namespace Tuic.Client

open Getopts

/-- The client, with its configuration files. -/
def program (env : Env) : Program ConfigError RawConfig where
  getopts := env.getopts
  opts := options
  parse := RawConfig.parse env
  ofMatches := RawConfig.ofMatches env
  parse_accepted := RawConfig.parse_of_accepted
  parse_rejected h := ⟨_, by unfold RawConfig.parse; rw [h]⟩

section Lists

variable {env : Env} {m m' : Matches} {raw raw₁ : RawConfig} {but : String}

/-- The settings that are overridden are the same, but for the certificates and the ALPN protocols.
-/
theorem RawConfig.overrideWith_of_agreeExcept (h : AgreeExcept but m m')
    (hbut : ∀ name ∈ ["server-ip", "udp-relay-mode", "congestion-controller",
      "heartbeat-interval", "request-timeout", "max-udp-relay-packet-size", "local-ip",
      "log-level", "local-username", "local-password", "disable-sni", "reduce-rtt"],
      name ≠ but)
    (hok : raw₁.overrideWith env m = .ok raw) :
    raw₁.overrideWith env m' = .ok { raw with relay := { raw.relay with
      certificates := overriddenList (m'.optStrs "certificate") raw₁.relay.certificates
      alpn := overriddenList (m'.optStrs "alpn") raw₁.relay.alpn } } := by
  simp only [List.forall_mem_cons] at hbut
  obtain ⟨hip, hmode, hcc, hinterval, htimeout, hsize, hlip, hlevel, huser, hpass, hsni, hrtt, -⟩ :=
    hbut
  unfold RawConfig.overrideWith at hok ⊢
  rw [h.optStr _ hip, h.optStr _ hmode, h.optStr _ hcc, h.optStr _ hinterval, h.optStr _ htimeout,
    h.optStr _ hsize, h.optStr _ hlip, h.optStr _ hlevel, h.optStr _ huser, h.optStr _ hpass,
    h.optPresent _ hsni, h.optPresent _ hrtt]
  simp only [except_bind_eq_ok] at hok ⊢
  obtain ⟨ip, hip, mode, hmode, cc, hcc, interval, hinterval, timeout, htimeout, size, hsize, lip,
    hlip, level, hlevel, hok⟩ := hok
  cases hok
  exact ⟨ip, hip, mode, hmode, cc, hcc, interval, hinterval, timeout, htimeout, size, hsize, lip,
    hlip, level, hlevel, rfl⟩

/-- **The settings of another list of certificates or ALPN protocols.** -/
theorem RawConfig.ofMatches_of_agreeExcept (hbut : but = "certificate" ∨ but = "alpn")
    (h : AgreeExcept but m m') (hok : RawConfig.ofMatches env m = .ok raw) :
    ∃ raw' certificates alpn, RawConfig.ofMatches env m' = .ok raw' ∧
      raw'.relay.certificates = overriddenList (m'.optStrs "certificate") certificates ∧
      raw'.relay.alpn = overriddenList (m'.optStrs "alpn") alpn := by
  have hbase : RawConfig.base env m' = RawConfig.base env m := by
    unfold RawConfig.base
    rw [h.optStr "config" (by rcases hbut with rfl | rfl <;> decide)]
  have hfile : RawConfig.withFile m' = RawConfig.withFile m :=
    RawConfig.withFile_of_agreeExcept h (by rcases hbut with rfl | rfl <;> decide)
  rw [RawConfig.ofMatches_eq_bind] at hok ⊢
  rw [hbase, hfile]
  simp only [except_bind_eq_ok] at hok ⊢
  obtain ⟨raw₀, hraw₀, raw₁, hraw₁, hok⟩ := hok
  have hover := RawConfig.overrideWith_of_agreeExcept h
    (by rcases hbut with rfl | rfl <;> decide) hok
  exact ⟨_, raw₁.relay.certificates, raw₁.relay.alpn, ⟨raw₀, hraw₀, raw₁, hraw₁, hover⟩, rfl, rfl⟩

end Lists

/-- The values of `certificate` are the certificates. -/
theorem listOption_certificate (env : Env) :
    ListOption options (RawConfig.ofMatches env) (optopt "" "certificate")
      (·.relay.certificates) where
  plain := by decide
  declared := by decide
  help := by decide
  version := by decide
  takes h hne hok := by
    obtain ⟨raw', _, _, hok', hcert, -⟩ := RawConfig.ofMatches_of_agreeExcept (Or.inl rfl) h hok
    exact ⟨raw', hok', hcert.trans (if_neg hne)⟩

/-- The values of `alpn` are the ALPN protocols. -/
theorem listOption_alpn (env : Env) :
    ListOption options (RawConfig.ofMatches env) (optopt "" "alpn") (·.relay.alpn) where
  plain := by decide
  declared := by decide
  help := by decide
  version := by decide
  takes h hne hok := by
    obtain ⟨raw', _, _, hok', -, halpn⟩ := RawConfig.ofMatches_of_agreeExcept (Or.inr rfl) h hok
    exact ⟨raw', hok', halpn.trans (if_neg hne)⟩

end Tuic.Client

/-! ## Both -/

namespace Tuic

open Getopts

/-- **The options of the lists are not declared as repeatable**: for every list of values, given one
by one in an otherwise valid command line, the list of settings is the list of values exactly when
there is one value. -/
theorem honours_iff_single (vs args : List String) (hvs : vs ≠ []) :
    (∀ env : Server.Startup.Env, OtherwiseValid env.getopts Server.Startup.options
        (Server.Startup.RawConfig.parse env) "token" vs args →
      (Honours (Server.Startup.RawConfig.parse env) (·.token) vs args ↔ vs.length = 1)) ∧
    (∀ env : Server.Startup.Env, OtherwiseValid env.getopts Server.Startup.options
        (Server.Startup.RawConfig.parse env) "alpn" vs args →
      (Honours (Server.Startup.RawConfig.parse env) (·.alpn) vs args ↔ vs.length = 1)) ∧
    (∀ env : Client.Env, OtherwiseValid env.getopts Client.options
        (Client.RawConfig.parse env) "certificate" vs args →
      (Honours (Client.RawConfig.parse env) (·.relay.certificates) vs args ↔ vs.length = 1)) ∧
    ∀ env : Client.Env, OtherwiseValid env.getopts Client.options
        (Client.RawConfig.parse env) "alpn" vs args →
      (Honours (Client.RawConfig.parse env) (·.relay.alpn) vs args ↔ vs.length = 1) := by
  have hsingle : ∀ {o : Opt}, o.occur ≠ .multi →
      ((o.occur = .multi ∨ vs.length = 1) ↔ vs.length = 1) := fun hocc => or_iff_right hocc
  refine ⟨fun env h => ?_, fun env h => ?_, fun env h => ?_, fun env h => ?_⟩
  · exact ((Server.Startup.listOption_token env).honours_iff (P := Server.Startup.program env)
      hvs h).trans (hsingle (by decide))
  · exact ((Server.Startup.listOption_alpn env).honours_iff (P := Server.Startup.program env)
      hvs h).trans (hsingle (by decide))
  · exact ((Client.listOption_certificate env).honours_iff (P := Client.program env)
      hvs h).trans (hsingle (by decide))
  · exact ((Client.listOption_alpn env).honours_iff (P := Client.program env)
      hvs h).trans (hsingle (by decide))

/-- A command line of the server whose tokens are in the configuration file. -/
def serverArgs : List String :=
  ["--config", "c.json", "--port", "443", "--certificate", "cert.pem", "--private-key", "key.der"]

/-- The configuration file of that. -/
def serverEnv : Server.Startup.Env :=
  Server.Startup.sampleEnvWith { Server.Startup.ConfigFile.empty with token := some ["secret"] }

theorem accepted_serverArgs :
    Accepted serverEnv.getopts Server.Startup.options ("tuic-server" :: serverArgs)
      ⟨[("config", .val "c.json"), ("port", .val "443"), ("certificate", .val "cert.pem"),
        ("private-key", .val "key.der")], []⟩ :=
  ⟨rfl, rfl, rfl, rfl⟩

theorem parse_serverArgs :
    Server.Startup.RawConfig.parse serverEnv ("tuic-server" :: serverArgs) =
      .ok { Server.Startup.RawConfig.default with
        port := some 443, token := ["secret"], certificate := some "cert.pem"
        privateKey := some "key.der" } := by decide

/-- Any list of tokens can be given to it. -/
theorem otherwiseValid_token (vs : List String) :
    OtherwiseValid serverEnv.getopts Server.Startup.options
      (Server.Startup.RawConfig.parse serverEnv) "token" vs
      (repeated "tuic-server" "token" vs serverArgs) :=
  otherwiseValid_repeated (o := optopt "" "token") accepted_serverArgs parse_serverArgs
    (by decide) (by decide) rfl rfl vs

/-- One value is honoured, by each of the options. -/
theorem honours_iff_single_one :
    Honours (Server.Startup.RawConfig.parse serverEnv) (·.token) ["a"]
        (repeated "tuic-server" "token" ["a"] serverArgs) ∧
      Honours (Server.Startup.RawConfig.parse serverEnv) (·.alpn) ["a"]
        (repeated "tuic-server" "alpn" ["a"] serverArgs) ∧
      Honours (Client.RawConfig.parse Client.sampleEnv) (·.relay.certificates) ["a"]
        (repeated "tuic-client" "certificate" ["a"] Client.sampleArgs) ∧
      Honours (Client.RawConfig.parse Client.sampleEnv) (·.relay.alpn) ["a"]
        (repeated "tuic-client" "alpn" ["a"] Client.sampleArgs) := by
  have hclient : ∃ raw, Client.RawConfig.parse Client.sampleEnv
      ("tuic-client" :: Client.sampleArgs) = .ok raw := ⟨_, rfl⟩
  obtain ⟨raw, hclient⟩ := hclient
  refine ⟨?_, ?_, ?_, ?_⟩
  · exact ((honours_iff_single ["a"] _ (by decide)).1 _ (otherwiseValid_token _)).mpr rfl
  · refine ((honours_iff_single ["a"] _ (by decide)).2.1 _ ?_).mpr rfl
    exact otherwiseValid_repeated (o := optopt "" "alpn") accepted_serverArgs parse_serverArgs
      (by decide) (by decide) rfl rfl _
  · refine ((honours_iff_single ["a"] _ (by decide)).2.2.1 _ ?_).mpr rfl
    exact otherwiseValid_repeated (o := optopt "" "certificate") Client.accepted_sampleArgs hclient
      (by decide) (by decide) rfl rfl _
  · refine ((honours_iff_single ["a"] _ (by decide)).2.2.2 _ ?_).mpr rfl
    exact otherwiseValid_repeated (o := optopt "" "alpn") Client.accepted_sampleArgs hclient
      (by decide) (by decide) rfl rfl _

/-- **Two tokens are an error**, in a command line that is valid otherwise. -/
theorem two_tokens_not_honoured :
    OtherwiseValid serverEnv.getopts Server.Startup.options
        (Server.Startup.RawConfig.parse serverEnv) "token" ["a", "b"]
        (repeated "tuic-server" "token" ["a", "b"] serverArgs) ∧
      Server.Startup.RawConfig.parse serverEnv
          (repeated "tuic-server" "token" ["a", "b"] serverArgs) =
        .error (.parseArgument (.optionDuplicated "token")) ∧
      ¬ Honours (Server.Startup.RawConfig.parse serverEnv) (·.token) ["a", "b"]
        (repeated "tuic-server" "token" ["a", "b"] serverArgs) := by
  have hparse : Server.Startup.RawConfig.parse serverEnv
      (repeated "tuic-server" "token" ["a", "b"] serverArgs) =
        .error (.parseArgument (.optionDuplicated "token")) := by decide
  refine ⟨otherwiseValid_token _, hparse, ?_⟩
  rintro ⟨raw, hok, -⟩
  rw [hparse] at hok
  cases hok

end Tuic
