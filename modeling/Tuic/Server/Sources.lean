import Tuic.Server.Config

/-! # The required settings of the server, from either source

Four settings of the server have no default: the port, the tokens, the certificate and the key.
`RawConfig.withFile` takes each of them from the command line or else from the configuration file,
and reports the first one that is in neither (`Missing`). But `RawConfig.deserialize` comes before
it, and wants one of the four, the tokens, to be in the file. -/

namespace Tuic.Server.Startup

open Getopts

/-! ## Which errors there can be -/

/-- The text of an option is not what it should be. -/
inductive ConfigError.OfOption : ConfigError → Prop where
  | parseInt (err : IntErrorKind) : ConfigError.OfOption (.parseInt err)
  | parseAddr : ConfigError.OfOption .parseAddr
  | invalidCongestionController : ConfigError.OfOption .invalidCongestionController
  | parseLogLevel : ConfigError.OfOption .parseLogLevel

/-- The text of an option is not what it should be, or a setting is missing. -/
def ConfigError.OfSetting (e : ConfigError) : Prop :=
  e.OfOption ∨ ∃ name, e = .missingOption name

section Errors

variable {env : Env} {m : Matches} {raw : RawConfig} {given inFile : List String}

theorem failsOnly_intOption {α : Type} (parse : String → Except IntErrorKind α) (s : String) :
    FailsOnly ConfigError.OfOption (intOption parse s) := .mapError .parseInt

/-- Only the text of an option can be wrong where the settings have a default. -/
theorem RawConfig.failsOnly_overrideWith :
    FailsOnly ConfigError.OfOption (raw.overrideWith env m) := by
  unfold RawConfig.overrideWith
  refine .bind (.overridden fun s => .okOr fun _ => .parseAddr) fun ip => ?_
  refine .bind (.overridden fun s => .okOr fun _ => .invalidCongestionController) fun cc => ?_
  refine .bind (.overridden (failsOnly_intOption _)) fun idle => ?_
  refine .bind (.overridden (failsOnly_intOption _)) fun timeout => ?_
  refine .bind (.overridden (failsOnly_intOption _)) fun size => ?_
  exact .bind (.overridden fun s => .okOr fun _ => .parseLogLevel) fun level => .ok

@[simp] theorem tokenOr_eq_error {e : ConfigError} : tokenOr given inFile = .error e ↔
    (given = [] ∧ inFile = []) ∧ .missingOption "token" = e := by
  unfold tokenOr
  by_cases hgiven : given = []
  · by_cases hfile : inFile = [] <;> simp [hgiven, hfile]
  · simp [hgiven]

/-- The others can be missing. -/
theorem RawConfig.failsOnly_withFile :
    FailsOnly ConfigError.OfSetting (RawConfig.withFile m raw) := by
  have hport : ∀ s, FailsOnly ConfigError.OfSetting (intOption parseU16 s) :=
    fun _ => .mapError fun err => Or.inl (.parseInt err)
  have hmissing : ∀ {name : String}, ConfigError.OfSetting (.missingOption name) :=
    Or.inr ⟨_, rfl⟩
  unfold RawConfig.withFile
  refine .bind (.transpose hport) fun given => ?_
  refine .bind (.okOr fun _ => hmissing) fun port => ?_
  refine .bind (fun e he => ?_) fun token => ?_
  · obtain ⟨-, rfl⟩ := tokenOr_eq_error.mp he
    exact hmissing
  refine .bind (.okOr fun _ => hmissing) fun certificate => ?_
  exact .bind (.okOr fun _ => hmissing) fun privateKey => .ok

/-- Once the file is read, no error is about the file. -/
theorem RawConfig.failsOnly_settings :
    FailsOnly ConfigError.OfSetting (RawConfig.withFile m raw >>= RawConfig.overrideWith env m) :=
  .bind RawConfig.failsOnly_withFile fun _ e he => Or.inl (RawConfig.failsOnly_overrideWith e he)

end Errors

/-! ## Which settings are missing -/

/-- There is a port, and it is one. -/
def HasPort (m : Matches) (file : ConfigFile) : Prop :=
  ∃ port, Chosen (m.optStr "port") portOption file.port (some port)

/-- There is no token on the command line and none in the file. -/
def NoToken (m : Matches) (file : ConfigFile) : Prop :=
  m.optStrs "token" = [] ∧ file.token.getD [] = []

/-- **The setting that is to be reported as missing**: the first one that is absent from both
sources, unless a port on the command line that is none comes before it. -/
inductive Missing (m : Matches) (file : ConfigFile) : String → Prop where
  | port (h : Absent (m.optStr "port") file.port) : Missing m file "port"
  | token (hport : HasPort m file) (h : NoToken m file) : Missing m file "token"
  | certificate (hport : HasPort m file) (htoken : ¬ NoToken m file)
      (h : Absent (m.optStr "certificate") file.certificate) : Missing m file "certificate"
  | privateKey (hport : HasPort m file) (htoken : ¬ NoToken m file)
      (hcertificate : ¬ Absent (m.optStr "certificate") file.certificate)
      (h : Absent (m.optStr "private-key") file.privateKey) : Missing m file "private key"

section Missing

variable {m m' : Matches} {file : ConfigFile} {token : List String} {name name' : String}

theorem exists_tokenOr_iff (htoken : file.token.getD [] = token) :
    (∃ token', tokenOr (m.optStrs "token") token = .ok token') ↔ ¬ NoToken m file := by
  have hnone : NoToken m file ↔ m.optStrs "token" = [] ∧ token = [] := by rw [NoToken, htoken]
  rw [hnone]
  cases htokens : tokenOr (m.optStrs "token") token with
  | error e => simpa using (tokenOr_eq_error.mp htokens).1
  | ok token' =>
    obtain ⟨heq, hne⟩ := tokenOr_eq_ok.mp htokens
    refine iff_of_true ⟨token', rfl⟩ ?_
    rintro ⟨hgiven, rfl⟩
    rw [hgiven] at heq
    exact hne heq.symm

/-- **What is reported as missing**, once the file is read. -/
theorem RawConfig.withFile_missing_iff (htoken : file.token.getD [] = token) :
    RawConfig.withFile m (.ofKeys file token) = .error (.missingOption name) ↔
      Missing m file name := by
  have hparse : ∀ s, intOption parseU16 s ≠ .error (.missingOption name) := by
    intro s h
    cases failsOnly_intOption parseU16 s _ h
  have hnone : NoToken m file ↔ m.optStrs "token" = [] ∧ token = [] := by rw [NoToken, htoken]
  unfold RawConfig.withFile
  simp only [RawConfig.ofKeys, value_eq_error_iff hparse, except_bind_eq_error (r := tokenOr _ _),
    tokenOr_eq_error, ← hnone, text_eq_error_iff, ConfigError.missingOption.injEq]
  constructor
  · rintro (⟨h, rfl⟩ | ⟨port, hport, ⟨h, rfl⟩ | ⟨token', htoken', ⟨h, rfl⟩ | ⟨cert, hcert,
      ⟨h, rfl⟩ | ⟨key, -, h⟩⟩⟩⟩)
    · exact .port h
    · exact .token ⟨port, hport⟩ h
    · exact .certificate ⟨port, hport⟩ ((exists_tokenOr_iff htoken).mp ⟨_, htoken'⟩) h
    · exact .privateKey ⟨port, hport⟩ ((exists_tokenOr_iff htoken).mp ⟨_, htoken'⟩)
        (exists_text_iff.mp ⟨_, hcert⟩) h
    · cases h
  · rintro (h | ⟨⟨port, hport⟩, h⟩ | ⟨⟨port, hport⟩, hsome, h⟩ | ⟨⟨port, hport⟩, hsome, hcert, h⟩)
    · exact Or.inl ⟨h, rfl⟩
    · exact Or.inr ⟨port, hport, Or.inl ⟨h, rfl⟩⟩
    · obtain ⟨token', htoken'⟩ := (exists_tokenOr_iff htoken).mpr hsome
      exact Or.inr ⟨port, hport, Or.inr ⟨token', htoken', Or.inl ⟨h, rfl⟩⟩⟩
    · obtain ⟨token', htoken'⟩ := (exists_tokenOr_iff htoken).mpr hsome
      obtain ⟨cert, hcert⟩ := exists_text_iff.mpr hcert
      exact Or.inr ⟨port, hport, Or.inr ⟨token', htoken', Or.inr ⟨cert, hcert, Or.inl ⟨h, rfl⟩⟩⟩⟩

/-- One setting is reported. -/
theorem Missing.unique (h : Missing m file name) (h' : Missing m file name') : name = name' := by
  rw [← RawConfig.withFile_missing_iff rfl] at h h'
  cases h.symm.trans h'
  rfl

end Missing

/-! ## With a configuration file and without one -/

section Paths

variable {env : Env} {m m' : Matches} {args args' : List String} {path : String} {file : ConfigFile}
  {token : List String}

/-- Without a file the settings are the defaults, overridden by the command line. -/
theorem RawConfig.ofMatches_of_none (h : m.optStr "config" = none) :
    RawConfig.ofMatches env m =
      (RawConfig.withFile m .default >>= RawConfig.overrideWith env m) := by
  have hbase : RawConfig.base env m = .ok .default := by rw [RawConfig.base, h]
  rw [RawConfig.ofMatches_eq_bind, hbase]
  rfl

/-- With a file that has tokens they are those of the file. -/
theorem RawConfig.ofMatches_of_token (h : m.optStr "config" = some path)
    (hfile : env.readConfig path = .ok (.ok file)) (htoken : file.token = some token) :
    RawConfig.ofMatches env m =
      (RawConfig.withFile m (.ofKeys file token) >>= RawConfig.overrideWith env m) := by
  have hbase : RawConfig.base env m = .ok (.ofKeys file token) := by
    simp only [RawConfig.base, h, RawConfig.fromFile, hfile, RawConfig.deserialize, htoken]
    rfl
  rw [RawConfig.ofMatches_eq_bind, hbase]
  rfl

/-- **A file without tokens is rejected**, whatever is on the command line. -/
theorem RawConfig.ofMatches_of_no_token (h : m.optStr "config" = some path)
    (hfile : env.readConfig path = .ok (.ok file)) (htoken : file.token = none) :
    RawConfig.ofMatches env m = .error (.parseConfigJson (.missingField "token")) := by
  have hbase : RawConfig.base env m = .error (.parseConfigJson (.missingField "token")) := by
    simp only [RawConfig.base, h, RawConfig.fromFile, hfile, RawConfig.deserialize, htoken]
    rfl
  rw [RawConfig.ofMatches_eq_bind, hbase]
  rfl

/-- The settings without a default are read from four options only. -/
theorem RawConfig.withFile_of_agreeExcept {but : String} (h : AgreeExcept but m m')
    (hbut : ∀ name ∈ ["port", "token", "certificate", "private-key"],
      name ≠ but) :
    RawConfig.withFile m' = RawConfig.withFile m := by
  simp only [List.forall_mem_cons] at hbut
  obtain ⟨hport, htoken, hcert, hkey, -⟩ := hbut
  funext raw
  simp only [RawConfig.withFile, h.optStr _ hport, h.optStrs _ htoken, h.optStr _ hcert,
    h.optStr _ hkey]

/-- No setting but the file itself is read from the option `config`. -/
theorem RawConfig.overrideWith_of_config (h : AgreeExcept "config" m m') :
    RawConfig.overrideWith env m' = RawConfig.overrideWith env m := by
  funext raw
  simp only [RawConfig.overrideWith, h.optStr "ip" (by decide),
    h.optStr "congestion-controller" (by decide), h.optStr "max-idle-time" (by decide),
    h.optStr "authentication-timeout" (by decide),
    h.optStr "max-udp-relay-packet-size" (by decide), h.optStr "log-level" (by decide),
    h.optStrs "alpn" (by decide)]

theorem RawConfig.parse_of_accepted (h : Accepted env.getopts options args m) :
    RawConfig.parse env args = RawConfig.ofMatches env m := by
  unfold RawConfig.parse
  simp only [h.parse, h.help, h.version, h.free, Bool.false_eq_true, if_false, ne_eq,
    not_true_eq_false]

/-- **A file with an empty list of tokens changes nothing.** -/
theorem RawConfig.ofMatches_of_config (h : AgreeExcept "config" m m')
    (hnone : m.optStr "config" = none) (hsome : m'.optStr "config" = some path)
    (hfile : env.readConfig path = .ok (.ok { ConfigFile.empty with token := some [] })) :
    RawConfig.ofMatches env m' = RawConfig.ofMatches env m := by
  rw [RawConfig.ofMatches_of_token hsome hfile rfl, RawConfig.ofMatches_of_none hnone,
    RawConfig.withFile_of_agreeExcept h (by decide), RawConfig.overrideWith_of_config h]
  rfl

end Paths

/-! ## What is promised -/

/-- The result is that a required setting is missing, by that name. -/
def ReportsMissing (r : Except ConfigError RawConfig) (name : String) : Prop :=
  r = .error (.missingOption name) ∨ r = .error (.parseConfigJson (.missingField name))

/-- **The required settings can come from either source.** A file that has nothing to say (an object
without keys, or with an empty list of tokens only) is as good as none, and a setting is missing
exactly when it is absent from both the command line and the file. -/
structure EitherSource (env : Env) (args args' : List String) (m' : Matches) (file : ConfigFile) :
    Prop where
  /-- With such a file the result is the one without. -/
  agrees : file = .empty ∨ file = { ConfigFile.empty with token := some [] } →
    RawConfig.parse env args' = RawConfig.parse env args
  /-- What is missing is reported, and nothing else is. -/
  missing : ∀ name, ReportsMissing (RawConfig.parse env args') name ↔ Missing m' file name

section EitherSource

variable {env : Env} {m m' : Matches} {args args' : List String} {path : String} {file : ConfigFile}
  {token : List String} {name : String}

/-- Without a file no error is about one. -/
theorem RawConfig.parse_ne_parseConfigJson (h : Accepted env.getopts options args m)
    (hnone : m.optStr "config" = none) (err : JsonError) :
    RawConfig.parse env args ≠ .error (.parseConfigJson err) := by
  rw [RawConfig.parse_of_accepted h, RawConfig.ofMatches_of_none hnone]
  intro he
  rcases RawConfig.failsOnly_settings _ he with he | ⟨name, he⟩
  · cases he
  · cases he

/-- With tokens in the file, exactly what is missing is reported. -/
theorem reportsMissing_iff (htoken : file.token = some token) :
    ReportsMissing (RawConfig.withFile m (.ofKeys file token) >>= RawConfig.overrideWith env m)
      name ↔ Missing m file name := by
  have hgetD : file.token.getD [] = token := by rw [htoken]; rfl
  rw [← RawConfig.withFile_missing_iff hgetD]
  constructor
  · rintro (h | h)
    · rcases except_bind_eq_error.mp h with h | ⟨raw, -, h⟩
      · exact h
      · cases RawConfig.failsOnly_overrideWith _ h
    · rcases RawConfig.failsOnly_settings _ h with h | ⟨name', h⟩
      · cases h
      · cases h
  · intro h
    exact Or.inl (except_bind_eq_error.mpr (Or.inl h))

/-- **When the required settings can come from either source**: when the file has a list of tokens,
which may be empty. A file without one is rejected for that, whatever is on the command line; this
is right only where the tokens are what is missing, and the file is not the empty object. -/
theorem eitherSource_iff (env : Env) (args args' : List String) (m m' : Matches) (path : String)
    (file : ConfigFile) (h : Accepted env.getopts options args m)
    (h' : Accepted env.getopts options args' m')
    (hnone : m.optStr "config" = none) (hsome : m'.optStr "config" = some path)
    (hagree : AgreeExcept "config" m m') (hfile : env.readConfig path = .ok (.ok file)) :
    EitherSource env args args' m' file ↔
      file.token ≠ none ∨ file ≠ .empty ∧ Missing m' file "token" := by
  cases htoken : file.token with
  | none =>
    have hparse : RawConfig.parse env args' =
        .error (.parseConfigJson (.missingField "token")) := by
      rw [RawConfig.parse_of_accepted h', RawConfig.ofMatches_of_no_token hsome hfile htoken]
    have hreports : ∀ name, ReportsMissing (RawConfig.parse env args') name ↔ name = "token" := by
      intro name
      rw [hparse]
      simp [ReportsMissing, eq_comm]
    constructor
    · rintro ⟨hagrees, hmissing⟩
      refine Or.inr ⟨fun hempty => ?_, (hmissing _).mp ((hreports _).mpr rfl)⟩
      -- without the file there is no such error
      have hsame := hagrees (Or.inl hempty)
      rw [hparse] at hsame
      exact RawConfig.parse_ne_parseConfigJson h hnone _ hsame.symm
    · rintro (habsurd | ⟨hne, htokens⟩)
      · exact absurd rfl habsurd
      · refine ⟨?_, fun name => (hreports name).trans ⟨fun hname => hname ▸ htokens, ?_⟩⟩
        · rintro (hempty | hempty)
          · exact absurd hempty hne
          · rw [hempty] at htoken
            cases htoken
        · exact fun hname => hname.unique htokens
  | some token =>
    refine iff_of_true ⟨?_, fun name => ?_⟩ (Or.inl (Option.some_ne_none _))
    · rintro (hempty | hempty)
      · rw [hempty] at htoken
        cases htoken
      · rw [hempty] at hfile
        rw [RawConfig.parse_of_accepted h, RawConfig.parse_of_accepted h',
          RawConfig.ofMatches_of_config hagree hnone hsome hfile]
    · rw [RawConfig.parse_of_accepted h', RawConfig.ofMatches_of_token hsome hfile htoken]
      exact reportsMissing_iff htoken

end EitherSource

/-- The sample with a configuration file. -/
def sampleEnvWith (file : ConfigFile) : Env :=
  { sampleEnv with readConfig := fun _ => .ok (.ok file) }

/-- The command line of the sample with a configuration file. -/
def sampleArgsWithFile : List String := "tuic-server" :: "--config" :: "c.json" :: sampleArgs

/-- What is found in it. -/
def sampleMatchesWithFile : Matches :=
  { sampleMatches with found := ("config", .val "c.json") :: sampleMatches.found }

theorem accepted_sampleArgs (file : ConfigFile) :
    Accepted (sampleEnvWith file).getopts options ("tuic-server" :: sampleArgs) sampleMatches :=
  ⟨rfl, rfl, rfl, rfl⟩

theorem accepted_sampleArgsWithFile (file : ConfigFile) :
    Accepted (sampleEnvWith file).getopts options sampleArgsWithFile sampleMatchesWithFile :=
  ⟨rfl, rfl, rfl, rfl⟩

/-- With an empty list of tokens in the file, and the tokens on the command line. -/
theorem eitherSource_iff_empty_list :
    EitherSource (sampleEnvWith { ConfigFile.empty with token := some [] })
      ("tuic-server" :: sampleArgs) sampleArgsWithFile sampleMatchesWithFile
      { ConfigFile.empty with token := some [] } :=
  (eitherSource_iff _ _ _ _ _ "c.json" _ (accepted_sampleArgs _) (accepted_sampleArgsWithFile _)
    rfl rfl (agreeExcept_cons _ _ _) rfl).mpr (Or.inl nofun)

/-- **All settings are on the command line, and an empty object in the file is an error.** -/
theorem not_eitherSource_empty :
    (∃ raw, RawConfig.parse (sampleEnvWith .empty) ("tuic-server" :: sampleArgs) = .ok raw ∧
      raw.token = ["secret"]) ∧
    RawConfig.parse (sampleEnvWith .empty) sampleArgsWithFile =
      .error (.parseConfigJson (.missingField "token")) ∧
    ¬ EitherSource (sampleEnvWith .empty) ("tuic-server" :: sampleArgs) sampleArgsWithFile
      sampleMatchesWithFile .empty := by
  have hnone : RawConfig.parse (sampleEnvWith .empty) ("tuic-server" :: sampleArgs) =
      .ok { RawConfig.default with
        port := some 443, token := ["secret"], certificate := some "cert.pem"
        privateKey := some "key.der" } := by decide
  have hsome : RawConfig.parse (sampleEnvWith .empty) sampleArgsWithFile =
      .error (.parseConfigJson (.missingField "token")) := by
    rw [RawConfig.parse_of_accepted (accepted_sampleArgsWithFile _)]
    exact RawConfig.ofMatches_of_no_token rfl rfl rfl
  refine ⟨⟨_, hnone, rfl⟩, hsome, fun h => ?_⟩
  have hsame := h.agrees (Or.inl rfl)
  rw [hnone, hsome] at hsame
  cases hsame

end Tuic.Server.Startup
