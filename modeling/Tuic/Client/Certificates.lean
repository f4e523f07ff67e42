import Tuic.Cli.Settings

/-! # The root certificates of the client

`client/src/certificate.rs`: `load_certificates` goes over the certificate files twice. It first
adds the certificates among the PEM items of every file, and only when the store is empty after that
does it add every file as a raw DER certificate; then it adds the native roots. `Added` says what an
addition does to the store, and `loadCertificates_spec` what is in the store in the end. -/

namespace Tuic.Client

open ByteCodec

/-- The errors of the client's configuration. -/
inductive ConfigError where
  /-- The usage is to be printed. -/
  | help
  /-- The version is to be printed. -/
  | version
  /-- A file cannot be read. -/
  | io (path : String) (err : IoError)
  /-- The configuration file is rejected. -/
  | parseConfigJson (err : JsonError)
  /-- The command line is rejected. -/
  | parseArgument (err : Getopts.Fail)
  /-- There are free arguments. -/
  | unexpectedArguments (args : String)
  /-- A setting is neither on the command line nor in the configuration file. -/
  | missingOption (name : String)
  /-- An option is no integer. -/
  | parseInt (err : IntErrorKind)
  /-- An option is no IP address. -/
  | parseAddr
  /-- An option is no congestion controller. -/
  | invalidCongestionController
  /-- An option is no relay mode. -/
  | invalidUdpRelayMode
  /-- A certificate cannot be used. -/
  | certificate (err : String)
  /-- The native roots cannot be loaded. -/
  | nativeCertificate (err : IoError)
  /-- There is only one of user name and password. -/
  | localAuthentication
  /-- An option is no log level. -/
  | parseLogLevel
  deriving DecidableEq

/-- What the TLS libraries do: they make a trust anchor of a certificate, and know the native roots
of the platform. -/
structure Tls (α : Type) where
  /-- A certificate as an entry of a root store. -/
  trustAnchor : Bytes → Except String α
  /-- The native roots. -/
  loadNativeCerts : Except IoError (List Bytes)

section Load

variable {α : Type} (tls : Tls α) (fs : FileSystem)

/-- `RootCertStore::add` -/
def RootCertStore.add (certs : List α) (cert : Bytes) : Except ConfigError (List α) :=
  match tls.trustAnchor cert with
  | .ok anchor => .ok (certs ++ [anchor])
  | .error err => .error (.certificate err)

/-- `File::open` and `fs::read` -/
def openFile (path : String) : Except ConfigError File :=
  match fs path with
  | .ok file => .ok file
  | .error err => .error (.io path err)

/-- The certificates a pass of `load_certificates` takes out of a file are added. -/
def addFile (take : File → List Bytes) (certs : List α) (path : String) :
    Except ConfigError (List α) := do
  let file ← openFile fs path
  (take file).foldlM (RootCertStore.add tls) certs

/-- The second pass of `load_certificates`: the files themselves are added. -/
def addRaw (files : List String) (certs : List α) : Except ConfigError (List α) :=
  -- the test is on the store, not on the file
  if certs.isEmpty then files.foldlM (addFile tls fs fun file => [file.contents]) certs
  else .ok certs

/-- `load_certificates` -/
def loadCertificates (files : List String) : Except ConfigError (List α) := do
  let certs ← files.foldlM (addFile tls fs pemCertificates) []
  let certs ← addRaw tls fs files certs
  let roots ← tls.loadNativeCerts.mapError .nativeCertificate
  roots.foldlM (RootCertStore.add tls) certs

end Load

/-! ## What is in the store -/

section Store

variable {α : Type} {tls : Tls α} {fs : FileSystem} {certs certs' certs'' : List α}
  {ders ders' : List Bytes} {files : List String}

/-- The certificates were added to the store, and all of them are fit for it. -/
structure Added (tls : Tls α) (certs : List α) (ders : List Bytes) (certs' : List α) : Prop where
  /-- Each is a trust anchor. -/
  valid : ∀ der ∈ ders, ∃ anchor, tls.trustAnchor der = .ok anchor
  /-- These are what the store has more. -/
  mem : ∀ anchor, anchor ∈ certs' ↔
    anchor ∈ certs ∨ ∃ der ∈ ders, tls.trustAnchor der = .ok anchor

theorem Added.nil : Added tls certs [] certs := ⟨nofun, by simp⟩

theorem Added.append (h : Added tls certs ders certs') (h' : Added tls certs' ders' certs'') :
    Added tls certs (ders ++ ders') certs'' where
  valid der hder := by
    rcases List.mem_append.mp hder with hder | hder
    · exact h.valid der hder
    · exact h'.valid der hder
  mem anchor := by
    rw [h'.mem, h.mem]
    simp only [List.mem_append, or_and_right, exists_or, or_assoc]

/-- Nothing is in the store when nothing was added to the empty one. -/
theorem Added.eq_nil_iff (h : Added tls [] ders certs') : certs' = [] ↔ ders = [] := by
  constructor
  · intro hnil
    refine List.eq_nil_iff_forall_not_mem.mpr fun der hder => ?_
    obtain ⟨anchor, hanchor⟩ := h.valid der hder
    have hmem := (h.mem anchor).mpr (Or.inr ⟨der, hder, hanchor⟩)
    rw [hnil] at hmem
    cases hmem
  · intro hnil
    refine List.eq_nil_iff_forall_not_mem.mpr fun anchor hanchor => ?_
    rw [h.mem, hnil] at hanchor
    simp at hanchor

theorem added_of_add {der : Bytes} (h : RootCertStore.add tls certs der = .ok certs') :
    Added tls certs [der] certs' := by
  unfold RootCertStore.add at h
  split at h
  · rename_i anchor hanchor
    cases h
    refine ⟨fun d hd => ?_, fun a => ?_⟩
    · rw [List.mem_singleton.mp hd]
      exact ⟨anchor, hanchor⟩
    · simp [hanchor, eq_comm]
  · cases h

theorem added_of_foldlM : ∀ {certs : List α},
    ders.foldlM (RootCertStore.add tls) certs = .ok certs' → Added tls certs ders certs' := by
  induction ders with
  | nil =>
    intro certs h
    cases h
    exact .nil
  | cons der ders ih =>
    intro certs h
    rw [List.foldlM_cons] at h
    obtain ⟨certs₁, hadd, h⟩ := except_bind_eq_ok.mp h
    exact (added_of_add hadd).append (ih h)

/-- What a pass takes out of a file that can be opened. -/
def taken (fs : FileSystem) (take : File → List Bytes) (path : String) : List Bytes :=
  match fs path with
  | .ok file => take file
  | .error _ => []

theorem added_of_addFile {take : File → List Bytes} {path : String}
    (h : addFile tls fs take certs path = .ok certs') :
    (∃ file, fs path = .ok file) ∧ Added tls certs (taken fs take path) certs' := by
  unfold addFile openFile at h
  unfold taken
  cases hfile : fs path with
  | error err =>
    rw [hfile] at h
    cases h
  | ok file =>
    rw [hfile] at h
    exact ⟨⟨file, rfl⟩, added_of_foldlM h⟩

/-- **A pass over the files** opens each of them and adds what it takes out of them. -/
theorem added_of_addFiles {take : File → List Bytes} : ∀ {certs : List α},
    files.foldlM (addFile tls fs take) certs = .ok certs' →
    (∀ path ∈ files, ∃ file, fs path = .ok file) ∧
      Added tls certs (files.flatMap (taken fs take)) certs' := by
  induction files with
  | nil =>
    intro certs h
    cases h
    exact ⟨nofun, .nil⟩
  | cons path files ih =>
    intro certs h
    rw [List.foldlM_cons] at h
    obtain ⟨certs₁, hadd, h⟩ := except_bind_eq_ok.mp h
    obtain ⟨hopen, hadded⟩ := added_of_addFile hadd
    obtain ⟨hopens, hadds⟩ := ih h
    refine ⟨fun p hp => ?_, ?_⟩
    · rcases List.mem_cons.mp hp with rfl | hp
      · exact hopen
      · exact hopens p hp
    · rw [List.flatMap_cons]
      exact hadded.append hadds

/-- What the two passes take out of the files: the PEM certificates, or the files themselves when
there is none of those. -/
def takenFrom (fs : FileSystem) (files : List String) : List Bytes :=
  if files.flatMap (taken fs pemCertificates) = [] then
    files.flatMap (taken fs fun file => [file.contents])
  else files.flatMap (taken fs pemCertificates)

theorem added_of_addRaw (hpem : Added tls [] (files.flatMap (taken fs pemCertificates)) certs)
    (h : addRaw tls fs files certs = .ok certs') : Added tls [] (takenFrom fs files) certs' := by
  unfold addRaw at h
  unfold takenFrom
  by_cases hnil : certs = []
  · subst hnil
    rw [if_pos (hpem.eq_nil_iff.mp rfl)]
    exact (added_of_addFiles h).2
  · rw [if_neg fun heq => hnil (hpem.eq_nil_iff.mpr heq)]
    rw [if_neg (by simpa using hnil)] at h
    cases h
    exact hpem

/-- **What is in the store**: what the two passes take out of the files, and the native roots. -/
theorem loadCertificates_spec {store : List α} (h : loadCertificates tls fs files = .ok store) :
    (∀ path ∈ files, ∃ file, fs path = .ok file) ∧
    ∃ roots, tls.loadNativeCerts = .ok roots ∧
      Added tls [] (takenFrom fs files ++ roots) store := by
  obtain ⟨certs, hpem, h⟩ := except_bind_eq_ok.mp h
  obtain ⟨certs', hraw, h⟩ := except_bind_eq_ok.mp h
  obtain ⟨roots, hnative, h⟩ := except_bind_eq_ok.mp h
  obtain ⟨hopens, hadded⟩ := added_of_addFiles hpem
  exact ⟨hopens, roots, mapError_eq_ok.mp hnative,
    (added_of_addRaw hadded hraw).append (added_of_foldlM h)⟩

end Store

/-! ## Which files count -/

section Count

variable {α : Type} (tls : Tls α) (fs : FileSystem) (files : List String)

/-- Every item of the files can be read: a PEM file yields its items in order, and a raw DER file
none. -/
def WellRead : Prop :=
  ∀ path ∈ files, ∀ file, fs path = .ok file → ∀ r ∈ file.readOne, ∃ item, r = .ok item

/-- The certificates of a file: those of a PEM file, or a raw DER file itself. -/
def certificatesOf (file : File) : List Bytes :=
  if file.readOne = [] then [file.contents]
  else file.readOne.filterMap fun r => r.toOption.bind Item.certificate?

/-- The store trusts a certificate. -/
def Trusts (store : List α) (der : Bytes) : Prop :=
  ∃ anchor ∈ store, tls.trustAnchor der = .ok anchor

/-- **Every certificate file counts**: where the certificates are loaded, the store trusts every
certificate of every file. -/
def EveryFileCounts : Prop :=
  ∀ store, loadCertificates tls fs files = .ok store →
    ∀ path ∈ files, ∃ file, fs path = .ok file ∧ ∀ der ∈ certificatesOf file, Trusts tls store der

/-- A raw DER file is left out beside a PEM certificate, and neither a PEM certificate nor a native
root has the same trust anchor. -/
def LeavesOut : Prop :=
  files.flatMap (taken fs pemCertificates) ≠ [] ∧
  ∃ path ∈ files, ∃ file, fs path = .ok file ∧ file.readOne = [] ∧
    ∃ roots, tls.loadNativeCerts = .ok roots ∧
      ∀ der ∈ files.flatMap (taken fs pemCertificates) ++ roots, ∀ anchor,
        tls.trustAnchor der = .ok anchor → tls.trustAnchor file.contents ≠ .ok anchor

variable {tls} {fs} {files}

theorem itemsOf_of_ok : ∀ {rs : List (Except IoError Item)}, (∀ r ∈ rs, ∃ item, r = .ok item) →
    (itemsOf rs).filterMap Item.certificate? =
      rs.filterMap fun r => r.toOption.bind Item.certificate? := by
  intro rs
  induction rs with
  | nil => intro _; rfl
  | cons r rs ih =>
    intro h
    obtain ⟨item, rfl⟩ := h _ List.mem_cons_self
    have hrest := ih fun r hr => h r (List.mem_cons_of_mem _ hr)
    simp only [itemsOf, List.filterMap_cons, hrest, Except.toOption, Option.bind_some]

theorem mem_taken {take : File → List Bytes} {path : String} {file : File} {der : Bytes}
    (hpath : path ∈ files) (hfile : fs path = .ok file) (hder : der ∈ take file) :
    der ∈ files.flatMap (taken fs take) := by
  refine List.mem_flatMap.mpr ⟨path, hpath, ?_⟩
  unfold taken
  rw [hfile]
  exact hder

/-- The store trusts what was added to it. -/
theorem Added.trusts {store : List α} {ders : List Bytes} (h : Added tls [] ders store)
    {der : Bytes} (hder : der ∈ ders) : Trusts tls store der := by
  obtain ⟨anchor, hanchor⟩ := h.valid der hder
  exact ⟨anchor, (h.mem anchor).mpr (Or.inr ⟨der, hder, hanchor⟩), hanchor⟩

/-- **Which lists of files are honoured**: all but those with a raw DER file that is left out beside
a PEM certificate. -/
theorem everyFileCounts_iff (hread : WellRead fs files) :
    EveryFileCounts tls fs files ↔
      ∀ store, loadCertificates tls fs files = .ok store → ¬ LeavesOut tls fs files := by
  constructor
  · rintro hcounts store hload ⟨hpem, path, hpath, file, hfile, hder, roots, hnative, hnone⟩
    obtain ⟨file', hfile', htrusts⟩ := hcounts store hload path hpath
    rw [hfile] at hfile'
    cases hfile'
    obtain ⟨-, roots', hnative', hadded⟩ := loadCertificates_spec hload
    rw [hnative] at hnative'
    cases hnative'
    rw [takenFrom, if_neg hpem] at hadded
    obtain ⟨anchor, hmem, hanchor⟩ := htrusts file.contents (by simp [certificatesOf, hder])
    rcases (hadded.mem anchor).mp hmem with hmem | ⟨der, hder', hanchor'⟩
    · cases hmem
    · exact hnone der hder' anchor hanchor' hanchor
  · intro hleaves store hload path hpath
    obtain ⟨hopens, roots, hnative, hadded⟩ := loadCertificates_spec hload
    obtain ⟨file, hfile⟩ := hopens path hpath
    refine ⟨file, hfile, fun der hder => ?_⟩
    by_cases hraw : file.readOne = []
    · -- the file is a raw one, and is added, or trusted all the same
      rw [certificatesOf, if_pos hraw, List.mem_singleton] at hder
      subst hder
      by_cases hpem : files.flatMap (taken fs pemCertificates) = []
      · rw [takenFrom, if_pos hpem] at hadded
        refine hadded.trusts (List.mem_append_left _ (mem_taken hpath hfile ?_))
        exact List.mem_singleton_self _
      · by_contra hnot
        refine hleaves store hload ⟨hpem, path, hpath, file, hfile, hraw, roots, hnative, ?_⟩
        intro der hder anchor hanchor hsame
        rw [takenFrom, if_neg hpem] at hadded
        exact hnot ⟨anchor, (hadded.mem anchor).mpr (Or.inr ⟨der, hder, hanchor⟩), hsame⟩
    · -- a certificate of a PEM file is taken by the first pass
      rw [certificatesOf, if_neg hraw, ← itemsOf_of_ok (hread path hpath file hfile)] at hder
      have hmem : der ∈ files.flatMap (taken fs pemCertificates) := mem_taken hpath hfile hder
      rw [takenFrom, if_neg (List.ne_nil_of_mem hmem)] at hadded
      exact hadded.trusts (List.mem_append_left _ hmem)

end Count

/-- A PEM file with one certificate, a raw DER file with another, and one with the same. -/
def sampleFiles : FileSystem
  | "ca.pem" => .ok ⟨[0x2d], [.ok (.x509Certificate [1])]⟩
  | "ca.der" => .ok ⟨[2], []⟩
  | "copy.der" => .ok ⟨[1], []⟩
  | _ => .error ⟨.other, "No such file or directory"⟩

/-- Every certificate is its own trust anchor, and there are no native roots. -/
def sampleTls : Tls Bytes := ⟨.ok, .ok []⟩

theorem wellRead_sampleFiles (files : List String) : WellRead sampleFiles files := by
  intro path _ file hfile r hr
  unfold sampleFiles at hfile
  split at hfile
  · cases hfile
    exact ⟨_, List.mem_singleton.mp hr⟩
  · cases hfile
    cases hr
  · cases hfile
    cases hr
  · cases hfile

/-- Raw DER files on their own are honoured, and so is one beside a PEM file with the same
certificate. -/
theorem everyFileCounts_iff_copy :
    loadCertificates sampleTls sampleFiles ["ca.der", "copy.der"] = .ok [[2], [1]] ∧
      EveryFileCounts sampleTls sampleFiles ["ca.der", "copy.der"] ∧
      loadCertificates sampleTls sampleFiles ["ca.pem", "copy.der"] = .ok [[1]] ∧
      EveryFileCounts sampleTls sampleFiles ["ca.pem", "copy.der"] := by
  refine ⟨rfl, (everyFileCounts_iff (wellRead_sampleFiles _)).mpr fun _ _ h => h.1 rfl, rfl,
    (everyFileCounts_iff (wellRead_sampleFiles _)).mpr ?_⟩
  rintro store - ⟨-, path, hpath, file, hfile, hraw, roots, -, hnone⟩
  rcases List.mem_pair.mp hpath with rfl | rfl
  · cases hfile
    cases hraw
  · cases hfile
    exact hnone [1] List.mem_cons_self [1] rfl rfl

/-- **A raw DER file beside a PEM file is left out**: the certificates are loaded, and the one of
the raw file is not in the store. -/
theorem not_everyFileCounts_mixed :
    WellRead sampleFiles ["ca.pem", "ca.der"] ∧
      loadCertificates sampleTls sampleFiles ["ca.pem", "ca.der"] = .ok [[1]] ∧
      ¬ EveryFileCounts sampleTls sampleFiles ["ca.pem", "ca.der"] := by
  refine ⟨wellRead_sampleFiles _, rfl, fun hcounts => ?_⟩
  obtain ⟨file, hfile, htrusts⟩ := hcounts [[1]] rfl "ca.der" (by simp)
  cases hfile
  obtain ⟨anchor, hmem, hanchor⟩ := htrusts [2] List.mem_cons_self
  cases hanchor
  cases List.mem_singleton.mp hmem

end Tuic.Client
