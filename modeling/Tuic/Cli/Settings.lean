import Tuic.Cli.Getopts
import Tuic.Protocol.Command

/-! # Settings

What the settings of the server and of the client have in common: how the text of an option becomes
a value (the integer parsers of the standard library, the log levels, the congestion controllers),
the files they name, the command lines they accept (`Accepted`), and the rule by which an option on
the command line takes the place of what was there before (`overridden`). -/

namespace Tuic

open ByteCodec Getopts

/-! ## Integers -/

/-- Why a text is no integer. -/
inductive IntErrorKind where
  /-- It is empty. -/
  | empty
  /-- It has something else than digits in it. -/
  | invalidDigit
  /-- It is too large for the type. -/
  | posOverflow
  deriving DecidableEq, Repr

/-- The value of digits behind those with value `acc`, up to `max`. -/
def parseDigits (max : Nat) : Nat → List Char → Except IntErrorKind Nat
  | acc, [] => .ok acc
  | acc, c :: cs =>
    if c.isDigit then
      let acc' := acc * 10 + (c.toNat - '0'.toNat)
      if acc' ≤ max then parseDigits max acc' cs else .error .posOverflow
    else .error .invalidDigit

/-- `str::parse` for an unsigned integer type with maximum `max`. -/
def parseUnsigned (max : Nat) (s : String) : Except IntErrorKind Nat :=
  match s.toList with
  | [] => .error .empty
  | ['+'] => .error .invalidDigit
  | '+' :: cs => parseDigits max 0 cs
  | cs => parseDigits max 0 cs

/-- `str::parse::<u16>` -/
def parseU16 (s : String) : Except IntErrorKind UInt16 := (parseUnsigned 0xffff s).map .ofNat

/-- `str::parse::<u32>` -/
def parseU32 (s : String) : Except IntErrorKind UInt32 := (parseUnsigned 0xffffffff s).map .ofNat

/-- `str::parse::<u64>` -/
def parseU64 (s : String) : Except IntErrorKind UInt64 :=
  (parseUnsigned 0xffffffffffffffff s).map .ofNat

/-- `str::parse::<usize>`, on a machine with words of 64 bits. -/
def parseUsize (s : String) : Except IntErrorKind Nat := parseUnsigned 0xffffffffffffffff s

/-- Digits are read up to the maximum. -/
theorem parseDigits_le {max n : Nat} {cs : List Char} :
    ∀ {acc : Nat}, acc ≤ max → parseDigits max acc cs = .ok n → n ≤ max := by
  induction cs with
  | nil =>
    intro acc hacc h
    cases h
    exact hacc
  | cons c cs ih =>
    intro acc hacc h
    rw [parseDigits] at h
    split at h
    · simp only at h
      split at h
      · rename_i hle
        exact ih hle h
      · cases h
    · cases h

/-- **An integer that is parsed is one of the type.** -/
theorem parseUnsigned_le {max n : Nat} {s : String} (h : parseUnsigned max s = .ok n) :
    n ≤ max := by
  unfold parseUnsigned at h
  split at h
  · cases h
  · cases h
  · exact parseDigits_le (Nat.zero_le _) h
  · exact parseDigits_le (Nat.zero_le _) h

example : parseU16 "+00443" = .ok 443 := by decide
example : parseU16 "65536" = .error .posOverflow := by decide
example : parseU16 "44x" = .error .invalidDigit := by decide

/-! ## Words -/

/-- `str::eq_ignore_ascii_case` -/
def eqIgnoreAsciiCase (s t : String) : Bool := s.toList.map Char.toLower = t.toList.map Char.toLower

/-- `log::LevelFilter` -/
inductive LevelFilter where
  | off | error | warn | info | debug | trace
  deriving DecidableEq, Repr

/-- `LevelFilter::from_str` -/
def LevelFilter.fromStr (s : String) : Option LevelFilter :=
  if eqIgnoreAsciiCase s "OFF" then some .off
  else if eqIgnoreAsciiCase s "ERROR" then some .error
  else if eqIgnoreAsciiCase s "WARN" then some .warn
  else if eqIgnoreAsciiCase s "INFO" then some .info
  else if eqIgnoreAsciiCase s "DEBUG" then some .debug
  else if eqIgnoreAsciiCase s "TRACE" then some .trace
  else none

/-- The congestion control algorithms. -/
inductive CongestionController where
  | cubic | newReno | bbr
  deriving DecidableEq, Repr

/-- `CongestionController::from_str` -/
def CongestionController.fromStr (s : String) : Option CongestionController :=
  if eqIgnoreAsciiCase s "cubic" then some .cubic
  else if eqIgnoreAsciiCase s "new_reno" || eqIgnoreAsciiCase s "newreno" then some .newReno
  else if eqIgnoreAsciiCase s "bbr" then some .bbr
  else none

/-! ## Addresses -/

/-- An IP address. -/
inductive IpAddr where
  /-- Of version 4. -/
  | v4 (ip : Ipv4Addr)
  /-- Of version 6. -/
  | v6 (ip : Ipv6Addr)
  deriving DecidableEq, Repr

/-- `SocketAddr::new` -/
def SocketAddr.new (ip : IpAddr) (port : UInt16) : SocketAddr :=
  match ip with
  | .v4 ip => .v4 ip port
  | .v6 ip => .v6 ip port 0 0

/-! ## Times -/

/-- `std::time::Duration` -/
structure Duration where
  nanos : Nat
  deriving DecidableEq, Repr

/-- `Duration::from_secs` -/
def Duration.fromSecs (secs : UInt64) : Duration := ⟨secs.toNat * 1000000000⟩

/-- `Duration::from_millis` -/
def Duration.fromMillis (millis : UInt64) : Duration := ⟨millis.toNat * 1000000⟩

/-- Seconds are not milliseconds. -/
theorem Duration.fromSecs_eq_fromMillis_iff {n : UInt64} :
    Duration.fromSecs n = Duration.fromMillis n ↔ n = 0 := by
  have hzero : n = 0 ↔ n.toNat = 0 := UInt64.toNat_inj.symm
  rw [hzero, fromSecs, fromMillis, Duration.mk.injEq]
  omega

/-! ## Files -/

/-- An item of a PEM file. -/
inductive Item where
  /-- A certificate. -/
  | x509Certificate (der : Bytes)
  /-- A private key, in one of three formats. -/
  | rsaKey (key : Bytes) | pkcs8Key (key : Bytes) | ecKey (key : Bytes)
  deriving DecidableEq, Repr

/-- A file that can be opened: its contents, and what `rustls_pemfile::read_one` returns on it, call
by call, until there is nothing more to read. -/
structure File where
  /-- The contents. -/
  contents : Bytes
  /-- The items. -/
  readOne : List (Except IoError Item)

/-- The files, by their paths. -/
abbrev FileSystem := String → Except IoError File

/-- The items of `while let Ok(Some(item)) = read_one(..)`, which ends at the first error. -/
def itemsOf : List (Except IoError Item) → List Item
  | .ok item :: rest => item :: itemsOf rest
  | .error _ :: _ | [] => []

/-- The certificates among these. -/
def Item.certificate? : Item → Option Bytes
  | .x509Certificate der => some der
  | .rsaKey _ | .pkcs8Key _ | .ecKey _ => none

/-- The certificates of a PEM file. -/
def pemCertificates (file : File) : List Bytes :=
  (itemsOf file.readOne).filterMap Item.certificate?

/-- Why a configuration file is rejected. -/
inductive JsonError where
  /-- A key that has no default is missing. -/
  | missingField (key : String)
  /-- It is no JSON, or has an unknown key or a value of the wrong type. -/
  | other (message : String)
  deriving DecidableEq, Repr

/-! ## Command lines -/

section CommandLine

variable {getopts : Parser} {opts : Options} {m m' : Matches}

/-- The command line is accepted, and asks for the program to be run. -/
structure Accepted (getopts : Parser) (opts : Options) (args : List String) (m : Matches) :
    Prop where
  /-- It is parsed. -/
  parse : getopts.parse opts (args.drop 1) = .ok m
  /-- The usage is not asked for. -/
  help : m.optPresent "help" = false
  /-- Neither is the version. -/
  version : m.optPresent "version" = false
  /-- There are no free arguments. -/
  free : m.free = []

/-- A command line is parsed in one way. -/
theorem Accepted.unique {args : List String} (h : Accepted getopts opts args m)
    (h' : Accepted getopts opts args m') : m = m' :=
  Except.ok.inj (h.parse.symm.trans h'.parse)

/-- The options but one were found to be the same. -/
def AgreeExcept (but : String) (m m' : Matches) : Prop :=
  ∀ name, name ≠ but → m'.optVals name = m.optVals name

/-- One more value makes a difference for its option only. -/
theorem agreeExcept_cons (but : String) (v : Optval) (m : Matches) :
    AgreeExcept but m { m with found := (but, v) :: m.found } :=
  fun _ hname => Found.vals_cons_ne hname.symm _ _

namespace AgreeExcept

variable {but : String} (h : AgreeExcept but m m') (name : String) (hname : name ≠ but)

include h hname

theorem optStr : m'.optStr name = m.optStr name := by
  unfold Matches.optStr
  rw [h name hname]

theorem optStrs : m'.optStrs name = m.optStrs name := by
  unfold Matches.optStrs
  rw [h name hname]

theorem optPresent : m'.optPresent name = m.optPresent name := by
  unfold Matches.optPresent
  rw [h name hname]

end AgreeExcept

end CommandLine

/-! ## Settings from several sources -/

section Settings

variable {ε α β : Type} {given : Option String} {parse : String → Except ε α} {x y : α}

/-- A sequence succeeds through a success of its first part. -/
theorem except_bind_eq_ok {r : Except ε α} {f : α → Except ε β} {b : β} :
    (r >>= f) = .ok b ↔ ∃ a, r = .ok a ∧ f a = .ok b := by
  cases r with
  | error e => simp [bind, Except.bind]
  | ok a => simp [bind, Except.bind]

/-- A sequence fails in its first part, or after a success of that. -/
theorem except_bind_eq_error {r : Except ε α} {f : α → Except ε β} {e : ε} :
    (r >>= f) = .error e ↔ r = .error e ∨ ∃ a, r = .ok a ∧ f a = .error e := by
  cases r with
  | error e' => simp [bind, Except.bind]
  | ok a => simp [bind, Except.bind]

@[simp] theorem mapError_eq_ok {ε' : Type} {r : Except ε α} {f : ε → ε'} :
    r.mapError f = .ok x ↔ r = .ok x := by
  cases r <;> simp [Except.mapError]

/-- `Option::ok_or` -/
def okOr (x : Option α) (e : ε) : Except ε α :=
  match x with
  | some a => .ok a
  | none => .error e

/-- `Option::transpose` -/
def transpose : Option (Except ε α) → Except ε (Option α)
  | some (.ok a) => .ok (some a)
  | some (.error e) => .error e
  | none => .ok none

@[simp] theorem okOr_eq_ok {o : Option α} {e : ε} : okOr o e = .ok x ↔ o = some x := by
  cases o <;> simp [okOr]

@[simp] theorem okOr_eq_error {o : Option α} {e e' : ε} :
    okOr o e = .error e' ↔ o = none ∧ e = e' := by
  cases o <;> simp [okOr]

/-- `x.transpose()?.ok_or(e)?` and `x.ok_or(e)??` fail alike. -/
theorem transpose_okOr (x : Option (Except ε α)) (e : ε) (k : α → Except ε β) :
    (transpose x >>= fun y => okOr y e >>= k) = (okOr x e >>= fun y => y >>= k) := by
  rcases x with _ | _ | _ <;> rfl

/-- A setting that the command line takes the place of: `if let Some(s) = .. { x = s.parse()? }`. -/
def overridden (given : Option String) (parse : String → Except ε α) (x : α) : Except ε α :=
  match given with
  | some s => parse s
  | none => .ok x

/-- The value of a setting: what the command line says if it says anything, and what was there
before otherwise. -/
def Chosen (given : Option String) (parse : String → Except ε α) (x y : α) : Prop :=
  match given with
  | some s => parse s = .ok y
  | none => y = x

@[simp] theorem overridden_eq_ok : overridden given parse x = .ok y ↔ Chosen given parse x y := by
  cases given with
  | none => simp [overridden, Chosen, eq_comm]
  | some s => rfl

/-- A setting has one value. -/
theorem Chosen.unique {y' : α} (h : Chosen given parse x y) (h' : Chosen given parse x y') :
    y = y' := by
  cases given with
  | none => exact Eq.trans h (Eq.symm h')
  | some s => exact Except.ok.inj (Eq.trans (Eq.symm h) h')

/-- A setting that there must be, from the command line or else from what was there before. -/
theorem transpose_map_eq_ok {o : Option α} :
    (∃ y, transpose (given.map parse) = .ok y ∧ y.or o = some x) ↔
      Chosen given (fun s => some <$> parse s) o (some x) := by
  cases given with
  | none => simp [transpose, Chosen, eq_comm]
  | some s =>
    cases hs : parse s with
    | error e => simp [transpose, Chosen, hs]
    | ok a => simp [transpose, Chosen, hs]

/-- A text that there must be. -/
theorem or_eq_iff_chosen {o o' : Option String} :
    given.or o = o' ↔ Chosen given (fun s => (.ok (some s) : Except ε _)) o o' := by
  cases given <;> simp [Chosen, eq_comm]

/-- A setting is neither on the command line nor was it there before. -/
def Absent (given : Option String) (o : Option α) : Prop := given = none ∧ o = none

theorem exists_text_iff {o : Option String} : (∃ s, given.or o = some s) ↔ ¬ Absent given o := by
  cases given <;> cases o <;> simp [Absent]

theorem exists_value_iff {o : Option α} :
    (∃ x, Chosen given (fun s => some <$> parse s) o (some x)) ↔
      ¬ Absent given o ∧ ∀ s, given = some s → ∃ a, parse s = .ok a := by
  cases given with
  | none => cases o <;> simp [Absent, Chosen]
  | some s => cases hs : parse s <;> simp [Absent, Chosen, hs]

/-- A text that there must be is absent, or something behind it fails. -/
theorem text_eq_error_iff {o : Option String} {e e' : ε} {k : String → Except ε β} :
    (okOr (given.or o) e >>= k) = .error e' ↔
      Absent given o ∧ e = e' ∨ ∃ s, given.or o = some s ∧ k s = .error e' := by
  rw [except_bind_eq_error, okOr_eq_error, Option.or_eq_none_iff]
  simp only [okOr_eq_ok]
  rfl

/-- A value that there must be is absent, or something behind it fails, where the error is not one
of its text. -/
theorem value_eq_error_iff {o : Option α} {e e' : ε} {k : α → Except ε β}
    (hparse : ∀ s, parse s ≠ .error e') :
    (transpose (given.map parse) >>= fun y => okOr (y.or o) e >>= k) = .error e' ↔
      Absent given o ∧ e = e' ∨
        ∃ x, Chosen given (fun s => some <$> parse s) o (some x) ∧ k x = .error e' := by
  cases given with
  | none => cases o <;> simp [transpose, okOr, Absent, Chosen, bind, Except.bind]
  | some s =>
    have hs := hparse s
    cases h : parse s with
    | error err =>
      rw [h] at hs
      simpa [transpose, Absent, Chosen, h, bind, Except.bind] using hs
    | ok a => simp [transpose, okOr, Absent, Chosen, h, bind, Except.bind]

/-- A list of values that the command line takes the place of when it has any. -/
def overriddenList (given xs : List String) : List String := if given = [] then xs else given

end Settings

/-! ## Which errors there can be -/

/-- A computation fails, if it does, with an error that satisfies `P`. -/
def FailsOnly {ε α : Type} (P : ε → Prop) (r : Except ε α) : Prop := ∀ e, r = .error e → P e

namespace FailsOnly

variable {ε α β : Type} {P : ε → Prop} {given : Option String} {parse : String → Except ε α} {x : α}

/-- A success does not fail. -/
theorem ok : FailsOnly P (.ok x : Except ε α) := by
  intro e h
  cases h

/-- **Sequence rule**: both parts fail with such errors only. -/
theorem bind {r : Except ε α} {f : α → Except ε β} (hr : FailsOnly P r)
    (hf : ∀ a, FailsOnly P (f a)) : FailsOnly P (r >>= f) := by
  intro e h
  rcases except_bind_eq_error.mp h with h | ⟨a, -, h⟩
  · exact hr e h
  · exact hf a e h

/-- An error that is turned into another. -/
theorem mapError {ε' : Type} {r : Except ε' α} {f : ε' → ε} (hf : ∀ e, P (f e)) :
    FailsOnly P (r.mapError f) := by
  intro e h
  cases r with
  | error e' =>
    cases h
    exact hf e'
  | ok a => cases h

/-- A value that there may not be. -/
theorem okOr {o : Option α} {e : ε} (he : o = none → P e) : FailsOnly P (okOr o e) := by
  intro e' h
  obtain ⟨ho, rfl⟩ := okOr_eq_error.mp h
  exact he ho

/-- A setting fails to be overridden only as its text fails to be parsed. -/
theorem overridden (h : ∀ s, FailsOnly P (parse s)) :
    FailsOnly P (Tuic.overridden given parse x) := by
  cases given with
  | none => exact ok
  | some s => exact h s

/-- An option that may not be there fails as its text does. -/
theorem transpose (h : ∀ s, FailsOnly P (parse s)) :
    FailsOnly P (Tuic.transpose (given.map parse)) := by
  intro e he
  cases given with
  | none => cases he
  | some s =>
    have hs := h s
    cases hparse : parse s with
    | error e' =>
      rw [Option.map_some, hparse] at he
      cases he
      exact hs e hparse
    | ok a =>
      rw [Option.map_some, hparse] at he
      cases he

end FailsOnly

end Tuic
