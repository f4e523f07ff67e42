import Mathlib.Data.List.Nodup

/-! # Command line options

What the programs rely on of the `getopts` crate. A program declares its options and asks what was
found for them; how the arguments are taken apart is up to the crate. A `Parser` has what is
documented about that:

* a command line is parsed as what occurs in it, unless an option that is not declared as repeatable
  occurs more than once (`parse_eq_ok_iff`);
* `--name value` is an occurrence of an option with an argument (`scan_val`).

`Parser.long` is such a parser, which knows options by their long names only. -/

namespace Getopts

/-- Whether an option has an argument. -/
inductive HasArg where
  /-- It has. -/
  | yes
  /-- It is a flag. -/
  | no
  deriving DecidableEq, Repr

/-- How often an option may occur. -/
inductive Occur where
  /-- Once at most. -/
  | optional
  /-- Any number of times. -/
  | multi
  deriving DecidableEq, Repr

/-- An option. -/
structure Opt where
  /-- A letter, or nothing. -/
  shortName : String
  /-- Its name. -/
  longName : String
  /-- Whether it has an argument. -/
  hasArg : HasArg
  /-- How often it may occur. -/
  occur : Occur
  deriving DecidableEq, Repr

/-- An option that may occur once. -/
def optopt (shortName longName : String) : Opt := ⟨shortName, longName, .yes, .optional⟩

/-- A flag. -/
def optflag (shortName longName : String) : Opt := ⟨shortName, longName, .no, .optional⟩

/-- The options of a program. -/
abbrev Options := List Opt

/-- The options have names of their own, which are more than a letter and have no equals sign. -/
def Options.Plain (opts : Options) : Prop :=
  (opts.map Opt.longName).Nodup ∧
    ∀ o ∈ opts, 1 < o.longName.toList.length ∧ '=' ∉ o.longName.toList

instance (opts : Options) : Decidable opts.Plain := inferInstanceAs (Decidable (_ ∧ _))

/-- Such a name has one option. -/
theorem Options.Plain.eq_of_longName {opts : Options} (h : opts.Plain) {o o' : Opt} (ho : o ∈ opts)
    (ho' : o' ∈ opts) (hname : o.longName = o'.longName) : o = o' :=
  List.inj_on_of_nodup_map h.1 ho ho' hname

/-! ## What is found -/

/-- What was found for an option. -/
inductive Optval where
  /-- An argument. -/
  | val (s : String)
  /-- A flag. -/
  | given
  deriving DecidableEq, Repr

/-- How parsing fails. -/
inductive Fail where
  /-- The option needs an argument. -/
  | argumentMissing (nm : String)
  /-- There is no such option. -/
  | unrecognizedOption (nm : String)
  /-- A required option is missing. -/
  | optionMissing (nm : String)
  /-- The option occurs too often. -/
  | optionDuplicated (nm : String)
  /-- The option is a flag. -/
  | unexpectedArgument (nm : String)
  deriving DecidableEq, Repr

/-- The options that occur, by their names, in the order of the arguments. -/
abbrev Found := List (String × Optval)

/-- What was found for an option. -/
def Found.vals (found : Found) (nm : String) : List Optval :=
  found.filterMap fun e => if e.1 = nm then some e.2 else none

@[simp] theorem Found.vals_cons_self (found : Found) (nm : String) (v : Optval) :
    Found.vals ((nm, v) :: found) nm = v :: found.vals nm := by
  simp [Found.vals]

@[simp] theorem Found.vals_cons_ne {nm nm' : String} (h : nm ≠ nm') (found : Found) (v : Optval) :
    Found.vals ((nm, v) :: found) nm' = found.vals nm' := by
  simp [Found.vals, h]

/-- The option occurs more often than it may. -/
def Opt.TooOften (o : Opt) (found : Found) : Prop :=
  o.occur ≠ .multi ∧ 1 < (found.vals o.longName).length

instance (o : Opt) (found : Found) : Decidable (o.TooOften found) :=
  inferInstanceAs (Decidable (_ ∧ _))

/-- The result of parsing. -/
structure Matches where
  /-- What was found. -/
  found : Found
  /-- The free arguments. -/
  free : List String
  deriving DecidableEq, Repr

namespace Matches

variable (m : Matches) (nm : String)

/-- What was found for an option. -/
def optVals : List Optval := m.found.vals nm

/-- The option occurs. -/
def optPresent : Bool := !(m.optVals nm).isEmpty

/-- The argument of the option. -/
def optStr : Option String :=
  match m.optVals nm with
  | .val s :: _ => some s
  | _ => none

/-- All arguments of the option. -/
def optStrs : List String :=
  (m.optVals nm).filterMap fun
    | .val s => some s
    | .given => none

end Matches

/-! ## Parsers -/

/-- A parser, as it is documented. -/
structure Parser where
  /-- What occurs on a command line, and the free arguments, if it can be taken apart. -/
  scan : Options → List String → Option (Found × List String)
  /-- `Options::parse` -/
  parse : Options → List String → Except Fail Matches
  /-- A command line is parsed as what occurs in it, if nothing occurs more often than it may. -/
  parse_eq_ok_iff : ∀ {opts args m}, opts.Plain →
    (parse opts args = .ok m ↔
      scan opts args = some (m.found, m.free) ∧ ∀ o ∈ opts, ¬ o.TooOften m.found)
  /-- An option can be given by its long name, with its argument behind it. -/
  scan_val : ∀ {opts o v args}, opts.Plain → o ∈ opts → o.hasArg = .yes →
    scan opts (("--" ++ o.longName) :: v :: args) =
      (scan opts args).map fun r => ((o.longName, .val v) :: r.1, r.2)

/-- An option that occurs more often than it may is an error. -/
theorem Parser.parse_of_tooOften {getopts : Parser} {opts : Options} {args free : List String}
    {found : Found} {o : Opt} (hplain : opts.Plain)
    (hscan : getopts.scan opts args = some (found, free)) (ho : o ∈ opts)
    (hmany : o.TooOften found) : ∃ e, getopts.parse opts args = .error e := by
  cases hparse : getopts.parse opts args with
  | error e => exact ⟨e, rfl⟩
  | ok m =>
    obtain ⟨hscan', hnone⟩ := (getopts.parse_eq_ok_iff hplain).mp hparse
    rw [hscan] at hscan'
    cases hscan'
    exact absurd hmany (hnone o ho)

/-! ## Options by their long names -/

/-- Take the arguments apart: options by their long names, with an argument behind them if they have
one. -/
def scanLong (opts : Options) : List String → Except Fail (Found × List String)
  | [] => .ok ([], [])
  | arg :: args =>
    match arg.toList with
    | '-' :: '-' :: nm =>
      match opts.find? (·.longName.toList = nm), args with
      | none, _ => .error (.unrecognizedOption (.ofList nm))
      | some ⟨_, nm, .yes, _⟩, [] => .error (.argumentMissing nm)
      | some ⟨_, nm, .yes, _⟩, v :: args =>
        (scanLong opts args).map fun r => ((nm, .val v) :: r.1, r.2)
      | some ⟨_, nm, .no, _⟩, args =>
        (scanLong opts args).map fun r => ((nm, .given) :: r.1, r.2)
    | _ => (scanLong opts args).map fun r => (r.1, arg :: r.2)

/-- Parse them. -/
def parseLong (opts : Options) (args : List String) : Except Fail Matches :=
  match scanLong opts args with
  | .error e => .error e
  | .ok (found, free) =>
    match opts.find? fun o => decide (o.TooOften found) with
    | some o => .error (.optionDuplicated o.longName)
    | none => .ok ⟨found, free⟩

/-- It is parsed as documented. -/
theorem parseLong_eq_ok_iff {opts : Options} {args : List String} {m : Matches} :
    parseLong opts args = .ok m ↔ (scanLong opts args).toOption = some (m.found, m.free) ∧
      ∀ o ∈ opts, ¬ o.TooOften m.found := by
  unfold parseLong
  cases scanLong opts args with
  | error e => simp [Except.toOption]
  | ok r =>
    obtain ⟨found, free⟩ := r
    simp only [Except.toOption, Option.some.injEq, Prod.mk.injEq]
    cases hfind : opts.find? fun o => decide (o.TooOften found) with
    | some o =>
      have hmany : o.TooOften found := by simpa using List.find?_some hfind
      simp only [reduceCtorEq, false_iff]
      rintro ⟨⟨rfl, -⟩, hnone⟩
      exact hnone o (List.mem_of_find?_eq_some hfind) hmany
    | none =>
      constructor
      · intro h
        cases h
        exact ⟨⟨rfl, rfl⟩, fun o ho => by simpa using List.find?_eq_none.mp hfind o ho⟩
      · rintro ⟨⟨rfl, rfl⟩, -⟩
        rfl

/-- An option of its own name is found by it. -/
theorem find?_longName {opts : Options} (hplain : opts.Plain) {o : Opt} (ho : o ∈ opts) :
    opts.find? (·.longName.toList = o.longName.toList) = some o := by
  cases hfind : opts.find? (·.longName.toList = o.longName.toList) with
  | none => simpa using List.find?_eq_none.mp hfind o ho
  | some o' =>
    have hname : o'.longName = o.longName :=
      String.toList_inj.mp (by simpa using List.find?_some hfind)
    rw [hplain.eq_of_longName (List.mem_of_find?_eq_some hfind) ho hname]

/-- An option and its argument come first. -/
theorem scanLong_val {opts : Options} {o : Opt} {v : String} {args : List String}
    (hplain : opts.Plain) (ho : o ∈ opts) (harg : o.hasArg = .yes) :
    scanLong opts (("--" ++ o.longName) :: v :: args) =
      (scanLong opts args).map fun r => ((o.longName, .val v) :: r.1, r.2) := by
  have hchars : ("--" ++ o.longName).toList = '-' :: '-' :: o.longName.toList := by simp
  have hfind := find?_longName hplain ho
  obtain ⟨short, nm, hasArg, occur⟩ := o
  cases harg
  rw [scanLong.eq_def]
  simp only [hchars, hfind]

/-- A parser that knows options by their long names. -/
def Parser.long : Parser where
  scan opts args := (scanLong opts args).toOption
  parse := parseLong
  parse_eq_ok_iff _ := parseLong_eq_ok_iff
  scan_val hplain ho harg := by
    rw [scanLong_val hplain ho harg]
    cases scanLong _ _ <;> rfl

/-! ## Repeated options -/

/-- **The same command line with one option repeated.** What is found for the option are these
values, in this order, and everything else is as in `m`. -/
structure Repeats (getopts : Parser) (opts : Options) (nm : String) (m : Matches)
    (vs args : List String) (found : Found) : Prop where
  /-- The arguments can be taken apart, and the same of them are free. -/
  scan : getopts.scan opts args = some (found, m.free)
  /-- The option has the values. -/
  given : found.vals nm = vs.map .val
  /-- The others have what they had. -/
  others : ∀ nm', nm' ≠ nm → found.vals nm' = m.found.vals nm'

namespace Repeats

variable {getopts : Parser} {opts : Options} {o : Opt} {m : Matches} {vs args args₀ : List String}
  {found : Found}

/-- A command line without the option. -/
theorem nil {nm : String} (h : getopts.parse opts args = .ok m) (hplain : opts.Plain)
    (hnone : m.found.vals nm = []) : Repeats getopts opts nm m [] args m.found :=
  ⟨((getopts.parse_eq_ok_iff hplain).mp h).1, hnone, fun _ _ => rfl⟩

/-- One more value comes first. -/
theorem cons {v : String} (h : Repeats getopts opts o.longName m vs args found)
    (hplain : opts.Plain) (ho : o ∈ opts) (harg : o.hasArg = .yes) :
    Repeats getopts opts o.longName m (v :: vs) (("--" ++ o.longName) :: v :: args)
      ((o.longName, .val v) :: found) where
  scan := by
    rw [getopts.scan_val hplain ho harg, h.scan]
    rfl
  given := by rw [Found.vals_cons_self, h.given, List.map_cons]
  others nm' hne := by rw [Found.vals_cons_ne hne.symm, h.others nm' hne]

/-- **Every list of values can be given**, one by one before the other arguments. -/
theorem front (h : getopts.parse opts args = .ok m) (hplain : opts.Plain) (ho : o ∈ opts)
    (harg : o.hasArg = .yes) (hnone : m.found.vals o.longName = []) (vs : List String) :
    Repeats getopts opts o.longName m vs ((vs.flatMap fun v => ["--" ++ o.longName, v]) ++ args)
      (vs.map (fun v => (o.longName, .val v)) ++ m.found) := by
  induction vs with
  | nil => exact nil h hplain hnone
  | cons v vs ih => exact ih.cons hplain ho harg

/-- **The values are accepted** if the option is declared as repeatable, or there is one at most. -/
theorem parse_ok (h : Repeats getopts opts o.longName m vs args found)
    (hm : getopts.parse opts args₀ = .ok m) (hplain : opts.Plain) (ho : o ∈ opts)
    (hvs : o.occur = .multi ∨ vs.length ≤ 1) : getopts.parse opts args = .ok ⟨found, m.free⟩ := by
  obtain ⟨-, hmay⟩ := (getopts.parse_eq_ok_iff hplain).mp hm
  refine (getopts.parse_eq_ok_iff hplain).mpr ⟨h.scan, fun o' ho' hmany => ?_⟩
  by_cases hname : o'.longName = o.longName
  · obtain rfl := hplain.eq_of_longName ho' ho hname
    obtain ⟨hocc, hlen⟩ := hmany
    rw [h.given, List.length_map] at hlen
    have hone := hvs.resolve_left hocc
    omega
  · refine hmay o' ho' ?_
    rwa [Opt.TooOften, h.others _ hname] at hmany

/-- **They are rejected** otherwise. -/
theorem parse_error (h : Repeats getopts opts o.longName m vs args found) (hplain : opts.Plain)
    (ho : o ∈ opts) (hocc : o.occur ≠ .multi) (hvs : 1 < vs.length) :
    ∃ e, getopts.parse opts args = .error e := by
  refine Parser.parse_of_tooOften hplain h.scan ho ⟨hocc, ?_⟩
  rwa [h.given, List.length_map]

end Repeats

end Getopts
