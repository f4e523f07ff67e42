import Tuic.Codec.Reader
import Tuic.Transition.System

/-! # Decoders that wait for their input

A decoder on a stream does not have its input at hand. It asks for a buffer of some size, is
suspended until the buffer is full, and goes on. `Pull` is such a decoder, `Pull.run` what it
computes on an input that is all there, and `decodingSystem` the decoder at work: bytes arrive in
pieces of any size, a read gets some of those that are there, and never more than the buffer has
room for.

* `run_bind` — what a decoder computes is composed as the decoder is.
* `tracks_of_reachable` — at any moment, what the decoder computes on the bytes it has not taken is
  what it computes from the start on all bytes.
* `run_of_outcome` — so what it returns is what it computes on all bytes, however they came in.
* `AtRest.outcome_eq_none` — when it cannot go on without a result, the bytes are too few.
* `bounded_of_reachable` — a bound on the bytes it takes is a bound on what it has taken. -/

namespace ByteCodec

open Transition

namespace Reader

variable {α β : Type}

/-- The reader fails by a panic only, as one does that unwraps every read. -/
def OnlyPanics (r : Reader α) : Prop := ∀ b e, r b = .error e → e = .panic

theorem OnlyPanics.pure (x : α) : OnlyPanics (Pure.pure x : Reader α) := by
  intro b e h
  cases h

theorem OnlyPanics.unwrap (r : Reader α) : OnlyPanics (unwrap r) := by
  intro b e h
  rw [Reader.unwrap] at h
  split at h
  · cases h
  · cases h
    rfl

theorem OnlyPanics.bind {r : Reader α} {f : α → Reader β} (hr : OnlyPanics r)
    (hf : ∀ x, OnlyPanics (f x)) : OnlyPanics (r >>= f) := by
  intro b e h
  cases hb : r b with
  | ok p =>
    rw [bind_of_ok hb] at h
    exact hf p.1 p.2 e h
  | error e' =>
    rw [bind_of_error hb] at h
    cases h
    exact hr b e hb

end Reader

/-- A decoder that pulls its input. -/
inductive Pull (α : Type) where
  /-- It returns a value. -/
  | ret (x : α)
  /-- It fails. -/
  | fail (e : Failure)
  /-- It fills a buffer of `n` bytes and goes on with it; `eof` is its error when the input ends
  before that. -/
  | need (eof : IoError) (n : Nat) (k : Bytes → Pull α)

namespace Pull

variable {α β : Type}

/-- A decoder followed by another one. -/
def bind : Pull α → (α → Pull β) → Pull β
  | .ret x, f => f x
  | .fail e, _ => .fail e
  | .need eof n k, f => .need eof n fun b => (k b).bind f

instance : Monad Pull where
  pure := .ret
  bind := bind

/-- What a decoder computes on an input that is all there. -/
def run : Pull α → Reader α
  | .ret x => fun b => .ok (x, b)
  | .fail e => fun _ => .error e
  | .need eof n k => fun b =>
    if n ≤ b.length then run (k (b.take n)) (b.drop n) else .error (.io eof)

@[simp] theorem run_ret (x : α) (b : Bytes) : (ret x).run b = .ok (x, b) := rfl

@[simp] theorem run_pure (x : α) : (pure x : Pull α).run = pure x := rfl

@[simp] theorem run_fail (e : Failure) (b : Bytes) : (fail e : Pull α).run b = .error e := rfl

@[simp] theorem run_fail_eq_throw (e : Failure) : (fail e : Pull α).run = throw e := rfl

theorem run_need (eof : IoError) (n : Nat) (k : Bytes → Pull α) (b : Bytes) :
    (need eof n k).run b =
      if n ≤ b.length then (k (b.take n)).run (b.drop n) else .error (.io eof) := rfl

/-- **What a decoder computes is composed as the decoder is.** -/
@[simp] theorem run_bind (p : Pull α) (f : α → Pull β) :
    (p >>= f).run = p.run >>= fun x => (f x).run := by
  induction p with
  | ret x => rfl
  | fail e => rfl
  | need eof n k ih =>
    funext b
    change (need eof n fun c => (k c).bind f).run b = _
    rw [run_need]
    by_cases h : n ≤ b.length
    · have hcut : (need eof n k).run b = (k (b.take n)).run (b.drop n) := by
        rw [run_need, if_pos h]
      have hbind := congrFun (ih (b.take n)) (b.drop n)
      rw [if_pos h]
      refine hbind.trans ?_
      change ((k (b.take n)).run (b.drop n)).bind _ = ((need eof n k).run b).bind _
      rw [hcut]
    · have hcut : (need eof n k).run b = .error (.io eof) := by rw [run_need, if_neg h]
      rw [if_neg h, Reader.bind_of_error hcut]

/-- A choice between decoders. -/
@[simp] theorem run_ite (c : Prop) [Decidable c] (p q : Pull α) :
    (if c then p else q).run = if c then p.run else q.run := by
  by_cases h : c
  · rw [if_pos h, if_pos h]
  · rw [if_neg h, if_neg h]

/-! ## Primitive reads -/

/-- `read_u8` -/
def readU8 : Pull UInt8 :=
  .need ⟨.unexpectedEof, "unexpected end of file"⟩ 1 fun b =>
    match b with
    | x :: _ => .ret x
    | [] => .fail .panic

/-- `read_exact` on a buffer of `n` bytes. -/
def readExact (n : Nat) : Pull Bytes := .need ⟨.unexpectedEof, "early eof"⟩ n .ret

/-- The same with the length kept in the type. -/
def readArray (n : Nat) : Pull (List.Vector UInt8 n) :=
  .need ⟨.unexpectedEof, "early eof"⟩ n fun b =>
    if h : b.length = n then .ret ⟨b, h⟩ else .fail .panic

/-- `read_u32` -/
def readU32 : Pull UInt32 :=
  .need ⟨.unexpectedEof, "unexpected end of file"⟩ 4 fun b => .ret (UInt32.ofNat (beNat b))

/-- Run a reader over a buffer that is there. -/
def onCursor (buf : Bytes) (r : Reader α) : Pull α :=
  match r buf with
  | .ok (x, _) => .ret x
  | .error e => .fail e

@[simp] theorem run_readU8 : readU8.run = Reader.readU8 := by
  funext b
  cases b with
  | nil => rfl
  | cons x b =>
    have hlen : 1 ≤ (x :: b).length := by simp
    rw [readU8, run_need, if_pos hlen]
    rfl

@[simp] theorem run_readExact (n : Nat) : (readExact n).run = Reader.readExact n := rfl

@[simp] theorem run_readArray (n : Nat) : (readArray n).run = Reader.readArray n := by
  funext b
  rw [readArray, run_need, Reader.readArray]
  by_cases h : n ≤ b.length
  · have hlen : (b.take n).length = n := by simp [h]
    rw [if_pos h, dif_pos h, dif_pos hlen]
    rfl
  · rw [if_neg h, dif_neg h]

@[simp] theorem run_readU32 : readU32.run = Reader.readU32 := by
  funext b
  rw [readU32, run_need]
  by_cases h : 4 ≤ b.length
  · have hbe : Reader.readBE 4 b = .ok (beNat (b.take 4), b.drop 4) := by
      rw [Reader.readBE, if_pos h]
    rw [if_pos h, Reader.readU32, Reader.bind_of_ok hbe]
    rfl
  · have hbe : Reader.readBE 4 b = .error (.io ⟨.unexpectedEof, "unexpected end of file"⟩) := by
      rw [Reader.readBE, if_neg h]
    rw [if_neg h, Reader.readU32, Reader.bind_of_error hbe]

@[simp] theorem run_onCursor (buf : Bytes) (r : Reader α) :
    (onCursor buf r).run = Reader.onCursor buf r := by
  funext b
  cases h : r buf with
  | ok p => simp only [onCursor, Reader.onCursor, h, run_ret]
  | error e => simp only [onCursor, Reader.onCursor, h, run_fail]

/-! ## Filling a buffer in pieces -/

/-- The decoder after the first bytes of its buffer are there. -/
def fill (eof : IoError) (n : Nat) (k : Bytes → Pull α) (b : Bytes) : Pull α :=
  .need eof (n - b.length) fun c => k (b ++ c)

/-- **A buffer may be filled in pieces.** -/
theorem run_fill {eof : IoError} {n : Nat} {k : Bytes → Pull α} {b : Bytes} (h : b.length ≤ n)
    (c : Bytes) : (fill eof n k b).run c = (need eof n k).run (b ++ c) := by
  rw [fill, run_need, run_need]
  by_cases hc : n - b.length ≤ c.length
  · have hn : n ≤ (b ++ c).length := by simp only [List.length_append]; omega
    have htake : (b ++ c).take n = b ++ c.take (n - b.length) := by
      rw [List.take_append, List.take_of_length_le h]
    have hdrop : (b ++ c).drop n = c.drop (n - b.length) := by
      rw [List.drop_append, List.drop_of_length_le h, List.nil_append]
    rw [if_pos hc, if_pos hn, htake, hdrop]
  · have hn : ¬ n ≤ (b ++ c).length := by simp only [List.length_append]; omega
    rw [if_neg hc, if_neg hn]

/-! ## The end of the input -/

/-- The decoder leaves it to the stream to say that the input has ended. -/
def LeavesEof : Pull α → Prop
  | .ret _ => True
  | .fail e => ¬ Reader.IsEof e
  | .need eof _ k => eof.kind = .unexpectedEof ∧ ∀ b, (k b).LeavesEof

theorem LeavesEof.bind {p : Pull α} {f : α → Pull β} (h : p.LeavesEof)
    (hf : ∀ x, (f x).LeavesEof) : (p >>= f).LeavesEof := by
  induction p with
  | ret x => exact hf x
  | fail e => exact h
  | need eof n k ih => exact ⟨h.1, fun b => ih b (h.2 b)⟩

theorem LeavesEof.ite {c : Prop} [Decidable c] {p q : Pull α} (hp : p.LeavesEof)
    (hq : q.LeavesEof) : (if c then p else q).LeavesEof := by
  by_cases h : c
  · rwa [if_pos h]
  · rwa [if_neg h]

theorem LeavesEof.readU8 : Pull.readU8.LeavesEof := by
  refine ⟨rfl, fun b => ?_⟩
  cases b with
  | nil => exact id
  | cons x b => trivial

theorem LeavesEof.readExact (n : Nat) : (Pull.readExact n).LeavesEof := ⟨rfl, fun _ => trivial⟩

theorem LeavesEof.readArray (n : Nat) : (Pull.readArray n).LeavesEof := by
  refine ⟨rfl, fun b => ?_⟩
  beta_reduce
  split
  · trivial
  · exact id

theorem LeavesEof.readU32 : Pull.readU32.LeavesEof := ⟨rfl, fun _ => trivial⟩

/-- The end of a buffer that is there is a panic. -/
theorem LeavesEof.onCursor {r : Reader α} (h : Reader.OnlyPanics r) (buf : Bytes) :
    (Pull.onCursor buf r).LeavesEof := by
  rw [Pull.onCursor]
  split
  · trivial
  · rename_i e he
    rw [h buf e he]
    exact id

/-! ## How much a decoder takes -/

/-- The decoder takes at most `n` bytes, whatever they are. -/
def Within : Pull α → Nat → Prop
  | .ret _, _ => True
  | .fail _, _ => True
  | .need _ m k, n => m ≤ n ∧ ∀ b : Bytes, b.length = m → (k b).Within (n - m)

@[simp] theorem within_ret (x : α) (n : Nat) : (ret x).Within n := trivial

@[simp] theorem within_pure (x : α) (n : Nat) : (pure x : Pull α).Within n := trivial

@[simp] theorem within_fail (e : Failure) (n : Nat) : (fail e : Pull α).Within n := trivial

theorem Within.mono {p : Pull α} {m n : Nat} (h : p.Within m) (hmn : m ≤ n) : p.Within n := by
  induction p generalizing m n with
  | ret x => trivial
  | fail e => trivial
  | need eof l k ih =>
    obtain ⟨hl, hk⟩ := h
    exact ⟨hl.trans hmn, fun b hb => ih b (hk b hb) (by omega)⟩

/-- **Bounds add up** over `>>=`. -/
theorem Within.bind {p : Pull α} {f : α → Pull β} {m n : Nat} (h : p.Within m)
    (hf : ∀ x, (f x).Within n) : (p >>= f).Within (m + n) := by
  induction p generalizing m with
  | ret x => exact (hf x).mono (Nat.le_add_left n m)
  | fail e => trivial
  | need eof l k ih =>
    obtain ⟨hl, hk⟩ := h
    refine ⟨by omega, fun b hb => ?_⟩
    have hrest : m + n - l = m - l + n := by omega
    rw [hrest]
    exact ih b (hk b hb)

theorem Within.ite {c : Prop} [Decidable c] {p q : Pull α} {n : Nat} (hp : p.Within n)
    (hq : q.Within n) : (if c then p else q).Within n := by
  by_cases h : c
  · rwa [if_pos h]
  · rwa [if_neg h]

theorem Within.readU8 : Pull.readU8.Within 1 := by
  refine ⟨Nat.le_refl 1, fun b _ => ?_⟩
  cases b with
  | nil => trivial
  | cons x b => trivial

theorem Within.readExact (n : Nat) : (Pull.readExact n).Within n :=
  ⟨Nat.le_refl n, fun _ _ => trivial⟩

theorem Within.readArray (n : Nat) : (Pull.readArray n).Within n := by
  refine ⟨Nat.le_refl n, fun b hb => ?_⟩
  beta_reduce
  split
  · trivial
  · trivial

theorem Within.readU32 : Pull.readU32.Within 4 := ⟨Nat.le_refl 4, fun _ _ => trivial⟩

/-- A buffer that is there is not taken from the stream. -/
theorem Within.onCursor (buf : Bytes) (r : Reader α) : (Pull.onCursor buf r).Within 0 := by
  rw [Pull.onCursor]
  split
  · trivial
  · trivial

/-- **An input of that many bytes is not too short.** -/
theorem Within.not_isEof {p : Pull α} {n : Nat} (h : p.Within n) (hp : p.LeavesEof) {b : Bytes}
    (hb : n ≤ b.length) {e : Failure} (he : p.run b = .error e) : ¬ Reader.IsEof e := by
  induction p generalizing n b with
  | ret x => cases he
  | fail e' =>
    cases he
    exact hp
  | need eof m k ih =>
    obtain ⟨hm, hk⟩ := h
    have hlen : (b.take m).length = m := by
      rw [List.length_take]
      omega
    rw [run_need, if_pos (hm.trans hb)] at he
    refine ih (b.take m) (hk _ hlen) (hp.2 _) ?_ he
    rw [List.length_drop]
    omega

/-- What is left to take when a buffer is partly filled. -/
theorem Within.fill {eof : IoError} {m n : Nat} {k : Bytes → Pull α} {b : Bytes}
    (h : (need eof m k).Within n) (hb : b.length ≤ m) :
    (Pull.fill eof m k b).Within (n - b.length) := by
  obtain ⟨hm, hk⟩ := h
  refine ⟨by omega, fun c hc => ?_⟩
  have hlen : (b ++ c).length = m := by simp only [List.length_append]; omega
  have hrest : n - b.length - (m - b.length) = n - m := by omega
  rw [hrest]
  exact hk (b ++ c) hlen

end Pull

/-! ## A decoder at work -/

/-- A decoder at work on a stream. -/
structure Decoding (α : Type) where
  /-- The bytes it has taken from the stream. -/
  taken : Bytes
  /-- The bytes that have arrived and are not taken. -/
  stream : Bytes
  /-- The stream has ended behind them. -/
  ended : Bool
  /-- What is left of the decoder. -/
  prog : Pull α

/-- A step of a stream and its decoder. -/
inductive DecodingAction where
  /-- More bytes arrive. -/
  | arrive (b : Bytes)
  /-- The stream ends. -/
  | finish
  /-- The decoder is polled, and a read hands over at most `m + 1` bytes. -/
  | poll (m : Nat)

namespace Decoding

variable {α : Type}

/-- All bytes that have arrived. -/
def arrived (d : Decoding α) : Bytes := d.taken ++ d.stream

/-- One step of a stream and its decoder. -/
def step (d : Decoding α) : DecodingAction → Option (Decoding α)
  | .arrive b => if d.ended then none else some { d with stream := d.stream ++ b }
  | .finish => some { d with ended := true }
  | .poll m =>
    match d.prog with
    | .ret _ | .fail _ => none
    -- the buffer is full
    | .need _ 0 k => some { d with prog := k [] }
    | .need eof (n + 1) k =>
      -- the read gets at least one byte, and no more than there is room for
      match d.stream.take (min (m + 1) (n + 1)) with
      | x :: b =>
        some { d with
          taken := d.taken ++ x :: b
          stream := d.stream.drop (min (m + 1) (n + 1))
          prog := .fill eof (n + 1) k (x :: b) }
      | [] => if d.ended then some { d with prog := .fail (.io eof) } else none

/-- The steps of a stream and its decoder, one case each. -/
inductive Step (d : Decoding α) : DecodingAction → Decoding α → Prop where
  /-- More bytes arrive. -/
  | arrive (b : Bytes) (hopen : d.ended = false) :
      Step d (.arrive b) { d with stream := d.stream ++ b }
  /-- The stream ends. -/
  | finish : Step d .finish { d with ended := true }
  /-- The decoder goes on with a full buffer. -/
  | resume (m : Nat) (eof : IoError) (k : Bytes → Pull α) (hprog : d.prog = .need eof 0 k) :
      Step d (.poll m) { d with prog := k [] }
  /-- A read gets some bytes. -/
  | read (m : Nat) (eof : IoError) (n : Nat) (k : Bytes → Pull α) (b rest : Bytes)
      (hprog : d.prog = .need eof n k) (hstream : d.stream = b ++ rest) (hlen : b.length ≤ n)
      (hne : b ≠ []) :
      Step d (.poll m)
        { d with taken := d.taken ++ b, stream := rest, prog := .fill eof n k b }
  /-- A read finds the end of the stream. -/
  | eof (m : Nat) (eof : IoError) (n : Nat) (k : Bytes → Pull α) (hprog : d.prog = .need eof n k)
      (hn : 0 < n) (hstream : d.stream = []) (hended : d.ended = true) :
      Step d (.poll m) { d with prog := .fail (.io eof) }

variable {d d' : Decoding α} {a : DecodingAction}

/-- Every step is one of these. -/
theorem step_cases (h : d.step a = some d') : d.Step a d' := by
  cases a with
  | arrive b =>
    rw [step] at h
    split at h
    · cases h
    · rename_i hopen
      cases h
      exact .arrive b (by simpa using hopen)
  | finish =>
    cases h
    exact .finish
  | poll m =>
    rw [step] at h
    split at h
    · cases h
    · cases h
    · rename_i eof k hprog
      cases h
      exact .resume m eof k hprog
    · rename_i eof n k hprog
      split at h
      · rename_i x b htake
        cases h
        have hlen : (x :: b).length ≤ n + 1 := by
          rw [← htake, List.length_take]
          omega
        have hstream := List.take_append_drop (min (m + 1) (n + 1)) d.stream
        rw [htake] at hstream
        exact .read m eof (n + 1) k (x :: b) _ hprog hstream.symm hlen (List.cons_ne_nil x b)
      · rename_i htake
        split at h
        · rename_i hended
          cases h
          have hnil : d.stream = [] := by
            rcases List.take_eq_nil_iff.mp htake with hmin | hnil
            · omega
            · exact hnil
          exact .eof m eof (n + 1) k hprog (by omega) hnil hended
        · cases h

end Decoding

/-- A decoder on a stream from which nothing has arrived. -/
def decodingSystem {α : Type} (p : Pull α) : System (Decoding α) DecodingAction :=
  ⟨⟨[], [], false, p⟩, Decoding.step⟩

namespace Decoding

variable {α : Type} {p : Pull α} {d d' : Decoding α} {a : DecodingAction}

/-- What is left of the decoder computes on what it has not taken what the decoder computes from the
start, whatever comes behind the bytes that have arrived; nothing comes behind the end. -/
def Tracks (p : Pull α) (d : Decoding α) : Prop :=
  ∀ x, (d.ended = true → x = d.stream) → d.prog.run x = p.run (d.taken ++ x)

/-- Every step keeps the decoder on track. -/
theorem Tracks.step (ht : d.Tracks p) (h : d.Step a d') : d'.Tracks p := by
  cases h with
  | arrive b hopen =>
    intro x _
    exact ht x fun hended => by simp [hopen] at hended
  | finish =>
    intro x hx
    exact ht x fun _ => hx rfl
  | resume m eof k hprog =>
    intro x hx
    rw [← ht x hx, hprog]
    rfl
  | read m eof n k b rest hprog hstream hlen hne =>
    intro x hx
    have hbx : d.ended = true → b ++ x = d.stream := fun hended => by rw [hx hended, hstream]
    have hrun := ht (b ++ x) hbx
    rw [hprog] at hrun
    simpa only [Pull.run_fill hlen, List.append_assoc] using hrun
  | eof m eof n k hprog hn hstream hended =>
    intro x hx
    have hnil : x = [] := (hx hended).trans hstream
    have hrun := ht x hx
    rw [hprog, Pull.run_need, if_neg (by simp [hnil]; omega)] at hrun
    exact hrun

/-- **The decoder is on track** in every reachable state. -/
theorem tracks_of_reachable {C : Decoding α → DecodingAction → Prop}
    (h : (decodingSystem p).ReachableBy C d) : d.Tracks p :=
  h.invariant (I := fun d => d.Tracks p) (fun _ _ => rfl)
    fun _ _ _ _ ht _ hs => ht.step (step_cases hs)

/-- What is left of the decoder, on what is left of the stream. -/
theorem run_prog {C : Decoding α → DecodingAction → Prop}
    (h : (decodingSystem p).ReachableBy C d) : d.prog.run d.stream = p.run d.arrived :=
  tracks_of_reachable h d.stream fun _ => rfl

/-- A decoder that takes at most `n` bytes has taken no more, and keeps to what is left. -/
structure Bounded (n : Nat) (d : Decoding α) : Prop where
  /-- What it has taken. -/
  taken : d.taken.length ≤ n
  /-- What it may take. -/
  prog : d.prog.Within (n - d.taken.length)

/-- Every step keeps a decoder to its bound. -/
theorem Bounded.step {n : Nat} (hb : d.Bounded n) (h : d.Step a d') : d'.Bounded n := by
  have hprog := hb.prog
  cases h with
  | arrive b hopen => exact ⟨hb.taken, hprog⟩
  | finish => exact ⟨hb.taken, hprog⟩
  | resume m eof k hneed =>
    rw [hneed] at hprog
    exact ⟨hb.taken, hprog.2 [] rfl⟩
  | read m eof l k b rest hneed hstream hlen hne =>
    rw [hneed] at hprog
    have hl := hprog.1
    have htaken := hb.taken
    have hsub : n - (d.taken ++ b).length = n - d.taken.length - b.length := by
      simp only [List.length_append]; omega
    refine ⟨by simp only [List.length_append]; omega, ?_⟩
    change (Pull.fill eof l k b).Within (n - (d.taken ++ b).length)
    rw [hsub]
    exact hprog.fill hlen
  | eof m eof l k hneed hl hstream hended => exact ⟨hb.taken, trivial⟩

/-- **A decoder keeps to its bound** in every reachable state. -/
theorem bounded_of_reachable {C : Decoding α → DecodingAction → Prop} {n : Nat} (hp : p.Within n)
    (h : (decodingSystem p).ReachableBy C d) : d.Bounded n :=
  h.invariant (I := fun d => d.Bounded n) ⟨Nat.zero_le n, hp⟩
    fun _ _ _ _ hb _ hs => hb.step (step_cases hs)

/-- A decoder at work that leaves the end of its input to the stream. -/
structure AwaitsEof (d : Decoding α) : Prop where
  /-- It has failed for the end of its input when the stream has ended only. -/
  failed : ∀ e, d.prog = .fail e → Reader.IsEof e → d.ended = true
  /-- What is left of it leaves the end to the stream as well, unless it has failed. -/
  prog : d.prog.LeavesEof ∨ ∃ e, d.prog = .fail e

/-- Every step leaves the end to the stream. -/
theorem AwaitsEof.step (hd : d.AwaitsEof) (h : d.Step a d') : d'.AwaitsEof := by
  cases h with
  | arrive b hopen => exact ⟨hd.failed, hd.prog⟩
  | finish => exact ⟨fun _ _ _ => rfl, hd.prog⟩
  | resume m eof k hneed =>
    have hk : (k []).LeavesEof := by
      rcases hd.prog with hp | ⟨e, he⟩
      · rw [hneed] at hp
        exact hp.2 []
      · rw [hneed] at he
        cases he
    refine ⟨fun e he heof => ?_, Or.inl hk⟩
    have hfail : k [] = .fail e := he
    rw [hfail] at hk
    exact absurd heof hk
  | read m eof l k b rest hneed hstream hlen hne =>
    constructor
    · intro e he
      cases he
    · rcases hd.prog with hp | ⟨e, he⟩
      · rw [hneed] at hp
        exact Or.inl ⟨hp.1, fun c => hp.2 (b ++ c)⟩
      · rw [hneed] at he
        cases he
  | eof m eof l k hneed hl hstream hended => exact ⟨fun _ _ _ => hended, Or.inr ⟨_, rfl⟩⟩

/-- **The end is left to the stream** in every reachable state. -/
theorem awaitsEof_of_reachable {C : Decoding α → DecodingAction → Prop} (hp : p.LeavesEof)
    (h : (decodingSystem p).ReachableBy C d) : d.AwaitsEof :=
  h.invariant (I := fun d => d.AwaitsEof)
    ⟨fun e he heof => absurd heof (he ▸ hp : (Pull.fail e : Pull α).LeavesEof), Or.inl hp⟩
    fun _ _ _ _ hd _ hs => hd.step (step_cases hs)

/-- What the decoder has come to. -/
def outcome (d : Decoding α) : Option (Except Failure α) :=
  match d.prog with
  | .ret x => some (.ok x)
  | .fail e => some (.error e)
  | .need _ _ _ => none

/-- The decoder cannot go on with what is there. -/
def AtRest (d : Decoding α) : Prop := ∀ m, d.step (.poll m) = none

/-- **Where a decoder is at rest** without an outcome: it waits for more, and nothing is left to
take. -/
theorem AtRest.waiting (h : d.AtRest) (hnone : d.outcome = none) :
    ∃ eof n k, d.prog = .need eof (n + 1) k ∧ d.stream = [] ∧ d.ended = false := by
  have hpoll := h 0
  cases hprog : d.prog with
  | ret x => simp [outcome, hprog] at hnone
  | fail e => simp [outcome, hprog] at hnone
  | need eof n k =>
    cases n with
    | zero => simp [step, hprog] at hpoll
    | succ n =>
      cases hstream : d.stream with
      | cons x b => simp [step, hprog, hstream] at hpoll
      | nil =>
        cases hended : d.ended with
        | true => simp [step, hprog, hstream, hended] at hpoll
        | false => exact ⟨eof, n, k, rfl, rfl, rfl⟩

/-- **A decoder with enough input comes to an end.** -/
theorem AtRest.outcome_ne_none {C : Decoding α → DecodingAction → Prop} {n : Nat}
    (hp : p.Within n) (h : (decodingSystem p).ReachableBy C d) (hrest : d.AtRest)
    (hn : n ≤ d.arrived.length) : d.outcome ≠ none := by
  intro hnone
  obtain ⟨eof, m, k, hprog, hstream, -⟩ := hrest.waiting hnone
  have hbound := (bounded_of_reachable hp h).prog
  rw [hprog] at hbound
  have hm := hbound.1
  -- the bytes it waits for are within the bound, and all that arrived are taken
  rw [arrived, hstream, List.append_nil] at hn
  omega

/-- **What a decoder has come to** is what it computes on all bytes that have arrived, and what it
has not taken is what is left. -/
theorem run_of_outcome {C : Decoding α → DecodingAction → Prop}
    (h : (decodingSystem p).ReachableBy C d) {r : Except Failure α} (hr : d.outcome = some r) :
    p.run d.arrived = r.map fun x => (x, d.stream) := by
  rw [← run_prog h]
  cases hprog : d.prog with
  | ret x =>
    simp only [outcome, hprog, Option.some.injEq] at hr
    subst hr
    rfl
  | fail e =>
    simp only [outcome, hprog, Option.some.injEq] at hr
    subst hr
    rfl
  | need eof n k => simp [outcome, hprog] at hr

/-- **A decoder at rest has no outcome** exactly when the input that has arrived is too short and
more of it may come. -/
theorem AtRest.outcome_eq_none {C : Decoding α → DecodingAction → Prop} (hp : p.LeavesEof)
    (h : (decodingSystem p).ReachableBy C d) (hrest : d.AtRest) :
    d.outcome = none ↔ d.ended = false ∧ ∃ e, p.run d.arrived = .error e ∧ Reader.IsEof e := by
  have hawaits := awaitsEof_of_reachable hp h
  constructor
  · intro hnone
    obtain ⟨eof, n, k, hprog, hstream, hended⟩ := hrest.waiting hnone
    have hrun := run_prog h
    rw [hprog, hstream, Pull.run_need, if_neg (by simp)] at hrun
    refine ⟨hended, .io eof, hrun.symm, ?_⟩
    rcases hawaits.prog with hleaves | ⟨e, he⟩
    · rw [hprog] at hleaves
      exact hleaves.1
    · rw [hprog] at he
      cases he
  · rintro ⟨hended, e, hrun, heof⟩
    cases hout : d.outcome with
    | none => rfl
    | some r =>
      -- an outcome for the end of the input needs the end of the stream
      rw [run_of_outcome h hout] at hrun
      cases r with
      | ok x => cases hrun
      | error e' =>
        cases hrun
        cases hprog : d.prog with
        | ret x => simp [outcome, hprog] at hout
        | need eof n k => simp [outcome, hprog] at hout
        | fail e'' =>
          simp only [outcome, hprog, Option.some.injEq, Except.error.injEq] at hout
          subst hout
          rw [hawaits.failed e'' hprog heof] at hended
          cases hended

end Decoding

end ByteCodec
