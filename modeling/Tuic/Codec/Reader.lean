import Mathlib.Data.Vector.Basic
import Mathlib.Tactic.Ring
import Mathlib.Tactic.Positivity

/-! # Byte readers and big-endian integers

A decoder reads a prefix of a byte sequence and hands back what it did not read. `Reader` is that
computation, with two ways not to return: an I/O error handed to the caller, and a panic (an
`unwrap` of an error, a slice out of range). The file has the primitives such decoders are written
with, and for each of them

* **an inversion lemma** `…_eq_ok`, which says exactly which inputs it accepts and what is left;
* **a no-panic lemma**, composed over `>>=` by `NoPanic.bind`.

Multi-byte integers are big-endian: `beBytes` writes and `beNat` reads them, and the two undo each
other at a fixed width. -/

namespace ByteCodec

/-- A byte sequence. -/
abbrev Bytes := List UInt8

/-- The kinds of I/O error a decoder reports. -/
inductive ErrorKind where
  /-- The input ended inside a field. -/
  | unexpectedEof
  /-- The input is of a version the decoder does not speak. -/
  | unsupported
  /-- A discriminating byte has no meaning. -/
  | invalidInput
  /-- A field has the right length and the wrong content. -/
  | invalidData
  /-- The transport under the decoder failed. -/
  | other
  deriving DecidableEq, Repr

/-- An I/O error: its kind and its text. -/
structure IoError where
  /-- The kind the caller can match on. -/
  kind : ErrorKind
  /-- The text shown to a reader. -/
  message : String
  deriving DecidableEq, Repr

/-- The two ways a computation ends without a value. -/
inductive Failure where
  /-- An error handed to the caller. -/
  | io (err : IoError)
  /-- A failed `unwrap` or an out-of-range slice. -/
  | panic
  deriving DecidableEq, Repr

/-- A reader: from the unread bytes to a value and the bytes still unread. -/
abbrev Reader (α : Type) := StateT Bytes (Except Failure) α

namespace Reader

variable {α β : Type}

/-- **A bind succeeds through a success of its first part.** -/
theorem bind_eq_ok {r : Reader α} {f : α → Reader β} {b rest : Bytes} {y : β} :
    (r >>= f) b = .ok (y, rest) ↔ ∃ x c, r b = .ok (x, c) ∧ f x c = .ok (y, rest) := by
  show (do let p ← r b; f p.1 p.2) = _ ↔ _
  cases h : r b with
  | error e => simp [bind, Except.bind]
  | ok p => obtain ⟨x, c⟩ := p; simp [bind, Except.bind]

/-- A bind whose first part succeeds goes on with what that part left. -/
theorem bind_of_ok {r : Reader α} {f : α → Reader β} {b c : Bytes} {x : α}
    (h : r b = .ok (x, c)) : (r >>= f) b = f x c := by
  show (do let p ← r b; f p.1 p.2) = _
  rw [h]
  rfl

/-- A bind whose first part fails, fails in the same way. -/
theorem bind_of_error {r : Reader α} {f : α → Reader β} {b : Bytes} {e : Failure}
    (h : r b = .error e) : (r >>= f) b = .error e := by
  show (do let p ← r b; f p.1 p.2) = _
  rw [h]
  rfl

/-- `pure` returns its value and reads nothing. -/
@[simp] theorem pure_eq_ok {x y : α} {b rest : Bytes} :
    (pure x : Reader α) b = .ok (y, rest) ↔ x = y ∧ b = rest := by
  show Except.ok (x, b) = _ ↔ _
  simp

/-- `throw` returns no value. -/
@[simp] theorem throw_eq_ok {e : Failure} {y : α} {b rest : Bytes} :
    (throw e : Reader α) b = .ok (y, rest) ↔ False := by
  show Except.error e = _ ↔ _
  simp

/-! ## Readers that never panic -/

/-- A reader that panics on no input. -/
def NoPanic (r : Reader α) : Prop := ∀ b, r b ≠ .error .panic

/-- `pure` never panics. -/
theorem NoPanic.pure (x : α) : NoPanic (Pure.pure x : Reader α) := by
  intro b h
  cases h

/-- Handing an error to the caller is no panic. -/
theorem NoPanic.throw (e : IoError) : NoPanic (MonadExcept.throw (Failure.io e) : Reader α) := by
  intro b h
  cases h

/-- **No panic composes**: it suffices to look at the values the first part can return. -/
theorem NoPanic.bind {r : Reader α} {f : α → Reader β} (hr : NoPanic r)
    (hf : ∀ b x c, r b = .ok (x, c) → f x c ≠ .error .panic) : NoPanic (r >>= f) := by
  intro b h
  cases hb : r b with
  -- the failure of the bind is the failure of its first part
  | error e =>
    rw [bind_of_error hb] at h
    cases h
    exact hr b hb
  | ok p =>
    obtain ⟨x, c⟩ := p
    rw [bind_of_ok hb] at h
    exact hf b x c hb h

/-! ## Primitive reads -/

/-- Read one byte. -/
def readU8 : Reader UInt8
  | [] => .error (.io ⟨.unexpectedEof, "unexpected end of file"⟩)
  | x :: b => .ok (x, b)

/-- `readU8` accepts exactly the non-empty inputs. -/
@[simp] theorem readU8_eq_ok {b rest : Bytes} {x : UInt8} :
    readU8 b = .ok (x, rest) ↔ b = x :: rest := by
  cases b with
  | nil => simp [readU8]
  | cons y b => simp [readU8]

/-- `readU8` never panics. -/
theorem NoPanic.readU8 : NoPanic Reader.readU8 := by
  intro b h
  cases b with
  | nil => cases h
  | cons y b => cases h

/-- Fill a buffer of `n` bytes. -/
def readExact (n : Nat) : Reader Bytes := fun b =>
  if n ≤ b.length then .ok (b.take n, b.drop n)
  else .error (.io ⟨.unexpectedEof, "early eof"⟩)

/-- `readExact n` accepts the inputs of at least `n` bytes and splits them there. -/
@[simp] theorem readExact_eq_ok {n : Nat} {b c rest : Bytes} :
    readExact n b = .ok (c, rest) ↔ b = c ++ rest ∧ c.length = n := by
  unfold readExact
  constructor
  · intro h
    split at h
    · rename_i hn
      cases h
      exact ⟨(List.take_append_drop n b).symm, by simpa using hn⟩
    · cases h
  · rintro ⟨rfl, rfl⟩
    simp

/-- `readExact` never panics. -/
theorem NoPanic.readExact (n : Nat) : NoPanic (Reader.readExact n) := by
  intro b h
  unfold Reader.readExact at h
  split at h <;> cases h

/-- Fill an array of `n` bytes: `readExact` with the length kept in the type. -/
def readArray (n : Nat) : Reader (List.Vector UInt8 n) := fun b =>
  if h : n ≤ b.length then .ok (⟨b.take n, by simp [h]⟩, b.drop n)
  else .error (.io ⟨.unexpectedEof, "early eof"⟩)

/-- `readArray n` accepts the inputs that start with the `n` bytes it returns. -/
@[simp] theorem readArray_eq_ok {n : Nat} {b rest : Bytes} {v : List.Vector UInt8 n} :
    readArray n b = .ok (v, rest) ↔ b = v.toList ++ rest := by
  unfold readArray
  constructor
  · intro h
    split at h
    · cases h
      exact (List.take_append_drop n b).symm
    · cases h
  · obtain ⟨l, rfl⟩ := v
    rintro rfl
    simp

/-- `readArray` never panics. -/
theorem NoPanic.readArray (n : Nat) : NoPanic (Reader.readArray n) := by
  intro b h
  unfold Reader.readArray at h
  split at h <;> cases h

/-! ## Panicking wrappers -/

/-- `unwrap` of a read: an error of the read is a panic. -/
def unwrap (r : Reader α) : Reader α := fun b =>
  match r b with
  | .ok p => .ok p
  | .error _ => .error .panic

/-- An `unwrap` succeeds where the read does. -/
@[simp] theorem unwrap_eq_ok {r : Reader α} {b rest : Bytes} {x : α} :
    unwrap r b = .ok (x, rest) ↔ r b = .ok (x, rest) := by
  unfold unwrap
  cases r b <;> simp

/-- Run a reader over a buffer of its own, leaving the outer input alone. -/
def onCursor (buf : Bytes) (r : Reader α) : Reader α := fun b =>
  match r buf with
  | .ok (x, _) => .ok (x, b)
  | .error e => .error e

/-- A cursor read succeeds when the reader accepts the buffer. -/
@[simp] theorem onCursor_eq_ok {buf b rest : Bytes} {r : Reader α} {x : α} :
    onCursor buf r b = .ok (x, rest) ↔ (∃ c, r buf = .ok (x, c)) ∧ b = rest := by
  unfold onCursor
  cases h : r buf with
  | error e => simp
  | ok p => obtain ⟨y, c⟩ := p; simp

end Reader

/-! ## Big-endian integers -/

/-- The number a big-endian byte sequence denotes. -/
def beNat : Bytes → Nat
  | [] => 0
  | x :: b => x.toNat * 256 ^ b.length + beNat b

/-- The low `k` bytes of a number, most significant first. -/
def beBytes : Nat → Nat → Bytes
  | 0, _ => []
  | k + 1, n => UInt8.ofNat (n / 256 ^ k) :: beBytes k n

/-- `beBytes k` writes `k` bytes. -/
@[simp] theorem length_beBytes (k n : Nat) : (beBytes k n).length = k := by
  induction k with
  | zero => rfl
  | succ k ih => simp [beBytes, ih]

/-- `k` bytes denote a number below `256 ^ k`. -/
theorem beNat_lt (b : Bytes) : beNat b < 256 ^ b.length := by
  induction b with
  | nil => simp [beNat]
  | cons x b ih =>
    have hx : x.toNat + 1 ≤ 256 := x.toNat_lt
    calc beNat (x :: b) = x.toNat * 256 ^ b.length + beNat b := rfl
      _ < x.toNat * 256 ^ b.length + 256 ^ b.length := by omega
      _ = (x.toNat + 1) * 256 ^ b.length := by ring
      _ ≤ 256 * 256 ^ b.length := Nat.mul_le_mul_right _ hx
      _ = 256 ^ (x :: b).length := by rw [List.length_cons, pow_succ]; ring

/-- Reading what was written gives the number back, up to the width. -/
theorem beNat_beBytes (k n : Nat) : beNat (beBytes k n) = n % 256 ^ k := by
  induction k with
  | zero => simp [beBytes, beNat, Nat.mod_one]
  | succ k ih =>
    -- the byte written is the digit of weight `256 ^ k`, which `Nat.mod_pow_succ` splits off
    have hhead : (UInt8.ofNat (n / 256 ^ k)).toNat = n / 256 ^ k % 256 := by simp
    rw [beBytes, beNat, length_beBytes, ih, hhead, Nat.mod_pow_succ]
    ring

/-- Only the low `k` bytes of a number are written. -/
theorem beBytes_mul_add (k m n : Nat) : beBytes k (m * 256 ^ k + n) = beBytes k n := by
  induction k generalizing m with
  | zero => rfl
  | succ k ih =>
    have hpos : 0 < 256 ^ k := by positivity
    -- `m * 256 ^ (k + 1)` adds a multiple of 256 to the digit at `k`, and a byte does not see it
    have hdiv : (m * 256 ^ (k + 1) + n) / 256 ^ k = n / 256 ^ k + 256 * m := by
      rw [pow_succ, show m * (256 ^ k * 256) + n = n + 256 ^ k * (256 * m) by ring,
        Nat.add_mul_div_left _ _ hpos]
    have hhead : UInt8.ofNat ((m * 256 ^ (k + 1) + n) / 256 ^ k) = UInt8.ofNat (n / 256 ^ k) := by
      apply UInt8.toNat_inj.mp
      rw [hdiv]
      simp
    have htail : beBytes k (m * 256 ^ (k + 1) + n) = beBytes k n := by
      rw [pow_succ, show m * (256 ^ k * 256) = m * 256 * 256 ^ k by ring, ih]
    rw [beBytes, beBytes, hhead, htail]

/-- Writing what was read gives the bytes back. -/
theorem beBytes_beNat (b : Bytes) : beBytes b.length (beNat b) = b := by
  induction b with
  | nil => rfl
  | cons x b ih =>
    have hlt := beNat_lt b
    -- the tail is below the weight of the first byte, so the division gives that byte back
    have hdiv : (x.toNat * 256 ^ b.length + beNat b) / 256 ^ b.length = x.toNat := by
      rw [mul_comm, Nat.mul_add_div (by positivity), Nat.div_eq_of_lt hlt, add_zero]
    rw [List.length_cons, beNat, beBytes, hdiv, beBytes_mul_add, ih]
    simp

/-- The two bytes of a 16-bit integer. -/
def putU16 (x : UInt16) : Bytes := beBytes 2 x.toNat

/-- The four bytes of a 32-bit integer. -/
def putU32 (x : UInt32) : Bytes := beBytes 4 x.toNat

@[simp] theorem length_putU16 (x : UInt16) : (putU16 x).length = 2 := length_beBytes 2 _

@[simp] theorem length_putU32 (x : UInt32) : (putU32 x).length = 4 := length_beBytes 4 _

namespace Reader

/-- Read a big-endian number of `k` bytes. -/
def readBE (k : Nat) : Reader Nat := fun b =>
  if k ≤ b.length then .ok (beNat (b.take k), b.drop k)
  else .error (.io ⟨.unexpectedEof, "unexpected end of file"⟩)

/-- `readBE k` accepts the inputs that start with `k` bytes, and returns their number. -/
theorem readBE_eq_ok {k n : Nat} {b rest : Bytes} :
    readBE k b = .ok (n, rest) ↔ b = beBytes k n ++ rest ∧ n < 256 ^ k := by
  unfold readBE
  constructor
  · intro h
    split at h
    · rename_i hk
      cases h
      have hlen : (b.take k).length = k := by simpa using hk
      have hlt := beNat_lt (b.take k)
      have hback := beBytes_beNat (b.take k)
      rw [hlen] at hlt hback
      exact ⟨by rw [hback, List.take_append_drop], hlt⟩
    · cases h
  · rintro ⟨rfl, hn⟩
    -- `n` fits `k` bytes, so writing it lost nothing
    simp [beNat_beBytes, Nat.mod_eq_of_lt hn]

/-- `readBE` never panics. -/
theorem NoPanic.readBE (k : Nat) : NoPanic (Reader.readBE k) := by
  intro b h
  unfold Reader.readBE at h
  split at h <;> cases h

/-- Read a big-endian 16-bit integer. -/
def readU16 : Reader UInt16 := do
  let n ← readBE 2
  return UInt16.ofNat n

/-- Read a big-endian 32-bit integer. -/
def readU32 : Reader UInt32 := do
  let n ← readBE 4
  return UInt32.ofNat n

/-- `readU16` accepts the inputs that start with the bytes of the integer it returns. -/
@[simp] theorem readU16_eq_ok {b rest : Bytes} {x : UInt16} :
    readU16 b = .ok (x, rest) ↔ b = putU16 x ++ rest := by
  simp only [readU16, bind_eq_ok, readBE_eq_ok, pure_eq_ok]
  constructor
  · rintro ⟨n, c, ⟨rfl, hn⟩, rfl, rfl⟩
    have hto : (UInt16.ofNat n).toNat = n := by
      simpa using hn
    rw [putU16, hto]
  · rintro rfl
    exact ⟨x.toNat, rest, ⟨rfl, x.toNat_lt⟩, by simp⟩

/-- `readU32` accepts the inputs that start with the bytes of the integer it returns. -/
@[simp] theorem readU32_eq_ok {b rest : Bytes} {x : UInt32} :
    readU32 b = .ok (x, rest) ↔ b = putU32 x ++ rest := by
  simp only [readU32, bind_eq_ok, readBE_eq_ok, pure_eq_ok]
  constructor
  · rintro ⟨n, c, ⟨rfl, hn⟩, rfl, rfl⟩
    have hto : (UInt32.ofNat n).toNat = n := by
      simpa using hn
    rw [putU32, hto]
  · rintro rfl
    exact ⟨x.toNat, rest, ⟨rfl, x.toNat_lt⟩, by simp⟩

/-- `readU32` never panics. -/
theorem NoPanic.readU32 : NoPanic Reader.readU32 :=
  (NoPanic.readBE 4).bind fun _ _ _ _ => NoPanic.pure _ _

/-! ## Readers of a fixed width

A cursor read over a buffer whose length is known cannot fail when the reader needs no more than
that length, whatever the bytes are. -/

/-- A reader that consumes exactly `n` bytes of every input that has them. -/
def Fixed (r : Reader α) (n : Nat) : Prop :=
  ∀ b : Bytes, n ≤ b.length → ∃ x c, r b = .ok (x, c) ∧ b.length = n + c.length

/-- `pure` consumes nothing. -/
theorem Fixed.pure (x : α) : Fixed (Pure.pure x : Reader α) 0 :=
  fun b _ => ⟨x, b, rfl, (Nat.zero_add _).symm⟩

/-- **Widths add up** over `>>=`. -/
theorem Fixed.bind {r : Reader α} {f : α → Reader β} {m n : Nat} (hr : Fixed r m)
    (hf : ∀ x, Fixed (f x) n) : Fixed (r >>= f) (m + n) := by
  intro b hb
  obtain ⟨x, c, hx, hc⟩ := hr b (by omega)
  obtain ⟨y, d, hy, hd⟩ := hf x c (by omega)
  exact ⟨y, d, by rw [bind_of_ok hx, hy], by omega⟩

/-- An `unwrap` keeps the width. -/
theorem Fixed.unwrap {r : Reader α} {n : Nat} (hr : Fixed r n) : Fixed (unwrap r) n := by
  intro b hb
  obtain ⟨x, c, hx, hc⟩ := hr b hb
  exact ⟨x, c, unwrap_eq_ok.mpr hx, hc⟩

/-- `readU8` is one byte wide. -/
theorem Fixed.readU8 : Fixed Reader.readU8 1 := by
  intro b hb
  cases b with
  | nil => simp at hb
  | cons x b => exact ⟨x, b, rfl, by simp [Nat.add_comm]⟩

/-- `readBE k` is `k` bytes wide. -/
theorem Fixed.readBE (k : Nat) : Fixed (Reader.readBE k) k := by
  intro b hb
  exact ⟨_, _, if_pos hb, by simp [hb]⟩

/-- `readU16` is two bytes wide. -/
theorem Fixed.readU16 : Fixed Reader.readU16 2 :=
  (Fixed.readBE 2).bind fun _ => Fixed.pure _

/-- `readU32` is four bytes wide. -/
theorem Fixed.readU32 : Fixed Reader.readU32 4 :=
  (Fixed.readBE 4).bind fun _ => Fixed.pure _

/-- A cursor read of a fixed width over a buffer of that width does not panic. -/
theorem Fixed.onCursor_ne_panic {r : Reader α} {n : Nat} (hr : Fixed r n) {buf b : Bytes}
    (hbuf : n ≤ buf.length) : onCursor buf r b ≠ .error .panic := by
  obtain ⟨x, c, hx, -⟩ := hr buf hbuf
  unfold onCursor
  rw [hx]
  exact fun h => by cases h

/-! ## Readers whose results are final

A reader is run on the bytes that have arrived so far. Its result does not depend on the bytes still
to come, unless it ran out of input. -/

/-- The reader ran out of input. -/
def IsEof : Failure → Prop
  | .io err => err.kind = .unexpectedEof
  | .panic => False

/-- More input leaves a value as it is, with more left over, and leaves a failure as it is, unless
the reader ran out of input. -/
structure Final (r : Reader α) : Prop where
  /-- A value is final. -/
  ok : ∀ {b rest : Bytes} {x : α}, r b = .ok (x, rest) → ∀ c, r (b ++ c) = .ok (x, rest ++ c)
  /-- So is a failure other than running out of input. -/
  error : ∀ {b : Bytes} {e : Failure}, r b = .error e → ¬ IsEof e → ∀ c, r (b ++ c) = .error e

/-- **A beginning of what can be read** gives the same value, or is too short. -/
theorem Final.beginning {r : Reader α} (h : Final r) {b c rest : Bytes} {x : α}
    (hwhole : r (b ++ c) = .ok (x, rest)) :
    (∃ rest', r b = .ok (x, rest')) ∨
      ∃ err, r b = .error (.io err) ∧ err.kind = .unexpectedEof := by
  cases hb : r b with
  | ok res =>
    obtain ⟨y, rest'⟩ := res
    rw [h.ok hb c] at hwhole
    cases hwhole
    exact Or.inl ⟨rest', rfl⟩
  | error e =>
    right
    by_cases heof : IsEof e
    · cases e with
      | io err => exact ⟨err, rfl, heof⟩
      | panic => exact heof.elim
    · rw [h.error hb heof c] at hwhole
      cases hwhole

/-- `pure` does not look at its input. -/
theorem Final.pure (x : α) : Final (Pure.pure x : Reader α) where
  ok h c := by
    obtain ⟨rfl, rfl⟩ := pure_eq_ok.mp h
    rfl
  error h := by cases h

/-- `throw` does not look at its input. -/
theorem Final.throw (e : Failure) : Final (MonadExcept.throw e : Reader α) where
  ok h := by cases h
  error h _ c := by
    cases h
    rfl

/-- **Finality composes** over `>>=`. -/
theorem Final.bind {r : Reader α} {f : α → Reader β} (hr : Final r) (hf : ∀ x, Final (f x)) :
    Final (r >>= f) where
  ok h c := by
    obtain ⟨x, d, hx, hy⟩ := bind_eq_ok.mp h
    rw [bind_of_ok (hr.ok hx c)]
    exact (hf x).ok hy c
  error {b e} h hne c := by
    -- the failure comes from the first part, or from the second after a final value of the first
    cases hb : r b with
    | error e' =>
      rw [bind_of_error hb] at h
      cases h
      exact bind_of_error (hr.error hb hne c)
    | ok p =>
      obtain ⟨x, d⟩ := p
      rw [bind_of_ok hb] at h
      rw [bind_of_ok (hr.ok hb c)]
      exact (hf x).error h hne c

/-- A choice between final readers is final. -/
theorem Final.ite {p : Prop} [Decidable p] {r r' : Reader α} (hr : Final r) (hr' : Final r') :
    Final (if p then r else r') := by
  split
  · exact hr
  · exact hr'

/-- `readU8` is final. -/
theorem Final.readU8 : Final Reader.readU8 where
  ok h c := by
    rw [readU8_eq_ok] at h ⊢
    rw [h]
    rfl
  error {b e} h hne := by
    cases b with
    -- the only failure is the empty input, which is running out of it
    | nil =>
      cases h
      exact absurd rfl hne
    | cons x b => cases h

/-- `readExact` is final. -/
theorem Final.readExact (n : Nat) : Final (Reader.readExact n) where
  ok h c := by
    rw [readExact_eq_ok] at h ⊢
    exact ⟨by rw [h.1, List.append_assoc], h.2⟩
  error h hne := by
    unfold Reader.readExact at h
    split at h
    · cases h
    · cases h
      exact absurd rfl hne

/-- `readArray` is final. -/
theorem Final.readArray (n : Nat) : Final (Reader.readArray n) where
  ok h c := by
    rw [readArray_eq_ok] at h ⊢
    rw [h, List.append_assoc]
  error h hne := by
    unfold Reader.readArray at h
    split at h
    · cases h
    · cases h
      exact absurd rfl hne

/-- `readU32` is final. -/
theorem Final.readU32 : Final Reader.readU32 := by
  refine Final.bind ⟨fun h c => ?_, fun h hne => ?_⟩ fun _ => Final.pure _
  · rw [readBE_eq_ok] at h ⊢
    exact ⟨by rw [h.1, List.append_assoc], h.2⟩
  · unfold Reader.readBE at h
    split at h
    · cases h
    · cases h
      exact absurd rfl hne

/-- A cursor read does not look at the outer input. -/
theorem Final.onCursor (buf : Bytes) (r : Reader α) : Final (onCursor buf r) where
  ok h c := by
    rw [onCursor_eq_ok] at h ⊢
    exact ⟨h.1, by rw [h.2]⟩
  error h _ c := by
    unfold Reader.onCursor at h ⊢
    cases hr : r buf with
    | ok p => simp [hr] at h
    | error e' => simpa [hr] using h

end Reader

/-! ## Working through a byte sequence in pieces -/

/-- What was taken behind the first `n` bytes, after the next `m`. -/
theorem take_add_drop {data : Bytes} {n pos : Nat} (h : n ≤ pos) (hpos : pos ≤ data.length)
    (m : Nat) :
    (data.take (pos + m)).drop n = (data.take pos).drop n ++ (data.drop pos).take m := by
  rw [List.take_add, List.drop_append_of_le_length]
  rw [List.length_take]
  omega

/-- The next bytes of a sequence continue what was taken of it. -/
theorem append_take_drop_prefix {data sent : Bytes} (h : data <+: sent) (n : Nat) :
    data ++ (sent.drop data.length).take n <+: sent := by
  obtain ⟨rest, rfl⟩ := h
  rw [List.drop_left]
  exact (List.prefix_append_right_inj _).mpr (rest.take_prefix n)

end ByteCodec
