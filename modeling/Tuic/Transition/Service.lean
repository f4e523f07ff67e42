import Mathlib.Data.Multiset.ZeroCons
import Tuic.Transition.System

/-! # A datagram service

What a relay of datagrams is for, said without one. Any number of clients may come; each has an
account of its own (`Account`) of the datagrams it sends, those that are emitted for it, those that
are received for it and those it gets. A datagram may be lost or overtaken, but nothing is emitted
that was not sent, nothing is got that was not received, and no more often, so that every account is
sound at every step of `service`.

`run_trace` is the rule that a system does what another one does: what is seen of its runs are runs
of the other. -/

namespace Transition

/-! ## Refinement of runs -/

section Trace

variable {σ τ α β : Type*} {S : System σ α} {T : System τ β}

/-- What is seen of a run: of each action in its turn, in the state before it. -/
def System.trace (S : System σ α) (see : σ → α → Option β) : σ → List α → List β
  | _, [] => []
  | s, a :: as => (see s a).toList ++ (S.step s a).elim [] fun s' => S.trace see s' as

/-- **Refinement of runs.** When what is seen of every step that meets `C`, nothing or an action,
takes the image of the state before it to the image of the state after it, what is seen of every run
is a run of the other system. -/
theorem System.run_trace {C : σ → α → Bool} {see : σ → α → Option β} {f : σ → τ}
    (hstep : ∀ s a s', S.ReachableBy (fun s a => C s a = true) s → C s a = true →
      S.step s a = some s' → T.run (f s) (see s a).toList = some (f s'))
    {as : List α} {s s' : σ} (hs : S.ReachableBy (fun s a => C s a = true) s)
    (h : S.runBy C s as = some s') : T.run (f s) (S.trace see s as) = some (f s') := by
  induction as generalizing s with
  | nil =>
    cases h
    rfl
  | cons a as ih =>
    rw [System.runBy] at h
    split at h
    · rename_i hc
      obtain ⟨s₁, h₁, h₂⟩ := Option.bind_eq_some_iff.mp h
      rw [System.trace, h₁, T.run_append, hstep s a s₁ hs hc h₁]
      exact ih (.step hs hc h₁) h₂
    · cases h

end Trace

/-! ## The service -/

/-- The datagrams of one client. -/
structure Account (γ : Type*) where
  /-- Those the client has sent. -/
  sent : Multiset γ
  /-- Those that were emitted for it. -/
  emitted : Multiset γ
  /-- Those that were received for it. -/
  received : Multiset γ
  /-- Those it got. -/
  got : Multiset γ

/-- An entry in an account. -/
inductive Transfer where
  | send
  | emit
  | receive
  | deliver
  deriving DecidableEq

/-- A step of the service. -/
inductive ServiceAction (γ : Type*) where
  /-- A client comes. -/
  | enter
  /-- A datagram of client `h` goes on. -/
  | transfer (h : Nat) (kind : Transfer) (x : γ)
  deriving DecidableEq

namespace Account

variable {γ : Type*}

/-- The account of a client that has just come. -/
def new : Account γ := ⟨0, 0, 0, 0⟩

/-- One more entry. -/
def add (acc : Account γ) (x : γ) : Transfer → Account γ
  | .send => { acc with sent := x ::ₘ acc.sent }
  | .emit => { acc with emitted := x ::ₘ acc.emitted }
  | .receive => { acc with received := x ::ₘ acc.received }
  | .deliver => { acc with got := x ::ₘ acc.got }

/-- One more datagram in a list is one more entry. -/
theorem coe_append_singleton (l : List γ) (x : γ) : ((l ++ [x] : List γ) : Multiset γ) = x ::ₘ l :=
  Multiset.coe_eq_coe.mpr (List.perm_append_singleton x l)

/-- Nothing is emitted that was not sent, and nothing is got that was not received. -/
structure Sound (acc : Account γ) : Prop where
  /-- What is emitted is some of what was sent. -/
  emitted : acc.emitted ≤ acc.sent
  /-- What is got is some of what was received. -/
  got : acc.got ≤ acc.received

instance [DecidableEq γ] (acc : Account γ) : Decidable acc.Sound :=
  decidable_of_iff (acc.emitted ≤ acc.sent ∧ acc.got ≤ acc.received)
    ⟨fun h => ⟨h.1, h.2⟩, fun h => ⟨h.emitted, h.got⟩⟩

end Account

/-- The service: clients come, and an entry may be made that leaves the account sound. -/
def service (γ : Type*) [DecidableEq γ] : System (List (Account γ)) (ServiceAction γ) where
  init := []
  step s
    | .enter => some (s ++ [.new])
    | .transfer h kind x => s[h]?.bind fun acc =>
      if (acc.add x kind).Sound then some (s.set h (acc.add x kind)) else none

variable {γ : Type*} [DecidableEq γ] {s : List (Account γ)}

/-- An entry that leaves its account sound is a step of the service. -/
theorem service_transfer {h : Nat} {acc : Account γ} {kind : Transfer} {x : γ}
    (hh : s[h]? = some acc) (hsound : (acc.add x kind).Sound) :
    (service γ).step s (.transfer h kind x) = some (s.set h (acc.add x kind)) := by
  simp [service, hh, hsound]

end Transition
