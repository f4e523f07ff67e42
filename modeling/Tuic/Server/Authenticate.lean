import Mathlib.Data.List.Basic

/-! # The authentication barrier

`server/src/connection/authenticate.rs` and `IsClosed` of `server/src/connection/mod.rs`: the flag
that says whether the client is authenticated, the flag that says whether the connection has ended,
and the list of wakers of the tasks that wait for the first. Wakers are values of a type `W`; waking
them is left to the caller, who gets back the list of those to wake.

A poll of `IsAuthenticated` is not atomic: it loads the one flag, loads the other and only then
takes the lock of the list. `PollPc` is where a poll stands and `pollStep` is what it does next;
`poll` is the whole of it, and `pollSteps_eq_poll` says so. -/

namespace Tuic.Server

variable {W : Type*}

/-- The end of a connection, and the waker of the one task that may wait for it. -/
structure IsClosed (W : Type*) where
  /-- The flag. -/
  isClosed : Bool
  /-- The waker, behind its mutex. -/
  waker : Option W
  deriving DecidableEq

namespace IsClosed

/-- Not closed, and nobody waits. -/
def new : IsClosed W := ⟨false, none⟩

/-- Set the flag and take the waker, which is to be woken. -/
def setClosed (f : IsClosed W) : IsClosed W × List W :=
  ({ f with isClosed := true, waker := none }, f.waker.toList)

/-- Load the flag. -/
def check (f : IsClosed W) : Bool := f.isClosed

end IsClosed

/-- Whether the client is authenticated, and the wakers of the tasks that wait for it. -/
structure IsAuthenticated (W : Type*) where
  /-- The end of the connection, which also ends the wait. -/
  isConnectionClosed : IsClosed W
  /-- The flag. -/
  isAuthenticated : Bool
  /-- The wakers, behind their mutex. -/
  broadcast : List W
  deriving DecidableEq

/-- Where a poll of `IsAuthenticated` stands. -/
inductive PollPc where
  /-- Before the load of the closed flag. -/
  | loadClosed
  /-- Before the load of the authenticated flag. -/
  | loadAuthenticated
  /-- Both flags were found unset; before the waker is pushed under the lock. -/
  | push
  /-- The poll returned `Pending`. -/
  | parked
  /-- The poll returned `Ready`. -/
  | ready (authenticated : Bool)
  deriving DecidableEq, Repr

namespace IsAuthenticated

/-- Not authenticated, and nobody waits. -/
def new (isClosed : IsClosed W) : IsAuthenticated W := ⟨isClosed, false, []⟩

/-- Set the flag. -/
def setAuthenticated (f : IsAuthenticated W) : IsAuthenticated W :=
  { f with isAuthenticated := true }

/-- Drain the list under the lock; the wakers in it are to be woken. -/
def wake (f : IsAuthenticated W) : IsAuthenticated W × List W :=
  ({ f with broadcast := [] }, f.broadcast)

/-- The connection has ended. -/
def setClosed (f : IsAuthenticated W) : IsAuthenticated W × List W :=
  let (isClosed, wakers) := f.isConnectionClosed.setClosed
  ({ f with isConnectionClosed := isClosed }, wakers)

/-- Poll as one step: `none` is `Pending`, with the waker stored. -/
def poll (f : IsAuthenticated W) (waker : W) : IsAuthenticated W × Option Bool :=
  if f.isConnectionClosed.check then (f, some false)
  else if f.isAuthenticated then (f, some true)
  -- the list is never searched, so a task that polls twice is in it twice
  else ({ f with broadcast := f.broadcast ++ [waker] }, none)

/-- One atomic access of a poll. -/
def pollStep (f : IsAuthenticated W) (waker : W) : PollPc → Option (IsAuthenticated W × PollPc)
  | .loadClosed =>
    if f.isConnectionClosed.check then some (f, .ready false) else some (f, .loadAuthenticated)
  | .loadAuthenticated =>
    if f.isAuthenticated then some (f, .ready true) else some (f, .push)
  | .push => some ({ f with broadcast := f.broadcast ++ [waker] }, .parked)
  | .parked | .ready _ => none

/-- The accesses of a poll from `pc` on, with none of another task between them. -/
def pollSteps (f : IsAuthenticated W) (waker : W) : Nat → PollPc → IsAuthenticated W × PollPc
  | 0, pc => (f, pc)
  | n + 1, pc =>
    match f.pollStep waker pc with
    | some (f', pc') => pollSteps f' waker n pc'
    | none => (f, pc)

/-- What a poll returned. -/
def result : PollPc → Option Bool
  | .ready b => some b
  | _ => none

/-- **An undisturbed poll is atomic**: three accesses at most, with the effect and the result of
`poll`. -/
theorem pollSteps_eq_poll (f : IsAuthenticated W) (waker : W) :
    ∃ pc, f.pollSteps waker 3 .loadClosed = ((f.poll waker).1, pc) ∧
      result pc = (f.poll waker).2 ∧ ((f.poll waker).2 = none → pc = .parked) := by
  -- which of the two flags is set decides after how many accesses the poll returns
  by_cases hclosed : f.isConnectionClosed.check = true
  · exact ⟨.ready false, by simp [pollSteps, pollStep, poll, hclosed],
      by simp [result, poll, hclosed], by simp [poll, hclosed]⟩
  · by_cases hauth : f.isAuthenticated = true
    · exact ⟨.ready true, by simp [pollSteps, pollStep, poll, hclosed, hauth],
        by simp [result, poll, hclosed, hauth], by simp [poll, hclosed, hauth]⟩
    · exact ⟨.parked, by simp [pollSteps, pollStep, poll, hclosed, hauth],
        by simp [result, poll, hclosed, hauth], fun _ => rfl⟩

end IsAuthenticated

end Tuic.Server
