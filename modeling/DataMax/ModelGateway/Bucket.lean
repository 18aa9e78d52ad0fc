import DataMax.Library.Run
import Mathlib.Data.List.Basic
import Mathlib.Tactic.Common

/-! The concurrency bucket of the model gateway: a semaphore, and a counter of the calls
that queue for it. A call takes its steps one at a time, between those of the others. -/

namespace DataMax.ModelGateway

open Library

inductive GatewayLimitError where
  | queueFull
  | queueTimeout
  deriving DecidableEq

/-- Where one call of `acquire` is. -/
inductive AcquirePhase where
  /-- `try_acquire_owned` found no permit. -/
  | refusedAtOnce
  /-- `fetch_add` returned the number of calls before it. -/
  | counted (queued : Nat)
  /-- Suspended in `acquire_owned`. -/
  | waiting
  /-- The semaphore has assigned a permit to the suspended call. -/
  | assigned
  /-- The await is over, `fetch_sub` is next. -/
  | resumed (result : Option GatewayLimitError)
  | holding
  | refused (error : GatewayLimitError)
  /-- Gave its permit back, or was dropped. -/
  | gone
  deriving DecidableEq

structure GatewayLimitBucket where
  maxConcurrency : Nat
  queueLimit : Nat
  /-- The permits of the semaphore that nobody has. -/
  available : Nat
  queued : Nat
  calls : List AcquirePhase
  deriving DecidableEq

namespace GatewayLimitBucket

def new (maxConcurrency queueLimit : Nat) : GatewayLimitBucket where
  maxConcurrency := max maxConcurrency 1
  queueLimit
  available := max maxConcurrency 1
  queued := 0
  calls := []

def move (bucket : GatewayLimitBucket) (call : Nat) (phase : AcquirePhase) : GatewayLimitBucket :=
  { bucket with calls := bucket.calls.set call phase }

/-- A permit comes back: a suspended call gets it, or the semaphore keeps it. -/
def giveBack (bucket : GatewayLimitBucket) : Option Nat → GatewayLimitBucket
  | none => { bucket with available := bucket.available + 1 }
  | some call => bucket.move call .assigned

end GatewayLimitBucket

/-- What happens at the bucket; a permit that comes back names the call that gets it. -/
inductive BucketEvent where
  | tryAcquire
  | fetchAdd (call : Nat)
  | fetchSubFull (call : Nat)
  | pollFirst (call : Nat)
  | pollAssigned (call : Nat)
  | timeOut (call : Nat)
  | timeOutAssigned (call : Nat) (next : Option Nat)
  | fetchSub (call : Nat)
  | release (call : Nat) (next : Option Nat)
  | drop (call : Nat)
  | dropAssigned (call : Nat) (next : Option Nat)
  deriving DecidableEq

/-- The future of a waiting call is dropped by its caller. -/
def BucketEvent.isDrop : BucketEvent → Bool
  | .drop _ | .dropAssigned _ _ => true
  | _ => false

/-- Which call can get a permit that comes back; a suspended one goes first. -/
def CanPass (bucket : GatewayLimitBucket) : Option Nat → Prop
  | none => .waiting ∉ bucket.calls
  | some call => bucket.calls[call]? = some .waiting

instance (bucket : GatewayLimitBucket) (next : Option Nat) : Decidable (CanPass bucket next) :=
  match next with
  | none => inferInstanceAs (Decidable (AcquirePhase.waiting ∉ bucket.calls))
  | some call => inferInstanceAs (Decidable (bucket.calls[call]? = some .waiting))

open GatewayLimitBucket in
/-- One atomic step of `acquire`, of a permit's release or of a caller that gives up. -/
inductive BucketStep (bucket : GatewayLimitBucket) : BucketEvent → GatewayLimitBucket → Prop where
  | taken (free : 0 < bucket.available) : BucketStep bucket .tryAcquire
      { bucket with available := bucket.available - 1, calls := bucket.calls ++ [.holding] }
  | closed (none : bucket.available = 0) (limit : bucket.queueLimit = 0) : BucketStep bucket .tryAcquire
      { bucket with calls := bucket.calls ++ [.refused .queueFull] }
  | missed (none : bucket.available = 0) (limit : bucket.queueLimit ≠ 0) : BucketStep bucket .tryAcquire
      { bucket with calls := bucket.calls ++ [.refusedAtOnce] }
  | fetchAdd (placed : bucket.calls[call]? = some .refusedAtOnce) : BucketStep bucket (.fetchAdd call)
      { bucket.move call (.counted bucket.queued) with queued := bucket.queued + 1 }
  | full (placed : bucket.calls[call]? = some (.counted before)) (full : bucket.queueLimit ≤ before) :
      BucketStep bucket (.fetchSubFull call)
        { bucket.move call (.refused .queueFull) with queued := bucket.queued - 1 }
  | ready (placed : bucket.calls[call]? = some (.counted before)) (fits : before < bucket.queueLimit)
      (free : 0 < bucket.available) : BucketStep bucket (.pollFirst call)
      { bucket.move call (.resumed none) with available := bucket.available - 1 }
  | suspended (placed : bucket.calls[call]? = some (.counted before)) (fits : before < bucket.queueLimit)
      (none : bucket.available = 0) : BucketStep bucket (.pollFirst call) (bucket.move call .waiting)
  | pollAssigned (placed : bucket.calls[call]? = some .assigned) :
      BucketStep bucket (.pollAssigned call) (bucket.move call (.resumed none))
  | timeOut (placed : bucket.calls[call]? = some .waiting) :
      BucketStep bucket (.timeOut call) (bucket.move call (.resumed (some .queueTimeout)))
  | timeOutAssigned (placed : bucket.calls[call]? = some .assigned) (next : CanPass bucket other) :
      BucketStep bucket (.timeOutAssigned call other)
        ((bucket.move call (.resumed (some .queueTimeout))).giveBack other)
  | served (placed : bucket.calls[call]? = some (.resumed none)) : BucketStep bucket (.fetchSub call)
      { bucket.move call .holding with queued := bucket.queued - 1 }
  | failed (placed : bucket.calls[call]? = some (.resumed (some error))) : BucketStep bucket (.fetchSub call)
      { bucket.move call (.refused error) with queued := bucket.queued - 1 }
  | release (placed : bucket.calls[call]? = some .holding) (next : CanPass bucket other) :
      BucketStep bucket (.release call other) ((bucket.move call .gone).giveBack other)
  | drop (placed : bucket.calls[call]? = some .waiting) : BucketStep bucket (.drop call) (bucket.move call .gone)
  | dropAssigned (placed : bucket.calls[call]? = some .assigned) (next : CanPass bucket other) :
      BucketStep bucket (.dropAssigned call other) ((bucket.move call .gone).giveBack other)

end DataMax.ModelGateway
