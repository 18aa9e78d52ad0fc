import DataMax.ModelGateway.Bucket

/-! What the bucket promises: few permits, few waiting calls, and a counter that tells
how many calls wait as long as no waiting call is dropped. -/

namespace DataMax.ModelGateway

open Library

section Counting

variable {calls : List AcquirePhase} {call : Nat} {old new : AcquirePhase}

/-- One call more or less is counted when one call moves. -/
theorem countP_set (counts : AcquirePhase → Bool) (placed : calls[call]? = some old) (new : AcquirePhase) :
    (calls.set call new).countP counts + (counts old).toNat = calls.countP counts + (counts new).toNat := by
  induction calls generalizing call with
  | nil => simp at placed
  | cons head rest ih =>
    cases call with
    | zero =>
      rw [List.getElem?_cons_zero, Option.some.injEq] at placed
      rw [List.set_cons_zero, placed, List.countP_cons, List.countP_cons]
      cases counts old <;> cases counts new <;> simp
    | succ call =>
      rw [List.getElem?_cons_succ] at placed
      have later := ih placed
      rw [List.set_cons_succ, List.countP_cons, List.countP_cons]
      omega

end Counting

/-- The call has a permit of the semaphore. -/
def AcquirePhase.hasPermit : AcquirePhase → Bool
  | .assigned | .resumed none | .holding => true
  | _ => false

/-- The call has raised the counter and not lowered it. -/
def AcquirePhase.isCounted : AcquirePhase → Bool
  | .counted _ | .waiting | .assigned | .resumed _ => true
  | _ => false

/-- The counter let the call wait. -/
def AcquirePhase.isAdmitted (queueLimit : Nat) : AcquirePhase → Bool
  | .counted before => before < queueLimit
  | .waiting | .assigned | .resumed _ => true
  | _ => false

/-- The call is suspended and waits for a permit. -/
def AcquirePhase.isWaiting : AcquirePhase → Bool
  | .waiting => true
  | _ => false

/-- The call is between two of its steps. -/
def AcquirePhase.isMoving : AcquirePhase → Bool
  | .refusedAtOnce | .counted _ | .assigned | .resumed _ => true
  | _ => false

namespace GatewayLimitBucket

def held (bucket : GatewayLimitBucket) : Nat := bucket.calls.countP AcquirePhase.hasPermit

def waiting (bucket : GatewayLimitBucket) : Nat := bucket.calls.countP AcquirePhase.isWaiting

/-- No call is between two of its steps. -/
def Settled (bucket : GatewayLimitBucket) : Prop := ∀ phase ∈ bucket.calls, phase.isMoving = false

instance (bucket : GatewayLimitBucket) : Decidable bucket.Settled :=
  inferInstanceAs (Decidable (∀ phase ∈ bucket.calls, phase.isMoving = false))

end GatewayLimitBucket

/-- What holds after every step; the counter also keeps the calls that were dropped. -/
structure Accounted (maxConcurrency queueLimit : Nat) (log : List BucketEvent) (bucket : GatewayLimitBucket) :
    Prop where
  concurrency : bucket.maxConcurrency = maxConcurrency
  limit : bucket.queueLimit = queueLimit
  permits : bucket.available + bucket.held = maxConcurrency
  counter : bucket.queued = bucket.calls.countP AcquirePhase.isCounted + log.countP BucketEvent.isDrop
  admitted : bucket.calls.countP (AcquirePhase.isAdmitted queueLimit) ≤ queueLimit

section Steps

variable {bucket next : GatewayLimitBucket} {event : BucketEvent} {maxConcurrency queueLimit call : Nat}
  {available queued : Nat} {log : List BucketEvent} {old new : AcquirePhase} {other : Option Nat}

theorem isAdmitted_le_isCounted (calls : List AcquirePhase) (queueLimit : Nat) :
    calls.countP (AcquirePhase.isAdmitted queueLimit) ≤ calls.countP AcquirePhase.isCounted := by
  apply List.countP_mono_left
  intro phase _ admitted
  cases phase <;> simp_all [AcquirePhase.isAdmitted, AcquirePhase.isCounted]

theorem Accounted.move (known : Accounted maxConcurrency queueLimit log bucket)
    (placed : bucket.calls[call]? = some old) (event : Option BucketEvent)
    (permits : available + new.hasPermit.toNat = bucket.available + old.hasPermit.toNat)
    (counter : queued + old.isCounted.toNat =
      bucket.queued + new.isCounted.toNat + event.toList.countP BucketEvent.isDrop)
    (admitted : new.isAdmitted queueLimit → old.isAdmitted queueLimit ∨ bucket.queued < queueLimit) :
    Accounted maxConcurrency queueLimit (log ++ event.toList)
      { bucket.move call new with available, queued } where
  concurrency := known.concurrency
  limit := known.limit
  permits := by
    have moved := countP_set AcquirePhase.hasPermit placed new
    have before := known.permits
    change available + (bucket.calls.set call new).countP AcquirePhase.hasPermit = maxConcurrency
    change bucket.available + bucket.calls.countP AcquirePhase.hasPermit = maxConcurrency at before
    omega
  counter := by
    have moved := countP_set AcquirePhase.isCounted placed new
    have before := known.counter
    change queued = (bucket.calls.set call new).countP AcquirePhase.isCounted + (log ++ event.toList).countP _
    rw [List.countP_append]
    omega
  admitted := by
    have moved := countP_set (AcquirePhase.isAdmitted queueLimit) placed new
    have before := known.admitted
    have counted := isAdmitted_le_isCounted bucket.calls queueLimit
    have total := known.counter
    change (bucket.calls.set call new).countP (AcquirePhase.isAdmitted queueLimit) ≤ queueLimit
    cases fresh : new.isAdmitted queueLimit with
    | false =>
      rw [fresh, Bool.toNat_false] at moved
      omega
    | true =>
      rw [fresh, Bool.toNat_true] at moved
      rcases admitted fresh with already | fits
      · rw [already, Bool.toNat_true] at moved
        omega
      · omega

/-- A call that had a permit moves on and the permit comes back. -/
theorem Accounted.giveBack (known : Accounted maxConcurrency queueLimit log bucket)
    (placed : bucket.calls[call]? = some old) (event : BucketEvent) (passes : CanPass bucket other)
    (had : old.hasPermit) (kept : new.hasPermit = false)
    (counter : old.isCounted.toNat = new.isCounted.toNat + event.isDrop.toNat)
    (admitted : new.isAdmitted queueLimit → old.isAdmitted queueLimit) :
    Accounted maxConcurrency queueLimit (log ++ [event]) ((bucket.move call new).giveBack other) := by
  have returned : Accounted maxConcurrency queueLimit (log ++ [event])
      { bucket.move call new with available := bucket.available + 1, queued := bucket.queued } := by
    apply known.move placed (some event)
    · rw [had, kept]
      rfl
    · have single : (some event).toList.countP BucketEvent.isDrop = event.isDrop.toNat := by
        rw [Option.toList_some, List.countP_singleton]
        cases event.isDrop <;> rfl
      rw [counter, single, Nat.add_assoc]
    · exact fun fresh => .inl (admitted fresh)
  cases other with
  | none => exact returned
  | some next =>
    have apart : next ≠ call := by
      rintro rfl
      have same := Option.some.inj (passes.symm.trans placed)
      rw [← same] at had
      cases had
    have suspended : ({ bucket.move call new with available := bucket.available + 1, queued := bucket.queued } :
        GatewayLimitBucket).calls[next]? = some .waiting := by
      change (bucket.calls.set call new)[next]? = some .waiting
      rw [List.getElem?_set_ne apart.symm]
      exact passes
    have passed : Accounted maxConcurrency queueLimit (log ++ [event] ++ (none : Option BucketEvent).toList)
        ((bucket.move call new).move next .assigned) := returned.move suspended none rfl rfl fun _ => .inl rfl
    rw [Option.toList_none, List.append_nil] at passed
    exact passed

/-- A new call that is not counted. -/
theorem Accounted.append (known : Accounted maxConcurrency queueLimit log bucket) (event : BucketEvent)
    (quiet : event.isDrop = false) (permits : available + new.hasPermit.toNat = bucket.available)
    (uncounted : new.isCounted = false) (unadmitted : new.isAdmitted queueLimit = false) :
    Accounted maxConcurrency queueLimit (log ++ [event])
      { bucket with available, calls := bucket.calls ++ [new] } where
  concurrency := known.concurrency
  limit := known.limit
  permits := by
    have before := known.permits
    change available + (bucket.calls ++ [new]).countP AcquirePhase.hasPermit = maxConcurrency
    change bucket.available + bucket.calls.countP AcquirePhase.hasPermit = maxConcurrency at before
    rw [List.countP_append, List.countP_singleton]
    cases has : new.hasPermit <;> simp [has] at permits ⊢ <;> omega
  counter := by
    have before := known.counter
    simpa [List.countP_append, uncounted, quiet] using before
  admitted := by
    have before := known.admitted
    simpa [List.countP_append, unadmitted] using before

theorem accounted_step (known : Accounted maxConcurrency queueLimit log bucket)
    (taken : BucketStep bucket event next) : Accounted maxConcurrency queueLimit (log ++ [event]) next := by
  have limit := known.limit
  have counted : ∀ {call : Nat} {phase : AcquirePhase}, bucket.calls[call]? = some phase → phase.isCounted → 0 < bucket.queued := by
    intro call phase placed counts
    have positive : 0 < bucket.calls.countP AcquirePhase.isCounted :=
      List.countP_pos_iff.mpr ⟨phase, List.mem_of_getElem? placed, counts⟩
    rw [known.counter]
    omega
  cases taken with
  | taken free => exact known.append _ rfl (Nat.sub_add_cancel free) rfl rfl
  | closed => exact known.append _ rfl rfl rfl rfl
  | missed => exact known.append _ rfl rfl rfl rfl
  | fetchAdd placed =>
    apply known.move placed (some _)
    · rfl
    · rfl
    · exact fun fits => .inr (by simpa [AcquirePhase.isAdmitted] using fits)
  | full placed => exact known.move placed (some _) rfl (Nat.sub_add_cancel (counted placed rfl)) nofun
  | ready placed fits free =>
    apply known.move placed (some _)
    · exact Nat.sub_add_cancel free
    · rfl
    · exact fun _ => .inl (by simpa [AcquirePhase.isAdmitted, ← limit] using fits)
  | suspended placed fits =>
    exact known.move placed (some _) rfl rfl fun _ => .inl (by simpa [AcquirePhase.isAdmitted, ← limit] using fits)
  | pollAssigned placed => exact known.move placed (some _) rfl rfl fun _ => .inl rfl
  | timeOut placed => exact known.move placed (some _) rfl rfl fun _ => .inl rfl
  | timeOutAssigned placed passes => exact known.giveBack placed _ passes rfl rfl rfl fun _ => rfl
  | served placed => exact known.move placed (some _) rfl (Nat.sub_add_cancel (counted placed rfl)) nofun
  | failed placed => exact known.move placed (some _) rfl (Nat.sub_add_cancel (counted placed rfl)) nofun
  | release placed passes => exact known.giveBack placed _ passes rfl rfl rfl nofun
  | drop placed => exact known.move placed (some _) rfl rfl nofun
  | dropAssigned placed passes => exact known.giveBack placed _ passes rfl rfl rfl nofun

end Steps

section Runs

variable {maxConcurrency queueLimit : Nat} {log : List BucketEvent} {bucket : GatewayLimitBucket}

theorem accounted_run (run : Run BucketStep (.new maxConcurrency queueLimit) log bucket) :
    Accounted (max maxConcurrency 1) queueLimit log bucket := by
  apply run.invariant
  · exact ⟨rfl, rfl, rfl, rfl, Nat.zero_le _⟩
  · exact accounted_step

theorem waiting_le_admitted (bucket : GatewayLimitBucket) (queueLimit : Nat) :
    bucket.waiting ≤ bucket.calls.countP (AcquirePhase.isAdmitted queueLimit) := by
  apply List.countP_mono_left
  intro phase _ waits
  cases phase <;> simp_all [AcquirePhase.isAdmitted, AcquirePhase.isWaiting]

theorem waiting_eq_counted (settled : bucket.Settled) :
    bucket.calls.countP AcquirePhase.isCounted = bucket.waiting := by
  apply List.countP_congr
  intro phase listed
  have still := settled phase listed
  cases phase <;> simp_all [AcquirePhase.isMoving, AcquirePhase.isCounted, AcquirePhase.isWaiting]

/-- The permits and the waiting calls stay within their limits in every run; the counter is
the number of waiting calls exactly as long as no waiting call was dropped. -/
theorem bucket_counts_iff (run : Run BucketStep (.new maxConcurrency queueLimit) log bucket) :
    bucket.held ≤ max maxConcurrency 1 ∧ bucket.waiting ≤ queueLimit ∧
      (bucket.Settled → (bucket.queued = bucket.waiting ↔ ∀ event ∈ log, event.isDrop = false)) := by
  have known := accounted_run run
  refine ⟨?_, Nat.le_trans (waiting_le_admitted bucket queueLimit) known.admitted, ?_⟩
  · have permits := known.permits
    omega
  · intro settled
    have counter := known.counter
    have undropped : log.countP BucketEvent.isDrop = 0 ↔ ∀ event ∈ log, event.isDrop = false := by
      rw [List.countP_eq_zero]
      simp
    rw [waiting_eq_counted settled] at counter
    rw [← undropped]
    omega

/-- One call has the only permit and a second one waits. -/
def crowdedBucket : GatewayLimitBucket := ⟨1, 1, 0, 1, [.holding, .waiting]⟩

def crowdedLog : List BucketEvent := [.tryAcquire, .tryAcquire, .fetchAdd 1, .pollFirst 1]

theorem crowded_run : Run BucketStep (.new 1 1) crowdedLog crowdedBucket := by
  have first : BucketStep (.new 1 1) .tryAcquire ⟨1, 1, 0, 0, [.holding]⟩ := .taken (by decide)
  have second : BucketStep ⟨1, 1, 0, 0, [.holding]⟩ .tryAcquire ⟨1, 1, 0, 0, [.holding, .refusedAtOnce]⟩ :=
    .missed rfl (by decide)
  have third : BucketStep ⟨1, 1, 0, 0, [.holding, .refusedAtOnce]⟩ (.fetchAdd 1)
      ⟨1, 1, 0, 1, [.holding, .counted 0]⟩ := .fetchAdd rfl
  have fourth : BucketStep ⟨1, 1, 0, 1, [.holding, .counted 0]⟩ (.pollFirst 1) crowdedBucket :=
    .suspended rfl (by decide) rfl
  exact (((Run.nil.snoc first).snoc second).snoc third).snoc fourth

theorem bucket_counts_crowded : crowdedBucket.held ≤ 1 ∧ crowdedBucket.waiting ≤ 1 ∧
    crowdedBucket.queued = crowdedBucket.waiting := by
  obtain ⟨held, waiting, counter⟩ := bucket_counts_iff crowded_run
  exact ⟨held, waiting, (counter (by decide)).mpr (by decide)⟩

/-- The second call is dropped, nobody waits, and a third call finds the queue full. -/
theorem bucket_drop_leaks : ∃ log bucket, Run BucketStep (.new 1 1) log bucket ∧ bucket.Settled ∧
    bucket.waiting = 0 ∧ bucket.queued = 1 ∧ bucket.calls.getLast? = some (.refused .queueFull) := by
  have dropped : BucketStep crowdedBucket (.drop 1) ⟨1, 1, 0, 1, [.holding, .gone]⟩ := .drop rfl
  have missed : BucketStep ⟨1, 1, 0, 1, [.holding, .gone]⟩ .tryAcquire
      ⟨1, 1, 0, 1, [.holding, .gone, .refusedAtOnce]⟩ := .missed rfl (by decide)
  have added : BucketStep ⟨1, 1, 0, 1, [.holding, .gone, .refusedAtOnce]⟩ (.fetchAdd 2)
      ⟨1, 1, 0, 2, [.holding, .gone, .counted 1]⟩ := .fetchAdd rfl
  have full : BucketStep ⟨1, 1, 0, 2, [.holding, .gone, .counted 1]⟩ (.fetchSubFull 2)
      ⟨1, 1, 0, 1, [.holding, .gone, .refused .queueFull]⟩ := .full rfl (by decide)
  exact ⟨_, _, (((crowded_run.snoc dropped).snoc missed).snoc added).snoc full, by decide, rfl, rfl, rfl⟩

end Runs

end DataMax.ModelGateway
