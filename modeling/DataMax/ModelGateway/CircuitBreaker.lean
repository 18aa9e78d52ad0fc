import DataMax.Domain.Identifier
import DataMax.Domain.Text
import DataMax.Library.Saturating
import Mathlib.Data.List.Induction

/-! The circuit breaker of a model provider: failures in a row open it for a while. -/

namespace DataMax.ModelGateway

open Domain Library

structure GatewayProviderRuntimeStats where
  consecutiveFailures : UInt32 := 0
  successCount : UInt64 := 0
  failureCount : UInt64 := 0
  timeoutCount : UInt64 := 0
  rateLimitCount : UInt64 := 0
  latencySamplesMs : List UInt64 := []
  openedUntil : Option Nat := none
  openedUntilWallTime : Option DateTime := none
  lastSuccessAt : Option DateTime := none
  lastFailureAt : Option DateTime := none
  lastFailureReason : Option String := none
  deriving DecidableEq

structure GatewayProviderStatsSnapshot where
  consecutiveFailures : UInt32
  successCount : UInt64
  failureCount : UInt64
  timeoutCount : UInt64
  rateLimitCount : UInt64
  p50LatencyMs : Option UInt64
  p95LatencyMs : Option UInt64
  circuitOpen : Bool
  openedUntil : Option DateTime
  lastSuccessAt : Option DateTime
  lastFailureAt : Option DateTime
  lastFailureReason : Option String

def percentileLatency (sortedLatencies : List UInt64) (percentile : Nat) : Option UInt64 :=
  if sortedLatencies = [] then none
  else sortedLatencies[((sortedLatencies.length - 1) * min percentile 100 + 99) / 100]?

def gatewayProviderFailureIsTimeout (reason : String) : Bool := contains reason "timeout"

def gatewayProviderFailureIsRateLimit (reason : String) : Bool :=
  contains reason "429" || contains reason "rate_limit" || contains reason "too_many_requests"

namespace GatewayProviderRuntimeStats

def circuitOpen (stats : GatewayProviderRuntimeStats) (now : Nat) : Bool :=
  (stats.openedUntil.map fun openedUntil => decide (now < openedUntil)).getD false

def clearExpiredCircuit (stats : GatewayProviderRuntimeStats) (now : Nat) : GatewayProviderRuntimeStats :=
  if (stats.openedUntil.map fun openedUntil => decide (openedUntil ≤ now)).getD false then { stats with openedUntil := none, openedUntilWallTime := none }
  else stats

def recordSuccess (stats : GatewayProviderRuntimeStats) (latencyMs : Option UInt64) (nowWallTime : DateTime) :
    GatewayProviderRuntimeStats :=
  let samples := stats.latencySamplesMs ++ latencyMs.toList
  { stats with
    consecutiveFailures := 0
    successCount := saturatingAddU64 stats.successCount 1
    openedUntil := none
    openedUntilWallTime := none
    lastSuccessAt := some nowWallTime
    latencySamplesMs := if latencyMs.isSome then samples.drop (samples.length - 256) else samples }

def recordFailure (stats : GatewayProviderRuntimeStats) (reason : String) (now : Nat) (nowWallTime : DateTime)
    (failureThreshold : UInt32) (cooldown : Nat) (openedUntilWallTime : Option DateTime) :
    GatewayProviderRuntimeStats :=
  let failures := saturatingAddU32 stats.consecutiveFailures 1
  let counted := { stats with
    consecutiveFailures := failures
    failureCount := saturatingAddU64 stats.failureCount 1
    timeoutCount := if gatewayProviderFailureIsTimeout reason then saturatingAddU64 stats.timeoutCount 1
      else stats.timeoutCount
    rateLimitCount := if gatewayProviderFailureIsRateLimit reason then saturatingAddU64 stats.rateLimitCount 1
      else stats.rateLimitCount
    lastFailureAt := some nowWallTime
    lastFailureReason := some reason }
  if failureThreshold ≤ failures then { counted with openedUntil := some (now + cooldown), openedUntilWallTime }
  else counted

def snapshot (stats : GatewayProviderRuntimeStats) (now : Nat) : GatewayProviderStatsSnapshot :=
  let latencies := stats.latencySamplesMs.mergeSort
  { consecutiveFailures := stats.consecutiveFailures
    successCount := stats.successCount
    failureCount := stats.failureCount
    timeoutCount := stats.timeoutCount
    rateLimitCount := stats.rateLimitCount
    p50LatencyMs := percentileLatency latencies 50
    p95LatencyMs := percentileLatency latencies 95
    circuitOpen := stats.circuitOpen now
    openedUntil := if stats.circuitOpen now then stats.openedUntilWallTime else none
    lastSuccessAt := stats.lastSuccessAt
    lastFailureAt := stats.lastFailureAt
    lastFailureReason := stats.lastFailureReason }

/-- An open circuit is left as it is. -/
def providerAvailable (stats : GatewayProviderRuntimeStats) (now : Nat) :
    Option GatewayProviderStatsSnapshot × GatewayProviderRuntimeStats :=
  if stats.circuitOpen now then (none, stats)
  else (some ((stats.clearExpiredCircuit now).snapshot now), stats.clearExpiredCircuit now)

def providerStatsSnapshot (stats : GatewayProviderRuntimeStats) (now : Nat) :
    GatewayProviderStatsSnapshot × GatewayProviderRuntimeStats :=
  ((stats.clearExpiredCircuit now).snapshot now, stats.clearExpiredCircuit now)

end GatewayProviderRuntimeStats

inductive CircuitEvent where
  | success (latencyMs : Option UInt64) (nowWallTime : DateTime)
  | failure (reason : String) (nowWallTime : DateTime) (openedUntilWallTime : Option DateTime)
  | clearExpired
  | available
  | statsSnapshot

/-- An event, and when it happened in nanoseconds of the monotonic clock. -/
structure TimedEvent where
  now : Nat
  event : CircuitEvent

section Runs

open GatewayProviderRuntimeStats

variable (failureThreshold : UInt32) (cooldown : Nat)

def afterEvent (stats : GatewayProviderRuntimeStats) (timed : TimedEvent) : GatewayProviderRuntimeStats :=
  match timed.event with
  | .success latencyMs nowWallTime => stats.recordSuccess latencyMs nowWallTime
  | .failure reason nowWallTime openedUntilWallTime =>
    stats.recordFailure reason timed.now nowWallTime failureThreshold cooldown openedUntilWallTime
  | .clearExpired => stats.clearExpiredCircuit timed.now
  | .available => (stats.providerAvailable timed.now).2
  | .statsSnapshot => (stats.providerStatsSnapshot timed.now).2

def statsAfter (history : List TimedEvent) : GatewayProviderRuntimeStats :=
  history.foldl (afterEvent failureThreshold cooldown) {}

/-- When the failures since the last success were recorded. -/
def failuresSinceSuccess (history : List TimedEvent) : List Nat :=
  history.foldl (fun failures timed => match timed.event with
    | .success .. => []
    | .failure .. => failures ++ [timed.now]
    | _ => failures) []

/-- No event is earlier than one before it, or later than now. -/
structure InOrder (history : List TimedEvent) (now : Nat) : Prop where
  sorted : history.Pairwise fun first second => first.now ≤ second.now
  past : ∀ timed ∈ history, timed.now ≤ now

/-- Enough failures in a row, and the cooldown of the last one is not over. -/
def IsOpen (failures : List Nat) (now : Nat) : Prop :=
  failureThreshold.toNat ≤ failures.length ∧ ∃ last, failures.getLast? = some last ∧ now < last + cooldown

/-- The state goes with the failures, whenever it is looked at from the instant on. -/
structure Tracks (failures : List Nat) (instant : Nat) (stats : GatewayProviderRuntimeStats) : Prop where
  counted : stats.consecutiveFailures.toNat = min failures.length 0xFFFFFFFF
  opened : ∀ now, instant ≤ now → (stats.circuitOpen now = true ↔ IsOpen failureThreshold cooldown failures now)

variable {failureThreshold cooldown} {stats : GatewayProviderRuntimeStats} {failures : List Nat} {instant now : Nat}

theorem circuitOpen_iff : stats.circuitOpen now = true ↔ ∃ openedUntil, stats.openedUntil = some openedUntil ∧ now < openedUntil := by
  cases opened : stats.openedUntil <;> simp [circuitOpen, opened]

/-- Clearing is not seen later on. -/
theorem clearExpiredCircuit_open {later : Nat} (after : now ≤ later) :
    (stats.clearExpiredCircuit now).circuitOpen later = stats.circuitOpen later := by
  rw [clearExpiredCircuit]
  split
  · rename_i expired
    rw [Bool.eq_iff_iff, circuitOpen_iff, circuitOpen_iff]
    cases opened : stats.openedUntil with
    | none => simp
    | some openedUntil =>
      have elapsed : openedUntil ≤ now := by simpa [opened] using expired
      simp
      omega
  · rfl

theorem clearExpiredCircuit_counted : (stats.clearExpiredCircuit now).consecutiveFailures = stats.consecutiveFailures := by
  rw [clearExpiredCircuit]
  split <;> rfl

theorem providerAvailable_cases : (stats.providerAvailable now).2 = stats ∨
    (stats.providerAvailable now).2 = stats.clearExpiredCircuit now := by
  rw [providerAvailable]
  split
  · exact .inl rfl
  · exact .inr rfl

theorem recordFailure_counted {reason : String} {wall : DateTime} {wallUntil : Option DateTime} :
    (stats.recordFailure reason now wall failureThreshold cooldown wallUntil).consecutiveFailures =
      saturatingAddU32 stats.consecutiveFailures 1 := by
  rw [recordFailure]
  split <;> rfl

theorem recordFailure_openedUntil {reason : String} {wall : DateTime} {wallUntil : Option DateTime} :
    (stats.recordFailure reason now wall failureThreshold cooldown wallUntil).openedUntil =
      if failureThreshold ≤ saturatingAddU32 stats.consecutiveFailures 1 then some (now + cooldown)
      else stats.openedUntil := by
  rw [recordFailure]
  split <;> rfl

namespace Tracks

theorem later (tracks : Tracks failureThreshold cooldown failures instant stats) (after : instant ≤ now) :
    Tracks failureThreshold cooldown failures now stats :=
  ⟨tracks.counted, fun later order => tracks.opened later (after.trans order)⟩

theorem clear (tracks : Tracks failureThreshold cooldown failures now stats) :
    Tracks failureThreshold cooldown failures now (stats.clearExpiredCircuit now) where
  counted := by rw [clearExpiredCircuit_counted, tracks.counted]
  opened later after := by rw [clearExpiredCircuit_open after, tracks.opened later after]

theorem start (atLeastOne : 1 ≤ failureThreshold) : Tracks failureThreshold cooldown [] now {} where
  counted := rfl
  opened later after := by
    have some : 1 ≤ failureThreshold.toNat := UInt32.le_iff_toNat_le.mp atLeastOne
    refine iff_of_false Bool.false_ne_true fun opened => ?_
    have none : failureThreshold.toNat ≤ 0 := opened.1
    omega

theorem success {latencyMs : Option UInt64} {wall : DateTime} (atLeastOne : 1 ≤ failureThreshold) :
    Tracks failureThreshold cooldown [] now (stats.recordSuccess latencyMs wall) where
  counted := rfl
  opened later after := by
    have some : 1 ≤ failureThreshold.toNat := UInt32.le_iff_toNat_le.mp atLeastOne
    refine iff_of_false Bool.false_ne_true fun opened => ?_
    have none : failureThreshold.toNat ≤ 0 := opened.1
    omega

theorem failure {reason : String} {wall : DateTime} {wallUntil : Option DateTime}
    (tracks : Tracks failureThreshold cooldown failures now stats) :
    Tracks failureThreshold cooldown (failures ++ [now]) now
      (stats.recordFailure reason now wall failureThreshold cooldown wallUntil) where
  counted := by
    rw [recordFailure_counted, saturatingAddU32_toNat, tracks.counted, List.length_append]
    simp
    omega
  opened later after := by
    have limit := failureThreshold.toNat_lt
    have reached : failureThreshold ≤ saturatingAddU32 stats.consecutiveFailures 1 ↔
        failureThreshold.toNat ≤ failures.length + 1 := by
      rw [UInt32.le_iff_toNat_le, saturatingAddU32_toNat, tracks.counted]
      simp
      omega
    rw [circuitOpen_iff, recordFailure_openedUntil, IsOpen, List.length_append, List.getLast?_concat]
    by_cases enough : failureThreshold.toNat ≤ failures.length + 1
    · rw [if_pos (reached.mpr enough)]
      simp [enough]
    · rw [if_neg (mt reached.mp enough), ← circuitOpen_iff, tracks.opened later after, IsOpen]
      constructor
      · rintro ⟨many, -⟩
        omega
      · rintro ⟨many, -⟩
        exact absurd many enough

end Tracks

theorem failuresSinceSuccess_concat (history : List TimedEvent) (timed : TimedEvent) :
    failuresSinceSuccess (history ++ [timed]) = match timed.event with
      | .success .. => []
      | .failure .. => failuresSinceSuccess history ++ [timed.now]
      | _ => failuresSinceSuccess history := by
  rw [failuresSinceSuccess, List.foldl_append]
  rfl

/-- What one event does to a state that goes with the failures before it. -/
theorem tracks_afterEvent (atLeastOne : 1 ≤ failureThreshold) {history : List TimedEvent} (timed : TimedEvent)
    (tracks : Tracks failureThreshold cooldown (failuresSinceSuccess history) timed.now stats) :
    Tracks failureThreshold cooldown (failuresSinceSuccess (history ++ [timed])) timed.now
      (afterEvent failureThreshold cooldown stats timed) := by
  obtain ⟨now, event⟩ := timed
  rw [failuresSinceSuccess_concat]
  cases event with
  | success => exact Tracks.success atLeastOne
  | failure => exact tracks.failure
  | clearExpired => exact tracks.clear
  | available =>
    rw [afterEvent]
    rcases @providerAvailable_cases stats now with same | cleared
    · rw [same]
      exact tracks
    · rw [cleared]
      exact tracks.clear
  | statsSnapshot => exact tracks.clear

theorem inOrder_concat {history : List TimedEvent} {timed : TimedEvent} :
    InOrder (history ++ [timed]) now ↔ InOrder history timed.now ∧ timed.now ≤ now := by
  constructor
  · intro order
    obtain ⟨sorted, -, before⟩ := List.pairwise_append.mp order.sorted
    exact ⟨⟨sorted, fun earlier listed => before earlier listed timed (List.mem_singleton_self timed)⟩,
      order.past timed (by simp)⟩
  · intro ⟨order, after⟩
    refine ⟨List.pairwise_append.mpr ⟨order.sorted, List.pairwise_singleton .., ?_⟩, ?_⟩
    · intro earlier listed last same
      rw [List.mem_singleton.mp same]
      exact order.past earlier listed
    · intro event listed
      rcases List.mem_append.mp listed with earlier | last
      · exact (order.past event earlier).trans after
      · rw [List.mem_singleton.mp last]
        exact after

theorem InOrder.earlier {history later : List TimedEvent} (order : InOrder (history ++ later) now) : InOrder history now :=
  ⟨(List.pairwise_append.mp order.sorted).1, fun timed listed => order.past timed (List.mem_append_left later listed)⟩

theorem tracks_statsAfter (atLeastOne : 1 ≤ failureThreshold) (history : List TimedEvent) (order : InOrder history now) :
    Tracks failureThreshold cooldown (failuresSinceSuccess history) now
      (statsAfter failureThreshold cooldown history) := by
  induction history using List.reverseRecOn generalizing now with
  | nil => exact Tracks.start atLeastOne
  | append_singleton earlier timed ih =>
    obtain ⟨before, after⟩ := inOrder_concat.mp order
    rw [statsAfter, List.foldl_concat]
    exact (tracks_afterEvent atLeastOne timed (ih before)).later after

/-- A failure that is counted was recorded at some event. -/
theorem mem_failuresSinceSuccess {history : List TimedEvent} (listed : instant ∈ failuresSinceSuccess history) :
    ∃ timed ∈ history, timed.now = instant := by
  induction history using List.reverseRecOn with
  | nil => cases listed
  | append_singleton earlier timed ih =>
    rw [failuresSinceSuccess_concat] at listed
    have before : instant ∈ failuresSinceSuccess earlier → ∃ event ∈ earlier ++ [timed], event.now = instant := by
      intro known
      obtain ⟨event, inside, same⟩ := ih known
      exact ⟨event, List.mem_append_left _ inside, same⟩
    split at listed
    · cases listed
    · rcases List.mem_append.mp listed with known | last
      · exact before known
      · exact ⟨timed, by simp, (List.mem_singleton.mp last).symm⟩
    · exact before listed

/-- Nothing but a success closes it before its time. -/
theorem isOpen_concat {history : List TimedEvent} {timed : TimedEvent} (order : InOrder (history ++ [timed]) now)
    (noSuccess : ∀ latencyMs wall, timed.event ≠ .success latencyMs wall)
    (before : IsOpen failureThreshold cooldown (failuresSinceSuccess history) now) :
    IsOpen failureThreshold cooldown (failuresSinceSuccess (history ++ [timed])) now := by
  rw [failuresSinceSuccess_concat]
  split
  · rename_i latencyMs wall same
    exact absurd same (noSuccess latencyMs wall)
  · obtain ⟨many, last, ends, early⟩ := before
    obtain ⟨event, listed, same⟩ := mem_failuresSinceSuccess (List.mem_of_getLast? ends)
    have later : event.now ≤ timed.now := (inOrder_concat.mp order).1.past event listed
    refine ⟨?_, timed.now, List.getLast?_concat, by omega⟩
    rw [List.length_append]
    exact many.trans (Nat.le_add_right ..)
  · exact before

theorem isOpen_append {history later : List TimedEvent} (order : InOrder (history ++ later) now)
    (noSuccess : ∀ timed ∈ later, ∀ latencyMs wall, timed.event ≠ .success latencyMs wall)
    (before : IsOpen failureThreshold cooldown (failuresSinceSuccess history) now) :
    IsOpen failureThreshold cooldown (failuresSinceSuccess (history ++ later)) now := by
  induction later using List.reverseRecOn with
  | nil => simpa using before
  | append_singleton earlier timed ih =>
    rw [← List.append_assoc] at order ⊢
    exact isOpen_concat order (noSuccess timed (by simp))
      (ih order.earlier fun event listed => noSuccess event (List.mem_append_left _ listed))

/-- Only a look at the state. -/
def CircuitEvent.IsQuery : CircuitEvent → Prop
  | .success .. => False
  | .failure .. => False
  | _ => True

theorem failuresSinceSuccess_queries {history quiet : List TimedEvent} (queries : ∀ timed ∈ quiet, timed.event.IsQuery) :
    failuresSinceSuccess (history ++ quiet) = failuresSinceSuccess history := by
  induction quiet using List.reverseRecOn with
  | nil => rw [List.append_nil]
  | append_singleton earlier timed ih =>
    have query := queries timed (by simp)
    rw [← List.append_assoc, failuresSinceSuccess_concat, ih fun event listed => queries event (List.mem_append_left _ listed)]
    split
    · rename_i same
      rw [same] at query
      cases query
    · rename_i same
      rw [same] at query
      cases query
    · rfl

end Runs

section Breaker

variable (failureThreshold : UInt32) (cooldown : Nat)

/-- The circuit is open while the last of enough failures in a row is recent. One more failure opens it
again, and only a success closes it before its time. -/
theorem circuit_open_tracks_failures (atLeastOne : 1 ≤ failureThreshold) :
    (∀ history now, InOrder history now → ((statsAfter failureThreshold cooldown history).circuitOpen now = true ↔
      IsOpen failureThreshold cooldown (failuresSinceSuccess history) now)) ∧
    (∀ history quiet reason wall openedUntilWallTime instant now,
      failureThreshold.toNat ≤ (failuresSinceSuccess history).length → (∀ timed ∈ quiet, timed.event.IsQuery) →
      InOrder (history ++ quiet ++ [⟨instant, .failure reason wall openedUntilWallTime⟩]) now → now < instant + cooldown →
      (statsAfter failureThreshold cooldown
        (history ++ quiet ++ [⟨instant, .failure reason wall openedUntilWallTime⟩])).circuitOpen now = true) ∧
    ∀ history later now, InOrder (history ++ later) now →
      (∀ timed ∈ later, ∀ latencyMs wall, timed.event ≠ .success latencyMs wall) →
      (statsAfter failureThreshold cooldown history).circuitOpen now = true →
      (statsAfter failureThreshold cooldown (history ++ later)).circuitOpen now = true := by
  have tracked : ∀ history now, InOrder history now →
      ((statsAfter failureThreshold cooldown history).circuitOpen now = true ↔
        IsOpen failureThreshold cooldown (failuresSinceSuccess history) now) :=
    fun history now order => (tracks_statsAfter atLeastOne history order).opened now (Nat.le_refl now)
  refine ⟨tracked, ?_, ?_⟩
  · intro history quiet reason wall openedUntilWallTime instant now many queries order recent
    rw [tracked _ _ order, failuresSinceSuccess_concat, failuresSinceSuccess_queries queries]
    refine ⟨?_, instant, List.getLast?_concat, recent⟩
    rw [List.length_append]
    exact many.trans (Nat.le_add_right ..)
  · intro history later now order noSuccess opened
    rw [tracked _ _ order.earlier] at opened
    rw [tracked _ _ order]
    exact isOpen_append order noSuccess opened

theorem circuit_open_tracks_two :
    let history : List TimedEvent := [⟨0, .failure "timeout" 0 none⟩, ⟨1, .available⟩, ⟨2, .failure "429" 0 none⟩]
    (statsAfter 2 5 history).circuitOpen 6 = true ↔ IsOpen 2 5 (failuresSinceSuccess history) 6 :=
  (circuit_open_tracks_failures 2 5 (by decide)).1 _ _ ⟨by simp, by simp⟩

end Breaker

end DataMax.ModelGateway
