import DataMax.Library.FixedWindow
import DataMax.ModelGateway.CircuitBreaker

/-! The rate budget of a model profile: requests and tokens counted in windows of a minute. -/

namespace DataMax.ModelGateway

open Library

/-- The errors of a spent budget. -/
inductive GatewayRateLimitError where
  | requestRateLimit
  | tokenRateLimit
  deriving DecidableEq

structure GatewayRateLimitReservation where
  profileId : String
  estimatedTokens : UInt64
  deriving DecidableEq

structure GatewayProfileRateBudget where
  requestsPerMinute : Option UInt32 := none
  tokensPerMinute : Option UInt32 := none
  windowStartedAt : Option Nat := none
  requestCount : UInt32 := 0
  tokenCount : UInt64 := 0
  deriving DecidableEq

/-- Sixty seconds. -/
def rateWindow : Nat := 60000000000

namespace GatewayProfileRateBudget

def configure (budget : GatewayProfileRateBudget) (requestsPerMinute tokensPerMinute : Option UInt32) :
    GatewayProfileRateBudget :=
  { budget with
    requestsPerMinute := requestsPerMinute.filter (0 < ·)
    tokensPerMinute := tokensPerMinute.filter (0 < ·) }

def resetElapsedWindow (budget : GatewayProfileRateBudget) (now : Nat) : GatewayProfileRateBudget :=
  if (budget.windowStartedAt.map fun startedAt => decide (rateWindow ≤ now - startedAt)).getD true then
    { budget with windowStartedAt := some now, requestCount := 0, tokenCount := 0 }
  else budget

def reserve (budget : GatewayProfileRateBudget) (profileId : String) (estimatedTokens : UInt64) (now : Nat) :
    Except GatewayRateLimitError GatewayRateLimitReservation × GatewayProfileRateBudget :=
  let current := budget.resetElapsedWindow now
  let tokens := max estimatedTokens 1
  if (current.requestsPerMinute.map fun limit => decide (limit < saturatingAddU32 current.requestCount 1)).getD false then
    (.error .requestRateLimit, current)
  else if (current.tokensPerMinute.map fun limit => decide (limit.toUInt64 < saturatingAddU64 current.tokenCount tokens)).getD
      false then
    (.error .tokenRateLimit, current)
  else (.ok { profileId, estimatedTokens := tokens }, { current with
    requestCount := saturatingAddU32 current.requestCount 1
    tokenCount := saturatingAddU64 current.tokenCount tokens })

end GatewayProfileRateBudget

structure ReserveCall where
  now : Nat
  profileId : String
  estimatedTokens : UInt64

/-- A budget in use, with when each reservation was made and when each window began. -/
structure RateRun where
  budget : GatewayProfileRateBudget
  reservations : List (Nat × GatewayRateLimitReservation) := []
  windowStarts : List Nat := []

namespace RateRun

def next (run : RateRun) (call : ReserveCall) : RateRun :=
  let (outcome, budget) := run.budget.reserve call.profileId call.estimatedTokens call.now
  { budget
    reservations := match outcome with
      | .ok reservation => run.reservations ++ [(call.now, reservation)]
      | .error _ => run.reservations
    windowStarts := budget.windowStartedAt.toList ++ run.windowStarts }

def after (requestsPerMinute tokensPerMinute : Option UInt32) (calls : List ReserveCall) : RateRun :=
  calls.foldl next { budget := ({} : GatewayProfileRateBudget).configure requestsPerMinute tokensPerMinute }

/-- Each reservation as one request. -/
def requests (run : RateRun) : List (Nat × Nat) := run.reservations.map fun entry => (entry.1, 1)

/-- Each reservation by its tokens. -/
def tokens (run : RateRun) : List (Nat × Nat) := run.reservations.map fun entry => (entry.1, entry.2.estimatedTokens.toNat)

end RateRun

section Counting

open GatewayProfileRateBudget

variable {limit now start weight : Nat} {budget : GatewayProfileRateBudget} {log : List (Nat × Nat)} {starts : List Nat}
  {count : GatewayProfileRateBudget → Nat}

/-- The window that began at `start` has not elapsed, and its counter is what the log has in it. -/
structure Running (limit : Nat) (count : GatewayProfileRateBudget → Nat) (budget : GatewayProfileRateBudget)
    (log : List (Nat × Nat)) (starts : List Nat) (now start : Nat) : Prop where
  began : budget.windowStartedAt = some start
  past : start ≤ now
  windowed : Windowed limit rateWindow log starts start
  counted : within start (start + rateWindow) log = count budget

/-- Nothing yet, or a window. -/
def Counted (limit : Nat) (count : GatewayProfileRateBudget → Nat) (budget : GatewayProfileRateBudget)
    (log : List (Nat × Nat)) (starts : List Nat) (now : Nat) : Prop :=
  (budget.windowStartedAt = none ∧ log = [] ∧ starts = []) ∨ ∃ start, Running limit count budget log starts now start

theorem resetElapsedWindow_limits : (budget.resetElapsedWindow now).requestsPerMinute = budget.requestsPerMinute ∧
    (budget.resetElapsedWindow now).tokensPerMinute = budget.tokensPerMinute := by
  rw [resetElapsedWindow]
  split <;> exact ⟨rfl, rfl⟩

/-- Either the window goes on or another begins with its counters at zero. -/
theorem Counted.reset (zero : ∀ startedAt : Option Nat,
      count { budget with windowStartedAt := startedAt, requestCount := 0, tokenCount := 0 } = 0)
    {latest : Nat} (order : latest ≤ now) (counted : Counted limit count budget log starts latest) :
    ∃ start, now < start + rateWindow ∧
      Running limit count (budget.resetElapsedWindow now) log
        ((budget.resetElapsedWindow now).windowStartedAt.toList ++ starts) now start := by
  rcases counted with ⟨idle, rfl, rfl⟩ | ⟨start, running⟩
  · refine ⟨now, by simp [rateWindow], ?_⟩
    rw [resetElapsedWindow, idle]
    exact ⟨rfl, Nat.le_refl now, Windowed.first, (zero (some now)).symm⟩
  · have past := running.past
    by_cases elapsed : rateWindow ≤ now - start
    · refine ⟨now, by simp [rateWindow], ?_⟩
      have ended : start + rateWindow ≤ now := by simp only [rateWindow] at *; omega
      have again := running.windowed.restart ended
      have fresh : within now (now + rateWindow) log = 0 :=
        within_eq_zero fun entry listed => Nat.lt_of_lt_of_le (running.windowed.inside entry listed) ended
      rw [resetElapsedWindow, running.began, Option.map_some, Option.getD_some, decide_eq_true elapsed]
      exact ⟨rfl, Nat.le_refl now, again, fresh.trans (zero (some now)).symm⟩
    · refine ⟨start, by omega, ?_⟩
      rw [resetElapsedWindow, running.began, Option.map_some, Option.getD_some, decide_eq_false elapsed]
      exact ⟨running.began, by omega, by simpa [running.began] using running.windowed.again, running.counted⟩

theorem Counted.later {latest : Nat} (order : latest ≤ now) (counted : Counted limit count budget log starts latest) :
    Counted limit count budget log starts now := by
  rcases counted with idle | ⟨start, running⟩
  · exact .inl idle
  · exact .inr ⟨start, { running with past := Nat.le_trans running.past order }⟩

variable {profileId : String} {estimatedTokens : UInt64}

theorem reserve_refused {error : GatewayRateLimitError}
    (refused : (budget.reserve profileId estimatedTokens now).1 = .error error) :
    (budget.reserve profileId estimatedTokens now).2 = budget.resetElapsedWindow now := by
  unfold reserve at refused ⊢
  dsimp only at refused ⊢
  split
  · rfl
  · split
    · rfl
    · simp_all

/-- A reservation is within both limits, and counted. -/
theorem reserve_ok {reservation : GatewayRateLimitReservation}
    (given : (budget.reserve profileId estimatedTokens now).1 = .ok reservation) :
    let current := budget.resetElapsedWindow now
    reservation = ⟨profileId, max estimatedTokens 1⟩ ∧
      (budget.reserve profileId estimatedTokens now).2 = { current with
        requestCount := saturatingAddU32 current.requestCount 1
        tokenCount := saturatingAddU64 current.tokenCount (max estimatedTokens 1) } ∧
      (∀ limit, current.requestsPerMinute = some limit → saturatingAddU32 current.requestCount 1 ≤ limit) ∧
      ∀ limit, current.tokensPerMinute = some limit →
        saturatingAddU64 current.tokenCount (max estimatedTokens 1) ≤ limit.toUInt64 := by
  unfold reserve at given ⊢
  dsimp only at given ⊢
  split at given
  · cases given
  · split at given
    · cases given
    · rename_i requests tokens
      rw [if_neg requests, if_neg tokens]
      cases given
      refine ⟨rfl, rfl, ?_, ?_⟩
      · intro limit own
        rw [own] at requests
        exact UInt32.not_lt.mp (by simpa using requests)
      · intro limit own
        rw [own] at tokens
        exact UInt64.not_lt.mp (by simpa using tokens)

theorem reserve_windowStartedAt : (budget.reserve profileId estimatedTokens now).2.windowStartedAt =
    (budget.resetElapsedWindow now).windowStartedAt := by
  cases outcome : (budget.reserve profileId estimatedTokens now).1 with
  | error error => rw [reserve_refused outcome]
  | ok reservation => rw [(reserve_ok outcome).2.1]

theorem reserve_limits : (budget.reserve profileId estimatedTokens now).2.requestsPerMinute = budget.requestsPerMinute ∧
    (budget.reserve profileId estimatedTokens now).2.tokensPerMinute = budget.tokensPerMinute := by
  cases outcome : (budget.reserve profileId estimatedTokens now).1 with
  | error error => rw [reserve_refused outcome, resetElapsedWindow_limits.1, resetElapsedWindow_limits.2]; exact ⟨rfl, rfl⟩
  | ok reservation => rw [(reserve_ok outcome).2.1]; exact resetElapsedWindow_limits

end Counting

namespace RateRun

open GatewayProfileRateBudget

variable {limit latest : Nat} {count : GatewayProfileRateBudget → Nat} {weigh : GatewayRateLimitReservation → Nat}
  {run : RateRun} {call : ReserveCall}

/-- The reservations with what each counts for. -/
def weighed (weigh : GatewayRateLimitReservation → Nat) (run : RateRun) : List (Nat × Nat) :=
  run.reservations.map fun entry => (entry.1, weigh entry.2)

/-- What a reservation counts for, and that there was room for it. -/
def Fits (limit : Nat) (count : GatewayProfileRateBudget → Nat) (weigh : GatewayRateLimitReservation → Nat)
    (budget : GatewayProfileRateBudget) (call : ReserveCall) : Prop :=
  ∀ reservation, (budget.reserve call.profileId call.estimatedTokens call.now).1 = .ok reservation →
    count (budget.resetElapsedWindow call.now) + weigh reservation ≤ limit ∧
      count (budget.reserve call.profileId call.estimatedTokens call.now).2 =
        count (budget.resetElapsedWindow call.now) + weigh reservation

theorem counted_next (zero : ∀ (budget : GatewayProfileRateBudget) (startedAt : Option Nat),
      count { budget with windowStartedAt := startedAt, requestCount := 0, tokenCount := 0 } = 0)
    (order : latest ≤ call.now) (fits : Fits limit count weigh run.budget call)
    (counted : Counted limit count run.budget (run.weighed weigh) run.windowStarts latest) :
    Counted limit count (run.next call).budget ((run.next call).weighed weigh) (run.next call).windowStarts call.now := by
  obtain ⟨start, inside, running⟩ := counted.reset (zero run.budget) order
  refine .inr ⟨start, ?_⟩
  cases outcome : (run.budget.reserve call.profileId call.estimatedTokens call.now).1 with
  | error error =>
    simpa [next, weighed, outcome, reserve_windowStartedAt, reserve_refused outcome] using running
  | ok reservation =>
    obtain ⟨room, counts⟩ := fits reservation outcome
    have began := running.began
    refine ⟨?_, running.past, ?_, ?_⟩
    · simpa [next, reserve_windowStartedAt] using began
    · have taken := running.windowed.admitted running.past inside (by rw [running.counted]; exact room)
      simpa [next, weighed, outcome, reserve_windowStartedAt] using taken
    · have total : within start (start + rateWindow) (run.weighed weigh ++ [(call.now, weigh reservation)]) =
          count (run.budget.resetElapsedWindow call.now) + weigh reservation := by
        rw [within_concat, running.counted, if_pos ⟨running.past, inside⟩]
      simpa [next, weighed, outcome, counts] using total

variable {requestsPerMinute tokensPerMinute : Option UInt32}

theorem after_concat (calls : List ReserveCall) (call : ReserveCall) :
    after requestsPerMinute tokensPerMinute (calls ++ [call]) = (after requestsPerMinute tokensPerMinute calls).next call := by
  rw [after, List.foldl_concat]
  rfl

theorem after_limits (calls : List ReserveCall) :
    (after requestsPerMinute tokensPerMinute calls).budget.requestsPerMinute = requestsPerMinute.filter (0 < ·) ∧
      (after requestsPerMinute tokensPerMinute calls).budget.tokensPerMinute = tokensPerMinute.filter (0 < ·) := by
  induction calls using List.reverseRecOn with
  | nil => exact ⟨rfl, rfl⟩
  | append_singleton earlier call ih =>
    rw [after_concat]
    exact ⟨reserve_limits.1.trans ih.1, reserve_limits.2.trans ih.2⟩

/-- The counter follows the log through a run in which every reservation has room. -/
theorem counted_after (zero : ∀ (budget : GatewayProfileRateBudget) (startedAt : Option Nat),
      count { budget with windowStartedAt := startedAt, requestCount := 0, tokenCount := 0 } = 0)
    (calls : List ReserveCall) (order : calls.Pairwise fun first second => first.now ≤ second.now)
    (fits : ∀ earlier call, Fits limit count weigh (after requestsPerMinute tokensPerMinute earlier).budget call)
    (past : ∀ call ∈ calls, call.now ≤ latest) :
    Counted limit count (after requestsPerMinute tokensPerMinute calls).budget
      ((after requestsPerMinute tokensPerMinute calls).weighed weigh)
      (after requestsPerMinute tokensPerMinute calls).windowStarts latest := by
  induction calls using List.reverseRecOn generalizing latest with
  | nil => exact .inl ⟨rfl, rfl, rfl⟩
  | append_singleton earlier call ih =>
    obtain ⟨sorted, -, before⟩ := List.pairwise_append.mp order
    have counted := ih sorted fun other listed => before other listed call (List.mem_singleton_self call)
    rw [after_concat]
    exact (counted_next zero (Nat.le_refl call.now) (fits earlier call) counted).later (past call (by simp))

theorem exists_latest (calls : List ReserveCall) : ∃ latest, ∀ call ∈ calls, call.now ≤ latest := by
  induction calls with
  | nil => exact ⟨0, fun call listed => absurd listed List.not_mem_nil⟩
  | cons call rest ih =>
    obtain ⟨latest, past⟩ := ih
    refine ⟨max call.now latest, List.forall_mem_cons.mpr ⟨Nat.le_max_left .., fun other listed => ?_⟩⟩
    exact Nat.le_trans (past other listed) (Nat.le_max_right ..)

/-- What a counter that follows the log says of intervals. -/
theorem bounded_after (counted : Counted limit count run.budget (run.weighed weigh) run.windowStarts latest) :
    (∀ start ∈ run.windowStarts, within start (start + rateWindow) (run.weighed weigh) ≤ limit) ∧
      ∀ since, within since (since + rateWindow + 1) (run.weighed weigh) ≤ 2 * limit := by
  rcases counted with ⟨-, log, starts⟩ | ⟨start, running⟩
  · rw [log, starts]
    simp
  · exact ⟨running.windowed.aligned, running.windowed.anywhere⟩

theorem fits_requests {limit : UInt32} (small : limit < 0xFFFFFFFF) {budget : GatewayProfileRateBudget}
    (own : budget.requestsPerMinute = some limit) (call : ReserveCall) :
    Fits limit.toNat (·.requestCount.toNat) (fun _ => 1) budget call := by
  intro reservation given
  obtain ⟨-, state, requests, -⟩ := reserve_ok given
  have within := UInt32.le_iff_toNat_le.mp (requests limit (resetElapsedWindow_limits.1.trans own))
  have below : limit.toNat < 0xFFFFFFFF := UInt32.lt_iff_toNat_lt.mp small
  rw [saturatingAddU32_toNat] at within
  rw [state]
  simp at within ⊢
  omega

theorem fits_tokens {limit : UInt32} {budget : GatewayProfileRateBudget} (own : budget.tokensPerMinute = some limit)
    (call : ReserveCall) : Fits limit.toNat (·.tokenCount.toNat) (·.estimatedTokens.toNat) budget call := by
  intro reservation given
  obtain ⟨same, state, -, tokens⟩ := reserve_ok given
  have within := UInt64.le_iff_toNat_le.mp (tokens limit (resetElapsedWindow_limits.2.trans own))
  have below := limit.toNat_lt
  rw [saturatingAddU64_toNat] at within
  rw [state, same]
  simp at within ⊢
  omega

/-- In each window the limits hold, and in an interval of another place twice the limits. -/
theorem rate_budget_windows (requestsPerMinute tokensPerMinute : Option UInt32) (calls : List ReserveCall)
    (order : calls.Pairwise fun first second => first.now ≤ second.now) :
    let run := after requestsPerMinute tokensPerMinute calls
    (∀ limit, requestsPerMinute = some limit → 0 < limit → limit < 0xFFFFFFFF →
      (∀ start ∈ run.windowStarts, within start (start + rateWindow) run.requests ≤ limit.toNat) ∧
        ∀ since, within since (since + rateWindow + 1) run.requests ≤ 2 * limit.toNat) ∧
    ∀ limit, tokensPerMinute = some limit → 0 < limit →
      (∀ start ∈ run.windowStarts, within start (start + rateWindow) run.tokens ≤ limit.toNat) ∧
        ∀ since, within since (since + rateWindow + 1) run.tokens ≤ 2 * limit.toNat := by
  obtain ⟨latest, past⟩ := exists_latest calls
  constructor
  · rintro limit rfl positive small
    have own := fun earlier => (@after_limits (some limit) tokensPerMinute earlier).1.trans (Option.filter_some_pos (decide_eq_true positive))
    have fits := fun earlier call => fits_requests small (own earlier) call
    exact bounded_after (counted_after (fun _ _ => rfl) calls order fits past)
  · rintro limit rfl positive
    have own := fun earlier => (@after_limits requestsPerMinute (some limit) earlier).2.trans (Option.filter_some_pos (decide_eq_true positive))
    have fits := fun earlier call => fits_tokens (own earlier) call
    exact bounded_after (counted_after (fun _ _ => rfl) calls order fits past)

def boundaryCalls : List ReserveCall :=
  [⟨0, "p", 1⟩, ⟨59000000000, "p", 1⟩, ⟨60000000000, "p", 1⟩, ⟨61000000000, "p", 1⟩]

theorem rate_budget_windows_two : (after (some 2) none boundaryCalls).windowStarts.all fun start =>
    within start (start + rateWindow) (after (some 2) none boundaryCalls).requests ≤ 2 :=
  List.all_eq_true.mpr fun start listed => decide_eq_true
    (((rate_budget_windows (some 2) none boundaryCalls (by simp [boundaryCalls])).1 2 rfl (by decide) (by decide)).1
      start listed)

/-- The end of one window and the beginning of the next are less than a minute apart. -/
theorem rate_budget_boundary : ¬ ∀ (requestsPerMinute tokensPerMinute : Option UInt32) (calls : List ReserveCall),
    calls.Pairwise (fun first second => first.now ≤ second.now) → ∀ limit, requestsPerMinute = some limit →
      ∀ since, within since (since + rateWindow) (after requestsPerMinute tokensPerMinute calls).requests ≤ limit.toNat := by
  intro always
  have bounded := always (some 2) none boundaryCalls (by simp [boundaryCalls]) 2 rfl 59000000000
  exact absurd bounded (by decide)

end RateRun

end DataMax.ModelGateway
