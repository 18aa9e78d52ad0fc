import DataMax.Library.Run
import Mathlib.Logic.Function.Basic

/-! Jobs that read a store, compute from what they read, and commit later.
Other jobs may commit in between. -/

namespace DataMax.Library

universe u v w

variable {Store : Type u} {Job : Type v} {Snapshot : Type w}

/-- What a job reads, and what it commits for a snapshot it has read. A commit
without a result is one the job gives up on. -/
structure Protocol (Store : Type u) (Job : Type v) (Snapshot : Type w) where
  read : Store → Job → Snapshot
  commit : Store → Job → Snapshot → Option Store

/-- A worker slot reads for a job and, at some later action, commits. -/
inductive Action (Job : Type v) where
  | read (slot : Nat) (job : Job)
  | commit (slot : Nat)

/-- The store, what each slot holds, and the jobs committed so far, oldest first. -/
structure Session (Store : Type u) (Job : Type v) (Snapshot : Type w) where
  store : Store
  held : Nat → Option (Job × Snapshot)
  committed : List Job

namespace Protocol

variable (protocol : Protocol Store Job Snapshot)

def start (store : Store) : Session Store Job Snapshot := ⟨store, fun _ => none, []⟩

def act (session : Session Store Job Snapshot) : Action Job → Session Store Job Snapshot
  | .read slot job =>
    { session with held := Function.update session.held slot (some (job, protocol.read session.store job)) }
  | .commit slot => match session.held slot with
    | none => session
    | some (job, snapshot) => match protocol.commit session.store job snapshot with
      | none => { session with held := Function.update session.held slot none }
      | some store => ⟨store, Function.update session.held slot none, session.committed ++ [job]⟩

/-- Reading and committing in one go. -/
def perform (store : Store) (job : Job) : Option Store :=
  protocol.commit store job (protocol.read store job)

/-- A commit that takes effect does so on the snapshot its job would read now. -/
def Fresh (session : Session Store Job Snapshot) : Action Job → Prop
  | .read _ _ => True
  | .commit slot => ∀ job snapshot, session.held slot = some (job, snapshot) →
      (protocol.commit session.store job snapshot).isSome = true →
      protocol.read session.store job = snapshot

/-- A fresh action commits nothing, or it performs one job as a whole. -/
theorem act_fresh (session : Session Store Job Snapshot) (action : Action Job)
    (fresh : protocol.Fresh session action) :
    (protocol.act session action).store = session.store ∧
        (protocol.act session action).committed = session.committed ∨
      ∃ job, protocol.perform session.store job = some (protocol.act session action).store ∧
        (protocol.act session action).committed = session.committed ++ [job] := by
  cases action with
  | read slot job => exact .inl ⟨rfl, rfl⟩
  | commit slot =>
    cases holding : session.held slot with
    | none => exact .inl (by simp [act, holding])
    | some entry =>
      obtain ⟨job, snapshot⟩ := entry
      cases outcome : protocol.commit session.store job snapshot with
      | none => exact .inl (by simp [act, holding, outcome])
      | some store =>
        have current := fresh job snapshot holding (by simp [outcome])
        refine .inr ⟨job, ?_, by simp [act, holding, outcome]⟩
        simp [perform, current, act, holding, outcome]

/-- However reads and commits are interleaved, if every commit that takes
effect is fresh then the store is the one the committed jobs lead to when they
are performed one after the other. -/
theorem fresh_serial (store : Store) (actions : List (Action Job))
    (fresh : Guarded protocol.act protocol.Fresh (start store) actions) :
    (actions.foldl protocol.act (start store)).committed.foldlM protocol.perform store =
      some (actions.foldl protocol.act (start store)).store := by
  induction actions using List.reverseRecOn with
  | nil => rfl
  | append_singleton earlier action ih =>
    obtain ⟨before, last⟩ := (guarded_concat _ _ _ _ _).mp fresh
    have serial := ih before
    rw [List.foldl_append, List.foldl_cons, List.foldl_nil]
    rcases protocol.act_fresh _ action last with ⟨sameStore, sameJobs⟩ | ⟨job, performed, longer⟩
    · rw [sameStore, sameJobs]
      exact serial
    · rw [longer, List.foldlM_append, serial]
      simpa using performed

end Protocol

end DataMax.Library
