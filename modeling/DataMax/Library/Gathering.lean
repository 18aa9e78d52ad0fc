import Mathlib.Data.List.Basic

/-! Readers with a buffer: an input may release some outputs and changes the buffer, and what the
buffer holds at the end is released too. -/

namespace DataMax.Library

structure Gatherer (Input Buffer Output : Type*) where
  feed : Buffer → Input → List Output × Buffer
  flush : Buffer → List Output

namespace Gatherer

variable {Input Buffer Output Part : Type*}

def gather (reader : Gatherer Input Buffer Output) (buffer : Buffer) : List Input → List Output
  | [] => reader.flush buffer
  | input :: inputs => (reader.feed buffer input).1 ++ reader.gather (reader.feed buffer input).2 inputs

variable {reader : Gatherer Input Buffer Output}

/-- What no step loses, the run does not lose. -/
theorem flatMap_gather (content : Output → List Part) (held : Buffer → List Part) (given : Input → List Part)
    (step : ∀ buffer input, (reader.feed buffer input).1.flatMap content ++ held (reader.feed buffer input).2 =
      held buffer ++ given input)
    (last : ∀ buffer, (reader.flush buffer).flatMap content = held buffer) (buffer : Buffer) (inputs : List Input) :
    (reader.gather buffer inputs).flatMap content = held buffer ++ inputs.flatMap given := by
  induction inputs generalizing buffer with
  | nil => rw [gather, last, List.flatMap_nil, List.append_nil]
  | cons input rest ih =>
    rw [gather, List.flatMap_append, ih, ← List.append_assoc, step, List.append_assoc, List.flatMap_cons]

variable (valid : Buffer → Prop) (fit : Input → Prop) {good : Output → Prop} {sound : Input → Prop}

/-- While the buffer stays valid, the outputs are good exactly when the inputs are sound. -/
theorem forall_gather_iff
    (step : ∀ buffer input, valid buffer → fit input → valid (reader.feed buffer input).2 ∧
      ((∀ output ∈ (reader.feed buffer input).1, good output) ↔ sound input))
    (last : ∀ buffer, valid buffer → ∀ output ∈ reader.flush buffer, good output) {buffer : Buffer}
    {inputs : List Input} (started : valid buffer) (fitting : ∀ input ∈ inputs, fit input) :
    (∀ output ∈ reader.gather buffer inputs, good output) ↔ ∀ input ∈ inputs, sound input := by
  induction inputs generalizing buffer with
  | nil => simpa [gather] using last buffer started
  | cons input rest ih =>
    obtain ⟨first, others⟩ := List.forall_mem_cons.mp fitting
    obtain ⟨next, released⟩ := step buffer input started first
    rw [gather, List.forall_mem_append, released, ih next others, List.forall_mem_cons]

theorem forall_gather
    (step : ∀ buffer input, valid buffer → fit input → valid (reader.feed buffer input).2 ∧
      ∀ output ∈ (reader.feed buffer input).1, good output)
    (last : ∀ buffer, valid buffer → ∀ output ∈ reader.flush buffer, good output) {buffer : Buffer}
    {inputs : List Input} (started : valid buffer) (fitting : ∀ input ∈ inputs, fit input) :
    ∀ output ∈ reader.gather buffer inputs, good output := by
  have every : (∀ output ∈ reader.gather buffer inputs, good output) ↔ ∀ input ∈ inputs, True := by
    refine forall_gather_iff valid fit (fun buffer input now fits => ?_) last started fitting
    exact ⟨(step buffer input now fits).1, iff_true_intro (step buffer input now fits).2⟩
  exact every.mpr fun _ _ => trivial

end Gatherer

end DataMax.Library
