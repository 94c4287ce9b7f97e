import Arbiter.Failure
import Arbiter.Program

/-!
# Dispatchers and their fallbacks

A dispatcher hands jobs to the judges. Dispatchers are put together in trees: a tree tries its first
part, and its second one when the first fails. What the leaves do is left to the surroundings.
-/

namespace Arbiter

/-- Dispatchers put together, with leaves named by `ι`. -/
inductive DispatchTree (ι : Type) where
  | leaf (i : ι)
  | failover (first second : DispatchTree ι)
  deriving Repr

/-- One leaf is asked to hand over the job of a submission. -/
abbrev LeafInterface (ι : Type) : Interface :=
  ⟨ι × SubmissionId, fun _ => Except DispatchFailure Unit⟩

namespace DispatchTree

variable {ι : Type}

/-- Hands over the job of a submission. -/
def enqueue (id : SubmissionId) :
    DispatchTree ι → Program (LeafInterface ι) (Except DispatchFailure Unit)
  | leaf i => Program.call (I := LeafInterface ι) (i, id)
  | failover first second => do
    match ← first.enqueue id with
    | .ok () => return .ok ()
    | .error _ => second.enqueue id

/-- The leaves from left to right. -/
def leaves : DispatchTree ι → List ι
  | leaf i => [i]
  | failover first second => first.leaves ++ second.leaves

end DispatchTree

end Arbiter
