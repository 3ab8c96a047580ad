/-!
Calling off a run.

A run looks at a signal, which someone else may fire through a handle. A signal stays fired.
Without its handle a signal that has not fired never will.
-/

namespace ContextCompiler

/-- A signal that tells a run to stop. -/
structure Cancellation where
  isCancelled : Bool
  /-- Whether the signal can still be fired. -/
  hasHandle : Bool
  deriving DecidableEq, Repr

namespace Cancellation

/-- A signal with its handle. -/
def start : Cancellation := ⟨false, true⟩

/-- The signal that never fires. -/
def never : Cancellation := ⟨false, false⟩

/-- Fires the signal, if there is a handle. -/
def cancel (c : Cancellation) : Cancellation :=
  { c with isCancelled := c.isCancelled || c.hasHandle }

/-- Gives the handle up. -/
def dropHandle (c : Cancellation) : Cancellation := { c with hasHandle := false }

/-- Whether waiting for the signal comes to an end at once. -/
def completes (c : Cancellation) : Bool := c.isCancelled

/-- What was given up without having fired cannot be fired. -/
theorem cancel_dropHandle (c : Cancellation) (h : c.isCancelled = false) :
    c.dropHandle.cancel.isCancelled = false := by
  simp [cancel, dropHandle, h]

end Cancellation

end ContextCompiler
