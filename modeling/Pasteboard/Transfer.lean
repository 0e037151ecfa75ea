import Pasteboard.Handle

/-!
# Copying and reading

The two things that are done with a clipboard, each with a fresh handle of its own. Whatever a
clipboard or a handle fails with, the failure is tagged by the step it happened in: getting a
handle, or the one operation done with it. Tags that are already there are kept. A handle that fails
to be released ends the transfer with that failure as it is.
-/

namespace Pasteboard

/-- A failure to get a handle, tagged as one. -/
def Failure.asInit : Failure → Failure
  | init details => init details
  | f => init f.message

/-- A failure of an operation, tagged as one unless it has a tag. -/
def Failure.asOperation (op : Operation) (f : Failure) : Failure :=
  if f.isTagged then f else operation op f.message

namespace Clipboard

variable {σ : Type}

/-- Gets a handle; every failure to do so is tagged. -/
def reach (p : Clipboard σ) : Action σ (Handle σ) := p.acquire.mapFailure .asInit

/-- Puts a value on the clipboard. What is no text is refused before anything is done. -/
def copy (p : Clipboard σ) : Value → Action σ Unit
  | .text t => do
    let handle ← p.reach
    handle.use ((handle.set (.text t)).mapFailure (.asOperation .copy))
  | v => throw (.notText v.kindName)

/-- Hands over what is on the clipboard. -/
def read (p : Clipboard σ) : Action σ Value := do
  let handle ← p.reach
  handle.use (handle.get.mapFailure (.asOperation .read))

end Clipboard

/-- A failure to get a handle is always tagged as that. -/
theorem Failure.asInit_eq_init (f : Failure) : f.asInit = .init f.message := by
  cases f <;> rfl

/-- A failure of an operation always has a tag. -/
theorem Failure.isTagged_asOperation (op : Operation) (f : Failure) :
    (f.asOperation op).isTagged = true := by
  unfold asOperation
  split
  · assumption
  · rfl

end Pasteboard
