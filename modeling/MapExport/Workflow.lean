/-!
# Workflows

What the service does, step by step, without saying who does it: a workflow is a tree of calls to
collaborators, each with the continuation for every reply it can get. The same workflow can be carried
out by any collaborators, its calls can be listed, and several workflows can be carried out in turns.
-/

set_option autoImplicit false

namespace MapExport

/-- **A workflow.** `Call` is what can be asked of the collaborators, and `Reply c` what they can answer
to the call `c`. -/
inductive Workflow (Call : Type) (Reply : Call → Type) (α : Type) where
  | done (a : α)
  | call (c : Call) (next : Reply c → Workflow Call Reply α)

namespace Workflow

variable {Call : Type} {Reply : Call → Type} {α β : Type}

/-- One workflow after another. -/
protected def bind : Workflow Call Reply α → (α → Workflow Call Reply β) → Workflow Call Reply β
  | done a, k => k a
  | call c next, k => call c fun r => (next r).bind k

instance : Monad (Workflow Call Reply) where
  pure := done
  bind := Workflow.bind

/-- The workflow that makes one call. -/
def ask (c : Call) : Workflow Call Reply (Reply c) := call c done

/-- **Carrying out** a workflow with collaborators that answer every call. -/
def run {m : Type → Type} [Monad m] (answer : (c : Call) → m (Reply c)) : Workflow Call Reply α → m α
  | done a => pure a
  | call c next => do (next (← answer c)).run answer

@[simp] theorem pure_eq_done (a : α) : (pure a : Workflow Call Reply α) = done a := rfl

@[simp] theorem done_bind (a : α) (k : α → Workflow Call Reply β) : (done a >>= k) = k a := rfl

@[simp] theorem call_bind (c : Call) (next : Reply c → Workflow Call Reply α)
    (k : α → Workflow Call Reply β) : (call c next >>= k) = call c fun r => next r >>= k := rfl

end Workflow

end MapExport
