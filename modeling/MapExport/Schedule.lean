/-!
# Repeated work

Some work is done again and again: at once, and then after each pause. An agenda says which work is due
when. Going through it until an instant does every round that is due by then, each at its time, and of
two that are due at one time the one that was put down first. Work that says it is over is not
done again.
-/

set_option autoImplicit false

namespace MapExport

/-- **Repeated work:** when it is due next, and the pause after it, in seconds. -/
structure Rounds (α : Type) where
  work : α
  pause : Nat
  due : Nat
  deriving DecidableEq, Repr

/-- **What is due when.** -/
abbrev Agenda (α : Type) := List (Rounds α)

namespace Agenda

variable {α : Type}

/-- Puts down work that is to be done from an instant on. -/
def add (a : Agenda α) (work : α) (pause now : Nat) : Agenda α := a ++ [⟨work, pause, now⟩]

/-- How many rounds are due until an instant. -/
def count (until_ : Nat) (a : Agenda α) : Nat :=
  (a.map fun r => if r.due ≤ until_ then (until_ - r.due) / r.pause + 1 else 0).foldl (· + ·) 0

/-- The earliest time at which something is due. -/
def earliest? (a : Agenda α) : Option Nat := (a.map Rounds.due).min?

/-- Splits off the first work that is due at a time. -/
def split? (time : Nat) : Agenda α → Option (Agenda α × Rounds α × Agenda α)
  | [] => none
  | r :: rest =>
    if r.due = time then some ([], r, rest)
    else (split? time rest).map fun (before, s, after) => (r :: before, s, after)

/-- Does at most so many rounds that are due until an instant. -/
def runFor {m : Type → Type} [Monad m] (until_ : Nat) (work : α → m Bool) :
    Nat → Agenda α → m (Agenda α)
  | 0, a => pure a
  | n + 1, a =>
    match a.earliest?.filter (· ≤ until_) with
    | none => pure a
    | some time =>
      match a.split? time with
      | none => pure a
      | some (before, r, after) => do
        if ← work r.work then
          runFor until_ work n (before ++ { r with due := time + r.pause } :: after)
        else runFor until_ work n (before ++ after)

/-- **Doing what is due** until an instant. The work says whether it is to be done again. -/
def run {m : Type → Type} [Monad m] (until_ : Nat) (work : α → m Bool) (a : Agenda α) :
    m (Agenda α) :=
  runFor until_ work (a.count until_) a

end Agenda

end MapExport
