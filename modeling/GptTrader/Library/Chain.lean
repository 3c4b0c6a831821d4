import Mathlib.Data.List.Basic
import Mathlib.Tactic.Common

/-!
# Chained logs

Every link of a chained log names the checksum of the link before it, and the
first names where the chain starts.  A chained log grows by links that name its
tip.
-/

namespace GptTrader

namespace Chain

variable {α κ : Type}

/-- The checksum of the last link. -/
def tip (checksum : α → κ) (start : κ) (links : List α) : κ :=
  (links.getLast?.map checksum).getD start

/-- Each link names the checksum before it. -/
def Linked (previous checksum : α → κ) : κ → List α → Prop
  | _, [] => True
  | start, link :: rest =>
      previous link = start ∧ Linked previous checksum (checksum link) rest

variable {previous checksum : α → κ} {start : κ}

@[simp] theorem tip_nil : tip checksum start [] = start :=
  rfl

theorem tip_cons (link : α) (rest : List α) :
    tip checksum start (link :: rest) = tip checksum (checksum link) rest := by
  unfold tip
  rw [List.getLast?_cons]
  cases rest.getLast? with
  | none => rfl
  | some last => rfl

@[simp] theorem tip_append_singleton (links : List α) (link : α) :
    tip checksum start (links ++ [link]) = checksum link := by
  unfold tip
  rw [List.getLast?_append_of_ne_nil _ (List.cons_ne_nil _ _)]
  rfl

end Chain

end GptTrader
