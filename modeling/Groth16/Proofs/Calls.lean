import Mathlib.Data.List.Induction

/-!
# Runs of calls

A run performs calls one after the other and keeps each with its answer. What every call keeps is
kept by a run, and what only calls of one kind decide is decided by the last of them.
-/

namespace Groth16
namespace Calls

variable {State Call Answer : Type}

/-- The calls of a run with their answers, in order, and the state after the run. -/
def run
    (perform : Call → StateM State Answer)
    (state : State)
    (calls : List Call) : List (Call × Answer) × State :=
  calls.foldl
    (fun (log, state) call =>
      let (answer, after) := (perform call).run state
      (log ++ [(call, answer)], after))
    ([], state)

section Run

variable {perform : Call → StateM State Answer} {state : State}

theorem run_append_singleton (calls : List Call) (call : Call) :
    run perform state (calls ++ [call]) =
      ((run perform state calls).1 ++
          [(call, ((perform call).run (run perform state calls).2).1)],
        ((perform call).run (run perform state calls).2).2) := by
  rw [run, List.foldl_append]
  rfl

theorem run_cons (call : Call) (calls : List Call) :
    run perform state (call :: calls) =
      ((call, ((perform call).run state).1) ::
          (run perform ((perform call).run state).2 calls).1,
        (run perform ((perform call).run state).2 calls).2) := by
  induction calls using List.reverseRecOn with
  | nil => rfl
  | append_singleton calls last inductionHypothesis =>
      rw [← List.cons_append, run_append_singleton, inductionHypothesis, run_append_singleton]
      rfl

/-- What holds in the beginning and is kept by every call holds after a run. -/
theorem holds_run
    (holds : State → Prop)
    (initially : holds state)
    (keeps : ∀ state, holds state → ∀ call, holds ((perform call).run state).2)
    (calls : List Call) :
    holds (run perform state calls).2 := by
  induction calls using List.reverseRecOn with
  | nil => exact initially
  | append_singleton calls call inductionHypothesis =>
      rw [run_append_singleton]
      exact keeps _ inductionHypothesis call

end Run

/-- The last of the calls that are picked. -/
def last? (picks : Call → Bool) (calls : List Call) : Option Call :=
  (calls.filter picks).getLast?

section Last

variable {picks : Call → Bool} {call : Call} (calls : List Call)

theorem last?_append_singleton_of_pos (picked : picks call = true) :
    last? picks (calls ++ [call]) = some call := by
  rw [last?, List.filter_append, List.filter_cons_of_pos picked, List.filter_nil,
    List.getLast?_concat]

theorem last?_append_singleton_of_neg (passed : picks call = false) :
    last? picks (calls ++ [call]) = last? picks calls := by
  rw [last?, List.filter_append, List.filter_cons_of_neg (Bool.eq_false_iff.mp passed),
    List.filter_nil, List.append_nil, last?]

end Last

end Calls
end Groth16
