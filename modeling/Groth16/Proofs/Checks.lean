import Mathlib.Data.List.Basic
import Mathlib.Data.List.Forall2
import Mathlib.Logic.Basic

/-!
# Computations with checks

What it means that a computation with checks succeeds, with and without a state, and the error
that a sequence of checks reports.
-/

namespace Groth16
namespace Checks

variable {Error Error' Value Result : Type}

theorem ok_bind (value : Value) (next : Value → Except Error Result) :
    (Except.ok value >>= next) = next value := rfl

theorem throw_bind (error : Error) (next : Value → Except Error Result) :
    (throw error >>= next) = .error error := rfl

/-- A sequence of two computations succeeds if both do. -/
theorem bind_eq_ok
    {first : Except Error Value}
    {next : Value → Except Error Result}
    {result : Result} :
    first >>= next = .ok result ↔ ∃ value, first = .ok value ∧ next value = .ok result := by
  cases first with
  | error error => exact iff_of_false nofun (fun ⟨_, impossible, _⟩ => nomatch impossible)
  | ok value =>
      constructor
      · intro equal
        exact ⟨value, rfl, equal⟩
      · rintro ⟨_, equal, computed⟩
        cases equal
        exact computed

/-- A check lets the computation go on if it does not fail. -/
theorem guard_eq_ok
    {failed : Prop}
    [Decidable failed]
    {error : Error}
    {next : Unit → Except Error Result}
    {result : Result} :
    (if failed then throw error >>= next else next ()) = .ok result ↔
      ¬failed ∧ next () = .ok result := by
  by_cases fails : failed
  · rw [if_pos fails, throw_bind]
    exact iff_of_false nofun (fun both => both.1 fails)
  · rw [if_neg fails]
    exact (and_iff_right fails).symm

theorem mapError_eq_ok
    {computation : Except Error Value}
    {change : Error → Error'}
    {value : Value} :
    computation.mapError change = .ok value ↔ computation = .ok value := by
  cases computation with
  | error error => exact iff_of_false nofun nofun
  | ok other => rw [Except.mapError, Except.ok.injEq, Except.ok.injEq]

theorem map_eq_ok
    {computation : Except Error Value}
    {finish : Value → Result}
    {result : Result} :
    computation.map finish = .ok result ↔
      ∃ value, computation = .ok value ∧ finish value = result := by
  cases computation with
  | error error => exact iff_of_false nofun (fun ⟨_, impossible, _⟩ => nomatch impossible)
  | ok value => simp only [Except.map, Except.ok.injEq, exists_eq_left']

theorem isOk_iff
    {computation : Except Error Value} :
    computation.isOk = true ↔ ∃ value, computation = .ok value := by
  cases computation with
  | error error => exact iff_of_false nofun nofun
  | ok value => exact iff_of_true rfl ⟨value, rfl⟩

/-- A computation that fails does not succeed. -/
theorem exists_eq_error_iff
    {computation : Except Error Value} :
    (∃ error, computation = .error error) ↔ ¬∃ value, computation = .ok value := by
  cases computation with
  | error error => exact iff_of_true ⟨error, rfl⟩ (fun ⟨_, impossible⟩ => nomatch impossible)
  | ok value =>
      exact iff_of_false (fun ⟨_, impossible⟩ => nomatch impossible) (not_not_intro ⟨value, rfl⟩)

/-- A computation on a list succeeds if it gives each element its result. -/
theorem mapM_eq_ok_iff
    {compute : Value → Except Error Result}
    {values : List Value}
    {results : List Result} :
    values.mapM compute = .ok results ↔
      List.Forall₂ (fun value result => compute value = .ok result) values results := by
  induction values generalizing results with
  | nil =>
      rw [List.forall₂_nil_left_iff]
      constructor
      · intro computed
        cases computed
        rfl
      · rintro rfl
        rfl
  | cons value rest inductionHypothesis =>
      rw [List.mapM_cons, bind_eq_ok, List.forall₂_cons_left_iff]
      constructor
      · rintro ⟨result, computed, computedRest⟩
        obtain ⟨others, computedOthers, equal⟩ := bind_eq_ok.mp computedRest
        cases equal
        exact ⟨result, others, computed, inductionHypothesis.mp computedOthers, rfl⟩
      · rintro ⟨result, others, computed, computedOthers, rfl⟩
        exact ⟨result, computed,
          bind_eq_ok.mpr ⟨others, inductionHypothesis.mpr computedOthers, rfl⟩⟩

/-- A computation on a list gives as many results as there are elements. -/
theorem length_eq_of_mapM_eq_ok
    {compute : Value → Except Error Result}
    {values : List Value}
    {results : List Result}
    (computed : values.mapM compute = .ok results) :
    results.length = values.length :=
  (mapM_eq_ok_iff.mp computed).length_eq.symm

/-- Every element of a related list is related to some element. -/
theorem exists_of_forall₂
    {related : Value → Result → Prop}
    {values : List Value}
    {results : List Result}
    (all : List.Forall₂ related values results)
    {result : Result}
    (member : result ∈ results) :
    ∃ value ∈ values, related value result := by
  induction all with
  | nil => cases member
  | cons first _ inductionHypothesis =>
      rcases List.mem_cons.mp member with rfl | memberRest
      · exact ⟨_, List.mem_cons_self, first⟩
      · obtain ⟨other, otherMember, found⟩ := inductionHypothesis memberRest
        exact ⟨other, List.mem_cons_of_mem _ otherMember, found⟩

/-- A list has a related one where each of its elements has. -/
theorem exists_forall₂_iff
    {related : Value → Result → Prop}
    {values : List Value} :
    (∃ results, List.Forall₂ related values results) ↔
      ∀ value ∈ values, ∃ result, related value result := by
  induction values with
  | nil => exact iff_of_true ⟨[], .nil⟩ nofun
  | cons value rest inductionHypothesis =>
      rw [List.forall_mem_cons, ← inductionHypothesis]
      constructor
      · rintro ⟨_, allRelated⟩
        obtain ⟨_, _, first, remaining, -⟩ := List.forall₂_cons_left_iff.mp allRelated
        exact ⟨⟨_, first⟩, ⟨_, remaining⟩⟩
      · rintro ⟨⟨result, first⟩, ⟨others, remaining⟩⟩
        exact ⟨result :: others, .cons first remaining⟩

/-- The result of a computation that reports an error or goes on. -/
def unlessError (error : Option Error) (next : Except Error Value) : Except Error Value :=
  match error with
  | some error => .error error
  | none => next

@[simp] theorem unlessError_some (error : Error) (next : Except Error Value) :
    unlessError (some error) next = .error error := rfl

@[simp] theorem unlessError_none (next : Except Error Value) :
    unlessError none next = next := rfl

theorem unlessError_eq_ok_iff
    {error : Option Error}
    {next : Except Error Value}
    {value : Value} :
    unlessError error next = .ok value ↔ error = none ∧ next = .ok value := by
  cases error with
  | some error => exact iff_of_false nofun fun both => nomatch both.1
  | none => exact (and_iff_right rfl).symm

theorem unlessError_ok_eq_error_iff
    {reported : Option Error}
    {value : Value}
    {error : Error} :
    unlessError reported (.ok value) = .error error ↔ reported = some error := by
  cases reported with
  | some other => rw [unlessError_some, Except.error.injEq, Option.some_inj]
  | none => exact iff_of_false nofun nofun

/-- A computation on a list reports the error of the first element that has one. -/
theorem mapM_eq_unlessError
    {compute : Value → Except Error Result}
    {values : List Value}
    {error : Value → Option Error}
    {result : Value → Result}
    (each : ∀ value ∈ values, compute value = unlessError (error value) (.ok (result value))) :
    values.mapM compute = unlessError (values.findSome? error) (.ok (values.map result)) := by
  induction values with
  | nil => rfl
  | cons value rest inductionHypothesis =>
      rw [List.mapM_cons, each value List.mem_cons_self, List.findSome?_cons,
        inductionHypothesis fun other member => each other (List.mem_cons_of_mem _ member)]
      cases error value with
      | some error => rfl
      | none =>
          cases rest.findSome? error with
          | some error => rfl
          | none => rfl

/-- A computation on a list gives every result when no element reports an error. -/
theorem mapM_eq_ok
    {compute : Value → Except Error Result}
    {values : List Value}
    (result : Value → Result)
    (each : ∀ value ∈ values, compute value = .ok (result value)) :
    values.mapM compute = .ok (values.map result) := by
  induction values with
  | nil => rfl
  | cons value rest inductionHypothesis =>
      rw [List.mapM_cons, each value List.mem_cons_self,
        inductionHypothesis fun other member => each other (List.mem_cons_of_mem _ member)]
      rfl

/-- The computation reports allowed errors only. -/
def Reports (allowed : Error → Prop) (computation : Except Error Value) : Prop :=
  ∀ error, computation = .error error → allowed error

namespace Reports

variable {allowed : Error → Prop}

theorem ok (value : Value) : Reports allowed (.ok value) := nofun

theorem error {error : Error} (permitted : allowed error) :
    Reports allowed (.error error : Except Error Value) := by
  intro other equal
  cases equal
  exact permitted

theorem bind
    {first : Except Error Value}
    {next : Value → Except Error Result}
    (reportsFirst : Reports allowed first)
    (reportsNext : ∀ value, Reports allowed (next value)) :
    Reports allowed (first >>= next) := by
  cases first with
  | error error => exact Reports.error (reportsFirst error rfl)
  | ok value => exact reportsNext value

theorem guard
    {failed : Prop}
    [Decidable failed]
    {error : Error}
    {next : Unit → Except Error Result}
    (permitted : allowed error)
    (reportsNext : Reports allowed (next ())) :
    Reports allowed (if failed then throw error >>= next else next ()) := by
  by_cases fails : failed
  · rw [if_pos fails]
    exact Reports.error permitted
  · rw [if_neg fails]
    exact reportsNext

theorem mapError
    {computation : Except Error' Value}
    {change : Error' → Error}
    (permitted : ∀ error, allowed (change error)) :
    Reports allowed (computation.mapError change) := by
  cases computation with
  | error error => exact Reports.error (permitted error)
  | ok value => exact Reports.ok value

theorem mapM
    {compute : Value → Except Error Result}
    (each : ∀ value, Reports allowed (compute value))
    (values : List Value) :
    Reports allowed (values.mapM compute) := by
  induction values with
  | nil => exact Reports.ok []
  | cons value rest inductionHypothesis =>
      rw [List.mapM_cons]
      exact (each value).bind fun _ => inductionHypothesis.bind fun _ => Reports.ok _

end Reports

section State

variable {State : Type}

theorem run_bind
    (first : ExceptT Error (StateM State) Value)
    (next : Value → ExceptT Error (StateM State) Result)
    (state : State) :
    (first >>= next).run.run state =
      match first.run.run state with
      | (.ok value, after) => (next value).run.run after
      | (.error error, after) => (.error error, after) := by
  rcases computed : first.run.run state with ⟨outcome, after⟩
  rw [ExceptT.run_bind, StateT.run_bind, computed]
  cases outcome <;> rfl

/-- A sequence of two computations with a state succeeds if both do. -/
theorem run_bind_eq_ok
    {first : ExceptT Error (StateM State) Value}
    {next : Value → ExceptT Error (StateM State) Result}
    {state after : State}
    {result : Result} :
    (first >>= next).run.run state = (.ok result, after) ↔
      ∃ value between, first.run.run state = (.ok value, between) ∧
        (next value).run.run between = (.ok result, after) := by
  rw [run_bind]
  rcases first.run.run state with ⟨error | value, between⟩
  · exact iff_of_false nofun fun ⟨_, _, impossible, _⟩ => nomatch impossible
  · constructor
    · intro run
      exact ⟨value, between, rfl, run⟩
    · rintro ⟨_, _, equal, run⟩
      cases equal
      exact run

theorem run_pure_eq_ok
    {value result : Value}
    {state after : State} :
    ((pure value : ExceptT Error (StateM State) Value).run.run state = (.ok result, after)) ↔
      value = result ∧ state = after := by
  constructor
  · intro run
    cases run
    exact ⟨rfl, rfl⟩
  · rintro ⟨rfl, rfl⟩
    rfl

end State

end Checks
end Groth16
