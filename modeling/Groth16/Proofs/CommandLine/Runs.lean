import Groth16.CommandLine.Session
import Groth16.Proofs.Host.Tree

/-!
# Runs of commands

A command that runs on a file tree ends with a value or a failure, and leaves what it printed and
the files. It is run one step after the other, up to the first one that fails.
-/

namespace Groth16
namespace CommandM

variable {α β ε : Type}

/-- The result of a command, all that was printed and the files, after it ran on the files and
something had been printed before. -/
def runOn (body : CommandM α) (printed : String) (tree : FileTree) :
    Except Failure α × String × FileTree :=
  let ((outcome, printed), after) := (body.run.run printed).run tree
  (outcome, printed, after)

theorem runOn_pure (value : α) (printed : String) (tree : FileTree) :
    (pure value : CommandM α).runOn printed tree = (.ok value, printed, tree) := rfl

theorem runOn_bind
    (first : CommandM α)
    (next : α → CommandM β)
    (printed : String)
    (tree : FileTree) :
    (first >>= next).runOn printed tree =
      match first.runOn printed tree with
      | (.ok value, printed, after) => (next value).runOn printed after
      | (.error failure, printed, after) => (.error failure, printed, after) := by
  unfold runOn
  rcases computed : (first.run.run printed).run tree with ⟨⟨outcome, between⟩, after⟩
  rw [ExceptT.run_bind, StateT.run_bind, HostM.run_bind, computed]
  cases outcome <;> rfl

theorem runOn_host (body : HostM α) (printed : String) (tree : FileTree) :
    (host body).runOn printed tree = (.ok (body.run tree).1, printed, (body.run tree).2) := by
  have run : ((host body).run.run printed).run tree =
      ((.ok (body.run tree).1, printed), (body.run tree).2) := by
    change (((body >>= fun value => pure (value, printed)) >>=
      fun (value, printed) => pure (Except.ok value, printed) : HostM _)).run tree = _
    rw [HostM.run_bind, HostM.run_bind]
    rfl
  rw [runOn, run]

theorem runOn_print (text printed : String) (tree : FileTree) :
    (print text).runOn printed tree = (.ok (), printed ++ text, tree) := rfl

theorem runOn_ofExcept [Refusal ε] (result : Except ε α) (printed : String) (tree : FileTree) :
    (ofExcept result).runOn printed tree = (result.mapError Failure.ofReason, printed, tree) := by
  cases result <;> rfl

theorem runOn_during
    [Refusal ε]
    (headline : String)
    (result : Except ε α)
    (printed : String)
    (tree : FileTree) :
    (during headline result).runOn printed tree =
      (result.mapError fun reason => .during headline (.ofReason reason), printed, tree) := by
  cases result <;> rfl

/-- The access to the host does not fail. -/
theorem runOn_host_bind
    (body : HostM α)
    (next : α → CommandM β)
    (printed : String)
    (tree : FileTree) :
    (host body >>= next).runOn printed tree =
      (next (body.run tree).1).runOn printed (body.run tree).2 := by
  rw [runOn_bind, runOn_host]

section Success

variable [Refusal ε] {result : Except ε α} {next : α → CommandM β} {printed output : String}
  {tree after : FileTree} {value : β}

theorem runOn_ofExcept_bind_eq_ok :
    (ofExcept result >>= next).runOn printed tree = (.ok value, output, after) ↔
      ∃ found, result = .ok found ∧
        (next found).runOn printed tree = (.ok value, output, after) := by
  rw [runOn_bind, runOn_ofExcept]
  cases result with
  | error reason => exact iff_of_false nofun fun ⟨_, impossible, _⟩ => nomatch impossible
  | ok found => simp only [Except.mapError, Except.ok.injEq, exists_eq_left']

theorem runOn_during_bind_eq_ok {headline : String} :
    (during headline result >>= next).runOn printed tree = (.ok value, output, after) ↔
      ∃ found, result = .ok found ∧
        (next found).runOn printed tree = (.ok value, output, after) := by
  rw [runOn_bind, runOn_during]
  cases result with
  | error reason => exact iff_of_false nofun fun ⟨_, impossible, _⟩ => nomatch impossible
  | ok found => simp only [Except.mapError, Except.ok.injEq, exists_eq_left']

end Success

end CommandM

/-- A session with the key of a path that prints for people, in an empty environment. -/
def Session.plain (keyPath : Option String) : Session where
  surroundings := ⟨"/", "/", fun _ => none, 0, Weight.ofNat⟩
  keyPath := keyPath
  policy := ⟨0, 0, none⟩
  engine := {}
  json := false
  quiet := false

end Groth16
