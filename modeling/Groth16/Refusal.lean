/-!
# Refusals

What every error of the library has in common: a short name for programs and a wording for
people. Errors that wrap others keep the name of the outermost one and quote the inner
wording.
-/

namespace Groth16

/-- A type of reasons for which something is refused. -/
class Refusal (ε : Type) where
  /-- The short name of the reason. -/
  kind : ε → String
  /-- The wording of the reason. -/
  message : ε → String
  /-- The wordings of the reasons behind the reason, from the nearest to the deepest. -/
  causes : ε → List String := fun _ => []

/-- The wording of a reason and of all reasons behind it. -/
def Refusal.chain {ε : Type} [Refusal ε] (reason : ε) : List String :=
  message reason :: causes reason

end Groth16
