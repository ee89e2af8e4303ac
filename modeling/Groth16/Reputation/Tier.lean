import Groth16.Field.Element

/-!
# Reputation tiers

Scores and thresholds run from 0 to 100. A tier is reached by every score from its
threshold on; tiers are numbered by level and named in lower case.
-/

namespace Groth16

/-- The tiers, from the lowest to the highest. -/
inductive Tier where
  | unverified
  | bronze
  | silver
  | gold
  | platinum
  deriving DecidableEq, Repr, Inhabited

/-- A name that no tier has. -/
structure UnknownTier where
  name : String
  deriving DecidableEq, Repr

/-- The wording for an unknown tier. -/
def UnknownTier.message (error : UnknownTier) : String := s!"Unknown tier: {error.name}"

instance : Refusal UnknownTier where
  kind := fun _ => "UnknownTier"
  message := UnknownTier.message

/-- The highest score and the highest threshold. -/
def maxScore : Nat := 100

/-- The score, unless it is above the highest one. -/
def checkScore (score : Nat) : Except FieldError Nat :=
  if maxScore < score then .error (.scoreOutOfRange score) else .ok score

namespace Tier

/-- All tiers, from the lowest to the highest. -/
def all : List Tier := [unverified, bronze, silver, gold, platinum]

/-- The number of the tier, from zero. -/
def level : Tier → Nat
  | unverified => 0
  | bronze => 1
  | silver => 2
  | gold => 3
  | platinum => 4

/-- The least score of the tier. -/
def threshold : Tier → Nat
  | unverified => 0
  | bronze => 25
  | silver => 50
  | gold => 75
  | platinum => 90

/-- The name of the tier. -/
def name : Tier → String
  | unverified => "unverified"
  | bronze => "bronze"
  | silver => "silver"
  | gold => "gold"
  | platinum => "platinum"

/-- The name of the tier as a title. -/
def title : Tier → String
  | unverified => "Unverified"
  | bronze => "Bronze"
  | silver => "Silver"
  | gold => "Gold"
  | platinum => "Platinum"

/-- Whether a score reaches the tier. -/
def qualifies (tier : Tier) (score : Nat) : Bool := score ≤ maxScore && tier.threshold ≤ score

/-- The highest tier whose threshold does not exceed the given one. -/
def ofThreshold? (threshold : Nat) : Except FieldError Tier := do
  let _ ← checkScore threshold
  return (all.reverse.find? fun tier => tier.threshold ≤ threshold).getD unverified

/-- The tier of the given level. -/
def ofLevel? (level : Nat) : Option Tier := all[level]?

/-- The tier of the given name, in any case of the Latin letters. -/
def ofName? (name : String) : Except UnknownTier Tier :=
  match all.find? fun tier => tier.name = String.ofList (name.toList.map Char.toLower) with
  | some tier => .ok tier
  | none => .error ⟨name⟩

/-- Tiers compare by level. -/
instance : Ord Tier := ⟨fun a b => compare a.level b.level⟩

end Tier
end Groth16
