import Groth16.Tower.Quadratic

/-!
# Points of a short Weierstrass curve

Curves `y ^ 2 = x ^ 3 + b` over any field, their points in affine and in homogeneous
projective form, and the complete addition and doubling formulas, which have no
exceptional cases. The projective point `(x : y : z)` stands for `(x / z, y / z)`, and
for the identity when `z` is zero.
-/

namespace Groth16

/-- The curve `y ^ 2 = x ^ 3 + b` with a chosen generator. -/
structure Curve (F : Type) where
  /-- The name under which points of the curve are shown. -/
  name : String
  b : F
  /-- Three times `b`, which the complete formulas use. -/
  b3 : F
  generatorX : F
  generatorY : F

/-- A field with an inversion that refuses zero. -/
class PartialInverse (F : Type) where
  inverse? : F → Option F

instance {F : FieldParameters} : PartialInverse (FieldElement F) := ⟨FieldElement.inverse?⟩
instance : PartialInverse Fq2 := ⟨Fq2.inverse?⟩

variable {F : Type}

/-- A point in affine form. There is one identity, which has no coordinates of its own and is
written with zeros for them. -/
inductive AffinePoint (C : Curve F) where
  | identity
  | finite (x y : F)
  deriving DecidableEq, Inhabited

/-- A point in homogeneous projective form. -/
structure ProjectivePoint (C : Curve F) where
  x : F
  y : F
  z : F
  deriving Inhabited

variable {C : Curve F} [Zero F] [One F] [Add F] [Sub F] [Neg F] [Mul F]

namespace AffinePoint

/-- The generator of the curve. -/
def generator : AffinePoint C := finite C.generatorX C.generatorY

/-- Whether the point is the identity. -/
def isIdentity : AffinePoint C → Bool
  | identity => true
  | finite _ _ => false

/-- Whether the point satisfies the curve equation, as the identity does. -/
@[specialize]
def isOnCurve [DecidableEq F] : AffinePoint C → Bool
  | identity => true
  | finite x y => y * y = x * x * x + C.b

/-- The negative of the point. -/
protected def neg : AffinePoint C → AffinePoint C
  | identity => identity
  | finite x y => finite x (-y)

instance : Neg (AffinePoint C) := ⟨AffinePoint.neg⟩

/-- The point in projective form. -/
def toProjective : AffinePoint C → ProjectivePoint C
  | identity => ⟨0, 1, 0⟩
  | finite x y => ⟨x, y, 1⟩

end AffinePoint

namespace ProjectivePoint

/-- The identity `(0 : 1 : 0)`. -/
def identity : ProjectivePoint C := ⟨0, 1, 0⟩

/-- The generator of the curve. -/
def generator : ProjectivePoint C := AffinePoint.generator.toProjective

/-- Whether the point stands for the identity. -/
@[specialize]
def isIdentity [DecidableEq F] (P : ProjectivePoint C) : Bool := P.z = 0

/-- The point in affine form. -/
@[specialize]
def toAffine [PartialInverse F] (P : ProjectivePoint C) : AffinePoint C :=
  match PartialInverse.inverse? P.z with
  | some zInverse => .finite (P.x * zInverse) (P.y * zInverse)
  | none => .identity

/-- The sum, by the complete formula for curves of this shape. -/
@[specialize]
protected def add (P Q : ProjectivePoint C) : ProjectivePoint C :=
  let xx := P.x * Q.x
  let yy := P.y * Q.y
  let zz := P.z * Q.z
  let xy := (P.x + P.y) * (Q.x + Q.y) - (xx + yy)
  let yz := (P.y + P.z) * (Q.y + Q.z) - (yy + zz)
  let xz := (P.x + P.z) * (Q.x + Q.z) - (xx + zz)
  let xx3 := xx + xx + xx
  let bzz := C.b3 * zz
  let bxz := C.b3 * xz
  let yyPlus := yy + bzz
  let yyMinus := yy - bzz
  ⟨xy * yyMinus - yz * bxz, yyMinus * yyPlus + bxz * xx3, yyPlus * yz + xx3 * xy⟩

/-- The sum of the point with itself, by the complete formula for doubling. -/
@[specialize]
def double (P : ProjectivePoint C) : ProjectivePoint C :=
  let yy := P.y * P.y
  let yy2 := yy + yy
  let yy4 := yy2 + yy2
  let yy8 := yy4 + yy4
  let yz := P.y * P.z
  let bzz := C.b3 * (P.z * P.z)
  let yyMinus := yy - (bzz + bzz + bzz)
  let half := yyMinus * (P.x * P.y)
  ⟨half + half, bzz * yy8 + yyMinus * (yy + bzz), yz * yy8⟩

/-- The negative of the point. -/
protected def neg (P : ProjectivePoint C) : ProjectivePoint C := ⟨P.x, -P.y, P.z⟩

instance : Add (ProjectivePoint C) := ⟨ProjectivePoint.add⟩
instance : Neg (ProjectivePoint C) := ⟨ProjectivePoint.neg⟩

/-- The sum with the negative. -/
@[specialize]
protected def sub (P Q : ProjectivePoint C) : ProjectivePoint C := P.add Q.neg

instance : Sub (ProjectivePoint C) := ⟨ProjectivePoint.sub⟩

/-- The sum with a point in affine form. -/
@[specialize]
def addAffine (P : ProjectivePoint C) (Q : AffinePoint C) : ProjectivePoint C :=
  P.add Q.toProjective

/-- Whether two projective forms stand for the same point, compared across the denominators. -/
@[specialize]
def represents [DecidableEq F] (P Q : ProjectivePoint C) : Bool :=
  P.x * Q.z = Q.x * P.z && P.y * Q.z = Q.y * P.z

/-- The multiple by the number of the given binary digits, most significant first. -/
@[specialize]
def mulBits (P : ProjectivePoint C) (digits : List Bool) : ProjectivePoint C :=
  digits.foldl (fun acc digit => if digit then acc.double.add P else acc.double) identity

/-- The multiple by the number of the given words, least significant first. -/
@[specialize]
def mulWords (P : ProjectivePoint C) (words : List UInt64) : ProjectivePoint C :=
  P.mulBits (words.reverse.flatMap Word.bits)

/-- A step of the ladder, which keeps two multiples that differ by the point itself: both
are doubled or added, according to the digit. -/
@[specialize]
def ladderStep
    (rungs : ProjectivePoint C × ProjectivePoint C)
    (digit : Bool) : ProjectivePoint C × ProjectivePoint C :=
  if digit then (rungs.2.add rungs.1, rungs.2.double) else (rungs.1.double, rungs.1.add rungs.2)

/-- The multiple by the number of the given binary digits, most significant first, by the
ladder. -/
@[specialize]
def ladder (P : ProjectivePoint C) (digits : List Bool) : ProjectivePoint C :=
  (digits.foldl ladderStep (identity, P)).1

/-- The multiple by a scalar, by the ladder over all its 256 binary digits. -/
@[specialize]
def mul (P : ProjectivePoint C) (scalar : Fr) : ProjectivePoint C :=
  P.ladder scalar.canonical.bits

end ProjectivePoint
end Groth16
