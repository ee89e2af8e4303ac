import Groth16.Pairing.Basic
import Groth16.Proofs.Pairing.Miller

/-!
# The shared loop is a product of loops

Each pair contributes its own product to the shared loop, so the loop over many pairs is the
product of the loops over single pairs, and so is the pairing.
-/

namespace Groth16
namespace Pairing

/-- Processes one digit for a track with its own product. -/
def digitTrack (state : Fq12 × Track) (digit : Int) : Fq12 × Track :=
  if digit = 0 then moveTrack Track.double (state.1.square, state.2)
  else moveTrack (Track.addDigit digit) (moveTrack Track.double (state.1.square, state.2))

/-- The additions after the digits. -/
def closeTrack (state : Fq12 × Track) : Fq12 × Track :=
  moveTrack Track.subFrobeniusSquared (moveTrack Track.addFrobenius state)

/-- The product of the line values of one track. -/
def trackProduct (digits : List Int) (track : Track) : Fq12 :=
  (closeTrack (digits.foldl digitTrack (1, track))).1

/-- The shared state of tracks with their own products. -/
def combine (states : List (Fq12 × Track)) : MillerState :=
  ⟨(states.map (·.1)).prod, states.map (·.2)⟩

theorem foldl_mulLine
    (moved : List (Line × Track))
    (product : Fq12) :
    moved.foldl (fun product (line, track) => track.mulLine product line) product =
      product * (moved.map fun step =>
        lineValue step.2.px step.2.py step.1.c0 step.1.c1 step.1.c2).prod := by
  induction moved generalizing product with
  | nil => rw [List.foldl_nil, List.map_nil, List.prod_nil, mul_one]
  | cons step rest inductionHypothesis =>
      rw [List.foldl_cons, inductionHypothesis, List.map_cons, List.prod_cons, ← mul_assoc]
      exact congrArg (· * _) (mulLine_eq step.2 product step.1)

theorem advance_combine
    (step : Track → Line × Track)
    (states : List (Fq12 × Track)) :
    (combine states).advance step = combine (states.map (moveTrack step)) := by
  simp only [MillerState.advance, combine, foldl_mulLine, MillerState.mk.injEq]
  constructor
  · simp only [List.map_map, ← List.prod_map_mul]
    congr 1
    apply List.map_congr_left
    intro state _
    exact (mulLine_eq _ _ _).symm
  · simp only [List.map_map]
    rfl

theorem prod_map_square (factors : List Fq12) :
    factors.prod.square = (factors.map Fq12.square).prod := by
  induction factors with
  | nil => rw [List.prod_nil, List.map_nil, List.prod_nil, Fq12.square_eq, one_pow]
  | cons factor rest inductionHypothesis =>
      rw [List.prod_cons, List.map_cons, List.prod_cons, ← inductionHypothesis, Fq12.square_eq,
        Fq12.square_eq, Fq12.square_eq, mul_pow]

theorem processDigit_combine
    (states : List (Fq12 × Track))
    (digit : Int) :
    (combine states).processDigit digit = combine (states.map (digitTrack · digit)) := by
  have squared : { combine states with product := (combine states).product.square } =
      combine (states.map fun state => (state.1.square, state.2)) := by
    simp only [combine, prod_map_square, List.map_map]
    rfl
  rw [MillerState.processDigit, squared, advance_combine]
  by_cases zero : digit = 0
  · simp only [zero, digitTrack, if_true, List.map_map]
    rfl
  · simp only [zero, digitTrack, if_false, advance_combine, List.map_map]
    rfl

theorem foldl_processDigit_combine
    (digits : List Int)
    (states : List (Fq12 × Track)) :
    digits.foldl MillerState.processDigit (combine states) =
      combine (states.map (digits.foldl digitTrack ·)) := by
  induction digits generalizing states with
  | nil => simp only [List.foldl_nil, List.map_id']
  | cons digit rest inductionHypothesis =>
      rw [List.foldl_cons, processDigit_combine, inductionHypothesis, List.map_map]
      rfl

theorem start_eq (pairs : List (G1.Affine × G2.Affine)) :
    MillerState.start pairs =
      combine ((pairs.filterMap Track.ofPair?).map fun track => (1, track)) := by
  simp only [MillerState.start, combine, List.map_map, MillerState.mk.injEq]
  constructor
  · symm
    apply List.prod_eq_one
    intro factor member
    obtain ⟨track, _, rfl⟩ := List.mem_map.mp member
    rfl
  · exact (List.map_id' _).symm

theorem product_foldl_processDigit
    (digits : List Int)
    (tracks : List Track) :
    (((digits.foldl MillerState.processDigit (combine (tracks.map fun track => (1, track)))).advance
        Track.addFrobenius).advance Track.subFrobeniusSquared).product =
      (tracks.map (trackProduct digits)).prod := by
  rw [foldl_processDigit_combine, advance_combine, advance_combine]
  simp only [combine, List.map_map]
  rfl

/-- The shared loop is the product of the loops of the tracks. -/
theorem millerLoop_eq (pairs : List (G1.Affine × G2.Affine)) :
    millerLoop pairs = ((pairs.filterMap Track.ofPair?).map (trackProduct ateDigits)).prod := by
  rw [millerLoop, start_eq]
  exact product_foldl_processDigit ateDigits _

theorem millerLoop_append (left right : List (G1.Affine × G2.Affine)) :
    millerLoop (left ++ right) = millerLoop left * millerLoop right := by
  rw [millerLoop_eq, millerLoop_eq, millerLoop_eq, List.filterMap_append, List.map_append,
    List.prod_append]

theorem millerLoop_eq_one
    {pairs : List (G1.Affine × G2.Affine)}
    (noTrack : ∀ pair ∈ pairs, Track.ofPair? pair = none) :
    millerLoop pairs = 1 := by
  rw [millerLoop_eq, List.filterMap_eq_nil_iff.mpr noTrack, List.map_nil, List.prod_nil]

/-- Pairs without a track have the product one. -/
theorem pairingProduct_eq_one
    {pairs : List (G1.Affine × G2.Affine)}
    (noTrack : ∀ pair ∈ pairs, Track.ofPair? pair = none) :
    pairingProduct pairs = 1 := by
  rw [pairingProduct, millerLoop_eq_one noTrack, finalExponentiation_one]

theorem pairing_eq_one
    {P : G1.Affine}
    {Q : G2.Affine}
    (noTrack : Track.ofPair? (P, Q) = none) :
    pairing P Q = 1 :=
  pairingProduct_eq_one fun _ member => List.mem_singleton.mp member ▸ noTrack

/-- Pairs in two parts have the product of the two products. -/
theorem pairingProduct_append (left right : List (G1.Affine × G2.Affine)) :
    pairingProduct (left ++ right) = pairingProduct left * pairingProduct right := by
  rw [pairingProduct, millerLoop_append, finalExponentiation_mul, ← pairingProduct,
    ← pairingProduct]

theorem pairingProduct_nil : pairingProduct [] = 1 :=
  pairingProduct_eq_one fun _ member => absurd member List.not_mem_nil

theorem pairingProduct_cons
    (pair : G1.Affine × G2.Affine)
    (pairs : List (G1.Affine × G2.Affine)) :
    pairingProduct (pair :: pairs) = pairing pair.1 pair.2 * pairingProduct pairs :=
  pairingProduct_append [pair] pairs

/-- The value of the pairing is multiplicative in the list of pairs. -/
theorem pairingProduct_eq (pairs : List (G1.Affine × G2.Affine)) :
    (pairingProduct pairs).value =
      (pairs.map fun pair => (pairing pair.1 pair.2).value).prod := by
  induction pairs with
  | nil => rw [pairingProduct_nil, List.map_nil, List.prod_nil, Gt.value_one]
  | cons pair rest inductionHypothesis =>
      rw [pairingProduct_cons, List.map_cons, List.prod_cons, ← inductionHypothesis, Gt.value_mul]

end Pairing
end Groth16
