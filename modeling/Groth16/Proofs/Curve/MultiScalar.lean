import Groth16.Curve.MultiScalar
import Groth16.Proofs.Arena.Demand
import Groth16.Proofs.Curve.Sum

/-!
# Sums of multiples by windows

The digits of a scalar are those of its number in the radix of the window. In each window,
the running sums over the buckets give the sum of the points with their digits as factors,
and the windows together give the sum of the multiples.
-/

namespace Groth16

namespace Limbs

/-- The bits of the number are those of its words. -/
theorem testBit_toNat (n : Limbs) (index : Nat) :
    n.toNat.testBit index = (n.word (index / 64)).toNat.testBit (index % 64) := by
  have nested : n.toNat =
      2 ^ 64 * (2 ^ 64 * (2 ^ 64 * n.w3.toNat + n.w2.toNat) + n.w1.toNat) + n.w0.toNat := by
    simp only [toNat]
    ring
  have l0 := Word.toNat_lt_radix n.w0
  have l1 := Word.toNat_lt_radix n.w1
  have l2 := Word.toNat_lt_radix n.w2
  have l3 := Word.toNat_lt_radix n.w3
  rw [nested, Nat.testBit_two_pow_mul_add _ l0, Nat.testBit_two_pow_mul_add _ l1,
    Nat.testBit_two_pow_mul_add _ l2]
  by_cases h0 : index < 64
  · rw [if_pos h0, Nat.div_eq_of_lt h0, Nat.mod_eq_of_lt h0, word]
  rw [if_neg h0]
  by_cases h1 : index < 128
  · rw [if_pos (by omega), show index / 64 = 1 by omega, show index % 64 = index - 64 by omega,
      word]
  rw [if_neg (by omega)]
  by_cases h2 : index < 192
  · rw [if_pos (by omega), show index / 64 = 2 by omega,
      show index % 64 = index - 64 - 64 by omega, word]
  rw [if_neg (by omega)]
  by_cases h3 : index < 256
  · rw [show index / 64 = 3 by omega, show index % 64 = index - 64 - 64 - 64 by omega, word]
  · have beyond : 4 ≤ index / 64 := by omega
    obtain ⟨more, equal⟩ := Nat.exists_eq_add_of_le' beyond
    rw [equal, word, UInt64.toNat_zero, Nat.zero_testBit]
    · exact Nat.testBit_eq_false_of_lt (l3.trans_le (Nat.pow_le_pow_right (by decide) (by omega)))
    all_goals omega

theorem testBit_word_eq_false (n : Limbs) {index bit : Nat} (large : 64 ≤ bit) :
    (n.word index).toNat.testBit bit = false :=
  Nat.testBit_eq_false_of_lt
    ((Word.toNat_lt_radix _).trans_le (Nat.pow_le_pow_right (by decide) large))

theorem testBit_shiftRight_word
    (w : UInt64)
    {shift : Nat}
    (small : shift < 64)
    (bit : Nat) :
    (w >>> UInt64.ofNat shift).toNat.testBit bit = w.toNat.testBit (shift + bit) := by
  rw [UInt64.toNat_shiftRight, UInt64.toNat_ofNat', Nat.testBit_shiftRight]
  congr 2
  omega

theorem testBit_shiftLeft_word
    (w : UInt64)
    {shift bit : Nat}
    (small : shift < 64)
    (inWord : bit < 64) :
    (w <<< UInt64.ofNat shift).toNat.testBit bit =
      (decide (shift ≤ bit) && w.toNat.testBit (bit - shift)) := by
  rw [UInt64.toNat_shiftLeft, UInt64.toNat_ofNat', Nat.testBit_mod_two_pow,
    Nat.testBit_shiftLeft, decide_eq_true inWord, Bool.true_and,
    show shift % 2 ^ 64 % 64 = shift by omega]

theorem toNat_lowMask
    {width : Nat}
    (narrow : width < 64) :
    (((1 : UInt64) <<< UInt64.ofNat width) - 1).toNat = 2 ^ width - 1 := by
  have fits : 2 ^ width < 2 ^ 64 := Nat.pow_lt_pow_right (by decide) narrow
  have positive : 0 < 2 ^ width := Nat.two_pow_pos width
  have one : ((1 : UInt64) <<< UInt64.ofNat width).toNat = 2 ^ width := by
    rw [UInt64.toNat_shiftLeft, UInt64.toNat_ofNat', UInt64.toNat_one, Nat.one_shiftLeft,
      show width % 2 ^ 64 % 64 = width by omega, Nat.mod_eq_of_lt fits]
  rw [UInt64.toNat_sub, one, UInt64.toNat_one]
  omega

/-- A digit that is cut out of the words is a digit of the number. -/
theorem digit_eq
    (n : Limbs)
    (offset : Nat)
    {width : Nat}
    (narrow : width < 64) :
    n.digit offset width = n.toNat / 2 ^ offset % 2 ^ width := by
  apply Nat.eq_of_testBit_eq
  intro bit
  rw [Nat.testBit_mod_two_pow, Nat.testBit_div_two_pow, testBit_toNat]
  unfold digit
  simp only [UInt64.toNat_and, Nat.testBit_and, toNat_lowMask narrow, Nat.testBit_two_pow_sub_one]
  rw [Bool.and_comm]
  by_cases inDigit : bit < width
  swap
  · rw [decide_eq_false inDigit, Bool.false_and, Bool.false_and]
  congr 1
  have shiftSmall : offset % 64 < 64 := Nat.mod_lt _ (by decide)
  -- The bit lies in the word of the offset, or in the next one after a carry.
  by_cases sameWord : offset % 64 + bit < 64
  · have index : (bit + offset) / 64 = offset / 64 := by omega
    have position : (bit + offset) % 64 = offset % 64 + bit := by omega
    rw [index, position]
    split
    next both =>
      rw [UInt64.toNat_or, Nat.testBit_or, testBit_shiftRight_word _ shiftSmall,
        testBit_shiftLeft_word _ (by omega) (by omega), decide_eq_false (by omega),
        Bool.false_and, Bool.or_false]
    next => rw [testBit_shiftRight_word _ shiftSmall]
  · have index : (bit + offset) / 64 = offset / 64 + 1 := by omega
    have position : (bit + offset) % 64 = bit - (64 - offset % 64) := by omega
    have beyond : (n.word (offset / 64)).toNat.testBit (offset % 64 + bit) = false :=
      testBit_word_eq_false n (by omega)
    rw [index, position]
    split
    next both =>
      rw [UInt64.toNat_or, Nat.testBit_or, testBit_shiftRight_word _ shiftSmall, beyond,
        testBit_shiftLeft_word _ (by omega) (by omega), decide_eq_true (by omega),
        Bool.true_and, Bool.false_or]
    next last =>
      rw [testBit_shiftRight_word _ shiftSmall, beyond]
      obtain ⟨more, equal⟩ : ∃ more, offset / 64 + 1 = more + 4 :=
        Nat.exists_eq_add_of_le' (by omega)
      rw [equal, word, UInt64.toNat_zero, Nat.zero_testBit]
      all_goals omega

end Limbs

section WeightedSum

variable {G : Type} [AddCommGroup G]

/-- The sum of the points, each with its position in the list as factor, counted from one. -/
def weightedSum : List G → G
  | [] => 0
  | point :: rest => point + rest.sum + weightedSum rest

theorem weightedSum_replicate_zero (count : Nat) :
    weightedSum (List.replicate count (0 : G)) = 0 := by
  induction count with
  | zero => rfl
  | succ count inductionHypothesis =>
      rw [List.replicate_succ, weightedSum, inductionHypothesis, List.sum_replicate, smul_zero,
        add_zero, add_zero]

theorem sum_modify_add
    {values : List G}
    {position : Nat}
    (inRange : position < values.length)
    (point : G) :
    (values.modify position (· + point)).sum = values.sum + point := by
  induction values generalizing position with
  | nil => exact absurd inRange (Nat.not_lt_zero _)
  | cons value rest inductionHypothesis =>
      cases position with
      | zero =>
          rw [List.modify_zero_cons, List.sum_cons, List.sum_cons]
          abel
      | succ position =>
          rw [List.modify_succ_cons, List.sum_cons, List.sum_cons,
            inductionHypothesis (Nat.lt_of_succ_lt_succ inRange), add_assoc]

/-- A point that is added in one place counts as often as the place says. -/
theorem weightedSum_modify_add
    {values : List G}
    {position : Nat}
    (inRange : position < values.length)
    (point : G) :
    weightedSum (values.modify position (· + point)) =
      weightedSum values + (position + 1) • point := by
  induction values generalizing position with
  | nil => exact absurd inRange (Nat.not_lt_zero _)
  | cons value rest inductionHypothesis =>
      cases position with
      | zero =>
          rw [List.modify_zero_cons, weightedSum, weightedSum, zero_add, one_nsmul]
          abel
      | succ position =>
          have inRest : position < rest.length := Nat.lt_of_succ_lt_succ inRange
          rw [List.modify_succ_cons, weightedSum, weightedSum, sum_modify_add inRest,
            inductionHypothesis inRest, succ_nsmul point (position + 1)]
          abel

end WeightedSum

theorem forall₂_modify
    {Left Right : Type}
    {relation : Left → Right → Prop}
    {left : List Left}
    {right : List Right}
    (related : List.Forall₂ relation left right)
    (position : Nat)
    {changeLeft : Left → Left}
    {changeRight : Right → Right}
    (keeps : ∀ {a b}, relation a b → relation (changeLeft a) (changeRight b)) :
    List.Forall₂ relation (left.modify position changeLeft)
      (right.modify position changeRight) := by
  induction related generalizing position with
  | nil => cases position <;> exact List.Forall₂.nil
  | cons head tail inductionHypothesis =>
      cases position with
      | zero => exact List.Forall₂.cons (keeps head) tail
      | succ position => exact List.Forall₂.cons head (inductionHypothesis position)

namespace ProjectivePoint

variable {F : Type} [Field F] [DecidableEq F] {C : Curve F} [Curve.Complete C]

/-- Every bucket denotes the point in the same place. -/
def BucketsDenote (buckets : Array (ProjectivePoint C)) (values : List C.Point) : Prop :=
  List.Forall₂ Denotes buckets.toList values

/-- The running sums over the buckets give the sum and the weighted sum. -/
theorem runningSums_denote
    {buckets : List (ProjectivePoint C)}
    {values : List C.Point}
    (denote : List.Forall₂ Denotes buckets values) :
    let sums := buckets.foldr
      (fun bucket (running, sum) =>
        let running := running.add bucket
        (running, sum.add running))
      (identity, identity)
    sums.1.Denotes values.sum ∧ sums.2.Denotes (weightedSum values) := by
  induction denote with
  | nil => exact ⟨denotes_identity, denotes_identity⟩
  | @cons bucket value rest restValues head _ inductionHypothesis =>
      have total : (value :: restValues).sum = restValues.sum + value := by
        rw [List.sum_cons]
        abel
      have weighted : weightedSum (value :: restValues) =
          weightedSum restValues + (restValues.sum + value) := by
        rw [weightedSum]
        abel
      have running := inductionHypothesis.1.add head
      rw [total, weighted]
      exact ⟨running, inductionHypothesis.2.add running⟩

theorem sumBuckets_denotes
    {buckets : Array (ProjectivePoint C)}
    {values : List C.Point}
    (denote : BucketsDenote buckets values) :
    (sumBuckets buckets).Denotes (weightedSum values) := by
  unfold sumBuckets
  rw [← Array.foldr_toList]
  exact (runningSums_denote denote).2

/-- The multiple of a point by a digit of its scalar. -/
def digitMultiple (width window : Nat) (term : AffinePoint C × Limbs) : C.Point :=
  term.2.digit (window * width) width • term.1.toPoint

/-- Putting a point into the bucket of its digit adds its multiple by the digit to the weighted
sum. -/
theorem bucket_denotes
    {width : Nat}
    (narrow : width < 64)
    (window : Nat)
    {term : AffinePoint C × Limbs}
    (onCurve : term.1.isOnCurve = true)
    {buckets : Array (ProjectivePoint C)}
    {values : List C.Point}
    (denote : BucketsDenote buckets values)
    (count : values.length = 2 ^ width - 1) :
    ∃ after : List C.Point,
      after.length = 2 ^ width - 1 ∧
      BucketsDenote
        (if term.2.digit (window * width) width = 0 then buckets
          else buckets.modify (term.2.digit (window * width) width - 1) (·.addAffine term.1))
        after ∧
      weightedSum after = weightedSum values + digitMultiple width window term := by
  have digitLt : term.2.digit (window * width) width < 2 ^ width := by
    rw [Limbs.digit_eq _ _ narrow]
    exact Nat.mod_lt _ (Nat.two_pow_pos width)
  unfold digitMultiple
  by_cases zero : term.2.digit (window * width) width = 0
  · rw [zero, zero_nsmul, add_zero, if_pos rfl]
    exact ⟨values, count, denote, rfl⟩
  · have inRange : term.2.digit (window * width) width - 1 < values.length := by omega
    rw [if_neg zero]
    refine ⟨values.modify (term.2.digit (window * width) width - 1) (· + term.1.toPoint),
      ?_, ?_, ?_⟩
    · rw [List.length_modify, count]
    · unfold BucketsDenote
      rw [Array.toList_modify]
      apply forall₂_modify denote
      intro bucket value bucketDenotes
      exact bucketDenotes.add (AffinePoint.toProjective_denotes_toPoint onCurve)
    · rw [weightedSum_modify_add inRange, Nat.sub_add_cancel (by omega)]

/-- Collecting points in buckets adds their multiples by the digits to the weighted sum. -/
theorem foldl_buckets_denote
    {width : Nat}
    (narrow : width < 64)
    (window : Nat)
    {terms : List (AffinePoint C × Limbs)}
    (onCurve : ∀ term ∈ terms, term.1.isOnCurve = true)
    {buckets : Array (ProjectivePoint C)}
    {values : List C.Point}
    (denote : BucketsDenote buckets values)
    (count : values.length = 2 ^ width - 1) :
    ∃ after : List C.Point,
      BucketsDenote (terms.foldl
        (fun buckets (P, scalar) =>
          let digit := scalar.digit (window * width) width
          if digit = 0 then buckets else buckets.modify (digit - 1) (·.addAffine P)) buckets)
        after ∧
      weightedSum after =
        weightedSum values + (terms.map (digitMultiple width window)).sum := by
  induction terms generalizing buckets values with
  | nil => exact ⟨values, denote, by rw [List.map_nil, List.sum_nil, add_zero]⟩
  | cons term rest inductionHypothesis =>
      obtain ⟨between, betweenCount, betweenDenote, betweenSum⟩ :=
        bucket_denotes narrow window (onCurve term List.mem_cons_self) denote count
      obtain ⟨after, afterDenote, afterSum⟩ := inductionHypothesis
        (fun other member => onCurve other (List.mem_cons_of_mem _ member))
        betweenDenote betweenCount
      refine ⟨after, afterDenote, ?_⟩
      rw [afterSum, betweenSum, List.map_cons, List.sum_cons, add_assoc]

/-- The buckets of a window add up to the multiples by the digits. -/
theorem window_denotes
    {width : Nat}
    (narrow : width < 64)
    (window : Nat)
    {terms : List (AffinePoint C × Limbs)}
    (onCurve : ∀ term ∈ terms, term.1.isOnCurve = true) :
    (sumBuckets (fillBuckets terms width window)).Denotes
      (terms.map (digitMultiple width window)).sum := by
  have start : BucketsDenote (Array.replicate (2 ^ width - 1) (identity : ProjectivePoint C))
      (List.replicate (2 ^ width - 1) 0) := by
    unfold BucketsDenote
    rw [Array.toList_replicate]
    induction 2 ^ width - 1 with
    | zero => exact List.Forall₂.nil
    | succ count inductionHypothesis =>
        exact List.Forall₂.cons denotes_identity inductionHypothesis
  obtain ⟨values, denote, sum⟩ :=
    foldl_buckets_denote narrow window onCurve start List.length_replicate
  rw [weightedSum_replicate_zero, zero_add] at sum
  rw [← sum]
  exact sumBuckets_denotes denote

theorem doubleTimes_denotes
    {P : ProjectivePoint C}
    {A : C.Point}
    (denotes : P.Denotes A)
    (times : Nat) :
    (P.doubleTimes times).Denotes (2 ^ times • A) := by
  unfold doubleTimes
  induction times with
  | zero =>
      rw [pow_zero, one_nsmul]
      exact denotes
  | succ times inductionHypothesis =>
      rw [pow_succ, mul_nsmul', two_nsmul, nsmul_add]
      exact inductionHypothesis.double

/-- The sum of the multiples by the digits from a window on. -/
def highMultiples
    (terms : List (AffinePoint C × Limbs))
    (width window : Nat) : C.Point :=
  (terms.map fun term => (term.2.toNat / 2 ^ (window * width)) • term.1.toPoint).sum

/-- A further window appends a digit to every scalar. -/
theorem highMultiples_step
    {width : Nat}
    (narrow : width < 64)
    (terms : List (AffinePoint C × Limbs))
    (window : Nat) :
    2 ^ width • highMultiples terms width (window + 1) +
        (terms.map (digitMultiple width window)).sum =
      highMultiples terms width window := by
  unfold highMultiples
  rw [List.smul_sum, List.map_map, ← List.sum_map_add]
  congr 1
  apply List.map_congr_left
  intro term _
  have digits : 2 ^ width * (term.2.toNat / 2 ^ ((window + 1) * width)) +
      term.2.toNat / 2 ^ (window * width) % 2 ^ width =
        term.2.toNat / 2 ^ (window * width) := by
    rw [Nat.succ_mul, pow_add, ← Nat.div_div_eq_div_mul]
    exact Nat.div_add_mod _ _
  rw [Function.comp_apply, digitMultiple, Limbs.digit_eq _ _ narrow, ← mul_nsmul', ← add_nsmul,
    digits]

/-- The windows from the highest down to the lowest one give the sum of the multiples. -/
theorem foldl_windows_denote
    {width : Nat}
    (narrow : width < 64)
    {terms : List (AffinePoint C × Limbs)}
    (onCurve : ∀ term ∈ terms, term.1.isOnCurve = true)
    (windows : Nat)
    {acc : ProjectivePoint C}
    (denotes : acc.Denotes (highMultiples terms width windows)) :
    ((List.range windows).reverse.foldl
      (fun acc window =>
        (acc.doubleTimes width).add (sumBuckets (fillBuckets terms width window)))
      acc).Denotes (highMultiples terms width 0) := by
  induction windows generalizing acc with
  | zero => exact denotes
  | succ windows inductionHypothesis =>
      rw [List.range_succ, List.reverse_append, List.reverse_singleton, List.singleton_append,
        List.foldl_cons]
      apply inductionHypothesis
      rw [← highMultiples_step narrow terms windows]
      exact (doubleTimes_denotes denotes width).add (window_denotes narrow windows onCurve)

theorem sumWindows_denotes
    {width : Nat}
    (narrow : width < 64)
    (positive : 0 < width)
    {terms : List (AffinePoint C × Limbs)}
    (onCurve : ∀ term ∈ terms, term.1.isOnCurve = true) :
    (sumWindows terms width).Denotes
      (terms.map fun term => term.2.toNat • term.1.toPoint).sum := by
  have lowest : highMultiples terms width 0 =
      (terms.map fun term => term.2.toNat • term.1.toPoint).sum := by
    unfold highMultiples
    simp only [Nat.zero_mul, pow_zero, Nat.div_one]
  have enough : 256 ≤ (256 + width - 1) / width * width := by
    have := Nat.div_add_mod (256 + width - 1) width
    have := Nat.mod_lt (256 + width - 1) positive
    rw [Nat.mul_comm]
    omega
  have highest : highMultiples terms width ((256 + width - 1) / width) = 0 := by
    unfold highMultiples
    apply List.sum_eq_zero
    intro point member
    obtain ⟨term, -, rfl⟩ := List.mem_map.mp member
    rw [Nat.div_eq_of_lt (term.2.toNat_lt.trans_le (Nat.pow_le_pow_right (by decide) enough)),
      zero_nsmul]
  rw [← lowest]
  apply foldl_windows_denote narrow onCurve
  rw [highest]
  exact denotes_identity

variable [Coordinate F]

/-- The number of bytes that a sum of multiples takes in an arena. -/
def multiScalarBytes (C : Curve F) (count : Nat) : Nat :=
  if count = 0 then 0 else 32 * count + storedSize C * (2 ^ windowWidth count - 1)

omit [Field F] [DecidableEq F] in
theorem eight_dvd_storedSize
    (words : 8 ∣ Coordinate.size F) :
    8 ∣ storedSize C :=
  words.mul_left 3

theorem windowWidth_bounds (count : Nat) : 0 < windowWidth count ∧ windowWidth count < 64 := by
  unfold windowWidth
  split
  · decide
  · split <;> decide

/-- The sum of the multiples of the points by the scalars, without an arena. -/
def multiScalarSum (points : List (AffinePoint C)) (scalars : List Fr) : ProjectivePoint C :=
  let terms := points.zip (scalars.map FieldElement.canonical)
  if terms.isEmpty then identity else sumWindows terms (windowWidth terms.length)

omit [Coordinate F] in
/-- Windows of any width give the sum of the multiples, as far as both lists go. -/
theorem sumWindows_zip_denotes
    {width : Nat}
    (narrow : width < 64)
    (positive : 0 < width)
    {points : List (AffinePoint C)}
    (onCurve : ∀ P ∈ points, P.isOnCurve = true)
    (scalars : List Fr) :
    (sumWindows (points.zip (scalars.map FieldElement.canonical)) width).Denotes
      ((points.zip scalars).map fun term => term.2.canonical.toNat • term.1.toPoint).sum := by
  have termsOnCurve : ∀ term ∈ points.zip (scalars.map FieldElement.canonical),
      term.1.isOnCurve = true := fun term member => onCurve _ (List.of_mem_zip member).1
  have sum := sumWindows_denotes narrow positive termsOnCurve
  rw [List.zip_map_right, List.map_map] at sum
  rw [List.zip_map_right]
  exact sum

omit [Coordinate F] in
/-- The sum of the multiples of points of the curve, as far as both lists go. -/
theorem multiScalarSum_denotes
    {points : List (AffinePoint C)}
    (onCurve : ∀ P ∈ points, P.isOnCurve = true)
    (scalars : List Fr) :
    (multiScalarSum points scalars).Denotes
      ((points.zip scalars).map fun term => term.2.canonical.toNat • term.1.toPoint).sum := by
  unfold multiScalarSum
  dsimp only
  split
  next empty =>
    rw [List.isEmpty_iff, List.zip_map_right, List.map_eq_nil_iff] at empty
    rw [empty]
    exact denotes_identity
  next =>
    obtain ⟨positive, narrow⟩ := windowWidth_bounds
      (points.zip (scalars.map FieldElement.canonical)).length
    exact sumWindows_zip_denotes narrow positive onCurve scalars

omit [DecidableEq F] [C.Complete] in
theorem multiScalarMul_takes
    (words : 8 ∣ Coordinate.size F)
    (points : List (AffinePoint C))
    (scalars : List Fr) :
    (multiScalarMul points scalars).Takes
      (multiScalarBytes C (points.zip scalars).length) (multiScalarSum points scalars) := by
  have lengthEq : (points.zip scalars).length =
      (points.zip (scalars.map FieldElement.canonical)).length := by
    rw [List.length_zip, List.length_zip, List.length_map]
  rw [lengthEq]
  unfold multiScalarMul multiScalarBytes multiScalarSum
  dsimp only
  generalize points.zip (scalars.map FieldElement.canonical) = terms
  cases terms with
  | nil => exact .pure identity
  | cons term rest =>
      have nonempty : (term :: rest).length ≠ 0 := Nat.succ_ne_zero _
      have notEmpty : ¬(term :: rest).isEmpty = true := Bool.eq_false_iff.mp List.isEmpty_cons
      rw [if_neg nonempty, if_neg notEmpty, if_neg notEmpty]
      refine .reserveItems (by decide) fun _ => ?_
      exact .reserveItems (eight_dvd_storedSize words) fun _ => .pure _

end ProjectivePoint
end Groth16
