import Groth16.Artifact.Document
import Groth16.Proofs.Artifact.NumeralFormat

/-!
# What lists of coordinates denote

A point is written as a list of two or three coordinates. If the third one is absent or one, the
list denotes the point of the other two; if it is zero, the identity. Of a third coordinate only
one thing is read: whether it is taken for zero. So what a list denotes is read from it exactly if
the third coordinate is one, or zero without the mark `0X`. Other texts in this place are passed
over, and some of them are taken for zero without being numerals.
-/

namespace Groth16

namespace Numeral

/-- The text writes the number of 256 bits, perhaps with white space around it. -/
def Writes (value : String) (n : Nat) : Prop :=
  n < 2 ^ 256 ∧ Denotes (Text.trim value.toList) n

theorem writes_iff
    {value : String}
    {n : Nat} :
    Writes value n ↔ n < 2 ^ 256 ∧ parse value = .ok (Scalar.ofNat n) := by
  refine and_congr_right fun small => ?_
  rw [parse_eq_ok_iff, Scalar.toNat_ofNat small]

/-- A text writes one number only. -/
theorem Writes.unique
    {value : String}
    {n m : Nat}
    (writes : Writes value n)
    (writesOther : Writes value m) :
    n = m := by
  obtain ⟨small, read⟩ := writes_iff.mp writes
  obtain ⟨smallOther, readOther⟩ := writes_iff.mp writesOther
  have same : Scalar.ofNat n = Scalar.ofNat m := Except.ok.inj (read.symm.trans readOther)
  rw [Scalar.ofNat_eq_iff small, Scalar.toNat_ofNat smallOther] at same
  exact same

/-- Whatever is read from a text are the bytes of a number that it writes. -/
theorem exists_writes_of_parse
    {value : String}
    {scalar : Scalar}
    (read : parse value = .ok scalar) :
    ∃ n, Writes value n ∧ Bytes.ofNat 32 n = scalar.val := by
  have again := (Scalar.ofNat_eq_iff scalar.toNat_lt).mpr rfl
  exact ⟨_, ⟨scalar.toNat_lt, parse_eq_ok_iff.mp read⟩, congrArg Subtype.val again⟩

/-- The list writes a pair of numbers, of which the second one comes first in the byte form. -/
inductive WritesPair : List String → List UInt8 → Prop
  | pair
    {real imaginary : String}
    {n m : Nat}
    (writesReal : Writes real n)
    (writesImaginary : Writes imaginary m) :
    WritesPair [real, imaginary] (Bytes.ofNat 32 m ++ Bytes.ofNat 32 n)

theorem writesPair_of_parse
    {real imaginary : String}
    {first second : Scalar}
    (readReal : parse real = .ok first)
    (readImaginary : parse imaginary = .ok second) :
    WritesPair [real, imaginary] (second.val ++ first.val) := by
  obtain ⟨n, writesReal, equal⟩ := exists_writes_of_parse readReal
  obtain ⟨m, writesImaginary, equalOther⟩ := exists_writes_of_parse readImaginary
  rw [← equal, ← equalOther]
  exact .pair writesReal writesImaginary

/-! ## Zero as a third coordinate -/

/-- The text is taken for zero in the place of a third coordinate: it has no digits but zeros,
after any number of marks `0x`. -/
def IsTakenForZero (value : String) : Prop :=
  ∃ marks zeros, Text.trim value.toList =
    (List.replicate marks ['0', 'x']).flatten ++ List.replicate zeros '0'

/-- The text begins with the mark `0X`. -/
def HasCapitalMark (value : String) : Prop :=
  ∃ digits, Text.trim value.toList = '0' :: 'X' :: digits

theorem dropMarks_of_not_mem
    {text : List Char}
    (absent : 'x' ∉ text) :
    isZeroNumeral.dropMarks text = text := by
  unfold isZeroNumeral.dropMarks
  split
  · exact absurd (List.mem_cons_of_mem _ List.mem_cons_self) absent
  · rfl

theorem all_eq_zero_iff
    {text : List Char} :
    text.all (· == '0') = true ↔ ∀ c ∈ text, c = '0' := by
  simp only [List.all_eq_true, beq_iff_eq]

theorem isZeroNumeral_iff
    {value : String} :
    isZeroNumeral value = true ↔ IsTakenForZero value := by
  unfold isZeroNumeral IsTakenForZero
  generalize Text.trim value.toList = text
  constructor
  · intro zero
    fun_induction isZeroNumeral.dropMarks text with
    | case1 rest inductionHypothesis =>
        obtain ⟨marks, zeros, rfl⟩ := inductionHypothesis zero
        exact ⟨marks + 1, zeros, by rw [List.replicate_succ]; rfl⟩
    | case2 text _ =>
        refine ⟨0, text.length, ?_⟩
        exact List.eq_replicate_of_mem (all_eq_zero_iff.mp zero)
  · rintro ⟨marks, zeros, rfl⟩
    induction marks with
    | zero =>
        have absent : 'x' ∉ List.replicate zeros '0' := by
          intro member
          cases List.eq_of_mem_replicate member
        rw [List.replicate_zero, List.flatten_nil, List.nil_append, dropMarks_of_not_mem absent,
          all_eq_zero_iff]
        exact fun c member => List.eq_of_mem_replicate member
    | succ marks inductionHypothesis =>
        rw [List.replicate_succ]
        exact inductionHypothesis

/-- The number of digits is zero only if all of them are. -/
theorem ofDigitChars_eq_zero_iff
    {digits : List Char}
    {n : Nat}
    (areDigits : ∀ c ∈ digits, c.isDigit = true) :
    Nat.ofDigitChars 10 digits n = 0 ↔ n = 0 ∧ ∀ c ∈ digits, c = '0' := by
  induction digits generalizing n with
  | nil => exact (and_iff_left nofun).symm
  | cons c rest inductionHypothesis =>
      obtain ⟨digit, restDigits⟩ := List.forall_mem_cons.mp areDigits
      obtain ⟨low, -⟩ := Char.isDigit_iff_toNat.mp digit
      have isZero : c.toNat - '0'.toNat = 0 ↔ c = '0' := by
        rw [← Char.toNat_inj]
        change 48 ≤ c.toNat at low
        change c.toNat - 48 = 0 ↔ c.toNat = 48
        omega
      rw [Nat.ofDigitChars_cons, inductionHypothesis restDigits, List.forall_mem_cons,
        Nat.add_eq_zero_iff, Nat.mul_eq_zero, or_iff_right (by decide), isZero, and_assoc]

/-- A numeral is taken for zero exactly if it denotes zero, unless it begins with `0X`. -/
theorem isTakenForZero_iff
    {value : String}
    {n : Nat}
    (writes : Writes value n) :
    IsTakenForZero value ↔ n = 0 ∧ ¬HasCapitalMark value := by
  rw [← isZeroNumeral_iff, isZeroNumeral, HasCapitalMark]
  have denotes := writes.2
  generalize Text.trim value.toList = text at denotes ⊢
  cases denotes with
  | decimal isDecimal =>
      have digits := isDecimal.digits
      have value_eq := isDecimal.value_eq
      rw [String.toList_ofList] at digits value_eq
      have absent : 'x' ∉ text := fun member => nomatch digits 'x' member
      have unmarked : ¬∃ rest, text = '0' :: 'X' :: rest := by
        rintro ⟨rest, rfl⟩
        exact nomatch digits 'X' (List.mem_cons_of_mem _ List.mem_cons_self)
      rw [dropMarks_of_not_mem absent, all_eq_zero_iff, and_iff_left unmarked, ← value_eq,
        ofDigitChars_eq_zero_iff digits, and_iff_right rfl]
  | @hexadecimal _ digits _ isMark _ isNumber =>
      rcases isMark with rfl | rfl
      · have absent : 'x' ∉ digits := Hex.not_mem_of_value? isNumber (by decide)
        have unmarked : ¬∃ rest, '0' :: 'x' :: digits = '0' :: 'X' :: rest := by
          rintro ⟨rest, impossible⟩
          cases impossible
        rw [isZeroNumeral.dropMarks, dropMarks_of_not_mem absent, all_eq_zero_iff,
          and_iff_left unmarked, Hex.eq_zero_iff isNumber]
      · have absent : 'x' ∉ '0' :: 'X' :: digits := by
          have absent : 'x' ∉ digits := Hex.not_mem_of_value? isNumber (by decide)
          simpa using absent
        rw [dropMarks_of_not_mem absent]
        exact iff_of_false nofun fun both => both.2 ⟨digits, rfl⟩

end Numeral

/-! ## Lists of coordinates -/

/-- How the coordinates of a group are written. -/
structure CoordinateFormat (Coordinate : Type) where
  /-- The number of bytes of a point. -/
  size : Nat
  /-- The coordinate has as many parts as it should. -/
  IsCoordinate : Coordinate → Prop
  /-- The coordinate writes the number, or numbers, of these bytes. -/
  Writes : Coordinate → List UInt8 → Prop
  IsOne : Coordinate → Prop
  IsZero : Coordinate → Prop
  IsTakenForZero : Coordinate → Prop

namespace CoordinateFormat

variable {Coordinate : Type}

/-- What a list of coordinates denotes, as the bytes of a point. -/
inductive Denotes (F : CoordinateFormat Coordinate) : List Coordinate → List UInt8 → Prop
  | affine
    {x y : Coordinate}
    {px py : List UInt8}
    (writesX : F.Writes x px)
    (writesY : F.Writes y py) :
    Denotes F [x, y] (px ++ py)
  | finite
    {x y z : Coordinate}
    {px py : List UInt8}
    (writesX : F.Writes x px)
    (writesY : F.Writes y py)
    (one : F.IsOne z) :
    Denotes F [x, y, z] (px ++ py)
  | identity
    {x y z : Coordinate}
    (isX : F.IsCoordinate x)
    (isY : F.IsCoordinate y)
    (zero : F.IsZero z) :
    Denotes F [x, y, z] (List.replicate F.size 0)

/-- What is read from a list of coordinates. -/
inductive Gives (F : CoordinateFormat Coordinate) : List Coordinate → List UInt8 → Prop
  | affine
    {x y : Coordinate}
    {px py : List UInt8}
    (writesX : F.Writes x px)
    (writesY : F.Writes y py) :
    Gives F [x, y] (px ++ py)
  | finite
    {x y z : Coordinate}
    {px py : List UInt8}
    (writesX : F.Writes x px)
    (writesY : F.Writes y py)
    (isZ : F.IsCoordinate z)
    (nonzero : ¬F.IsTakenForZero z) :
    Gives F [x, y, z] (px ++ py)
  | identity
    {x y z : Coordinate}
    (isX : F.IsCoordinate x)
    (isY : F.IsCoordinate y)
    (isZ : F.IsCoordinate z)
    (zero : F.IsTakenForZero z) :
    Gives F [x, y, z] (List.replicate F.size 0)

/-- The third coordinate means to the reader what it denotes. -/
def IsFaithful (F : CoordinateFormat Coordinate) (z : Coordinate) : Prop :=
  F.IsOne z ∨ F.IsZero z ∧ F.IsTakenForZero z

/-- The coordinates of points of `G1` are numerals. -/
def g1 : CoordinateFormat String where
  size := 64
  IsCoordinate _ := True
  Writes x bytes := ∃ n, Numeral.Writes x n ∧ Bytes.ofNat 32 n = bytes
  IsOne z := Numeral.Writes z 1
  IsZero z := Numeral.Writes z 0
  IsTakenForZero := Numeral.IsTakenForZero

/-- The coordinates of points of `G2` are pairs of numerals. -/
def g2 : CoordinateFormat (List String) where
  size := 128
  IsCoordinate x := x.length = 2
  Writes := Numeral.WritesPair
  IsOne z := ∃ real imaginary, z = [real, imaginary] ∧ Numeral.Writes real 1 ∧
    Numeral.Writes imaginary 0
  IsZero z := z.length = 2 ∧ ∀ part ∈ z, Numeral.Writes part 0
  IsTakenForZero z := ∀ part ∈ z, Numeral.IsTakenForZero part

/-- What sets zero apart from the other numbers in a format. -/
structure IsLawful (F : CoordinateFormat Coordinate) : Prop where
  isCoordinate : ∀ {x bytes}, F.Writes x bytes → F.IsCoordinate x
  isCoordinate_one : ∀ {z}, F.IsOne z → F.IsCoordinate z
  isCoordinate_zero : ∀ {z}, F.IsZero z → F.IsCoordinate z
  two_mul_length : ∀ {x bytes}, F.Writes x bytes → 2 * bytes.length = F.size
  not_isZero : ∀ {z}, F.IsOne z → ¬F.IsZero z
  not_isTakenForZero : ∀ {z}, F.IsOne z → ¬F.IsTakenForZero z
  exists_nonzero : ∃ x bytes, F.Writes x bytes ∧ bytes ++ bytes ≠ List.replicate F.size 0

/-- A third coordinate that means what it denotes is necessary for reading what a list denotes, and
it is enough. -/
theorem IsLawful.forall_gives_iff_denotes
    {F : CoordinateFormat Coordinate}
    (lawful : F.IsLawful)
    {z : Coordinate}
    (isZ : F.IsCoordinate z) :
    (∀ x y bytes, F.Gives [x, y, z] bytes ↔ F.Denotes [x, y, z] bytes) ↔ F.IsFaithful z := by
  constructor
  · intro agree
    -- A point other than the identity tells the two readings of the third coordinate apart.
    obtain ⟨x, bytes, writes, nonzero⟩ := lawful.exists_nonzero
    have isX : F.IsCoordinate x := lawful.isCoordinate writes
    by_cases taken : F.IsTakenForZero z
    · have given : F.Gives [x, x, z] (List.replicate F.size 0) := .identity isX isX isZ taken
      generalize equal : (List.replicate F.size 0 : List UInt8) = zeros at given
      cases (agree x x zeros).mp given with
      | finite _ _ one => exact .inl one
      | identity _ _ zero => exact .inr ⟨zero, taken⟩
    · have given : F.Gives [x, x, z] (bytes ++ bytes) := .finite writes writes isZ taken
      generalize equal : bytes ++ bytes = total at given nonzero
      cases (agree x x total).mp given with
      | finite _ _ one => exact .inl one
      | identity _ _ _ => exact absurd rfl nonzero
  · intro faithful x y bytes
    constructor
    · intro given
      cases given with
      | finite writesX writesY _ nonzero =>
          rcases faithful with one | ⟨_, taken⟩
          · exact .finite writesX writesY one
          · exact absurd taken nonzero
      | identity isX isY _ taken =>
          rcases faithful with one | ⟨zero, _⟩
          · exact absurd taken (lawful.not_isTakenForZero one)
          · exact .identity isX isY zero
    · intro denoted
      cases denoted with
      | finite writesX writesY one =>
          exact .finite writesX writesY isZ (lawful.not_isTakenForZero one)
      | identity isX isY zero =>
          rcases faithful with one | ⟨_, taken⟩
          · exact absurd zero (lawful.not_isZero one)
          · exact .identity isX isY isZ taken

/-- The shape of a function that reads lists of coordinates: the third coordinate only says whether
the others are read. -/
structure IsReader
    (F : CoordinateFormat Coordinate)
    (read : List Coordinate → Except ArtifactError (List UInt8)) : Prop where
  affine : ∀ {x y bytes}, read [x, y] = .ok bytes ↔
    ∃ px py, F.Writes x px ∧ F.Writes y py ∧ px ++ py = bytes
  finite : ∀ {x y z}, F.IsCoordinate x → F.IsCoordinate y → F.IsCoordinate z →
    ¬F.IsTakenForZero z → read [x, y, z] = read [x, y]
  identity : ∀ {x y z}, F.IsCoordinate x → F.IsCoordinate y → F.IsCoordinate z →
    F.IsTakenForZero z → read [x, y, z] = .ok (List.replicate F.size 0)
  shape : ∀ {coordinates bytes}, read coordinates = .ok bytes →
    (coordinates.length = 2 ∨ coordinates.length = 3) ∧ ∀ x ∈ coordinates, F.IsCoordinate x

variable {F : CoordinateFormat Coordinate}
  {read : List Coordinate → Except ArtifactError (List UInt8)}

/-- What a reader gives is what is read from the list. -/
theorem IsReader.eq_ok_iff
    (reader : F.IsReader read)
    (lawful : F.IsLawful)
    {coordinates : List Coordinate}
    {bytes : List UInt8} :
    read coordinates = .ok bytes ↔ F.Gives coordinates bytes := by
  constructor
  · intro given
    obtain ⟨size, areCoordinates⟩ := reader.shape given
    match coordinates, size with
    | [x, y], _ =>
        obtain ⟨px, py, writesX, writesY, rfl⟩ := reader.affine.mp given
        exact .affine writesX writesY
    | [x, y, z], _ =>
        rw [List.forall_mem_cons, List.forall_mem_cons, List.forall_mem_singleton] at areCoordinates
        obtain ⟨isX, isY, isZ⟩ := areCoordinates
        by_cases taken : F.IsTakenForZero z
        · rw [reader.identity isX isY isZ taken] at given
          cases given
          exact .identity isX isY isZ taken
        · rw [reader.finite isX isY isZ taken] at given
          obtain ⟨px, py, writesX, writesY, rfl⟩ := reader.affine.mp given
          exact .finite writesX writesY isZ taken
  · intro given
    cases given with
    | affine writesX writesY => exact reader.affine.mpr ⟨_, _, writesX, writesY, rfl⟩
    | finite writesX writesY isZ nonzero =>
        rw [reader.finite (lawful.isCoordinate writesX) (lawful.isCoordinate writesY) isZ nonzero]
        exact reader.affine.mpr ⟨_, _, writesX, writesY, rfl⟩
    | identity isX isY isZ taken => exact reader.identity isX isY isZ taken

theorem Gives.length_eq
    (lawful : F.IsLawful)
    {coordinates : List Coordinate}
    {bytes : List UInt8}
    (given : F.Gives coordinates bytes) :
    bytes.length = F.size := by
  cases given with
  | affine writesX writesY =>
      have sizeX := lawful.two_mul_length writesX
      have sizeY := lawful.two_mul_length writesY
      rw [List.length_append]
      omega
  | finite writesX writesY =>
      have sizeX := lawful.two_mul_length writesX
      have sizeY := lawful.two_mul_length writesY
      rw [List.length_append]
      omega
  | identity => exact List.length_replicate

theorem isLawful_g1 : g1.IsLawful where
  isCoordinate _ := trivial
  isCoordinate_one _ := trivial
  isCoordinate_zero _ := trivial
  two_mul_length := by
    rintro x _ ⟨n, -, rfl⟩
    rw [Bytes.length_ofNat]
    rfl
  not_isZero one zero := absurd (one.unique zero) (by decide)
  not_isTakenForZero one taken := absurd ((Numeral.isTakenForZero_iff one).mp taken).1 (by decide)
  exists_nonzero := by
    have writes : Numeral.Writes "1" 1 := Numeral.writes_iff.mpr (by decide +kernel)
    exact ⟨"1", _, ⟨1, writes, rfl⟩, by decide +kernel⟩

theorem isLawful_g2 : g2.IsLawful where
  isCoordinate writes := by
    cases writes
    rfl
  isCoordinate_one := by
    rintro _ ⟨real, imaginary, rfl, -⟩
    rfl
  isCoordinate_zero zero := zero.1
  two_mul_length := by
    rintro _ _ ⟨-, -⟩
    rw [List.length_append, Bytes.length_ofNat, Bytes.length_ofNat]
    rfl
  not_isZero := by
    rintro _ ⟨real, imaginary, rfl, one, -⟩ ⟨-, zero⟩
    exact absurd (one.unique (zero real List.mem_cons_self)) (by decide)
  not_isTakenForZero := by
    rintro _ ⟨real, imaginary, rfl, one, -⟩ taken
    exact absurd ((Numeral.isTakenForZero_iff one).mp (taken real List.mem_cons_self)).1 (by decide)
  exists_nonzero := by
    have writes : Numeral.Writes "1" 1 := Numeral.writes_iff.mpr (by decide +kernel)
    exact ⟨["1", "1"], _, .pair writes writes, by decide +kernel⟩

theorem isReader_g1 : g1.IsReader g1BytesOfCoordinates where
  affine {x y bytes} := by
    constructor
    · intro read
      obtain ⟨px, readX, read⟩ := Checks.bind_eq_ok.mp read
      obtain ⟨py, readY, equal⟩ := Checks.bind_eq_ok.mp read
      exact ⟨_, _, Numeral.exists_writes_of_parse readX, Numeral.exists_writes_of_parse readY,
        Except.ok.inj equal⟩
    · rintro ⟨_, _, ⟨n, writesX, rfl⟩, ⟨m, writesY, rfl⟩, rfl⟩
      simp only [g1BytesOfCoordinates, (Numeral.writes_iff.mp writesX).2,
        (Numeral.writes_iff.mp writesY).2]
      rfl
  finite _ _ _ nonzero := if_neg (mt Numeral.isZeroNumeral_iff.mp nonzero)
  identity _ _ _ taken := if_pos (Numeral.isZeroNumeral_iff.mpr taken)
  shape {coordinates bytes} read := by
    refine ⟨?_, fun _ _ => trivial⟩
    unfold g1BytesOfCoordinates at read
    split at read
    · exact .inl rfl
    · exact .inr rfl
    · cases read

theorem isTakenForZero_g2_iff
    {real imaginary : String} :
    g2.IsTakenForZero [real, imaginary] ↔
      (isZeroNumeral real && isZeroNumeral imaginary) = true := by
  rw [Bool.and_eq_true, Numeral.isZeroNumeral_iff, Numeral.isZeroNumeral_iff]
  change (∀ part ∈ [real, imaginary], _) ↔ _
  rw [List.forall_mem_cons, List.forall_mem_singleton]

/-- The lists that are read at all consist of two or three pairs. -/
theorem shape_of_g2BytesOfCoordinates
    {coordinates : List (List String)}
    {bytes : List UInt8}
    (read : g2BytesOfCoordinates coordinates = .ok bytes) :
    (coordinates.length = 2 ∨ coordinates.length = 3) ∧
      ∀ x ∈ coordinates, g2.IsCoordinate x := by
  unfold g2BytesOfCoordinates at read
  split at read
  · exact ⟨.inl rfl, by simp [g2]⟩
  · exact ⟨.inr rfl, by simp [g2]⟩
  · cases read

theorem isReader_g2 : g2.IsReader g2BytesOfCoordinates where
  affine {x y bytes} := by
    constructor
    · intro read
      have areCoordinates := (shape_of_g2BytesOfCoordinates read).2
      rw [List.forall_mem_cons, List.forall_mem_singleton] at areCoordinates
      obtain ⟨x0, x1, rfl⟩ := List.length_eq_two.mp areCoordinates.1
      obtain ⟨y0, y1, rfl⟩ := List.length_eq_two.mp areCoordinates.2
      obtain ⟨px1, readX1, read⟩ := Checks.bind_eq_ok.mp read
      obtain ⟨px0, readX0, read⟩ := Checks.bind_eq_ok.mp read
      obtain ⟨py1, readY1, read⟩ := Checks.bind_eq_ok.mp read
      obtain ⟨py0, readY0, equal⟩ := Checks.bind_eq_ok.mp read
      refine ⟨_, _, Numeral.writesPair_of_parse readX0 readX1,
        Numeral.writesPair_of_parse readY0 readY1, ?_⟩
      rw [← List.append_assoc]
      exact Except.ok.inj equal
    · rintro ⟨_, _, ⟨writesX0, writesX1⟩, ⟨writesY0, writesY1⟩, rfl⟩
      simp only [g2BytesOfCoordinates, (Numeral.writes_iff.mp writesX0).2,
        (Numeral.writes_iff.mp writesX1).2, (Numeral.writes_iff.mp writesY0).2,
        (Numeral.writes_iff.mp writesY1).2, ← List.append_assoc]
      rfl
  finite {x y z} isX isY isZ nonzero := by
    obtain ⟨x0, x1, rfl⟩ := List.length_eq_two.mp isX
    obtain ⟨y0, y1, rfl⟩ := List.length_eq_two.mp isY
    obtain ⟨z0, z1, rfl⟩ := List.length_eq_two.mp isZ
    exact if_neg (mt isTakenForZero_g2_iff.mpr nonzero)
  identity {x y z} isX isY isZ taken := by
    obtain ⟨x0, x1, rfl⟩ := List.length_eq_two.mp isX
    obtain ⟨y0, y1, rfl⟩ := List.length_eq_two.mp isY
    obtain ⟨z0, z1, rfl⟩ := List.length_eq_two.mp isZ
    exact if_pos (isTakenForZero_g2_iff.mp taken)
  shape := shape_of_g2BytesOfCoordinates

theorem isFaithful_g1_iff
    {z : String} :
    g1.IsFaithful z ↔
      Numeral.Writes z 1 ∨ Numeral.Writes z 0 ∧ ¬Numeral.HasCapitalMark z := by
  refine or_congr_right (and_congr_right fun zero => ?_)
  exact (Numeral.isTakenForZero_iff zero).trans (and_iff_right rfl)

theorem isFaithful_g2_iff
    {z : List String} :
    g2.IsFaithful z ↔
      g2.IsOne z ∨ g2.IsZero z ∧ ∀ part ∈ z, ¬Numeral.HasCapitalMark part := by
  refine or_congr_right (and_congr_right fun zero => forall₂_congr fun part member => ?_)
  exact (Numeral.isTakenForZero_iff (zero.2 part member)).trans (and_iff_right rfl)

/-- For which coordinates after the first two a reader gives what every list denotes. -/
theorem IsReader.forall_eq_ok_iff
    (reader : F.IsReader read)
    (lawful : F.IsLawful)
    (rest : List Coordinate) :
    (∀ x y bytes, read (x :: y :: rest) = .ok bytes ↔ F.Denotes (x :: y :: rest) bytes) ↔
      ∀ z, rest = [z] → F.IsCoordinate z → F.IsFaithful z := by
  simp only [reader.eq_ok_iff lawful]
  match rest with
  | [] =>
      refine iff_of_true (fun x y bytes => ⟨?_, ?_⟩) nofun
      · rintro ⟨writesX, writesY⟩
        exact .affine writesX writesY
      · rintro ⟨writesX, writesY⟩
        exact .affine writesX writesY
  | [z] =>
      by_cases isZ : F.IsCoordinate z
      · rw [lawful.forall_gives_iff_denotes isZ]
        constructor
        · rintro faithful _ ⟨⟩ -
          exact faithful
        · exact fun faithful => faithful z rfl isZ
      · refine iff_of_true (fun x y bytes => iff_of_false ?_ ?_) ?_
        · intro given
          cases given with
          | finite _ _ isCoordinate => exact isZ isCoordinate
          | identity _ _ isCoordinate => exact isZ isCoordinate
        · intro denoted
          cases denoted with
          | finite _ _ one => exact isZ (lawful.isCoordinate_one one)
          | identity _ _ zero => exact isZ (lawful.isCoordinate_zero zero)
        · rintro _ ⟨⟩ isCoordinate
          exact absurd isCoordinate isZ
  | _ :: _ :: _ => exact iff_of_true (fun x y bytes => iff_of_false nofun nofun) nofun

/-- Both functions read what a list denotes, whatever its first two coordinates are, exactly if a
third one is one, or zero without the mark `0X`. -/
theorem coordinates_read_iff_denoted
    (rest : List String)
    (restOfPairs : List (List String)) :
    (∀ coordinates bytes,
        g1BytesOfCoordinates coordinates = .ok bytes ↔ g1.Gives coordinates bytes) ∧
      (∀ coordinates bytes,
        g2BytesOfCoordinates coordinates = .ok bytes ↔ g2.Gives coordinates bytes) ∧
      ((∀ x y bytes, g1BytesOfCoordinates (x :: y :: rest) = .ok bytes ↔
          g1.Denotes (x :: y :: rest) bytes) ↔
        ∀ z, rest = [z] → g1.IsOne z ∨ g1.IsZero z ∧ ¬Numeral.HasCapitalMark z) ∧
      ((∀ x y bytes, g2BytesOfCoordinates (x :: y :: restOfPairs) = .ok bytes ↔
          g2.Denotes (x :: y :: restOfPairs) bytes) ↔
        ∀ z, restOfPairs = [z] → z.length = 2 →
          g2.IsOne z ∨ g2.IsZero z ∧ ∀ part ∈ z, ¬Numeral.HasCapitalMark part) := by
  refine ⟨fun _ _ => isReader_g1.eq_ok_iff isLawful_g1,
    fun _ _ => isReader_g2.eq_ok_iff isLawful_g2, ?_, ?_⟩
  · rw [isReader_g1.forall_eq_ok_iff isLawful_g1]
    exact forall₂_congr fun z _ => (forall_const True).trans isFaithful_g1_iff
  · rw [isReader_g2.forall_eq_ok_iff isLawful_g2]
    exact forall₃_congr fun z _ _ => isFaithful_g2_iff

/-- The list ends in a zero and is read as another point than the identity; a third coordinate of
two is passed over; an empty one, which is no numeral, is taken for zero. -/
theorem coordinates_read_ne_denoted :
    (Numeral.Writes "0X0" 0 ∧
        g1BytesOfCoordinates ["1", "2", "0X0"] = .ok (Bytes.ofNat 32 1 ++ Bytes.ofNat 32 2)) ∧
      (Numeral.Writes "2" 2 ∧
        g1BytesOfCoordinates ["1", "2", "2"] = .ok (Bytes.ofNat 32 1 ++ Bytes.ofNat 32 2)) ∧
      (∀ n, ¬Numeral.Writes "" n) ∧
        g1BytesOfCoordinates ["1", "2", ""] = .ok (List.replicate 64 0) := by
  refine ⟨⟨Numeral.writes_iff.mpr ?_, ?_⟩, ⟨Numeral.writes_iff.mpr ?_, ?_⟩, fun n writes => ?_, ?_⟩
  · decide +kernel
  · decide +kernel
  · decide +kernel
  · decide +kernel
  · have read := (Numeral.writes_iff.mp writes).2
    cases read
  · decide +kernel

end CoordinateFormat

end Groth16
