import Mathlib
import ModelCompiler.Naming.Ranking
import ModelCompiler.Proofs.Naming.Distance
import ModelCompiler.Proofs.Naming.Words

/-!
# The order of scores

Scores are floating-point numbers, and these are ordered but for one value that is no number and
compares with nothing.  Every other one has a standing, and both its order and its equality are
those of the standings, so that the two zeros have one standing between them.

A score is no number only if something is divided by zero or both lengths are beyond all numbers.
The lengths of names are neither: up to 2 ^ 53 every whole number is stored exactly, because its
mantissa has room for all its bits.
-/

namespace ModelCompiler.Naming

open Float.Model (Format UnpackedFloat totalExponent)
open Float.Model.UnpackedFloat (ExtendedMantissa Sign roundWithAccuracy shiftToTargetExponent)

/-! ## Order -/

/-- Where a number stands: by its sign and kind, then by its exponent and its mantissa, which are
turned round for negative numbers. -/
def place : UnpackedFloat → ℤ ×ₗ ℤ ×ₗ ℤ
  | .infinity .negative => toLex (-2, toLex (0, 0))
  | .finite .negative m e _ => toLex (-1, toLex (-e, -m))
  | .zero _ | .notANumber => toLex (0, toLex (0, 0))
  | .finite .positive m e _ => toLex (1, toLex (e, m))
  | .infinity .positive => toLex (2, toLex (0, 0))

section

variable {a b : UnpackedFloat}

theorem compare_eq_lt_iff (ha : a.isNaN = false) (hb : b.isNaN = false) :
    a.compare b = some .lt ↔ place a < place b := by
  rcases a with (_ | _) | _ | _ | ⟨_ | _, m, e⟩ <;>
    rcases b with (_ | _) | _ | _ | ⟨_ | _, n, f⟩ <;>
    simp_all [UnpackedFloat.compare, UnpackedFloat.isNaN, place, Prod.Lex.toLex_lt_toLex,
      Ordering.then_eq_lt, Ordering.then_eq_gt, compare_lt_iff_lt, compare_gt_iff_gt]
  -- the infinities of opposite signs are compared by their signs alone
  · rfl

theorem compare_eq_eq_iff (ha : a.isNaN = false) (hb : b.isNaN = false) :
    a.compare b = some .eq ↔ place a = place b := by
  rcases a with (_ | _) | _ | _ | ⟨_ | _, m, e⟩ <;>
    rcases b with (_ | _) | _ | _ | ⟨_ | _, n, f⟩ <;>
    simp_all [UnpackedFloat.compare, UnpackedFloat.isNaN, place, Ordering.then_eq_eq]
  all_goals rfl

end

/-- Where a score stands in the order of numbers. -/
def standing (x : Float) : ℤ ×ₗ ℤ ×ₗ ℤ := place x.toModel.unpack

/-- One of two scores is less than the other, or they are equal. -/
def Comparable (x y : Float) : Prop := x < y ∨ (x == y) = true ∨ y < x

instance (x y : Float) : Decidable (Comparable x y) :=
  inferInstanceAs (Decidable (_ ∨ _ ∨ _))

variable {x y : Float}

theorem lt_iff_compare : x < y ↔ x.toModel.unpack.compare y.toModel.unpack = some .lt :=
  (decide_eq_true_iff (p := x.toModel < y.toModel)).trans (beq_iff_eq (α := Option Ordering))

theorem beq_iff_compare :
    (x == y) = true ↔ x.toModel.unpack.compare y.toModel.unpack = some .eq :=
  beq_iff_eq (α := Option Ordering)

theorem lt_iff_standing (hx : x.isNaN = false) (hy : y.isNaN = false) :
    x < y ↔ standing x < standing y :=
  lt_iff_compare.trans (compare_eq_lt_iff hx hy)

theorem beq_iff_standing (hx : x.isNaN = false) (hy : y.isNaN = false) :
    (x == y) = true ↔ standing x = standing y :=
  beq_iff_compare.trans (compare_eq_eq_iff hx hy)

/-- What compares with itself is a number. -/
theorem Comparable.isNaN_eq_false (h : Comparable x x) : x.isNaN = false := by
  cases u : x.toModel.unpack with
  | notANumber =>
    rw [Comparable, lt_iff_compare, beq_iff_compare, u] at h
    exact absurd h (by decide)
  | _ => simp [Float.isNaN, Float.Model.isNaN, u, UnpackedFloat.isNaN]

/-- Numbers compare with each other. -/
theorem comparable_of_isNaN (hx : x.isNaN = false) (hy : y.isNaN = false) : Comparable x y := by
  rw [Comparable, lt_iff_standing hx hy, beq_iff_standing hx hy, lt_iff_standing hy hx]
  exact lt_trichotomy _ _

/-! ## Numbers

What is computed is rounded and then stored.  Only a product, a quotient or a difference can turn
numbers into what is none. -/

/-- What is read back of a number that is stored. -/
def stored (u : UnpackedFloat) : UnpackedFloat :=
  .unpack .binary64 (UnpackedFloat.pack .binary64 u)

theorem isNaN_stored {u : UnpackedFloat} (h : u.isNaN = false) : (stored u).isNaN = false := by
  have full : UnpackedFloat.unpackExponent (UnpackedFloat.pack .binary64 u) = -1#11 →
      UnpackedFloat.unpackMantissa (UnpackedFloat.pack .binary64 u) = 0#52 := by
    fun_cases UnpackedFloat.pack .binary64 u with
    | case1 => cases h
    | case2 => simp [UnpackedFloat.packedInfinity]
    | case3 => simp [UnpackedFloat.packedZero]
    | case4 => simp [UnpackedFloat.packedInfinity]
    | case5 s m e _ _ biased fits =>
      intro same
      rw [UnpackedFloat.unpackExponent_packComponents] at same
      have below : ¬ 2 ^ 11 ≤ biased + 1 := fits
      have all : biased % 2 ^ 11 = 2047 := congrArg BitVec.toNat same
      omega
    | case6 => simp
  unfold stored UnpackedFloat.unpack
  dsimp only
  split_ifs with infinite whole
  all_goals first | rfl | exact absurd (full infinite) whole

section

variable {s : Sign} {m n : Nat} {e : Int}

theorem isNaN_roundWithAccuracy (a : UnpackedFloat.Accuracy) :
    (roundWithAccuracy .binary64 s m e a).isNaN = false := by
  unfold roundWithAccuracy
  dsimp only
  split_ifs <;> rfl

theorem isNaN_normalize (z : Int) : (UnpackedFloat.normalize .binary64 z e s).isNaN = false := by
  unfold UnpackedFloat.normalize
  split
  · exact isNaN_roundWithAccuracy _
  · rfl
  · exact isNaN_roundWithAccuracy _

/-- A number with a full mantissa that is neither very great nor very small. -/
def Moderate (u : UnpackedFloat) : Prop :=
  ∃ s m e pos, u = .finite s m e pos ∧ m.log2 = 52 ∧ -52 ≤ e ∧ e ≤ 0

theorem Moderate.isNaN_sub {u v : UnpackedFloat} (hu : Moderate u) (hv : v.isNaN = false) :
    (UnpackedFloat.sub .binary64 u v).isNaN = false := by
  obtain ⟨s, m, e, pos, rfl, -⟩ := hu
  cases v with
  | notANumber => cases hv
  | infinity | zero => rfl
  | finite => exact isNaN_normalize _

theorem Moderate.isNaN_div {u v : UnpackedFloat} (hu : u = .zero .positive ∨ Moderate u)
    (hv : Moderate v) : (UnpackedFloat.div .binary64 u v).isNaN = false := by
  obtain ⟨s, m, e, pos, rfl, -⟩ := hv
  obtain rfl | ⟨s, m, e, pos, rfl, -⟩ := hu
  · rfl
  · exact isNaN_roundWithAccuracy _

/-! ## Exact numbers -/

theorem log2_mul_two_pow (h : n ≠ 0) (k : Nat) : (n * 2 ^ k).log2 = n.log2 + k := by
  induction k with
  | zero => simp
  | succ k ih =>
    have next : n * 2 ^ k ≠ 0 := by simp [h]
    rw [show n * 2 ^ (k + 1) = 2 * (n * 2 ^ k) by ring, Nat.log2_two_mul next, ih, add_assoc]

theorem shiftRight_mul_two_pow (m k : Nat) :
    (⟨m * 2 ^ k, false, false⟩ : ExtendedMantissa) >>> k = ⟨m, false, false⟩ := by
  change k.repeat ExtendedMantissa.shiftRightOne ⟨m * 2 ^ k, false, false⟩ = _
  induction k generalizing m with
  | zero => simp [Nat.repeat]
  | succ k ih =>
    rw [Nat.repeat, show m * 2 ^ (k + 1) = 2 * m * 2 ^ k by ring, ih (2 * m)]
    simp [ExtendedMantissa.shiftRightOne]

theorem shiftToTargetExponent_eq (hm : m.log2 = 52) (he : -52 ≤ e) (k : Nat) :
    shiftToTargetExponent .binary64 (m * 2 ^ k) (e - k) .exact = (⟨m, false, false⟩, e) := by
  have some : m ≠ 0 := by
    rintro rfl
    cases hm
  have target : Format.binary64.targetExponent (totalExponent (m * 2 ^ k) (e - k)) = e := by
    simp only [Format.targetExponent, totalExponent, Format.mantissaBits, Format.minExponent,
      log2_mul_two_pow some, hm]
    omega
  have amount : (e - (e - k)).toNat = k := by omega
  simp only [shiftToTargetExponent, target, UnpackedFloat.shiftToExponent, amount,
    ExtendedMantissa.ofMantissaAndAccuracy, shiftRight_mul_two_pow, Int.sub_add_cancel]

/-- No bits are lost with zeros at the end of a mantissa. -/
theorem roundWithAccuracy_eq (pos : 0 < m) (hm : m.log2 = 52) (he : -52 ≤ e) (k : Nat) :
    roundWithAccuracy .binary64 s (m * 2 ^ k) (e - k) .exact = .finite s m e pos := by
  have again := shiftToTargetExponent_eq hm he 0
  rw [pow_zero, mul_one, Nat.cast_zero, sub_zero] at again
  unfold roundWithAccuracy
  rw [shiftToTargetExponent_eq hm he]
  simp [ExtendedMantissa.roundedMantissa, ExtendedMantissa.accuracy,
    UnpackedFloat.Accuracy.roundToNearestEven, again, pos.ne']

theorem moderate_normalize (some : 0 < n) (hn : n < 2 ^ 53) :
    Moderate (UnpackedFloat.normalize .binary64 n 0 .positive) := by
  have room : n.log2 ≤ 52 := by
    have := (Nat.log2_lt some.ne').2 hn
    omega
  have log : (n * 2 ^ (52 - n.log2)).log2 = 52 := by
    rw [log2_mul_two_pow some.ne']
    omega
  have target : Format.binary64.targetExponent (totalExponent n 0) = n.log2 - 52 := by
    simp only [Format.targetExponent, totalExponent, Format.mantissaBits, Format.minExponent]
    omega
  have amount : (0 - (n.log2 - 52 : Int)).toNat = 52 - n.log2 := by omega
  have pos : 0 < n * 2 ^ (52 - n.log2) := by positivity
  have exact := roundWithAccuracy_eq (s := .positive) (e := n.log2 - 52) pos log (by omega) 0
  refine ⟨.positive, n * 2 ^ (52 - n.log2), n.log2 - 52, pos, ?_, log, by omega, by omega⟩
  rw [pow_zero, mul_one, Nat.cast_zero, sub_zero] at exact
  have whole : compare (n : Int) 0 = .gt := compare_gt_iff_gt.2 (by omega)
  have lowered : (0 : Int) - ((52 - n.log2 : Nat) : Int) = n.log2 - 52 := by omega
  rw [← exact, UnpackedFloat.normalize, whole]
  simp only [Int.toNat_natCast, UnpackedFloat.round, target, UnpackedFloat.decreaseExponent, amount,
    Nat.shiftLeft_eq, lowered]

theorem Moderate.stored {u : UnpackedFloat} (h : Moderate u) : Moderate (stored u) := by
  obtain ⟨s, m, e, pos, rfl, hm, he, he'⟩ := h
  obtain ⟨least, most⟩ := (Nat.log2_eq_iff pos.ne').1 hm
  have mantissa : (1#1 ++ BitVec.ofNat 52 m).toNat = m := by
    rw [BitVec.toNat_append, ← Nat.shiftLeft_add_eq_or_of_lt (BitVec.isLt _), BitVec.toNat_ofNat,
      Nat.shiftLeft_eq, BitVec.toNat_ofNat]
    omega
  obtain ⟨biased, same⟩ : ∃ biased : Nat, (biased : Int) = e + 1075 := ⟨(e + 1075).toNat, by omega⟩
  have exponent : (BitVec.ofNat 11 biased).toNat = biased := by
    rw [BitVec.toNat_ofNat]
    omega
  have nonzero : BitVec.ofNat 11 biased ≠ 0#11 := by
    refine fun h => absurd (congrArg BitVec.toNat h) ?_
    rw [exponent, BitVec.toNat_ofNat]
    omega
  have notFull : BitVec.ofNat 11 biased ≠ -1#11 := by
    refine fun h => absurd (congrArg BitVec.toNat h) ?_
    rw [exponent, show (-1#11 : BitVec 11).toNat = 2047 from rfl]
    omega
  have bias : Format.binary64.exponentBias = 1023 := rfl
  have bits : Format.binary64.mantissaBits = 53 := rfl
  have inner : (e + ((1023 : Nat) : Int) + ((52 : Nat) : Int)).toNat = biased := by omega
  have packed : UnpackedFloat.pack .binary64 (.finite s m e pos) =
      UnpackedFloat.packComponents .binary64 s (BitVec.ofNat 11 biased) (BitVec.ofNat 52 m) := by
    rw [UnpackedFloat.pack]
    dsimp only
    rw [bias, bits, hm, inner, if_neg (by omega), if_pos (by omega)]
  rw [Naming.stored, packed, UnpackedFloat.unpack]
  dsimp only
  simp only [UnpackedFloat.unpackExponent_packComponents,
    UnpackedFloat.unpackMantissa_packComponents]
  rw [if_neg notFull, if_neg nonzero]
  refine ⟨_, _, _, _, rfl, by rw [mantissa, hm], ?_⟩
  rw [exponent, bias]
  omega

end

/-! ## Whole numbers and scores -/

theorem unpack_mul (x y : Float) : (x * y).toModel.unpack =
    stored (.mul .binary64 x.toModel.unpack y.toModel.unpack) := rfl

theorem unpack_div (x y : Float) : (x / y).toModel.unpack =
    stored (.div .binary64 x.toModel.unpack y.toModel.unpack) := rfl

/-- A whole number is made as that many times one. -/
theorem moderate_ofNat {n : Nat} (some : 0 < n) (hn : n < 2 ^ 53) :
    Moderate (Float.ofNat n).toModel.unpack := by
  have wide : n.toUInt64.toNat = n := by
    rw [UInt64.toNat_ofNat']
    omega
  have whole : n.toUInt64.toFloat.toModel.unpack =
      stored (UnpackedFloat.normalize .binary64 n 0 .positive) := by
    change stored (UnpackedFloat.normalize .binary64 n.toUInt64.toNat 0 .positive) = _
    rw [wide]
  have one : ∃ pos, (Float.exactlyRepresentablePowersOfTen[0]).toModel.unpack =
    .finite .positive (2 ^ 52) (-52) pos := ⟨by decide, by rfl⟩
  have made : Float.ofNat n = n.toUInt64.toFloat * Float.exactlyRepresentablePowersOfTen[0] :=
    dif_pos ⟨hn, Nat.zero_le 22⟩
  obtain ⟨pos, one⟩ := one
  obtain ⟨s, m, e, pos', same, hm, he, he'⟩ := (moderate_normalize some hn).stored
  rw [made, unpack_mul, whole, one, same]
  refine Moderate.stored ⟨s * .positive, m, e, pos', ?_, hm, he, he'⟩
  exact roundWithAccuracy_eq pos' hm he 52

/-- The score of texts of usual length is a number. -/
theorem isNaN_similarity {a b : String} (ha : a.toList.length < 2 ^ 53)
    (hb : b.toList.length < 2 ^ 53) : (similarity a b).isNaN = false := by
  have least : distance a.toList b.toList ≤ max a.toList.length b.toList.length := by
    rw [distance_eq_cost]
    exact cost_le_max _ _
  unfold similarity
  dsimp only
  split
  · rfl
  · rename_i long
    have longest : Moderate (Float.ofNat (max a.toList.length b.toList.length)).toModel.unpack :=
      moderate_ofNat (by omega) (by omega)
    have edits : (Float.ofNat (distance a.toList b.toList)).toModel.unpack = .zero .positive ∨
        Moderate (Float.ofNat (distance a.toList b.toList)).toModel.unpack := by
      rcases Nat.eq_zero_or_pos (distance a.toList b.toList) with same | some
      · rw [same]
        exact .inl rfl
      · exact .inr (moderate_ofNat some (by omega))
    have one : Moderate (1.0 : Float).toModel.unpack :=
      ⟨.positive, 2 ^ 52, -52, by decide, by rfl, by decide, by decide, by decide⟩
    have part := isNaN_stored (Moderate.isNaN_div edits longest)
    rw [← unpack_div] at part
    exact isNaN_stored (one.isNaN_sub part)

/-- The scores of names of usual length are numbers, so that every two of them compare. -/
theorem comparable_nameSimilarity {want m n : String} (hw : want.toList.length < 2 ^ 53)
    (hm : m.toList.length < 2 ^ 53) (hn : n.toList.length < 2 ^ 53) :
    Comparable (nameSimilarity want m) (nameSimilarity want n) := by
  have short {s : String} (h : s.toList.length < 2 ^ 53) :
      (normalForm s).toList.length < 2 ^ 53 := (length_normalForm_le s).trans_lt h
  exact comparable_of_isNaN (isNaN_similarity (short hw) (short hm))
    (isNaN_similarity (short hw) (short hn))

end ModelCompiler.Naming
