import Mathlib.FieldTheory.Finite.Basic
import Mathlib.NumberTheory.LegendreSymbol.Basic
import Mathlib.Tactic.FieldSimp
import Mathlib.Tactic.LinearCombination
import TokenFaucet.Curve.Ed25519
import TokenFaucet.Proofs.Curve.Modular

set_option autoImplicit false

attribute [local instance (2000)] instPowNat

namespace TokenFaucet.Curve.Ed25519

section Primes

open Curve.Modular (PrimeCertificate)

/-- Each number has its large factors before it, and the last one is the size of the field. -/
def certificates : List PrimeCertificate :=
  [⟨569003, 2, [2, 7, 97, 419]⟩,
    ⟨2773320623, 5, [2, 2437, 569003]⟩,
    ⟨72106336199, 7, [2, 13, 2773320623]⟩,
    ⟨8574133, 2, [2, 2, 3, 7, 103, 991]⟩,
    ⟨1919519569386763, 2, [2, 3, 7, 19, 47, 47, 127, 8574133]⟩,
    ⟨75445702479781427272750846543864801, 7,
      [2, 2, 2, 2, 2, 3, 3, 5, 5, 75707, 72106336199, 1919519569386763]⟩,
    ⟨430751, 17, [2, 5, 5, 5, 1723]⟩,
    ⟨31757755568855353, 10, [2, 2, 2, 3, 31, 107, 223, 4153, 430751]⟩,
    ⟨1923133, 2, [2, 2, 3, 43, 3727]⟩,
    ⟨74058212732561358302231226437062788676166966415465897661863160754340907, 2,
      [2, 3, 353, 57467, 132049, 1923133, 31757755568855353, 75445702479781427272750846543864801]⟩,
    ⟨p, 2,
      [2, 2, 3, 65147, 74058212732561358302231226437062788676166966415465897661863160754340907]⟩]

theorem prime_p : p.Prime := by
  have checked : PrimeCertificate.checkAll [] certificates = true := by decide +kernel
  have primes := PrimeCertificate.primes_of_checkAll (List.forall_mem_nil _) checked
  exact primes ⟨p, _, _⟩ (List.mem_of_getLast? rfl)

end Primes

instance fact_prime_p : Fact p.Prime :=
  ⟨prime_p⟩

section Field

theorem two_lt_p : 2 < p := by
  decide

theorem cast_two_ne_zero : (2 : ZMod p) ≠ 0 := by
  intro zero
  have divides : p ∣ 2 := (ZMod.natCast_eq_zero_iff 2 p).mp zero
  exact absurd (Nat.le_of_dvd (by decide) divides) (by decide)

/-- `-1` is a square. -/
theorem exists_unit : ∃ i : ZMod p, i ^ 2 = -1 := by
  have residue : p % 4 ≠ 3 := by decide
  obtain ⟨i, square⟩ := ZMod.exists_sq_eq_neg_one_iff.mpr residue
  exact ⟨i, by rw [sq, square]⟩

/-- `d` is not a square. -/
theorem not_isSquare_d : ¬ IsSquare (d : ZMod p) := by
  have zero : (d : ZMod p) ≠ 0 := by
    intro zero
    have residue : d % p = 0 := Nat.mod_eq_zero_of_dvd ((ZMod.natCast_eq_zero_iff d p).mp zero)
    exact absurd residue (by decide +kernel)
  have power : Modular.pow p d (p / 2) ≠ 1 := by decide +kernel
  rw [ZMod.euler_criterion p zero, ← Modular.pow_eq_one_iff (by decide)]
  exact power

theorem eq_zero_of_sq_eq {r w : ZMod p} (square : r ^ 2 = d * w ^ 2) : w = 0 := by
  by_contra zero
  apply not_isSquare_d
  refine ⟨r / w, ?_⟩
  field_simp
  rw [square]

end Field

section Points

/-- The points of the curve. -/
def OnCurve (u v : ZMod p) : Prop :=
  v ^ 2 - u ^ 2 = 1 + d * u ^ 2 * v ^ 2

variable {u v u' v' : ZMod p}

theorem product_sq_ne_one (on : OnCurve u v) (on' : OnCurve u' v') :
    (d * u * u' * v * v') ^ 2 ≠ 1 := by
  intro one
  obtain ⟨i, unit⟩ := exists_unit
  unfold OnCurve at on on'
  have plus : (i * u + d * u * u' * v * v' * v) ^ 2 = d * (u * v * (i * u' + v')) ^ 2 := by
    linear_combination u ^ 2 * unit + v ^ 2 * one + on -
      d * u ^ 2 * v ^ 2 * (on' + u' ^ 2 * unit) - one
  have minus : (i * u - d * u * u' * v * v' * v) ^ 2 = d * (u * v * (i * u' - v')) ^ 2 := by
    linear_combination u ^ 2 * unit + v ^ 2 * one + on -
      d * u ^ 2 * v ^ 2 * (on' + u' ^ 2 * unit) - one
  have zero : 2 * (d * u * u' * v * v') = 0 := by
    linear_combination d * u' * (eq_zero_of_sq_eq plus - eq_zero_of_sq_eq minus)
  have product : d * u * u' * v * v' = 0 := (mul_eq_zero.mp zero).resolve_left cast_two_ne_zero
  rw [product] at one
  norm_num at one

theorem one_add_ne_zero (on : OnCurve u v) (on' : OnCurve u' v') :
    1 + d * u * u' * v * v' ≠ 0 := by
  intro zero
  apply product_sq_ne_one on on'
  linear_combination (d * u * u' * v * v' - 1) * zero

theorem one_sub_ne_zero (on : OnCurve u v) (on' : OnCurve u' v') :
    1 - d * u * u' * v * v' ≠ 0 := by
  intro zero
  apply product_sq_ne_one on on'
  linear_combination -(1 + d * u * u' * v * v') * zero

/-- The sum of two points of the curve is one. -/
theorem OnCurve.sum (on : OnCurve u v) (on' : OnCurve u' v') :
    OnCurve ((u * v' + u' * v) / (1 + d * u * u' * v * v'))
      ((v * v' + u * u') / (1 - d * u * u' * v * v')) := by
  have plus := one_add_ne_zero on on'
  have minus := one_sub_ne_zero on on'
  obtain ⟨k, product⟩ : ∃ k, k = d * u * u' * v * v' := ⟨_, rfl⟩
  rw [← product] at plus minus ⊢
  unfold OnCurve at on on' ⊢
  field_simp
  subst product
  linear_combination
    ((v' ^ 2 - u' ^ 2) * (1 + (d * u * u' * v * v') ^ 2) -
      d * u' ^ 2 * v' ^ 2 * (v ^ 2 - u ^ 2 + 1 + d * u ^ 2 * v ^ 2)) * on +
    ((1 + d * u ^ 2 * v ^ 2) * (1 + (d * u * u' * v * v') ^ 2) -
      d * u ^ 2 * v ^ 2 * (v' ^ 2 - u' ^ 2 + 1 + d * u' ^ 2 * v' ^ 2)) * on'

end Points

section Extended

/-- A point in extended coordinates is the point `(u, v)` of the curve. -/
structure Represents (a : Point) (u v : ZMod p) : Prop where
  z_ne_zero : (a.z : ZMod p) ≠ 0
  x_eq : (a.x : ZMod p) = u * a.z
  y_eq : (a.y : ZMod p) = v * a.z
  t_eq : (a.t : ZMod p) = u * v * a.z
  onCurve : OnCurve u v

variable {a b : Point} {u v u' v' : ZMod p}

theorem represents_ofAffine {x y : Nat} (on : OnCurve (x : ZMod p) (y : ZMod p)) :
    Represents (ofAffine x y) x y := by
  constructor
  · simp [ofAffine]
  · simp [ofAffine]
  · simp [ofAffine]
  · simp [ofAffine]
  · exact on

theorem represents_neutral : Represents neutral 0 1 := by
  constructor
  · simp [neutral]
  · simp [neutral]
  · simp [neutral]
  · simp [neutral]
  · simp [OnCurve]

/-- The coordinates of a sum are products of two, of which the third has both denominators. -/
theorem Represents.coordinates (of : Represents a u v) (of' : Represents b u' v') {s k : ZMod p}
    (scale : s = 2 * a.z * b.z) (product : k = d * u * u' * v * v') :
    ((add a b).x : ZMod p) = s * (u * v' + u' * v) * (s * (1 - k)) ∧
    ((add a b).y : ZMod p) = s * (1 + k) * (s * (v * v' + u * u')) ∧
    ((add a b).z : ZMod p) = s * (1 - k) * (s * (1 + k)) ∧
    ((add a b).t : ZMod p) = s * (u * v' + u' * v) * (s * (v * v' + u * u')) := by
  have positive : 0 < p := prime_p.pos
  simp only [add, ZMod.natCast_mod, Nat.cast_mul, Nat.cast_add, Nat.cast_ofNat,
    Modular.cast_sub positive, of.x_eq, of.y_eq, of.t_eq, of'.x_eq, of'.y_eq, of'.t_eq, scale, product]
  refine ⟨?_, ?_, ?_, ?_⟩ <;> ring

theorem Represents.add (of : Represents a u v) (of' : Represents b u' v') :
    Represents (add a b) ((u * v' + u' * v) / (1 + d * u * u' * v * v'))
      ((v * v' + u * u') / (1 - d * u * u' * v * v')) := by
  have plus := one_add_ne_zero of.onCurve of'.onCurve
  have minus := one_sub_ne_zero of.onCurve of'.onCurve
  obtain ⟨k, product⟩ : ∃ k, k = d * u * u' * v * v' := ⟨_, rfl⟩
  obtain ⟨s, scale⟩ : ∃ s : ZMod p, s = 2 * a.z * b.z := ⟨_, rfl⟩
  obtain ⟨x_eq, y_eq, z_eq, t_eq⟩ := of.coordinates of' scale product
  have nonzero : s ≠ 0 := by
    rw [scale]
    exact mul_ne_zero (mul_ne_zero cast_two_ne_zero of.z_ne_zero) of'.z_ne_zero
  rw [← product] at plus minus ⊢
  constructor
  · rw [z_eq]
    exact mul_ne_zero (mul_ne_zero nonzero minus) (mul_ne_zero nonzero plus)
  · rw [x_eq, z_eq]
    field_simp
  · rw [y_eq, z_eq]
    field_simp
  · rw [t_eq, z_eq]
    field_simp
  · rw [product]
    exact of.onCurve.sum of'.onCurve

/-- A point in extended coordinates is one of the curve. -/
def IsOn (a : Point) : Prop :=
  ∃ u v, Represents a u v

theorem isOn_neutral : IsOn neutral :=
  ⟨0, 1, represents_neutral⟩

theorem isOn_base : IsOn base := by
  have residues : base.y * base.y % p =
      (base.x * base.x + (1 + d * (base.x * base.x) * (base.y * base.y))) % p := by
    decide +kernel
  have on : OnCurve (base.x : ZMod p) (base.y : ZMod p) := by
    have equation := (ZMod.natCast_eq_natCast_iff' _ _ p).mpr residues
    simp only [Nat.cast_mul, Nat.cast_add, Nat.cast_one] at equation
    unfold OnCurve
    linear_combination equation
  exact ⟨_, _, represents_ofAffine on⟩

theorem IsOn.add (on : IsOn a) (on' : IsOn b) : IsOn (add a b) := by
  obtain ⟨u, v, of⟩ := on
  obtain ⟨u', v', of'⟩ := on'
  exact ⟨_, _, of.add of'⟩

theorem isOn_multiple (k : Nat) (on : IsOn a) (on' : IsOn b) : IsOn (multiple k a b) := by
  fun_induction multiple k a b with
  | case1 => exact on'
  | case2 k a b more ih =>
      apply ih (on.add on)
      split
      · exact on'.add on
      · exact on'

end Extended

section Compressed

variable {u v w n : Nat}

theorem sq_mod_eq_iff (below : w < p) : n * n % p = w ↔ (n : ZMod p) ^ 2 = w := by
  have residue : w % p = w := Nat.mod_eq_of_lt below
  rw [sq, ← Nat.cast_mul, ZMod.natCast_eq_natCast_iff', residue]

/-- The power that is tried first is a root up to a fourth root of one. -/
theorem candidate_sq {r : ZMod p} (square : (w : ZMod p) = r ^ 2) :
    ((Modular.pow p w ((p + 3) / 8) : Nat) : ZMod p) ^ 2 = r ^ 2 * r ^ (p / 2) := by
  have exponent : 2 * ((p + 3) / 8 * 2) = 2 + p / 2 := by decide
  rw [Modular.cast_pow, square, ← pow_mul, ← pow_mul, exponent, pow_add]

/-- The factor of the other candidate is a root of `-1`. -/
theorem factor_sq : ((Modular.pow p 2 ((p - 1) / 4) : Nat) : ZMod p) ^ 2 = -1 := by
  have residue : Modular.pow p 2 ((p - 1) / 4) * Modular.pow p 2 ((p - 1) / 4) % p = p - 1 := by
    decide +kernel
  rw [(sq_mod_eq_iff (by decide)).mp residue, Nat.cast_sub prime_p.one_le, ZMod.natCast_self,
    Nat.cast_one, zero_sub]

/-- Where the first candidate is no root, its square has the wrong sign. -/
theorem sign_of_ne {r : ZMod p} (other : r ^ 2 * r ^ (p / 2) ≠ r ^ 2) : r ^ (p / 2) = -1 := by
  have nonzero : r ≠ 0 := by
    intro zero
    apply other
    rw [zero]
    simp
  rcases ZMod.pow_div_two_eq_neg_one_or_one p nonzero with one | minus
  · rw [one, mul_one] at other
    exact absurd rfl other
  · exact minus

/-- A quotient that is a square has a root among the two candidates. -/
theorem isSome_squareRoot? (r : ZMod p) (square : (u : ZMod p) * (v : ZMod p)⁻¹ = r ^ 2) :
    (squareRoot? u v).isSome = true := by
  unfold squareRoot?
  dsimp only
  obtain ⟨w, quotient⟩ : ∃ w, w = u * Modular.inverse p v % p := ⟨_, rfl⟩
  have below : w < p := quotient ▸ Nat.mod_lt _ prime_p.pos
  have value : (w : ZMod p) = r ^ 2 := by
    rw [quotient, ZMod.natCast_mod, Nat.cast_mul, Modular.cast_inverse two_lt_p, square]
  have root := candidate_sq value
  rw [← quotient]
  split
  · rfl
  · next other =>
      rw [sq_mod_eq_iff below, root, value] at other
      have sign := sign_of_ne other
      rw [if_pos]
      · rfl
      · rw [sq_mod_eq_iff below, ZMod.natCast_mod, Nat.cast_mul, mul_pow, root, factor_sq, sign, value]
        ring

theorem denominator_ne_zero (v : ZMod p) : d * v ^ 2 + 1 ≠ 0 := by
  intro zero
  obtain ⟨i, unit⟩ := exists_unit
  have square : i ^ 2 = d * v ^ 2 := by
    linear_combination unit - zero
  rw [eq_zero_of_sq_eq square] at zero
  simp at zero

/-- The second coordinate of a point tells the square of the first. -/
theorem OnCurve.sq_eq {u v : ZMod p} (on : OnCurve u v) :
    (v ^ 2 - 1) * (d * v ^ 2 + 1)⁻¹ = u ^ 2 := by
  unfold OnCurve at on
  rw [← div_eq_mul_inv, div_eq_iff (denominator_ne_zero v)]
  linear_combination on

/-- The second coordinate is read back, whatever stands in the top bit. -/
theorem read_encode (a : Point) :
    Bytes.toNatLE (encode a) % 2 ^ fieldBits % p = a.y * Modular.inverse p a.z % p := by
  have below : a.y * Modular.inverse p a.z % p < p := Nat.mod_lt _ prime_p.pos
  have small : a.y * Modular.inverse p a.z % p < 2 ^ fieldBits :=
    Nat.lt_of_lt_of_le below (Nat.sub_le _ _)
  have divides : 2 ^ fieldBits ∣ 256 ^ 32 := by decide
  unfold encode
  dsimp only
  rw [Bytes.toNatLE_littleEndian, Nat.mod_mod_of_dvd _ divides, Nat.add_mul_mod_self_right,
    Nat.mod_eq_of_lt small, Nat.mod_eq_of_lt below]

theorem isPoint_encode {a : Point} (on : IsOn a) : isPoint (encode a) = true := by
  obtain ⟨u, v, of⟩ := on
  have second : ((a.y * Modular.inverse p a.z % p : Nat) : ZMod p) = v := by
    rw [ZMod.natCast_mod, Nat.cast_mul, Modular.cast_inverse two_lt_p, of.y_eq, mul_assoc,
      mul_inv_cancel₀ of.z_ne_zero, mul_one]
  rw [isPoint, read_encode, abscissa?]
  apply isSome_squareRoot? u
  rw [← of.onCurve.sq_eq, ← second]
  simp only [Modular.cast_sub prime_p.pos, ZMod.natCast_mod, Nat.cast_add, Nat.cast_mul, Nat.cast_one,
    sq]

end Compressed

theorem length_encode (a : Point) : (encode a).length = 32 :=
  Bytes.length_littleEndian ..

namespace PrivateKey

theorem isPoint_publicKey (key : PrivateKey) : isPoint key.publicKey = true :=
  isPoint_encode (isOn_multiple _ isOn_base isOn_neutral)

theorem length_publicKey (key : PrivateKey) : key.publicKey.length = 32 :=
  length_encode _

theorem length_sign (key : PrivateKey) (message : Bytes) : (key.sign message).length = 64 := by
  simp only [sign, List.length_append, length_encode, Bytes.length_littleEndian]

end PrivateKey

end TokenFaucet.Curve.Ed25519
