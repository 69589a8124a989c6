import Mathlib.NumberTheory.LucasPrimality
import Mathlib.NumberTheory.LegendreSymbol.Basic
import Mathlib.FieldTheory.Finite.Basic
import TokenFaucet.Curve.Modular

set_option autoImplicit false

attribute [local instance (2000)] instPowNat

namespace TokenFaucet.Curve.Modular

theorem cast_pow (m b e : Nat) : ((pow m b e : Nat) : ZMod m) = (b : ZMod m) ^ e := by
  rw [pow_eq, ZMod.natCast_mod]
  exact Nat.cast_pow b e

theorem cast_sub {m : Nat} (pos : 0 < m) (a b : Nat) :
    ((sub m a b : Nat) : ZMod m) = (a : ZMod m) - (b : ZMod m) := by
  have below : b % m ≤ m := Nat.le_of_lt (Nat.mod_lt b pos)
  rw [sub, ZMod.natCast_mod, Nat.cast_add, Nat.cast_sub below, ZMod.natCast_self,
    ZMod.natCast_mod]
  ring

theorem cast_inverse {p : Nat} [Fact p.Prime] (large : 2 < p) (a : Nat) :
    ((inverse p a : Nat) : ZMod p) = (a : ZMod p)⁻¹ := by
  rw [inverse, cast_pow]
  by_cases zero : (a : ZMod p) = 0
  · have positive : p - 2 ≠ 0 := by omega
    rw [zero, inv_zero, zero_pow positive]
  · have fermat : (a : ZMod p) ^ (p - 1) = 1 := ZMod.pow_card_sub_one_eq_one zero
    have next : p - 1 = (p - 2) + 1 := by omega
    rw [next, pow_succ] at fermat
    exact eq_inv_of_mul_eq_one_left fermat

theorem pow_eq_one_iff {m : Nat} (large : 1 < m) (b e : Nat) :
    pow m b e = 1 ↔ (b : ZMod m) ^ e = 1 := by
  have one : 1 % m = 1 := Nat.mod_eq_of_lt large
  constructor
  · intro power
    rw [← cast_pow, power, Nat.cast_one]
  · intro power
    have cast : ((b ^ e : Nat) : ZMod m) = ((1 : Nat) : ZMod m) := by
      rw [Nat.cast_one, ← power]
      exact Nat.cast_pow b e
    have residues : b ^ e % m = 1 % m := (ZMod.natCast_eq_natCast_iff' _ _ m).mp cast
    rw [pow_eq, residues, one]

/-- Whether no number from `m` up to the root of `q` divides `q`. -/
def indivisibleFrom (q : Nat) : Nat → Nat → Bool
  | 0, _ => false
  | fuel + 1, m => decide (q < m * m) || q % m != 0 && indivisibleFrom q fuel (m + 1)

theorem not_dvd_of_indivisibleFrom {q fuel m k : Nat} (tried : indivisibleFrom q fuel m = true)
    (least : m ≤ k) (most : k * k ≤ q) : ¬ k ∣ q := by
  induction fuel generalizing m with
  | zero => cases tried
  | succ fuel ih =>
      simp only [indivisibleFrom, Bool.or_eq_true, Bool.and_eq_true, decide_eq_true_eq,
        bne_iff_ne] at tried
      rcases tried with large | ⟨remainder, others⟩
      · have squares : m * m ≤ k * k := Nat.mul_le_mul least least
        omega
      · by_cases same : k = m
        · rw [same]
          exact fun divides => remainder (Nat.mod_eq_zero_of_dvd divides)
        · exact ih others (by omega)

/-- Whether a number is a prime, by trial of the numbers up to 512. -/
def isSmallPrime (q : Nat) : Bool :=
  decide (2 ≤ q) && indivisibleFrom q 512 2

theorem prime_of_isSmallPrime {q : Nat} (small : isSmallPrime q = true) : q.Prime := by
  simp only [isSmallPrime, Bool.and_eq_true, decide_eq_true_eq] at small
  rw [Nat.prime_def_le_sqrt]
  refine ⟨small.1, ?_⟩
  intro k least most
  exact not_dvd_of_indivisibleFrom small.2 least (Nat.le_sqrt.mp most)

/-- What shows that a number is a prime: a number of the highest order modulo it, and the prime factors of
its predecessor. -/
structure PrimeCertificate where
  number : Nat
  root : Nat
  factors : List Nat

namespace PrimeCertificate

/-- Whether a certificate is right, given primes that are known already. -/
def check (known : List Nat) (c : PrimeCertificate) : Bool :=
  decide (1 < c.number) && c.factors.prod == c.number - 1 &&
    pow c.number c.root (c.number - 1) == 1 &&
    c.factors.all fun q =>
      pow c.number c.root ((c.number - 1) / q) != 1 && (known.contains q || isSmallPrime q)

/-- Whether certificates are right, each given the numbers before it. -/
def checkAll (known : List Nat) : List PrimeCertificate → Bool
  | [] => true
  | c :: rest => c.check known && checkAll (c.number :: known) rest

variable {known : List Nat}

theorem prime_of_check (primes : ∀ q ∈ known, q.Prime) {c : PrimeCertificate}
    (checked : c.check known = true) : c.number.Prime := by
  simp only [check, Bool.and_eq_true, decide_eq_true_eq, beq_iff_eq, List.all_eq_true, bne_iff_ne,
    Bool.or_eq_true, List.contains_iff_mem] at checked
  obtain ⟨⟨⟨large, product⟩, whole⟩, factors⟩ := checked
  apply lucas_primality c.number (c.root : ZMod c.number)
  · exact (pow_eq_one_iff large _ _).mp whole
  · intro q prime divides power
    rw [← product] at divides
    obtain ⟨r, listed, divides⟩ := (Prime.dvd_prod_iff prime.prime).mp divides
    obtain ⟨part, known⟩ := factors r listed
    have prime' : r.Prime := known.elim (primes r) prime_of_isSmallPrime
    have same : q = r := (Nat.prime_dvd_prime_iff_eq prime prime').mp divides
    subst same
    exact part ((pow_eq_one_iff large _ _).mpr power)

theorem primes_of_checkAll {cs : List PrimeCertificate} (primes : ∀ q ∈ known, q.Prime)
    (checked : checkAll known cs = true) : ∀ c ∈ cs, c.number.Prime := by
  induction cs generalizing known with
  | nil => exact nofun
  | cons c rest ih =>
      rw [checkAll, Bool.and_eq_true] at checked
      have own := prime_of_check primes checked.1
      have more : ∀ q ∈ c.number :: known, q.Prime := List.forall_mem_cons.mpr ⟨own, primes⟩
      exact List.forall_mem_cons.mpr ⟨own, ih more checked.2⟩

end PrimeCertificate

end TokenFaucet.Curve.Modular
