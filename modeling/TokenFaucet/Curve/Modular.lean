set_option autoImplicit false

attribute [local instance (2000)] instPowNat

namespace TokenFaucet.Curve.Modular

/-- `b ^ e` modulo `m`, by squaring. -/
def pow (m b e : Nat) : Nat :=
  if e = 0 then 1 % m
  else
    let half := pow m b (e / 2)
    let square := half * half % m
    if e % 2 = 1 then square * b % m else square
termination_by e
decreasing_by omega

theorem pow_eq (m b e : Nat) : pow m b e = b ^ e % m := by
  induction e using Nat.strongRecOn with
  | ind e ih =>
    unfold pow
    by_cases h : e = 0
    · simp [h]
    · have hlt : e / 2 < e := by omega
      simp only [h, if_false, ih _ hlt]
      have hsq : b ^ (e / 2) % m * (b ^ (e / 2) % m) % m = b ^ (e / 2 + e / 2) % m := by
        rw [← Nat.mul_mod, ← Nat.pow_add]
      split
      · next hodd =>
        rw [hsq, Nat.mod_mul_mod, ← Nat.pow_succ]
        congr 2
        omega
      · next heven =>
        rw [hsq]
        congr 2
        omega

def inverse (p a : Nat) : Nat :=
  pow p a (p - 2)

/-- The difference of two numbers below the modulus. -/
def sub (m a b : Nat) : Nat :=
  (a + (m - b % m)) % m

end TokenFaucet.Curve.Modular
