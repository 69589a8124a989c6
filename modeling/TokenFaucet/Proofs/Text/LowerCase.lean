import Mathlib.Data.List.Forall2
import TokenFaucet.Text.LowerCase

set_option autoImplicit false

namespace TokenFaucet.Text

/-- One character, up to the case of the letters A to Z. -/
def SameLetter (c d : Char) : Prop :=
  c.toLower = d.toLower

theorem toNat_lt_of_toLower_ne {c : Char} (moved : c.toLower ≠ c) :
    c.toNat < 128 ∧ c.toLower.toNat < 128 := by
  unfold Char.toLower at moved ⊢
  split at moved
  · next upper =>
      rw [dif_pos upper]
      obtain ⟨-, most⟩ := upper
      have bound : c.val.toNat ≤ 90 := UInt32.le_iff_toNat_le.1 most
      refine ⟨by change c.val.toNat < 128; omega, ?_⟩
      change (c.val + 32).toNat < 128
      rw [UInt32.toNat_add]
      have : (32 : UInt32).toNat = 32 := rfl
      omega
  · exact absurd rfl moved

theorem toLower_of_wide {c : Char} (wide : 128 ≤ c.toNat) : c.toLower = c := by
  by_contra moved
  exact absurd (toNat_lt_of_toLower_ne moved).1 (Nat.not_lt.2 wide)

/-- Characters that differ in case are letters, which are among the first 128 characters. -/
theorem SameLetter.eq_or_lt {c d : Char} (same : SameLetter c d) :
    c = d ∨ c.toNat < 128 ∧ d.toNat < 128 := by
  by_cases moved : c.toLower = c
  · by_cases moved' : d.toLower = d
    · exact .inl (moved.symm.trans (Eq.trans same moved'))
    · obtain ⟨small, small'⟩ := toNat_lt_of_toLower_ne moved'
      refine .inr ⟨?_, small⟩
      rwa [← moved, show c.toLower = d.toLower from same]
  · obtain ⟨small, small'⟩ := toNat_lt_of_toLower_ne moved
    by_cases moved' : d.toLower = d
    · refine .inr ⟨small, ?_⟩
      rwa [← moved', ← show c.toLower = d.toLower from same]
    · exact .inr ⟨small, (toNat_lt_of_toLower_ne moved').1⟩

namespace LowerCase

/-- A character without a rule of its own is lowered by itself. -/
theorem go_cons_of_ne {before rest : List Char} {c : Char} (sigma : c ≠ 'Σ') (dotted : c ≠ 'İ') :
    go before (c :: rest) = char c :: go (c :: before) rest := by
  rw [go]
  · exact sigma
  · exact dotted

theorem char_of_lt {c : Char} (small : c.toNat < 128) : char c = c.toLower :=
  if_pos small

theorem go_cons_of_lt {before rest : List Char} {c : Char} (small : c.toNat < 128) :
    go before (c :: rest) = c.toLower :: go (c :: before) rest := by
  rw [go_cons_of_ne, char_of_lt small]
  · rintro rfl
    exact absurd small (by decide)
  · rintro rfl
    exact absurd small (by decide)

/-- Without a sigma, what was passed plays no part. -/
theorem go_eq_of_sameLetter {cs ds before before' : List Char} (same : List.Forall₂ SameLetter cs ds)
    (sigma : 'Σ' ∉ cs) : go before cs = go before' ds := by
  induction same generalizing before before' with
  | nil => rfl
  | @cons c d cs ds own _ ih =>
      replace ih (before before' : List Char) : go before cs = go before' ds :=
        ih fun mem => sigma (List.mem_cons_of_mem _ mem)
      obtain rfl | ⟨small, small'⟩ := own.eq_or_lt
      · have other : c ≠ 'Σ' := fun is => sigma (is ▸ List.mem_cons_self ..)
        by_cases dotted : c = 'İ'
        · subst dotted
          simp only [go, ih ('İ' :: before) ('İ' :: before')]
        · rw [go_cons_of_ne other dotted, go_cons_of_ne other dotted, ih]
      · rw [go_cons_of_lt small, go_cons_of_lt small', ih]
        exact congrArg (· :: _) own

/-- A sigma stays one. -/
theorem sigma_mem_go {cs before : List Char} (mem : 'Σ' ∈ cs) :
    'σ' ∈ go before cs ∨ 'ς' ∈ go before cs := by
  induction cs generalizing before with
  | nil => cases mem
  | cons c rest ih =>
      by_cases sigma : c = 'Σ'
      · subst sigma
        rw [go]
        split <;> simp
      · replace mem : 'Σ' ∈ rest := (List.mem_cons.1 mem).resolve_left (Ne.symm sigma)
        by_cases dotted : c = 'İ'
        · subst dotted
          have later : 'σ' ∈ go ('İ' :: before) rest ∨ 'ς' ∈ go ('İ' :: before) rest := ih mem
          rw [go]
          exact later.imp (fun found => .tail _ (.tail _ found)) fun found => .tail _ (.tail _ found)
        · rw [go_cons_of_ne sigma dotted]
          exact (ih mem).imp (List.mem_cons_of_mem _) (List.mem_cons_of_mem _)

end LowerCase

theorem sameIgnoringAsciiCase_iff {a b : String} :
    sameIgnoringAsciiCase a b = true ↔ a.toList.map Char.toLower = b.toList.map Char.toLower := by
  rw [sameIgnoringAsciiCase, beq_iff_eq, ← String.toList_inj, lowerAscii, lowerAscii,
    String.toList_map, String.toList_map]

theorem sigma_mem_lowerCase {s : String} (mem : 'Σ' ∈ s.toList) :
    'σ' ∈ (lowerCase s).toList ∨ 'ς' ∈ (lowerCase s).toList := by
  rw [lowerCase, String.toList_ofList]
  exact LowerCase.sigma_mem_go mem

/-- Texts that differ in the case of the letters A to Z have one lower-case form. -/
theorem lowerCase_eq_of_sameIgnoringAsciiCase {a b : String}
    (same : sameIgnoringAsciiCase a b = true) (sigma : 'Σ' ∉ b.toList) :
    lowerCase a = lowerCase b := by
  have letters : List.Forall₂ SameLetter b.toList a.toList := by
    have lowered := (sameIgnoringAsciiCase_iff.1 same).symm
    rw [← List.forall₂_eq_eq_eq, List.forall₂_map_left_iff, List.forall₂_map_right_iff] at lowered
    exact lowered
  exact congrArg String.ofList (LowerCase.go_eq_of_sameLetter letters sigma).symm

end TokenFaucet.Text
