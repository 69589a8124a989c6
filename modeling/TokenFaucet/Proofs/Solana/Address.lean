import TokenFaucet.Proofs.Bytes.Base58
import TokenFaucet.Solana.Address

set_option autoImplicit false

namespace TokenFaucet.Solana.Address

variable {s : String} {a : Solana.Address}

/-- A text is read as an account if and only if it is what is written for it. -/
theorem parse?_eq_some_iff : parse? s = some a ↔ a.text = s := by
  rw [text, ← Bytes.Base58.decode_eq_ok_iff, parse?]
  cases Bytes.Base58.decode s with
  | error why => simp
  | ok bs =>
      obtain ⟨bytes, sized⟩ := a
      dsimp only [ofBytes?]
      rw [Except.ok.injEq]
      split
      · rw [Option.some.injEq, Solana.Address.mk.injEq]
      · next other =>
          constructor
          · rintro ⟨⟩
          · rintro rfl
            exact absurd sized other

theorem parse?_of_isValid (valid : isValid s = true) : ∃ a, parse? s = some a := by
  unfold isValid at valid
  cases read : parse? s with
  | none => simp [read] at valid
  | some a => exact ⟨a, rfl⟩

end TokenFaucet.Solana.Address
