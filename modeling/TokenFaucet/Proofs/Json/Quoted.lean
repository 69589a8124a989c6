import TokenFaucet.Json.Quoted

set_option autoImplicit false

namespace TokenFaucet.Json.Quoted

theorem hexDigit?_hexDigit {n : Nat} (small : n < 16) : Text.hexDigit? (hexDigit n) = some n := by
  have all : ∀ n < 16, Text.hexDigit? (hexDigit n) = some n := by decide
  exact all n small

/-- A control character behind `\u00`. -/
theorem piece?_control {n : Nat} (small : n < 0x20) (rest : List Char) :
    piece? ('\\' :: 'u' :: '0' :: '0' :: hexDigit (n / 16) :: hexDigit (n % 16) :: rest) =
      some (.char (Char.ofNat n), rest) := by
  have high := hexDigit?_hexDigit (show n / 16 < 16 by omega)
  have low := hexDigit?_hexDigit (show n % 16 < 16 by omega)
  have zero : Text.hexDigit? '0' = some 0 := rfl
  have value : ((0 * 16 + 0) * 16 + n / 16) * 16 + n % 16 = n := by omega
  have unit : codeUnit? ('0' :: '0' :: hexDigit (n / 16) :: hexDigit (n % 16) :: rest) =
      some (n, rest) := by
    simp only [codeUnit?, zero, high, low, Option.bind_eq_bind, Option.bind_some, value]
  have piece : pieceOfUnit n = .char (Char.ofNat n) := if_neg (by omega)
  change (codeUnit? _).map _ = _
  rw [unit, Option.map_some]
  dsimp only
  rw [piece]

theorem piece?_escaped (c : Char) (rest : List Char) :
    piece? (escaped c ++ rest) = some (.char c, rest) := by
  unfold escaped
  split
  · rfl
  · rfl
  · rfl
  · rfl
  · rfl
  · rfl
  · rfl
  · next noQuote noBackslash _ _ _ _ _ =>
      split
      · next control =>
          have read := piece?_control control rest
          rw [Char.ofNat_toNat] at read
          exact read
      · next printable =>
          have kept : ¬ (c.toNat < 0x20 ∨ c = '\\') := by
            rintro (control | same)
            · exact printable control
            · exact noBackslash same
          rw [List.singleton_append, piece?]
          · rw [if_neg kept]
          · rintro rfl
            exact noQuote rfl
          · intro e _ same
            exact absurd same noBackslash

theorem escaped_length_pos (c : Char) : 0 < (escaped c).length := by
  unfold escaped
  split <;> try decide
  split <;> simp

/-- The pieces of a literal, from its first character on. -/
theorem pieces?_escaped (cs rest : List Char) (fuel : Nat)
    (enough : (cs.flatMap escaped).length < fuel) :
    pieces? fuel (cs.flatMap escaped ++ '"' :: rest) = some (cs.map .char, rest) := by
  induction cs generalizing fuel with
  | nil =>
      obtain ⟨fuel, rfl⟩ := Nat.exists_eq_add_one_of_ne_zero (Nat.ne_of_gt (Nat.zero_lt_of_lt enough))
      rfl
  | cons c cs ih =>
      have pos := escaped_length_pos c
      rw [List.flatMap_cons, List.length_append] at enough
      obtain ⟨fuel, rfl⟩ := Nat.exists_eq_add_one_of_ne_zero (Nat.ne_of_gt (Nat.zero_lt_of_lt enough))
      rw [List.flatMap_cons, List.append_assoc, pieces?, piece?_escaped]
      dsimp only
      rw [ih fuel (by omega)]
      rfl

theorem characters?_chars (cs : List Char) : characters? (cs.map .char) = some cs := by
  induction cs with
  | nil => rfl
  | cons c cs ih => rw [List.map_cons, characters?, ih, Option.map_some]

/-- A literal after its opening quote. -/
theorem decode_encode (cs rest : List Char) :
    decode (cs.flatMap escaped ++ '"' :: rest) = some (some cs, rest) := by
  rw [decode, pieces?_escaped]
  · rw [Option.map_some]
    dsimp only
    rw [characters?_chars]
  · rw [List.length_append, List.length_cons]
    omega

end TokenFaucet.Json.Quoted
