import TokenFaucet.Proofs.Bytes.Base58
import TokenFaucet.Proofs.Chain.Receiver
import TokenFaucet.Proofs.Curve.Ed25519
import TokenFaucet.Proofs.Json.Array
import TokenFaucet.Proofs.Text.Blank
import TokenFaucet.Signer.Edwards

set_option autoImplicit false

attribute [local instance (2000)] instPowNat

namespace TokenFaucet

open Curve (Ed25519.PrivateKey Ed25519.isPoint)

section Spelling

theorem Bytes.Base58.mem_alphabet {bs : Bytes} {c : Char}
    (mem : c ∈ (Bytes.Base58.encode bs).toList) : c ∈ Bytes.Base58.alphabet := by
  obtain ⟨count, ds, digits, -, text, -⟩ := digits_of_decode (decode_encode bs)
  have size : alphabet.length = 58 := rfl
  rw [text, String.toList_ofList] at mem
  obtain ⟨d, digit, rfl⟩ := List.mem_map.mp mem
  have inside : d < alphabet.length := size ▸ digits_zeros_append count digits d digit
  rw [digitChar, List.getD_eq_getElem?_getD, List.getElem?_eq_getElem inside]
  exact List.getElem_mem inside

theorem Bytes.Base58.solid_encode (bs : Bytes) : Text.Solid (encode bs).toList := by
  have all : Text.Solid alphabet := by decide
  intro c mem
  exact all c (mem_alphabet mem)

namespace Near.AccountId

theorem solid_of_isValid {s : String} (valid : isValid s = true) : Text.Solid s.toList := by
  have solid : Text.Solid nameChars := by decide
  obtain ⟨-, -, cs, top, rfl, -, named, known⟩ := isValid_iff.mp valid
  rw [String.toList_append, String.toList_ofList]
  apply Text.Solid.append
  · intro c mem
    exact solid c (named c mem)
  · simp only [endings, List.mem_cons, List.not_mem_nil, or_false] at known
    rcases known with rfl | rfl | rfl <;> decide

end Near.AccountId

end Spelling

namespace Signer

variable {key : Ed25519.PrivateKey} {bs q : Bytes}

theorem edwardsKey_seed (key : Ed25519.PrivateKey) : edwardsKey key.seed = .ok key :=
  dif_pos key.length_seed

theorem edwardsKey_of_length (seed : bs.length ≠ 32) (pair : bs.length ≠ 64) :
    edwardsKey bs = .error (.badSecretLength bs.length) := by
  rw [edwardsKey, dif_neg seed, dif_neg pair]

theorem edwardsKey_append (key : Ed25519.PrivateKey) (size : q.length = 32) :
    edwardsKey (key.seed ++ q) =
      if !Ed25519.isPoint q then .error .notAPoint
      else if key.publicKey ≠ q then .error .keypairMismatch
      else .ok key := by
  have whole : (key.seed ++ q).length = 64 := by
    rw [List.length_append, key.length_seed, size]
  have front : (key.seed ++ q).take 32 = key.seed := List.take_left' key.length_seed
  have behind : (key.seed ++ q).drop 32 = q := List.drop_left' key.length_seed
  rw [edwardsKey, dif_neg (by omega), dif_pos whole]
  simp only [front, behind]

theorem edwardsKey_pair (key : Ed25519.PrivateKey) :
    edwardsKey (key.seed ++ key.publicKey) = .ok key := by
  rw [edwardsKey_append key key.length_publicKey, key.isPoint_publicKey]
  simp

/-- A pair whose second half is not the public key of the first. -/
theorem edwardsKey_of_ne (size : q.length = 32) (other : q ≠ key.publicKey) :
    edwardsKey (key.seed ++ q) =
      .error (if Ed25519.isPoint q then .keypairMismatch else .notAPoint) := by
  rw [edwardsKey_append key size]
  cases Ed25519.isPoint q with
  | false => rfl
  | true => simp [other.symm]

end Signer

namespace SolanaSigner

/-- The texts of bytes: in base 58, or as an array, with blanks around either. -/
inductive Spells (bs : Bytes) : String → Prop
  | base58 {secret : String} (around : Text.Surrounds secret (Bytes.Base58.encode bs)) :
    Spells bs secret
  | array {secret : String} {cs : List Char}
    (items : Json.Node.SpacedArray (bs.map fun b => .ofNat b.toNat) cs)
    (around : Text.Surrounds secret (String.ofList cs)) : Spells bs secret

/-- The bytes that a secret is a text of. -/
def decoded (secret : String) : Except SignerError Bytes :=
  if (Text.trim secret).startsWith "[" then
    (Json.readText (.list .uint8) (Text.trim secret)).mapError .badKeypairJson
  else Signer.base58 (Text.trim secret)

theorem parse_eq (secret : String) :
    parse secret = (decoded secret).bind fun bs => (Signer.edwardsKey bs).map mk := by
  unfold parse decoded
  dsimp only
  split
  · rfl
  · rfl

theorem parse_of_decoded {secret : String} {bs : Bytes} (decodes : decoded secret = .ok bs) :
    parse secret = (Signer.edwardsKey bs).map mk := by
  rw [parse_eq, decodes]
  rfl

/-- The text of an array has brackets at its ends. -/
theorem bare_of_spacedArray {list : List Json} {cs : List Char}
    (array : Json.Node.SpacedArray list cs) : Text.Bare cs := by
  constructor
  · intro c first
    obtain ⟨rest, rfl⟩ := array.opens
    cases first
    decide
  · intro c last
    obtain ⟨rest, rfl⟩ := array.closes
    rw [List.getLast?_concat] at last
    cases last
    decide

variable {bs : Bytes} {secret : String}

theorem decoded_of_spells (spells : Spells bs secret) : decoded secret = .ok bs := by
  cases spells with
  | base58 around =>
      have plain : ¬ (Bytes.Base58.encode bs).startsWith "[" := by
        rw [String.startsWith_string_iff]
        intro front
        have bracket : '[' ∈ (Bytes.Base58.encode bs).toList := front.subset (by decide)
        exact absurd (Bytes.Base58.mem_alphabet bracket) (by decide)
      rw [decoded, Text.trim_of_surrounds (Bytes.Base58.solid_encode bs).bare around, if_neg plain,
        Signer.base58, Bytes.Base58.decode_encode]
      rfl
  | @array cs items around =>
      have text : (String.ofList cs).toList = cs := String.toList_ofList
      have bare : Text.Bare (String.ofList cs).toList := by
        rw [text]
        exact bare_of_spacedArray items
      have bracket : (String.ofList cs).startsWith "[" := by
        rw [String.startsWith_string_iff, text]
        exact items.opens
      rw [decoded, Text.trim_of_surrounds bare around, if_pos bracket,
        Json.readText_spaced Json.uint8_written bs items]
      rfl

end SolanaSigner

namespace NearSigner

/-- The texts of bytes: in base 58, with or without the mark, and with blanks around. -/
inductive Spells (bs : Bytes) : String → Prop
  | plain {secret : String} (around : Text.Surrounds secret (Bytes.Base58.encode bs)) :
    Spells bs secret
  | marked {secret : String} (around : Text.Surrounds secret (keyMark ++ Bytes.Base58.encode bs)) :
    Spells bs secret

/-- The bytes that a secret is a text of. -/
def decoded (secret : String) : Except SignerError Bytes :=
  Signer.base58 (withoutMark (Text.trim secret))

theorem withoutMark_marked (s : String) : withoutMark (keyMark ++ s) = s := by
  have front : keyMark.toList.isPrefixOf (keyMark ++ s).toList = true := by
    rw [List.isPrefixOf_iff_prefix, String.toList_append]
    exact List.prefix_append ..
  have length : keyMark.toList.length = keyMark.length := rfl
  rw [withoutMark, if_pos front, String.toList_append, List.drop_left' length, String.ofList_toList]

theorem withoutMark_encode (bs : Bytes) :
    withoutMark (Bytes.Base58.encode bs) = Bytes.Base58.encode bs := by
  apply if_neg
  rw [List.isPrefixOf_iff_prefix]
  intro front
  have colon : ':' ∈ (Bytes.Base58.encode bs).toList := front.subset (by decide)
  exact absurd (Bytes.Base58.mem_alphabet colon) (by decide)

theorem solid_marked (bs : Bytes) : Text.Solid (keyMark ++ Bytes.Base58.encode bs).toList := by
  have solid : Text.Solid keyMark.toList := by decide
  rw [String.toList_append]
  exact solid.append (Bytes.Base58.solid_encode bs)

theorem parse_of_decoded {id account secret : String} {bs : Bytes}
    (valid : Near.AccountId.isValid id = true) (around : Text.Surrounds account id)
    (decodes : decoded secret = .ok bs) :
    parse account secret = (Signer.edwardsKey bs).map (mk id) := by
  rw [decoded] at decodes
  rw [parse, Text.trim_of_surrounds (Near.AccountId.solid_of_isValid valid).bare around, valid, decodes]
  rfl

theorem decoded_of_spells {bs : Bytes} {secret : String} (spells : Spells bs secret) :
    decoded secret = .ok bs := by
  cases spells with
  | plain around =>
      rw [decoded, Text.trim_of_surrounds (Bytes.Base58.solid_encode bs).bare around, withoutMark_encode,
        Signer.base58, Bytes.Base58.decode_encode]
      rfl
  | marked around =>
      rw [decoded, Text.trim_of_surrounds (solid_marked bs).bare around, withoutMark_marked, Signer.base58,
        Bytes.Base58.decode_encode]
      rfl

end NearSigner

/-- What comes of bytes, whatever the secret is that they are read from and whatever the account. -/
structure Signer.Yields (bs : Bytes) (result : Except SignerError Ed25519.PrivateKey) : Prop where
  solana : ∀ secret : String, SolanaSigner.decoded secret = .ok bs →
    SolanaSigner.parse secret = result.map .mk
  near : ∀ id account secret : String, Near.AccountId.isValid id = true →
    Text.Surrounds account id → NearSigner.decoded secret = .ok bs →
    NearSigner.parse account secret = result.map (.mk id)

theorem Signer.yields_of_edwardsKey {bs : Bytes} {result : Except SignerError Ed25519.PrivateKey}
    (read : edwardsKey bs = result) : Yields bs result := by
  subst read
  constructor
  · intro secret decodes
    exact SolanaSigner.parse_of_decoded decodes
  · intro id account secret valid around decodes
    exact NearSigner.parse_of_decoded valid around decodes

/-- A secret is read as the bytes that it spells. The 32 bytes of a key, and these with its public key
behind them, are made the signer of that key, which has its public key and makes its signatures. The 32
bytes with another public key behind them are rejected, and so are bytes of any other length, for the
secret and not for the account. -/
theorem secret_spellings_agree (key : Ed25519.PrivateKey) :
    (∀ (bs : Bytes) (secret : String),
      (SolanaSigner.Spells bs secret → SolanaSigner.decoded secret = .ok bs) ∧
      (NearSigner.Spells bs secret → NearSigner.decoded secret = .ok bs)) ∧
    Signer.Yields key.seed (.ok key) ∧
    Signer.Yields (key.seed ++ key.publicKey) (.ok key) ∧
    (∀ q : Bytes, q.length = 32 → q ≠ key.publicKey →
      ∃ e : SignerError, e.isAboutAccount = false ∧ Signer.Yields (key.seed ++ q) (.error e)) ∧
    ∀ bs : Bytes, bs.length ≠ 32 → bs.length ≠ 64 →
      ∃ e : SignerError, e.isAboutAccount = false ∧ Signer.Yields bs (.error e) := by
  refine ⟨?_, ?_, ?_, ?_, ?_⟩
  · intro bs secret
    exact ⟨SolanaSigner.decoded_of_spells, NearSigner.decoded_of_spells⟩
  · exact Signer.yields_of_edwardsKey (Signer.edwardsKey_seed key)
  · exact Signer.yields_of_edwardsKey (Signer.edwardsKey_pair key)
  · intro q size other
    have rejected := Signer.yields_of_edwardsKey (Signer.edwardsKey_of_ne size other)
    refine ⟨_, ?_, rejected⟩
    cases Ed25519.isPoint q with
    | false => rfl
    | true => rfl
  · intro bs seed pair
    exact ⟨_, rfl, Signer.yields_of_edwardsKey (Signer.edwardsKey_of_length seed pair)⟩

/-- A key of 32 equal bytes, which are not those of a point. -/
def sevens : Ed25519.PrivateKey := ⟨List.replicate 32 7, rfl⟩

theorem secret_spellings_agree_sevens :
    SolanaSigner.parse "US517G5965aydkZ46HS38QLi7UQiSojurfbQfKCELFx\n" = .ok ⟨sevens⟩ ∧
    NearSigner.parse " faucet.testnet" "ed25519:US517G5965aydkZ46HS38QLi7UQiSojurfbQfKCELFx" =
      .ok ⟨"faucet.testnet", sevens⟩ ∧
    (∃ e : SignerError, e.isAboutAccount = false ∧
      SolanaSigner.parse (Bytes.Base58.encode (sevens.seed ++ sevens.seed)) = .error e) ∧
    ∃ e : SignerError, e.isAboutAccount = false ∧ SolanaSigner.parse "[7, 7]" = .error e := by
  obtain ⟨spelled, seed, -, mismatch, short⟩ := secret_spellings_agree sevens
  have text : Bytes.Base58.encode sevens.seed = "US517G5965aydkZ46HS38QLi7UQiSojurfbQfKCELFx" := by
    decide +kernel
  refine ⟨?_, ?_, ?_, ?_⟩
  · apply seed.solana
    apply (spelled _ _).1
    apply SolanaSigner.Spells.base58
    rw [text]
    exact ⟨[], ['\n'], rfl, by decide, by decide⟩
  · apply seed.near "faucet.testnet" _ _ (by decide)
    · exact ⟨[' '], [], rfl, by decide, by decide⟩
    · apply (spelled _ _).2
      apply NearSigner.Spells.marked
      rw [text]
      exact Text.surrounds_self _
  · have other : sevens.seed ≠ sevens.publicKey := by
      intro same
      have point := sevens.isPoint_publicKey
      rw [← same] at point
      exact absurd point (by decide +kernel)
    obtain ⟨e, own, rejected⟩ := mismatch sevens.seed rfl other
    refine ⟨e, own, rejected.solana _ ?_⟩
    apply (spelled _ _).1
    apply SolanaSigner.Spells.base58
    exact Text.surrounds_self _
  · obtain ⟨e, own, rejected⟩ := short [7, 7] (by decide) (by decide)
    exact ⟨e, own, rejected.solana _ (by decide +kernel)⟩

end TokenFaucet
