import TokenFaucet.Curve.Ed25519
import TokenFaucet.Signer.Error
import TokenFaucet.Near.AccountId
import TokenFaucet.Text.Blank

set_option autoImplicit false

namespace TokenFaucet

open Curve (Ed25519.PrivateKey)

namespace Signer

/-- The key of 32 bytes, or of 64 bytes of which the second half is the public key. -/
def edwardsKey (bs : Bytes) : Except SignerError Ed25519.PrivateKey :=
  if h : bs.length = 32 then .ok ⟨bs, h⟩
  else if h : bs.length = 64 then
    let key : Ed25519.PrivateKey := ⟨bs.take 32, by simp [h]⟩
    let given := bs.drop 32
    if !Curve.Ed25519.isPoint given then .error .notAPoint
    else if key.publicKey ≠ given then .error .keypairMismatch
    else .ok key
  else .error (.badSecretLength bs.length)

def base58 (s : String) : Except SignerError Bytes :=
  (Bytes.Base58.decode s).mapError .badBase58

end Signer

structure SolanaSigner where
  key : Ed25519.PrivateKey

namespace SolanaSigner

/-- Reads a secret in base 58 or as a JSON array of bytes, blanks around it allowed. -/
def parse (secret : String) : Except SignerError SolanaSigner := do
  let secret := Text.trim secret
  let bytes ←
    if secret.startsWith "[" then
      let items ← (Json.readText (.list .uint8) secret).mapError .badKeypairJson
      pure items
    else Signer.base58 secret
  return ⟨← Signer.edwardsKey bytes⟩

def publicKey (s : SolanaSigner) : Bytes := s.key.publicKey

def address (s : SolanaSigner) : String := Bytes.Base58.encode s.publicKey

def debug (s : SolanaSigner) : String :=
  "SolanaSigner \x7b address: " ++ Text.debugQuoted s.address ++ ", .. \x7d"

end SolanaSigner

/-- A signer of NEAR: an account and a key that may act for it. -/
structure NearSigner where
  accountId : String
  key : Ed25519.PrivateKey

namespace NearSigner

/-- The mark in front of keys of this curve. -/
def keyMark : String := "ed25519:"

/-- A text without the mark, if it has it. -/
def withoutMark (s : String) : String :=
  if keyMark.toList.isPrefixOf s.toList then String.ofList (s.toList.drop keyMark.length) else s

/-- Reads an account and a secret in base 58, blanks around both allowed. -/
def parse (account secret : String) : Except SignerError NearSigner := do
  let account := Text.trim account
  if !Near.AccountId.isValid account then throw (.badAccountId account)
  let bytes ← Signer.base58 (withoutMark (Text.trim secret))
  return ⟨account, ← Signer.edwardsKey bytes⟩

def publicKey (s : NearSigner) : Bytes := s.key.publicKey

def publicKeyText (s : NearSigner) : String :=
  keyMark ++ Bytes.Base58.encode s.publicKey

def debug (s : NearSigner) : String :=
  "NearSigner \x7b account_id: " ++ Text.debugQuoted s.accountId ++ ", public_key: " ++
    Text.debugQuoted s.publicKeyText ++ ", .. \x7d"

end NearSigner

end TokenFaucet
