import TokenFaucet.Proofs.Bytes.Reader
import TokenFaucet.Proofs.Near.Signed

set_option autoImplicit false

attribute [local instance (2000)] instPowNat

namespace TokenFaucet.Near

namespace Wire

open Bytes (Reader)
open Bytes.Reader (byte many natural require take)

/-- A public key or a signature, with the mark of its curve. -/
structure Marked where
  mark : UInt8
  bytes : Bytes

/-- An action that deposits with the receiver, with the mark of such actions. -/
structure Action where
  mark : UInt8
  deposit : Nat

structure Transaction where
  signerId : String
  publicKey : Marked
  nonce : Nat
  receiverId : String
  blockId : Bytes
  actions : List Action

structure SignedTransaction where
  transaction : Transaction
  signature : Marked

/-- A text behind the number of its bytes. -/
def text : Reader String := do
  let size ← natural 4
  Bytes.Reader.text size

/-- Bytes behind the mark of the curve Ed25519; keys and signatures of other curves have other sizes. -/
def marked (size : Nat) : Reader Marked := do
  let mark ← byte
  require (mark = 0)
  let bs ← take size
  return ⟨mark, bs⟩

/-- An action that transfers; other actions have other parts. -/
def action : Reader Action := do
  let mark ← byte
  require (mark = 3)
  let deposit ← natural 16
  return ⟨mark, deposit⟩

def actions : Reader (List Action) := do
  let count ← natural 4
  many action count

def transaction : Reader Transaction := do
  let signerId ← text
  let publicKey ← marked 32
  let nonce ← natural 8
  let receiverId ← text
  let blockId ← take 32
  let actions ← actions
  return ⟨signerId, publicKey, nonce, receiverId, blockId, actions⟩

def signedTransaction : Reader SignedTransaction := do
  let transaction ← transaction
  let signature ← marked 64
  return ⟨transaction, signature⟩

theorem reads_text {s : String} (short : (Bytes.ofString s).length < UInt32.size) :
    text.Reads (textBytes s) s :=
  (Bytes.Reader.reads_natural short).bind (Bytes.Reader.reads_text s)

theorem reads_marked {size : Nat} {bs : Bytes} (sized : bs.length = size) :
    (marked size).Reads (0 :: bs) ⟨0, bs⟩ :=
  (Bytes.Reader.reads_byte 0).bind ((Bytes.Reader.reads_require rfl).bind
    ((Bytes.Reader.reads_take sized).last _))

def Action.bytes (a : Action) : Bytes :=
  a.mark :: Bytes.littleEndian 16 a.deposit

theorem reads_action {a : Action} (mark : a.mark = 3) (small : a.deposit < 2 ^ NearChain.depositBits) :
    action.Reads a.bytes a :=
  (Bytes.Reader.reads_byte a.mark).bind ((Bytes.Reader.reads_require mark).bind
    ((Bytes.Reader.reads_natural small).last _))

theorem reads_actions {all : List Action} (few : all.length < UInt32.size)
    (each : ∀ a ∈ all, a.mark = 3 ∧ a.deposit < 2 ^ NearChain.depositBits) :
    actions.Reads (Bytes.littleEndian 4 all.length ++ all.flatMap Action.bytes) all :=
  (Bytes.Reader.reads_natural few).bind
    (Bytes.Reader.reads_many Action.bytes fun a mem => reads_action (each a mem).1 (each a mem).2)

end Wire

namespace Transfer

/-- A transfer whose parts have the sizes that their places give them. -/
structure Sized (t : Transfer) : Prop where
  signerId : (Bytes.ofString t.signerId).length < UInt32.size
  publicKey : t.publicKey.length = 32
  nonce : t.nonce < UInt64.size
  receiverId : (Bytes.ofString t.receiverId).length < UInt32.size
  blockId : t.blockId.length = 32
  deposit : t.deposit < 2 ^ NearChain.depositBits

/-- The transaction of a transfer: one action, under a key of the curve Ed25519. -/
def wireTransaction (t : Transfer) : Wire.Transaction :=
  ⟨t.signerId, ⟨0, t.publicKey⟩, t.nonce, t.receiverId, t.blockId, [⟨3, t.deposit⟩]⟩

theorem encode_eq_wire (t : Transfer) :
    t.encode = textBytes t.signerId ++ ((0 :: t.publicKey) ++ (Bytes.littleEndian 8 t.nonce ++
      (textBytes t.receiverId ++ (t.blockId ++ (Bytes.littleEndian 4 1 ++
        [Wire.Action.mk 3 t.deposit].flatMap Wire.Action.bytes))))) := by
  simp only [encode, Wire.Action.bytes, keyMark, transferMark, List.flatMap_singleton,
    List.append_assoc, List.cons_append]

/-- A transfer is read back from its bytes. -/
theorem reads_encode {t : Transfer} (sized : t.Sized) :
    Wire.transaction.Reads t.encode t.wireTransaction := by
  have actions : Wire.actions.Reads
      (Bytes.littleEndian 4 1 ++ [Wire.Action.mk 3 t.deposit].flatMap Wire.Action.bytes)
      [Wire.Action.mk 3 t.deposit] :=
    Wire.reads_actions (by decide : 1 < UInt32.size) fun a mem => by
      rw [List.mem_singleton.1 mem]
      exact ⟨rfl, sized.deposit⟩
  rw [encode_eq_wire]
  exact (Wire.reads_text sized.signerId).bind ((Wire.reads_marked sized.publicKey).bind
    ((Bytes.Reader.reads_natural sized.nonce).bind ((Wire.reads_text sized.receiverId).bind
      ((Bytes.Reader.reads_take sized.blockId).bind (actions.last _)))))

/-- A transfer and its signature are read back. -/
theorem reads_signed {t : Transfer} (sized : t.Sized) {signature : Bytes}
    (length : signature.length = 64) :
    Wire.signedTransaction.Reads (t.encode ++ keyMark :: signature)
      ⟨t.wireTransaction, ⟨0, signature⟩⟩ :=
  (reads_encode sized).bind ((Wire.reads_marked length).last _)

end Transfer

end TokenFaucet.Near
