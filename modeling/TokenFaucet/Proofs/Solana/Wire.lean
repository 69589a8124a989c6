import TokenFaucet.Proofs.Bytes.Reader
import TokenFaucet.Proofs.Solana.Signed

set_option autoImplicit false

attribute [local instance (2000)] instPowNat

namespace TokenFaucet.Solana

namespace Wire

open Bytes (Reader)
open Bytes.Reader (byte many natural refuse require take)

/-- An instruction: the place of its program and of its accounts in the table, and its data. -/
structure Instruction where
  program : UInt8
  accounts : Bytes
  data : Bytes

structure Message where
  signing : UInt8
  signingReadOnly : UInt8
  otherReadOnly : UInt8
  accounts : List Bytes
  blockhash : Bytes
  instructions : List Instruction

structure Transaction where
  signatures : List Bytes
  /-- The bytes that are signed: all that follow the signatures. -/
  signed : Bytes
  message : Message

/-- The most bytes of a length. -/
def lengthGroups : Nat := 3

/-- A number in at most so many groups of seven bits, the lowest first and none of them superfluous. -/
def groups : Nat → Reader Nat
  | 0 => refuse
  | more + 1 => do
    let b ← byte
    if b.toNat < 128 then return b.toNat
    else do
      let higher ← groups more
      require (higher ≠ 0)
      return b.toNat % 128 + 128 * higher

/-- A length of 16 bits. -/
def length : Reader Nat := do
  let n ← groups lengthGroups
  require (n < UInt16.size)
  return n

/-- Values behind their number. -/
def counted {α : Type} (r : Reader α) : Reader (List α) := do
  let count ← length
  many r count

/-- Bytes behind their number. -/
def string : Reader Bytes := do
  let count ← length
  take count

def instruction : Reader Instruction := do
  let program ← byte
  let accounts ← string
  let data ← string
  return ⟨program, accounts, data⟩

def message : Reader Message := do
  let signing ← byte
  let signingReadOnly ← byte
  let otherReadOnly ← byte
  let accounts ← counted (take 32)
  let blockhash ← take 32
  let instructions ← counted instruction
  return ⟨signing, signingReadOnly, otherReadOnly, accounts, blockhash, instructions⟩

/-- The transaction that bytes are. -/
def decode? (bs : Bytes) : Option Transaction :=
  match counted (take 64) bs with
  | none => none
  | some (signatures, signed) =>
    (message.whole? signed).map fun message => ⟨signatures, signed, message⟩

/-- The data of an instruction of the system program that moves lamports: the number of the instruction
and the lamports. -/
def transferData : Reader (Nat × Nat) := do
  let index ← natural 4
  let lamports ← natural 8
  return (index, lamports)

theorem reads_lastGroup (more : Nat) {n : Nat} (one : n < 128) :
    (groups (more + 1)).Reads [UInt8.ofNat n] n := by
  have value : (UInt8.ofNat n).toNat = n := UInt8.toNat_ofNat_of_lt' (Nat.lt_trans one (by decide))
  intro rest
  change (if (UInt8.ofNat n).toNat < 128 then _ else _ : Reader Nat) rest = _
  rw [value, if_pos one]
  rfl

theorem reads_groups {more n : Nat} (small : n < 128 ^ (more + 1)) :
    (groups (more + 1)).Reads (shortLength n) n := by
  induction more generalizing n with
  | zero =>
      rw [shortLength, if_pos small]
      exact reads_lastGroup 0 small
  | succ more ih =>
      rw [shortLength]
      split
      · next one => exact reads_lastGroup (more + 1) one
      · next several =>
          have fewer : n / 128 < 128 ^ (more + 1) := by
            rw [Nat.div_lt_iff_lt_mul (by decide), ← Nat.pow_succ]
            exact small
          have needed : n / 128 ≠ 0 := by omega
          have value : (UInt8.ofNat (n % 128 + 128)).toNat = n % 128 + 128 :=
            UInt8.toNat_ofNat_of_lt' (Nat.lt_of_lt_of_le (by omega) (Nat.le_refl 256))
          refine (Bytes.Reader.reads_byte (UInt8.ofNat (n % 128 + 128))).bind ?_
          rw [value, if_neg (by omega)]
          have read := (ih fewer).checked (p := (· ≠ 0)) needed fun higher =>
            (n % 128 + 128) % 128 + 128 * higher
          have sum : (n % 128 + 128) % 128 + 128 * (n / 128) = n := by omega
          rwa [sum] at read

theorem reads_length {n : Nat} (small : n < UInt16.size) : length.Reads (shortLength n) n := by
  have fits : n < 128 ^ 3 := Nat.lt_trans small (by decide)
  exact (reads_groups fits).checked (p := (· < UInt16.size)) small id

theorem reads_counted {α : Type} {r : Reader α} (write : α → Bytes) {values : List α}
    (few : values.length < UInt16.size) (each : ∀ a ∈ values, r.Reads (write a) a) :
    (counted r).Reads (shortLength values.length ++ values.flatMap write) values :=
  (reads_length few).bind (Bytes.Reader.reads_many write each)

theorem reads_string {bs : Bytes} (short : bs.length < UInt16.size) :
    string.Reads (shortLength bs.length ++ bs) bs :=
  (reads_length short).bind (Bytes.Reader.reads_take rfl)

def Instruction.bytes (i : Instruction) : Bytes :=
  [i.program] ++ ((shortLength i.accounts.length ++ i.accounts) ++
    (shortLength i.data.length ++ i.data))

theorem reads_instruction {i : Instruction} (accounts : i.accounts.length < UInt16.size)
    (data : i.data.length < UInt16.size) : instruction.Reads i.bytes i :=
  (Bytes.Reader.reads_byte i.program).bind
    ((reads_string accounts).bind ((reads_string data).last _))

def Message.bytes (m : Message) : Bytes :=
  [m.signing] ++ ([m.signingReadOnly] ++ ([m.otherReadOnly] ++
    ((shortLength m.accounts.length ++ m.accounts.flatMap id) ++ (m.blockhash ++
      (shortLength m.instructions.length ++ m.instructions.flatMap Instruction.bytes)))))

/-- The parts of a message have the sizes that their places give them. -/
structure Message.Sized (m : Message) : Prop where
  accounts : m.accounts.length < UInt16.size
  account : ∀ account ∈ m.accounts, account.length = 32
  blockhash : m.blockhash.length = 32
  instructions : m.instructions.length < UInt16.size
  instructionAccounts : ∀ i ∈ m.instructions, i.accounts.length < UInt16.size
  instructionData : ∀ i ∈ m.instructions, i.data.length < UInt16.size

theorem reads_message {m : Message} (sized : m.Sized) : message.Reads m.bytes m := by
  have accounts : (counted (take 32)).Reads _ m.accounts :=
    reads_counted id sized.accounts fun account mem => Bytes.Reader.reads_take (sized.account account mem)
  have instructions : (counted instruction).Reads _ m.instructions :=
    reads_counted Instruction.bytes sized.instructions fun i mem =>
      reads_instruction (sized.instructionAccounts i mem) (sized.instructionData i mem)
  have blockhash := Bytes.Reader.reads_take sized.blockhash
  exact (Bytes.Reader.reads_byte _).bind ((Bytes.Reader.reads_byte _).bind
    ((Bytes.Reader.reads_byte _).bind (accounts.bind (blockhash.bind (instructions.last _)))))

/-- A message under one signature is read with the bytes that were signed. -/
theorem decode?_signedMessage {signature : Bytes} {m : Message} (length : signature.length = 64)
    (sized : m.Sized) :
    decode? (signedMessage signature m.bytes) = some ⟨[signature], m.bytes, m⟩ := by
  have one : [signature].length < UInt16.size := (by decide : 1 < UInt16.size)
  have signatures : (counted (take 64)).Reads (shortLength 1 ++ ([signature].flatMap id)) [signature] :=
    reads_counted id one fun s mem => Bytes.Reader.reads_take (by rwa [List.mem_singleton.1 mem])
  rw [List.flatMap_singleton, id] at signatures
  rw [decode?, signedMessage, signatures m.bytes]
  dsimp only
  rw [(reads_message sized).whole?, Option.map_some]

end Wire

/-- The message of a transfer: one account signs, the receiver may be written, and the program is only
read. The one instruction moves lamports from the first account to the second. -/
def Transfer.wireMessage (t : Transfer) : Wire.Message :=
  ⟨1, 0, 1, [t.sender, t.receiver, Address.systemProgram.bytes], t.blockhash,
    [⟨2, [0, 1], t.instructionData⟩]⟩

theorem Transfer.bytes_wireMessage (t : Transfer) : t.wireMessage.bytes = t.message := by
  simp only [wireMessage, Wire.Message.bytes, Wire.Instruction.bytes, message, List.flatMap_cons,
    List.flatMap_nil, List.length_cons, List.length_nil, id, List.append_assoc, List.append_nil,
    List.cons_append, List.nil_append]

/-- A transfer between accounts of 32 bytes. -/
structure Transfer.Sized (t : Transfer) : Prop where
  sender : t.sender.length = 32
  receiver : t.receiver.length = 32
  blockhash : t.blockhash.length = 32

theorem Transfer.Sized.wireMessage {t : Transfer} (sized : t.Sized) : t.wireMessage.Sized where
  accounts := (by decide : 3 < UInt16.size)
  account := by
    simp [Transfer.wireMessage, sized.sender, sized.receiver, Address.systemProgram.length_bytes]
  blockhash := sized.blockhash
  instructions := (by decide : 1 < UInt16.size)
  instructionAccounts i mem := by
    rw [List.mem_singleton.1 mem]
    exact (by decide : 2 < UInt16.size)
  instructionData i mem := by
    rw [List.mem_singleton.1 mem, t.length_instructionData]
    decide

theorem Transfer.reads_instructionData (t : Transfer) :
    Wire.transferData.Reads t.instructionData (2, t.lamports.toNat) :=
  (Bytes.Reader.reads_natural (by decide)).bind
    ((Bytes.Reader.reads_natural t.lamports.toNat_lt).last _)

end TokenFaucet.Solana
