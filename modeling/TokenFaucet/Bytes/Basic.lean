set_option autoImplicit false

-- powers of numbers are those of core, whatever else is imported
attribute [local instance (2000)] instPowNat

namespace TokenFaucet

abbrev Bytes := List UInt8

namespace Bytes

/-- The number that bytes spell, the first byte the highest. -/
def toNat (bs : Bytes) : Nat :=
  bs.foldl (fun n b => 256 * n + b.toNat) 0

/-- The number that bytes spell, the first byte the lowest. -/
def toNatLE (bs : Bytes) : Nat :=
  bs.foldr (fun b n => b.toNat + 256 * n) 0

/-- The lowest `count` bytes of a number, the lowest first. -/
def littleEndian : Nat → Nat → Bytes
  | 0, _ => []
  | count + 1, n => UInt8.ofNat (n % 256) :: littleEndian count (n / 256)

/-- The lowest `count` bytes of a number, the highest first. -/
def bigEndian (count n : Nat) : Bytes :=
  (littleEndian count n).reverse

@[simp] theorem length_littleEndian (count n : Nat) : (littleEndian count n).length = count := by
  induction count generalizing n with
  | zero => rfl
  | succ count ih => simp [littleEndian, ih]

@[simp] theorem length_bigEndian (count n : Nat) : (bigEndian count n).length = count := by
  simp [bigEndian]

theorem toNatLE_littleEndian (count n : Nat) :
    toNatLE (littleEndian count n) = n % 256 ^ count := by
  induction count generalizing n with
  | zero => simp [littleEndian, toNatLE, Nat.mod_one]
  | succ count ih =>
    have h := ih (n / 256)
    simp only [toNatLE] at h
    simp only [littleEndian, toNatLE, List.foldr_cons, h]
    rw [Nat.pow_succ, Nat.mul_comm (256 ^ count) 256, Nat.mod_mul]
    have : (UInt8.ofNat (n % 256)).toNat = n % 256 := by
      simp [UInt8.toNat_ofNat']
    rw [this]

/-- The number of bytes that a number needs. -/
def width (n : Nat) : Nat :=
  if n = 0 then 0 else Nat.log2 n / 8 + 1

/-- A number without leading zero bytes, the highest byte first; zero is empty. -/
def minimal (n : Nat) : Bytes :=
  bigEndian (width n) n

def ofString (s : String) : Bytes :=
  s.toUTF8.toList

/-- Zero bytes in front up to a length. -/
def padLeft (count : Nat) (bs : Bytes) : Bytes :=
  List.replicate (count - bs.length) 0 ++ bs

end Bytes

end TokenFaucet
