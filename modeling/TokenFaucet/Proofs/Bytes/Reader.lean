import TokenFaucet.Bytes.Utf8
import TokenFaucet.Proofs.Bytes.Text

set_option autoImplicit false

attribute [local instance (2000)] instPowNat

namespace TokenFaucet.Bytes

/-- A reader takes a value off the front of bytes and leaves the rest, or refuses them. -/
def Reader (α : Type) := Bytes → Option (α × Bytes)

namespace Reader

variable {α β : Type}

instance : Monad Reader where
  pure a := fun bs => some (a, bs)
  bind r f := fun bs => (r bs).bind fun (a, rest) => f a rest

def refuse : Reader α := fun _ => none

/-- Goes on only under a condition. -/
def require (p : Prop) [Decidable p] : Reader Unit := fun bs => if p then some ((), bs) else none

def byte : Reader UInt8
  | [] => none
  | b :: rest => some (b, rest)

def take (count : Nat) : Reader Bytes := fun bs =>
  if count ≤ bs.length then some (bs.take count, bs.drop count) else none

def literal (bs : Bytes) : Reader Unit := do
  let read ← take bs.length
  require (read = bs)

/-- A number in so many bytes, the lowest first. -/
def natural (width : Nat) : Reader Nat := do
  let bs ← take width
  return toNatLE bs

/-- A text in so many bytes of UTF-8. -/
def text (size : Nat) : Reader String := do
  let bs ← take size
  match utf8? bs with
  | some s => return s
  | none => refuse

def many (r : Reader α) : Nat → Reader (List α)
  | 0 => return []
  | count + 1 => do
    let a ← r
    let others ← many r count
    return a :: others

/-- The value that bytes are read as from the first to the last. -/
def whole? (r : Reader α) (bs : Bytes) : Option α :=
  match r bs with
  | some (a, []) => some a
  | _ => none

/-- A reader reads exactly those bytes as that value, whatever follows them. -/
def Reads (r : Reader α) (bs : Bytes) (a : α) : Prop :=
  ∀ rest, r (bs ++ rest) = some (a, rest)

theorem Reads.whole? {r : Reader α} {bs : Bytes} {a : α} (reads : r.Reads bs a) :
    r.whole? bs = some a := by
  have read := reads []
  rw [List.append_nil] at read
  rw [Reader.whole?, read]

theorem reads_pure (a : α) : (pure a : Reader α).Reads [] a := fun _ => rfl

theorem Reads.bind {r : Reader α} {f : α → Reader β} {bs bs' : Bytes} {a : α} {b : β}
    (first : r.Reads bs a) (second : (f a).Reads bs' b) : (r >>= f).Reads (bs ++ bs') b := by
  intro rest
  change (r (bs ++ bs' ++ rest)).bind _ = _
  rw [List.append_assoc, first]
  exact second rest

/-- The last part. -/
theorem Reads.last {r : Reader α} {bs : Bytes} {a : α} (reads : r.Reads bs a) (f : α → β) :
    (r >>= fun a => pure (f a)).Reads bs (f a) := by
  have read := reads.bind (f := fun a => pure (f a)) (reads_pure (f a))
  rwa [List.append_nil] at read

theorem reads_require {p : Prop} [Decidable p] (holds : p) : (require p).Reads [] () := by
  intro rest
  rw [require, if_pos holds, List.nil_append]

/-- The last part, under a condition on its value. -/
theorem Reads.checked {r : Reader α} {bs : Bytes} {a : α} (reads : r.Reads bs a) {p : α → Prop}
    [DecidablePred p] (holds : p a) (f : α → β) :
    (r >>= fun a => require (p a) >>= fun _ => pure (f a)).Reads bs (f a) := by
  have read := reads.bind (f := fun a => require (p a) >>= fun _ => pure (f a))
    ((reads_require holds).last fun _ => f a)
  rwa [List.append_nil] at read

theorem reads_byte (b : UInt8) : byte.Reads [b] b := fun _ => rfl

theorem reads_take {count : Nat} {bs : Bytes} (length : bs.length = count) :
    (take count).Reads bs bs := by
  intro rest
  subst length
  simp [take]

theorem reads_literal (bs : Bytes) : (literal bs).Reads bs () := by
  intro rest
  have taken : take bs.length (bs ++ rest) = some (bs, rest) := reads_take rfl rest
  change ((take _) _).bind _ = _
  rw [taken]
  exact reads_require rfl rest

theorem reads_natural {width n : Nat} (small : n < 256 ^ width) :
    (natural width).Reads (littleEndian width n) n := by
  have read := (reads_take (length_littleEndian width n)).last toNatLE
  rwa [toNatLE_littleEndian, Nat.mod_eq_of_lt small] at read

theorem utf8?_ofString (s : String) : utf8? (ofString s) = some s := by
  rw [utf8?, ofString_eq, Array.toArray_toList]
  exact dif_pos s.isValidUTF8

theorem reads_text (s : String) : (text (ofString s).length).Reads (ofString s) s := by
  intro rest
  have taken : take (ofString s).length (ofString s ++ rest) = some (ofString s, rest) :=
    reads_take rfl rest
  change ((take _) _).bind _ = _
  rw [taken]
  dsimp only [Option.bind]
  rw [utf8?_ofString]
  rfl

theorem reads_many {r : Reader α} (write : α → Bytes) {values : List α}
    (each : ∀ a ∈ values, r.Reads (write a) a) :
    (r.many values.length).Reads (values.flatMap write) values := by
  induction values with
  | nil => exact reads_pure []
  | cons a others ih =>
      rw [List.flatMap_cons]
      have first := each a (List.mem_cons_self ..)
      have later := ih fun b mem => each b (List.mem_cons_of_mem _ mem)
      exact first.bind (later.last _)

end Reader

end TokenFaucet.Bytes
