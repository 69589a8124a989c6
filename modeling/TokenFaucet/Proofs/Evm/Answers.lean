import TokenFaucet.Proofs.Bytes.Hex
import TokenFaucet.Proofs.Evm.Inquiry
import TokenFaucet.Proofs.Json.Tree
import TokenFaucet.Proofs.Number.Numeral
import TokenFaucet.Proofs.Result

set_option autoImplicit false

attribute [local instance (2000)] instPowNat

namespace TokenFaucet

open Network (Outcome)

namespace Evm.Reply

/-- The base that a letter after a zero announces. -/
def base? : Char → Option Nat
  | 'x' => some 16
  | 'X' => some 16
  | 'o' => some 8
  | 'O' => some 8
  | 'b' => some 2
  | 'B' => some 2
  | _ => none

/-- A text is a numeral: digits of the base that its mark announces, or of base ten without a mark. -/
inductive Numeral : String → Nat → Prop where
  | marked {mark : Char} {base n : Nat} {ds : List Char} (announced : base? mark = some base)
      (spells : Number.Radix.Spells base (Bytes.ofString (String.ofList ds)) n) :
      Numeral (String.ofList ('0' :: mark :: ds)) n
  | plain {s : String} {n : Nat}
      (unmarked : ∀ mark ds, s.toList = '0' :: mark :: ds → base? mark = none)
      (spells : Number.Radix.Spells 10 (Bytes.ofString s) n) : Numeral s n

/-- A result is a number: one itself, or a numeral. -/
inductive IsNumber : Json.Node → Nat → Prop where
  | number (n : Nat) : IsNumber (.number (some (.integer n))) n
  | numeral {s : String} {n : Nat} (numeral : Numeral s n) : IsNumber (.string (some s)) n

theorem base?_eq (c : Char) :
    base? c = match c.toLower with
      | 'x' => some 16
      | 'o' => some 8
      | 'b' => some 2
      | _ => none := by
  have all : ∀ n < 128, base? (Char.ofNat n) = match (Char.ofNat n).toLower with
      | 'x' => some 16
      | 'o' => some 8
      | 'b' => some 2
      | _ => none := by
    decide
  by_cases ascii : c.toNat < 128
  · have same := all c.toNat ascii
    rwa [Char.ofNat_toNat] at same
  · rw [Text.toLower_of_wide (Nat.not_lt.1 ascii)]
    have none : base? c = none := by
      unfold base?
      split
      iterate 6 exact absurd (by decide) ascii
      rfl
    rw [none]
    split
    iterate 3 exact absurd (by decide) ascii
    rfl

theorem radix_of_marked {mark : Char} {base : Nat} (announced : base? mark = some base)
    (ds : List Char) : radix (String.ofList ('0' :: mark :: ds)) = (base, String.ofList ds) := by
  rw [base?_eq] at announced
  unfold radix
  rw [String.toList_ofList]
  split at announced
  · next lower => cases announced; simp only [lower]
  · next lower => cases announced; simp only [lower]
  · next lower => cases announced; simp only [lower]
  · cases announced

theorem radix_of_unmarked {s : String}
    (unmarked : ∀ mark ds, s.toList = '0' :: mark :: ds → base? mark = none) : radix s = (10, s) := by
  unfold radix
  split
  · next mark ds same =>
      have none := unmarked mark ds same
      rw [base?_eq] at none
      split
      · next lower => rw [lower] at none; cases none
      · next lower => rw [lower] at none; cases none
      · next lower => rw [lower] at none; cases none
      · rfl
  · rfl

theorem numeral_iff {s : String} {n : Nat} :
    Numeral s n ↔ Number.Radix.Spells (radix s).1 (Bytes.ofString (radix s).2) n := by
  constructor
  · intro numeral
    cases numeral with
    | marked announced spells => rwa [radix_of_marked announced]
    | plain unmarked spells => rwa [radix_of_unmarked unmarked]
  · intro spells
    by_cases announces : ∃ mark ds base, s.toList = '0' :: mark :: ds ∧ base? mark = some base
    · obtain ⟨mark, ds, base, same, announced⟩ := announces
      rw [← String.ofList_toList (s := s), same] at spells ⊢
      rw [radix_of_marked announced] at spells
      exact .marked announced spells
    · have unmarked : ∀ mark ds, s.toList = '0' :: mark :: ds → base? mark = none := by
        intro mark ds same
        cases announced : base? mark with
        | none => rfl
        | some base => exact absurd ⟨mark, ds, base, same, announced⟩ announces
      rw [radix_of_unmarked unmarked] at spells
      exact .plain unmarked spells

/-- The results that are read as quantities are the numbers below the bound. -/
theorem quantity_eq_ok_iff {bound n : Nat} (positive : 0 < bound) {node : Json.Node} :
    quantity bound node = .ok n ↔ IsNumber node n ∧ n < bound := by
  constructor
  · intro read
    unfold quantity at read
    split at read
    · next s =>
        have parsed := (Number.Radix.parse_eq_ok_iff positive).1 (mapError_eq_ok_iff.1 read)
        exact ⟨.numeral (numeral_iff.2 parsed.1), parsed.2⟩
    · next i =>
        split at read
        · next range =>
            cases read
            have same : i = (i.toNat : Int) := (Int.toNat_of_nonneg range.1).symm
            rw [same]
            exact ⟨.number _, by omega⟩
        · cases read
    · cases read
  · rintro ⟨number, below⟩
    cases number with
    | number =>
        change (if 0 ≤ (n : Int) ∧ (n : Int) < bound then _ else _) = _
        rw [if_pos (by omega)]
        rfl
    | @numeral s _ numeral =>
        exact mapError_eq_ok_iff.2
          ((Number.Radix.parse_eq_ok_iff positive).2 ⟨numeral_iff.1 numeral, below⟩)

theorem amount_eq_ok_iff {node : Json.Node} {a : MinorUnits} :
    amount node = .ok a ↔ IsNumber node a.toNat := by
  have positive : 0 < 2 ^ MinorUnits.width := by decide
  refine bind_eq_ok_iff.trans ⟨?_, fun number => ?_⟩
  · rintro ⟨n, read, fits⟩
    split at fits
    · next own =>
        cases fits
        obtain rfl := MinorUnits.ofNat?_eq_some_iff.1 own
        exact ((quantity_eq_ok_iff positive).1 read).1
    · cases fits
  · refine ⟨a.toNat, (quantity_eq_ok_iff positive).2 ⟨number, a.toNat_lt⟩, ?_⟩
    rw [MinorUnits.ofNat?_eq_some_iff.2 rfl]
    rfl

/-- A result is bytes: their digits, or the list of their numbers. -/
inductive IsBytes : Json.Node → Bytes → Prop where
  | digits {s : String} {bs : Bytes} (spells : Bytes.Hex.Spells s bs) : IsBytes (.string (some s)) bs
  | items (bs : Bytes) (closed : Bool) :
      IsBytes (.array (bs.map fun b => .number (some (.integer b.toNat))) closed) bs

theorem byteItems_eq_ok_iff {items : List Json.Node} {bs : Bytes} :
    byteItems items = .ok bs ↔ items = bs.map fun b => .number (some (.integer b.toNat)) := by
  constructor
  · intro read
    induction items generalizing bs with
    | nil => cases read; rfl
    | cons item rest ih =>
        unfold byteItems at read
        split at read
        · next none => cases none
        · next i others same =>
          cases same
          split at read
          · cases read
          · next range =>
              obtain ⟨later, readLater, whole⟩ := bind_eq_ok_iff.1 read
              cases whole
              have byte : ((UInt8.ofNat i.toNat).toNat : Int) = i := by
                rw [UInt8.toNat_ofNat']
                omega
              rw [List.map_cons, ih readLater, byte]
        · cases read
  · rintro rfl
    induction bs with
    | nil => rfl
    | cons b rest ih =>
        have byte := b.toNat_lt
        rw [List.map_cons, byteItems, if_neg (by omega)]
        refine bind_eq_ok_iff.2 ⟨rest, ih, ?_⟩
        rw [Int.toNat_natCast, UInt8.ofNat_toNat]
        rfl

theorem bytes_eq_ok_iff {node : Json.Node} {bs : Bytes} : bytes node = .ok bs ↔ IsBytes node bs := by
  constructor
  · intro read
    unfold bytes at read
    split at read
    · exact .digits (Bytes.Hex.decode_eq_ok_iff.1 (mapError_eq_ok_iff.1 read))
    · obtain rfl := byteItems_eq_ok_iff.1 read
      exact .items _ _
    · cases read
  · intro spelled
    cases spelled with
    | digits spells => exact mapError_eq_ok_iff.2 (Bytes.Hex.decode_eq_ok_iff.2 spells)
    | items => exact byteItems_eq_ok_iff.2 rfl

theorem hash_eq_ok_iff {node : Json.Node} {bs : Bytes} :
    hash node = .ok bs ↔ IsBytes node bs ∧ bs.length = 32 := by
  refine bind_eq_ok_iff.trans ⟨?_, ?_⟩
  · rintro ⟨read, spelled, size⟩
    split at size
    · next same =>
        cases size
        exact ⟨bytes_eq_ok_iff.1 spelled, same⟩
    · cases size
  · rintro ⟨spelled, size⟩
    exact ⟨bs, bytes_eq_ok_iff.2 spelled, if_pos size⟩

def resultOutcome (result : Json) : Outcome :=
  .answer 200 (Json.object [("result", result)]).render

theorem ofOutcome_result (url : Url) (result : Json) :
    ofOutcome url (resultOutcome result) = .ok result.written := by
  have tree : (Json.object [("result", result)]).written =
      .object [(some "result", result.written)] true := by
    rw [Json.written, Json.writtenMembers, Json.writtenMembers]
  change ofBody (Json.object [("result", result)]).render = _
  unfold ofBody
  rw [Json.Node.document_render, tree]
  rfl

theorem quantity_natural {n bound : Nat} (small : n < UInt64.size) (below : n < bound) :
    quantity bound (Json.number (.integer n)).written = .ok n := by
  rw [Json.written_natural small]
  exact (quantity_eq_ok_iff (Nat.zero_lt_of_lt below)).2 ⟨.number n, below⟩

end Evm.Reply

namespace EvmChain

variable {α : Type} (c : EvmChain)

theorem rpcAnswer_ok {method : String} {read : Json.Node → Except Evm.Failure α} {outcome : Outcome}
    {a : α} (answered : c.rpcAnswer method read outcome = .ok a) : ∃ node, read node = .ok a := by
  obtain ⟨node, -, read⟩ := bind_eq_ok_iff.1 (mapError_eq_ok_iff.1 answered)
  exact ⟨node, read⟩

theorem rpcAnswer_result (method : String) {read : Json.Node → Except Evm.Failure α} {result : Json}
    {a : α} (value : read result.written = .ok a) :
    c.rpcAnswer method read (Evm.Reply.resultOutcome result) = .ok a := by
  unfold rpcAnswer
  rw [Evm.Reply.ofOutcome_result]
  change (read result.written).mapError _ = _
  rw [value]
  rfl

variable {c}

theorem countAnswer_lt {outcome : Outcome} {n : Nat} (answered : c.countAnswer outcome = .ok n) :
    n < UInt64.size := by
  obtain ⟨node, read⟩ := c.rpcAnswer_ok answered
  exact ((Evm.Reply.quantity_eq_ok_iff (by decide)).1 read).2

theorem priceAnswer_lt {outcome : Outcome} {n : Nat} (answered : c.priceAnswer outcome = .ok n) :
    n < 2 ^ gasPriceBits := by
  obtain ⟨node, read⟩ := c.rpcAnswer_ok answered
  exact ((Evm.Reply.quantity_eq_ok_iff (by decide)).1 read).2

theorem estimateAnswer_lt {outcome : Outcome} {n : Nat}
    (answered : c.estimateAnswer outcome = .ok n) : n < UInt64.size := by
  obtain ⟨node, read⟩ := c.rpcAnswer_ok answered
  exact ((Evm.Reply.quantity_eq_ok_iff (by decide)).1 read).2

variable (c)

theorem exists_countAnswer {n : Nat} (small : n < UInt64.size) :
    ∃ outcome, c.countAnswer outcome = .ok n :=
  ⟨_, c.rpcAnswer_result _ (Evm.Reply.quantity_natural small small)⟩

theorem exists_priceAnswer : ∃ outcome price, c.priceAnswer outcome = .ok price :=
  ⟨_, 0, c.rpcAnswer_result _ (Evm.Reply.quantity_natural (by decide) (by decide))⟩

theorem exists_estimateAnswer : ∃ outcome estimate, c.estimateAnswer outcome = .ok estimate :=
  ⟨_, 0, c.rpcAnswer_result _ (Evm.Reply.quantity_natural (by decide) (by decide))⟩

/-- Any 32 bytes may be the hash that a submission is answered with. -/
theorem exists_submissionAnswer {hash : Bytes} (length : hash.length = 32) :
    ∃ outcome, c.submissionAnswer outcome = .ok ("0x" ++ Bytes.Hex.encode hash) := by
  have read : Evm.Reply.hash (bytesJson hash).written = .ok hash := by
    change (do
      let bs ← (Bytes.Hex.decode ("0x" ++ Bytes.Hex.encode hash)).mapError fun _ => _
      if bs.length = 32 then return bs else throw .malformed : Except Evm.Failure Bytes) = _
    rw [Bytes.Hex.decode_encode]
    change (if hash.length = 32 then _ else _) = _
    rw [if_pos length]
    rfl
  refine ⟨Evm.Reply.resultOutcome (bytesJson hash), ?_⟩
  unfold submissionAnswer
  rw [Evm.Reply.ofOutcome_result]
  change ((Evm.Reply.hash (bytesJson hash).written).mapError _).map _ = _
  rw [read]
  rfl

end EvmChain

end TokenFaucet
