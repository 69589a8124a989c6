import Mathlib.Algebra.BigOperators.Group.List.Basic
import TokenFaucet.Proofs.Ledger.Amounts
import TokenFaucet.Proofs.Ledger.Linearized

set_option autoImplicit false

attribute [local instance (2000)] instPowNat

/-!
The total of a key. Payments are added one by one, each to what was read back of the sum before, so that
their order shows in the roundings and in nothing else: all orders lead to the exact sum but for five
roundings a payment, and to the same number if the sum needs few digits.
-/

namespace TokenFaucet.Ledger

open Json.NumberText (reread)
open Number (Binary64 Within)
open Number.Binary64

/-- A payment: an amount of an asset that has so many decimal places. -/
structure Payout where
  units : MinorUnits
  decimals : UInt8
  pos : 0 < units.toNat

namespace Payout

/-- What the ledger is told of a payment. -/
def delta (p : Payout) : Binary64 :=
  p.units.toHuman p.decimals

def call (k : Key) (p : Payout) : Call :=
  ⟨k, p.delta⟩

theorem isPayment (p : Payout) : IsPayment p.delta :=
  isPayment_toHuman p.pos p.decimals

end Payout

/-- The exact sum of payments. -/
def owed (payouts : List Payout) : ℚ :=
  (payouts.map fun p => p.delta.value).sum

/-- The sum after the first payment and the others, each of which is added to what is read back. -/
def accumulated (first : Payout) (rest : List Payout) : Binary64 :=
  rest.foldl (fun x p => (reread x).add p.delta) first.delta

/-- The payments are whole multiples of a power of two that is not too small, and fifteen decimal digits
hold their sum. -/
def FewDigits (payouts : List Payout) : Prop :=
  ∃ (j : Nat) (m : Payout → Nat), j ≤ 21 ∧ (∀ p ∈ payouts, p.delta.value = m p / 2 ^ j) ∧
    (payouts.map m).sum * 5 ^ j < 10 ^ 15

section Sum

variable {payouts : List Payout} {p : Payout} {x : Binary64}

theorem owed_snoc (payouts : List Payout) (p : Payout) :
    owed (payouts ++ [p]) = owed payouts + p.delta.value := by
  simp [owed]

theorem owed_perm {order : List Payout} (perm : order.Perm payouts) :
    owed order = owed payouts :=
  (perm.map _).sum_eq

theorem FewDigits.perm {order : List Payout} (few : FewDigits payouts) (perm : order.Perm payouts) :
    FewDigits order := by
  obtain ⟨j, m, places, multiples, bound⟩ := few
  refine ⟨j, m, places, fun p mem => multiples p (perm.mem_iff.1 mem), ?_⟩
  rwa [(perm.map m).sum_eq]

theorem FewDigits.of_snoc (few : FewDigits (payouts ++ [p])) : FewDigits payouts := by
  obtain ⟨j, m, places, multiples, bound⟩ := few
  refine ⟨j, m, places, fun q mem => multiples q (List.mem_append_left _ mem), ?_⟩
  rw [List.map_append, List.sum_append, Nat.add_mul] at bound
  exact Nat.lt_of_le_of_lt (Nat.le_add_right _ _) bound

/-- Whole units have few digits, as long as fifteen hold their sum. -/
theorem fewDigits_of_whole (whole : ∀ p ∈ payouts, p.decimals = 0)
    (bound : (payouts.map fun p => p.units.toNat).sum < 10 ^ 15) : FewDigits payouts := by
  refine ⟨0, fun p => p.units.toNat, by decide, fun p mem => ?_, by rwa [Nat.pow_zero, Nat.mul_one]⟩
  have own : p.units.toNat ∈ payouts.map fun p => p.units.toNat := List.mem_map.2 ⟨p, mem, rfl⟩
  have few := Nat.lt_of_le_of_lt (List.le_sum_of_mem own) bound
  have delta : p.delta = ofRatio false p.units.toNat 1 := by
    rw [Payout.delta, MinorUnits.toHuman_eq_ofRatio, whole p mem]
    rfl
  have finite := p.isPayment.finite
  rw [delta] at finite ⊢
  rw [value_ofRatio_of_representable Nat.one_pos finite ⟨p.units.toNat, 0, by omega, by decide, by simp⟩]
  simp

/-- A sum of few digits is a decimal of few places. -/
theorem FewDigits.sum_eq (few : FewDigits payouts) : ∃ j n : Nat, j ≤ 21 ∧ n * 5 ^ j < 10 ^ 15 ∧
    owed payouts = n / 2 ^ j := by
  obtain ⟨j, m, places, multiples, bound⟩ := few
  refine ⟨j, (payouts.map m).sum, places, bound, ?_⟩
  clear bound
  induction payouts with
  | nil => simp [owed]
  | cons p rest ih =>
      have others := ih fun q mem => multiples q (List.mem_cons_of_mem p mem)
      rw [owed] at others ⊢
      rw [List.map_cons, List.sum_cons, List.map_cons, List.sum_cons, others,
        multiples p List.mem_cons_self]
      push_cast
      ring

/-- A number of few digits is read back as it is. -/
theorem reread_of_value {j n : Nat} (finite : x.isFinite = true) (places : j ≤ 21)
    (few : n * 5 ^ j < 10 ^ 15) (value : x.value = n / 2 ^ j) : reread x = x := by
  cases zero : x.isZero with
  | true => exact Json.NumberText.reread_of_isZero zero
  | false =>
      apply Json.NumberText.reread_of_fifteen finite few places
      have same : ((n * 5 ^ j : Nat) : ℚ) / 10 ^ j = x.value := by
        have split_ : (10 : ℚ) ^ j = 2 ^ j * 5 ^ j := by rw [← mul_pow]; norm_num
        rw [value, split_]
        push_cast
        exact mul_div_mul_right _ _ (by positivity)
      rw [same]
      exact contains_value zero

/-- A number that the first payment and the others add up to. -/
structure Sums (first : Payout) (rest : List Payout) (x : Binary64) : Prop where
  total : IsTotal x
  near : Within (5 * rest.length) x.value (owed (first :: rest))
  exact : FewDigits (first :: rest) → x.value = owed (first :: rest)

variable {first : Payout} {rest : List Payout}

theorem sums_single (first : Payout) : Sums first [] first.delta := by
  have sum : owed [first] = first.delta.value := by simp [owed]
  refine ⟨first.isPayment.isTotal, ?_, fun _ => sum.symm⟩
  rw [sum]
  exact .refl first.delta.value_nonneg _

theorem Sums.reread_of_fewDigits (sums : Sums first rest x) (few : FewDigits (first :: rest)) :
    reread x = x := by
  obtain ⟨j, n, places, bound, same⟩ := few.sum_eq
  exact reread_of_value sums.total.finite places bound ((sums.exact few).trans same)

/-- The next payment. -/
theorem Sums.snoc (sums : Sums first rest x) (p : Payout) :
    Sums first (rest ++ [p]) ((reread x).add p.delta) := by
  obtain ⟨total, rounded⟩ := sums.total.add p.isPayment
  obtain ⟨finite, positive, read⟩ := sums.total.reread
  refine ⟨total, ?_, fun few => ?_⟩ <;> rw [← List.cons_append, owed_snoc]
  · have before := (read.trans sums.near).add_right p.delta.value_nonneg
    have count : 5 * (rest ++ [p]).length = 1 + (4 + 5 * rest.length) := by
      rw [List.length_append, List.length_singleton]
      omega
    rw [count]
    exact rounded.trans before
  · obtain ⟨j, n, places, bound, same⟩ := few.sum_eq
    obtain ⟨a, d, den, sum, value⟩ := add_of_nonneg finite p.isPayment.finite positive p.isPayment.positive
    have total_finite := total.finite
    rw [sums.reread_of_fewDigits few.of_snoc, sums.exact few.of_snoc, ← owed_snoc] at value
    rw [sum] at total_finite ⊢
    rw [← owed_snoc, ← value]
    refine value_ofRatio_of_representable den total_finite ⟨n, -j, ?_, by omega, ?_⟩
    · have one : 1 ≤ 5 ^ j := Nat.pow_pos (by decide)
      have less := Nat.le_mul_of_pos_right n one
      omega
    · rw [value, List.cons_append, same, zpow_neg, zpow_natCast, div_eq_mul_inv]

theorem sums_accumulated (first : Payout) (rest : List Payout) :
    Sums first rest (accumulated first rest) := by
  induction rest using List.reverseRecOn with
  | nil => exact sums_single first
  | append_singleton rest p ih =>
      rw [accumulated, List.foldl_append]
      exact ih.snoc p

end Sum

/-- Credits of payments to a key leave that amount in its row. -/
structure Leaves (k : Key) (x : Binary64) (outcome : List (Except Error Record) × Desk) : Prop where
  succeeded : ∀ r ∈ outcome.1, ∃ row, r = .ok row
  proper : ∀ n, (outcome.2.clock n).Proper
  row : ∃ r : Record, r.Writable ∧ r.amount = x ∧ outcome.2.store.text? k = some r.text

section Run

variable {k : Key} {desk : Desk}

theorem leaves_accumulated (absent : desk.store.text? k = none) (proper : ∀ n, (desk.clock n).Proper)
    (first : Payout) (rest : List Payout) :
    Leaves k (accumulated first rest) (inOrder (Payout.call k) (first :: rest) desk) := by
  induction rest using List.reverseRecOn with
  | nil =>
      have ran := @run_credit_of_none desk k first.delta absent
      change (first.call k).program.run Desk.answer desk = _ at ran
      rw [inOrder_cons, ran]
      exact ⟨fun r mem => ⟨_, List.mem_singleton.1 mem⟩, fun n => proper (n + 3),
        Record.ofKey k first.delta (desk.clock 1), ⟨first.isPayment.finite, proper 1, proper 1⟩, rfl,
        Store.text?_write_self ..⟩
  | append_singleton rest p ih =>
      obtain ⟨succeeded, later, r, writable, amount, found⟩ := ih
      have ran := @run_credit_of_some _ k p.delta r writable found
      change (p.call k).program.run Desk.answer _ = _ at ran
      have sum : (Store.added r p.delta ((inOrder (Payout.call k) (first :: rest) desk).2.clock 1)).amount =
          accumulated first (rest ++ [p]) := by
        rw [accumulated, List.foldl_append]
        exact congrArg (fun x => (reread x).add p.delta) amount
      have finite := (sums_accumulated first (rest ++ [p])).total.finite
      rw [← sum] at finite
      rw [← List.cons_append, inOrder_snoc, ran]
      refine ⟨?_, fun n => later (n + 2), _, Store.added_writable writable finite (later 1), sum,
        Store.text?_write_self ..⟩
      intro result mem
      rcases List.mem_append.1 mem with earlier | last
      · exact succeeded result earlier
      · exact ⟨_, List.mem_singleton.1 last⟩

end Run

/-- What is read of a key after payments to it, one after another. -/
structure Settled (k : Key) (payouts : List Payout) (outcome : List (Except Error Record) × Desk)
    (read : Option Record) : Prop where
  succeeded : ∀ r ∈ outcome.1, ∃ row, r = .ok row
  got : outcome.2.store.get (.ofKey k) = .ok read
  paid : read = none ↔ payouts = []
  finite : ∀ row, read = some row → row.amount.isFinite = true ∧ row.amount.isNegative = false
  near : ∀ row, read = some row →
    Within (5 * payouts.length) row.amount.value (owed payouts)
  exact : FewDigits payouts → ∀ row, read = some row → row.amount.value = owed payouts

theorem text?_of_get_none {k : Key} {s : Store} (absent : s.get (.ofKey k) = .ok none) :
    s.text? k = none := by
  change s.find k = .ok none at absent
  rw [Store.find] at absent
  split at absent
  · next text found =>
      cases parsed : Record.parse text <;> rw [parsed] at absent <;> cases absent
  · next nothing => exact nothing

theorem settled_of_perm {k : Key} {desk : Desk} (absent : desk.store.get (.ofKey k) = .ok none)
    (proper : ∀ n, (desk.clock n).Proper) {payouts order : List Payout} (perm : order.Perm payouts) :
    ∃ read, Settled k payouts (inOrder (Payout.call k) order desk) read := by
  cases order with
  | nil =>
      obtain rfl := perm.nil_eq
      exact ⟨none, nofun, absent, by simp, nofun, nofun, fun _ => nofun⟩
  | cons first rest =>
      obtain ⟨succeeded, -, r, writable, amount, found⟩ :=
        leaves_accumulated (text?_of_get_none absent) proper first rest
      have sums := sums_accumulated first rest
      rw [← amount] at sums
      obtain ⟨finite, positive, read⟩ := sums.total.reread
      have some_ : payouts ≠ [] := by
        rintro rfl
        exact List.cons_ne_nil _ _ perm.eq_nil
      refine ⟨some r.reread, succeeded, Store.find_of_some writable found, by simp [some_], ?_, ?_, ?_⟩
      · rintro _ ⟨⟩
        exact ⟨finite, positive⟩
      · rintro _ ⟨⟩
        have near := (read.trans sums.near).mono (value_nonneg _)
          (show 4 + 5 * rest.length ≤ 5 * (first :: rest).length by rw [List.length_cons]; omega)
        rw [owed_perm perm, perm.length_eq] at near
        exact near
      · rintro few _ ⟨⟩
        change (reread r.amount).value = _
        rw [sums.reread_of_fewDigits (few.perm perm), sums.exact (few.perm perm), owed_perm perm]

/-- Payments to one key that has no row yet, in two orders: both end well, both are read as the sum but
for five roundings a payment, and as the same number if the sum has few digits. -/
theorem total_of_orders {k : Key} {desk : Desk} (absent : desk.store.get (.ofKey k) = .ok none)
    (proper : ∀ n, (desk.clock n).Proper) {payouts order order' : List Payout}
    (perm : order.Perm payouts) (perm' : order'.Perm payouts) :
    ∃ read read', Settled k payouts (inOrder (Payout.call k) order desk) read ∧
      Settled k payouts (inOrder (Payout.call k) order' desk) read' ∧
      (∀ row row', read = some row → read' = some row' →
        Within (10 * payouts.length) row.amount.value row'.amount.value) ∧
      (FewDigits payouts → read.map Record.amount = read'.map Record.amount) := by
  obtain ⟨read, settled⟩ := settled_of_perm absent proper perm
  obtain ⟨read', settled'⟩ := settled_of_perm absent proper perm'
  refine ⟨read, read', settled, settled', ?_, ?_⟩
  · intro row row' same same'
    have near := (settled.near row same).trans (settled'.near row' same').symm
    rwa [← Nat.add_mul] at near
  · intro few
    cases read with
    | none =>
        have nothing := settled'.paid.2 (settled.paid.1 rfl)
        rw [nothing]
    | some row =>
        cases read' with
        | none => exact absurd (settled.paid.2 (settled'.paid.1 rfl)) (by simp)
        | some row' =>
            obtain ⟨finite, positive⟩ := settled.finite row rfl
            obtain ⟨finite', positive'⟩ := settled'.finite row' rfl
            have value := (settled.exact few row rfl).trans (settled'.exact few row' rfl).symm
            exact congrArg some (eq_of_value_eq finite finite' (positive.trans positive'.symm) value)

section Tenths

/-- One, two and three minor units of an asset that has one decimal place. -/
def oneTenth : Payout := ⟨⟨1, by decide⟩, 1, by decide⟩

def twoTenths : Payout := ⟨⟨2, by decide⟩, 1, by decide⟩

def threeTenths : Payout := ⟨⟨3, by decide⟩, 1, by decide⟩

/-- The number after the one nearest to 0.6, and that one; both are read back as they are. -/
theorem sum_of_three_tenths :
    reread (accumulated oneTenth [twoTenths, threeTenths]) = ⟨0x3fe3333333333334⟩ ∧
      reread (accumulated threeTenths [twoTenths, oneTenth]) = ⟨0x3fe3333333333333⟩ := by
  decide +kernel

/-- What is read of a key after payments to it alone. -/
theorem get_accumulated (k : Key) {now : Timestamp} (proper : now.Proper) (first : Payout)
    (rest : List Payout) :
    ∃ row, (inOrder (Payout.call k) (first :: rest) ⟨Store.empty, fun _ => now⟩).2.store.get (.ofKey k) =
      .ok (some row) ∧ row.amount = reread (accumulated first rest) := by
  obtain ⟨-, -, r, writable, amount, found⟩ :=
    @leaves_accumulated k ⟨Store.empty, fun _ => now⟩ rfl (fun _ => proper) first rest
  exact ⟨r.reread, Store.find_of_some writable found, congrArg reread amount⟩

def wholeUnits : List Payout :=
  [⟨⟨1, by decide⟩, 0, by decide⟩, ⟨⟨2, by decide⟩, 0, by decide⟩, ⟨⟨3, by decide⟩, 0, by decide⟩]

/-- Payments of tenths in two orders, and payments of whole units, whose order does not show. -/
theorem total_of_orders_reversed :
    ∃ (k : Key) (now : Timestamp), now.Proper ∧ Store.empty.get (.ofKey k) = .ok none ∧
      (∃ read read', [threeTenths, twoTenths, oneTenth].Perm [oneTenth, twoTenths, threeTenths] ∧
        Settled k [oneTenth, twoTenths, threeTenths]
          (inOrder (Payout.call k) [oneTenth, twoTenths, threeTenths] ⟨Store.empty, fun _ => now⟩) read ∧
        Settled k [oneTenth, twoTenths, threeTenths]
          (inOrder (Payout.call k) [threeTenths, twoTenths, oneTenth] ⟨Store.empty, fun _ => now⟩)
          read') ∧
      ∃ read read', wholeUnits.reverse.Perm wholeUnits ∧ FewDigits wholeUnits ∧
        Settled k wholeUnits (inOrder (Payout.call k) wholeUnits ⟨Store.empty, fun _ => now⟩) read ∧
        Settled k wholeUnits (inOrder (Payout.call k) wholeUnits.reverse ⟨Store.empty, fun _ => now⟩)
          read' ∧
        read.map Record.amount = read'.map Record.amount := by
  let k : Key := ⟨"alice", "sepolia", .evm, ""⟩
  let now : Timestamp := ⟨2024, 1, 2, 3, 4, 5, 0⟩
  have proper : now.Proper := ⟨by decide, by decide⟩
  have absent : Store.empty.get (.ofKey k) = .ok none := rfl
  have few : FewDigits wholeUnits := fewDigits_of_whole (by decide) (by decide)
  have tenths : [threeTenths, twoTenths, oneTenth].Perm [oneTenth, twoTenths, threeTenths] :=
    List.reverse_perm [oneTenth, twoTenths, threeTenths]
  have units := List.reverse_perm wholeUnits
  obtain ⟨first, first', settled₁, settled₁', -⟩ := @total_of_orders k ⟨Store.empty, fun _ => now⟩ absent
    (fun _ => proper) _ _ _ (.refl _) tenths
  obtain ⟨second, second', settled₂, settled₂', -, same⟩ :=
    @total_of_orders k ⟨Store.empty, fun _ => now⟩ absent (fun _ => proper) _ _ _ (.refl _) units
  exact ⟨k, now, proper, absent, ⟨first, first', tenths, settled₁, settled₁'⟩,
    second, second', units, few, settled₂, settled₂', same few⟩

/-- The order of three payments shows in the total. -/
theorem total_depends_on_order :
    ∃ (k : Key) (now : Timestamp) (row row' : Record), now.Proper ∧
      Store.empty.get (.ofKey k) = .ok none ∧
      [threeTenths, twoTenths, oneTenth].Perm [oneTenth, twoTenths, threeTenths] ∧
      (inOrder (Payout.call k) [oneTenth, twoTenths, threeTenths]
        ⟨Store.empty, fun _ => now⟩).2.store.get (.ofKey k) = .ok (some row) ∧
      (inOrder (Payout.call k) [threeTenths, twoTenths, oneTenth]
        ⟨Store.empty, fun _ => now⟩).2.store.get (.ofKey k) = .ok (some row') ∧
      row.amount ≠ row'.amount := by
  let k : Key := ⟨"alice", "sepolia", .evm, ""⟩
  let now : Timestamp := ⟨2024, 1, 2, 3, 4, 5, 0⟩
  have proper : now.Proper := ⟨by decide, by decide⟩
  obtain ⟨row, read, amount⟩ := get_accumulated k proper oneTenth [twoTenths, threeTenths]
  obtain ⟨row', read', amount'⟩ := get_accumulated k proper threeTenths [twoTenths, oneTenth]
  refine ⟨k, now, row, row', proper, rfl, List.reverse_perm [oneTenth, twoTenths, threeTenths], read,
    read', ?_⟩
  rw [amount, amount', sum_of_three_tenths.1, sum_of_three_tenths.2]
  decide

end Tenths

end TokenFaucet.Ledger
