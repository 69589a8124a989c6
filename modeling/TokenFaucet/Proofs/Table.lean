import Mathlib.Data.List.Forall2
import TokenFaucet.Table

set_option autoImplicit false

namespace TokenFaucet.Table

variable {κ α : Type}

/-- Where rows are related one by one, every row has one that it is related to. -/
theorem exists_of_forall₂ {α β : Type} {related : α → β → Prop} {rows : List α} {rows' : List β}
    (all : List.Forall₂ related rows rows') : ∀ a ∈ rows, ∃ b ∈ rows', related a b := by
  induction all with
  | nil => exact List.forall_mem_nil _
  | cons own _ ih =>
      rw [List.forall_mem_cons]
      refine ⟨⟨_, List.mem_cons_self .., own⟩, fun a mem => ?_⟩
      obtain ⟨b, among, found⟩ := ih a mem
      exact ⟨b, List.mem_cons_of_mem _ among, found⟩

theorem mem_put {before : κ → κ → Bool} {k : κ} {a : α} {rows : List (κ × α)} {row : κ × α}
    (mem : row ∈ put before k a rows) : row = (k, a) ∨ row ∈ rows := by
  induction rows with
  | nil => exact .inl (List.mem_singleton.1 mem)
  | cons first rest ih =>
      obtain ⟨k', a'⟩ := first
      rw [put] at mem
      split at mem
      · exact List.mem_cons.1 mem
      · split at mem
        · rcases List.mem_cons.1 mem with rfl | later
          · exact .inr (List.mem_cons_self ..)
          · obtain own | earlier := ih later
            · exact .inl own
            · exact .inr (List.mem_cons_of_mem _ earlier)
        · rcases List.mem_cons.1 mem with rfl | later
          · exact .inl rfl
          · exact .inr (List.mem_cons_of_mem _ later)

theorem mem_of_find? [BEq κ] [LawfulBEq κ] {k : κ} {a : α} {rows : List (κ × α)}
    (found : find? k rows = some a) : (k, a) ∈ rows := by
  induction rows with
  | nil => cases found
  | cons first rest ih =>
      obtain ⟨k', a'⟩ := first
      rw [find?] at found
      split at found
      · next same =>
          cases found
          rw [eq_of_beq same]
          exact List.mem_cons_self ..
      · exact List.mem_cons_of_mem _ (ih found)

theorem find?_of_mem [BEq κ] [LawfulBEq κ] {k : κ} {a : α} {rows : List (κ × α)}
    (mem : (k, a) ∈ rows) : find? k rows ≠ none := by
  induction rows with
  | nil => cases mem
  | cons first rest ih =>
      obtain ⟨k', a'⟩ := first
      rw [find?]
      split
      · exact Option.some_ne_none _
      · next other =>
          rcases List.mem_cons.1 mem with own | later
          · cases own
            exact absurd (beq_self_eq_true k) other
          · exact ih later

theorem find?_eq_none_iff [BEq κ] [LawfulBEq κ] {k : κ} {rows : List (κ × α)} :
    find? k rows = none ↔ k ∉ rows.map (·.1) := by
  induction rows with
  | nil => simp [find?]
  | cons first rest ih =>
      obtain ⟨k', a'⟩ := first
      rw [find?, List.map_cons, List.mem_cons, not_or, ← ih]
      by_cases same : k = k'
      · simp [same]
      · simp [same]

/-- Where no key occurs twice, every row is found. -/
theorem find?_of_nodup [BEq κ] [LawfulBEq κ] {k : κ} {a : α} {rows : List (κ × α)}
    (nodup : (rows.map (·.1)).Nodup) (mem : (k, a) ∈ rows) : find? k rows = some a := by
  induction rows with
  | nil => cases mem
  | cons first rest ih =>
      obtain ⟨k', a'⟩ := first
      obtain ⟨other, nodup⟩ := List.nodup_cons.1 nodup
      rw [find?]
      rcases List.mem_cons.1 mem with own | later
      · cases own
        rw [if_pos (beq_self_eq_true k)]
      · have differs : k ≠ k' := by
          rintro rfl
          exact other (List.mem_map.2 ⟨_, later, rfl⟩)
        rw [if_neg (by simpa using differs), ih nodup later]

/-- Writing at a new key adds a row. -/
theorem put_perm {before : κ → κ → Bool}
    (total : ∀ a b, before a b = false → before b a = false → a = b) {k : κ} {a : α}
    {rows : List (κ × α)} (new : k ∉ rows.map (·.1)) :
    (put before k a rows).Perm ((k, a) :: rows) := by
  induction rows with
  | nil => exact .refl _
  | cons first rest ih =>
      obtain ⟨k', a'⟩ := first
      obtain ⟨differs, others⟩ := not_or.1 (fun own => new (List.mem_cons.2 own))
      rw [put]
      split
      · exact .refl _
      · split
        · exact ((ih others).cons _).trans (.swap ..)
        · next notLess notMore =>
            exact absurd (total k k' (by simpa using notLess) (by simpa using notMore)) differs

/-- Rows in ascending order of their keys stay so. -/
theorem put_pairwise {before : κ → κ → Bool}
    (total : ∀ a b, before a b = false → before b a = false → a = b)
    (trans : ∀ a b c, before a b = true → before b c = true → before a c = true) {k : κ} {a : α}
    {rows : List (κ × α)} (ordered : rows.Pairwise fun x y => before x.1 y.1 = true) :
    (put before k a rows).Pairwise fun x y => before x.1 y.1 = true := by
  induction rows with
  | nil => exact List.pairwise_singleton ..
  | cons first rest ih =>
      obtain ⟨k', a'⟩ := first
      obtain ⟨least, others⟩ := List.pairwise_cons.1 ordered
      rw [put]
      split
      · next below =>
          refine List.pairwise_cons.2 ⟨?_, ordered⟩
          intro row mem
          rcases List.mem_cons.1 mem with rfl | later
          · exact below
          · exact trans _ _ _ below (least row later)
      · split
        · next more =>
            refine List.pairwise_cons.2 ⟨?_, ih others⟩
            intro row mem
            obtain rfl | earlier := mem_put mem
            · exact more
            · exact least row earlier
        · next notLess notMore =>
            have same : k = k' := total k k' (by simpa using notLess) (by simpa using notMore)
            subst same
            exact List.pairwise_cons.2 ⟨least, others⟩

section Texts

abbrev byText : String → String → Bool :=
  fun a b => decide (a < b)

theorem byText_total (a b : String) (notLess : byText a b = false) (notMore : byText b a = false) :
    a = b := by
  have less := of_decide_eq_false notLess
  have more := of_decide_eq_false notMore
  exact String.le_antisymm (String.not_lt.1 more) (String.not_lt.1 less)

theorem byText_irrefl (a : String) : byText a a = false :=
  decide_eq_false (String.lt_irrefl a)

theorem byText_trans (a b c : String) (less : byText a b = true) (more : byText b c = true) :
    byText a c = true :=
  decide_eq_true (String.lt_trans (of_decide_eq_true less) (of_decide_eq_true more))

/-- Rows in the order of their texts stay so. -/
theorem put_ordered {k : String} {a : α} {rows : List (String × α)}
    (ordered : rows.Pairwise fun x y => x.1 < y.1) :
    (put byText k a rows).Pairwise fun x y => x.1 < y.1 := by
  have kept := put_pairwise byText_total byText_trans (k := k) (a := a)
    (ordered.imp fun less => decide_eq_true less)
  exact kept.imp fun less => of_decide_eq_true less

theorem mem_keys_put {k w : String} {a : α} {rows : List (String × α)} :
    w ∈ (put byText k a rows).map (·.1) ↔ w = k ∨ w ∈ rows.map (·.1) := by
  have found := find?_put byText_total byText_irrefl k w a rows
  by_cases own : w = k
  · subst own
    rw [beq_self_eq_true, if_pos rfl] at found
    exact ⟨fun _ => .inl rfl, fun _ => List.mem_map.2 ⟨_, mem_of_find? found, rfl⟩⟩
  · rw [if_neg (by simpa using own)] at found
    rw [or_iff_right own, ← not_iff_not, ← find?_eq_none_iff, ← find?_eq_none_iff, found]

theorem mem_keys_foldl_put {words : List String} {w : String} {rows : List (String × Unit)} :
    w ∈ (words.foldl (fun acc w => put byText w () acc) rows).map (·.1) ↔
      w ∈ rows.map (·.1) ∨ w ∈ words := by
  induction words generalizing rows with
  | nil => simp
  | cons first rest ih =>
      rw [List.foldl_cons, ih, mem_keys_put, List.mem_cons, or_right_comm, or_comm]

theorem mem_sortedWords {words : List String} {w : String} : w ∈ sortedWords words ↔ w ∈ words := by
  rw [sortedWords, mem_keys_foldl_put]
  exact or_iff_right List.not_mem_nil

theorem sortedWords_ordered (words : List String) : (sortedWords words).Pairwise (· < ·) := by
  have ordered (rows : List (String × Unit)) (before : rows.Pairwise fun x y => x.1 < y.1) :
      (words.foldl (fun acc w => put byText w () acc) rows).Pairwise fun x y => x.1 < y.1 := by
    induction words generalizing rows with
    | nil => exact before
    | cons first rest ih => exact ih _ (put_ordered before)
  exact List.pairwise_map.2 (ordered [] .nil)

/-- A relation between the rows of two tables is kept by writing related rows. -/
theorem put_forall₂ {β : Type} {related : String × α → String × β → Prop}
    (keys : ∀ x y, related x y → x.1 = y.1) {k : String} {a : α} {b : β} (new : related (k, a) (k, b))
    {rows : List (String × α)} {rows' : List (String × β)} (old : List.Forall₂ related rows rows') :
    List.Forall₂ related (put byText k a rows) (put byText k b rows') := by
  induction old with
  | nil => exact .cons new .nil
  | @cons first first' rest rest' same others ih =>
      obtain ⟨k₁, a₁⟩ := first
      obtain ⟨k₂, b₂⟩ := first'
      obtain rfl : k₁ = k₂ := keys _ _ same
      rw [put, put]
      split
      · exact .cons new (.cons same others)
      · split
        · exact .cons same ih
        · exact .cons new others

theorem find?_forall₂ {β : Type} {related : String × α → String × β → Prop}
    (keys : ∀ x y, related x y → x.1 = y.1) (k : String)
    {rows : List (String × α)} {rows' : List (String × β)} (old : List.Forall₂ related rows rows') :
    (find? k rows = none ∧ find? k rows' = none) ∨
      ∃ a b, find? k rows = some a ∧ find? k rows' = some b ∧ related (k, a) (k, b) := by
  induction old with
  | nil => exact .inl ⟨rfl, rfl⟩
  | @cons first first' rest rest' same others ih =>
      obtain ⟨k₁, a₁⟩ := first
      obtain ⟨k₂, b₂⟩ := first'
      obtain rfl : k₁ = k₂ := keys _ _ same
      rw [find?, find?]
      split
      · next found =>
          obtain rfl : k = k₁ := eq_of_beq found
          exact .inr ⟨a₁, b₂, rfl, rfl, same⟩
      · exact ih

end Texts

end TokenFaucet.Table
