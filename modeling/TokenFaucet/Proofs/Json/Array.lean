import TokenFaucet.Proofs.Json.Tree

set_option autoImplicit false

namespace TokenFaucet.Json

namespace Node

open NumberText (Ends ends_cons)

/-- What stands behind the bracket that opens an array with items: these, with commas between them and
spaces around them, and the bracket that closes it. -/
inductive SpacedItems : List Json → List Char → Prop
  | last {item : Json} {before after : List Char} (space : Spaces before) (space' : Spaces after) :
    SpacedItems [item] (before ++ (item.chars ++ (after ++ [']'])))
  | next {item : Json} {items : List Json} {before after cs : List Char} (space : Spaces before)
    (space' : Spaces after) (others : SpacedItems items cs) :
    SpacedItems (item :: items) (before ++ (item.chars ++ (after ++ ',' :: cs)))

/-- A text of an array. -/
inductive SpacedArray : List Json → List Char → Prop
  | empty {spaces : List Char} (space : Spaces spaces) : SpacedArray [] ('[' :: (spaces ++ [']']))
  | items {items : List Json} {cs : List Char} (all : SpacedItems items cs) :
    SpacedArray items ('[' :: cs)

section Spaces

variable {spaces cs rest : List Char}

/-- A number ends where a space stands. -/
theorem ends_spaces (space : Spaces spaces) (ends : Ends rest) : Ends (spaces ++ rest) := by
  cases spaces with
  | nil => exact ends
  | cons c spaces =>
      have own := space c (List.mem_cons_self ..)
      simp only [isSpace, Bool.or_eq_true, beq_iff_eq] at own
      rcases own with ((rfl | rfl) | rfl) | rfl <;>
        exact ends_cons _ rfl (by decide) (by decide) (by decide)

end Spaces

section Items

variable {fuel : Nat} {cs : List Char}

/-- Behind the spaces in front of an item stands the item. -/
theorem skipSpace_item {before : List Char} (space : Spaces before) (item : Json) (rest : List Char) :
    skipSpace (before ++ (item.chars ++ rest)) = item.chars ++ rest := by
  obtain ⟨c, more, front, noSpace, -⟩ := chars_head item
  rw [skipSpace_append space, front, List.cons_append, skipSpace_cons noSpace]

theorem SpacedItems.head {list : List Json} (all : SpacedItems list cs) (rest : List Char) :
    ∃ c more, skipSpace (cs ++ rest) = c :: more ∧ c ≠ ']' := by
  have shown {before behind : List Char} (space : Spaces before) (item : Json) :
      ∃ c more, skipSpace (before ++ (item.chars ++ behind) ++ rest) = c :: more ∧ c ≠ ']' := by
    obtain ⟨c, more, front, -, open_⟩ := chars_head item
    rw [List.append_assoc, List.append_assoc, skipSpace_item space, front]
    exact ⟨_, _, rfl, open_⟩
  cases all with
  | last space _ => exact shown space _
  | next space _ _ => exact shown space _

theorem items_spaced {list : List Json} (all : SpacedItems list cs) (rest : List Char)
    (enough : 2 * cs.length ≤ fuel) :
    items fuel (skipSpace (cs ++ rest)) = (writtenItems list, some rest) := by
  -- each item takes one of the fuel, of which its text leaves enough for the others
  induction all generalizing fuel with
  | @last item before after space space' =>
      simp only [List.length_append, List.length_singleton] at enough
      obtain ⟨fuel, rfl⟩ := Nat.exists_eq_add_one_of_ne_zero (show fuel ≠ 0 by omega)
      have ends : Ends (after ++ ']' :: rest) :=
        ends_spaces space' (ends_cons rest rfl (by decide) (by decide) (by decide))
      have read := value_chars item ends fuel (by omega)
      simp only [List.append_assoc, List.singleton_append, skipSpace_item space]
      exact items_last space' read
  | @next item list before after cs space space' others ih =>
      simp only [List.length_append, List.length_cons] at enough
      obtain ⟨fuel, rfl⟩ := Nat.exists_eq_add_one_of_ne_zero (show fuel ≠ 0 by omega)
      have ends : Ends (after ++ ',' :: (cs ++ rest)) :=
        ends_spaces space' (ends_cons _ rfl (by decide) (by decide) (by decide))
      have read := value_chars item ends fuel (by omega)
      simp only [List.append_assoc, List.cons_append, skipSpace_item space]
      obtain ⟨c, more, front, other⟩ := others.head rest
      have read' : items fuel (skipSpace (cs ++ rest)) = _ := ih (by omega)
      rw [front] at read'
      rw [items_next space' read front other, read']
      rfl

end Items

section Arrays

variable {list : List Json} {cs : List Char}

/-- An array without items. -/
theorem value_empty {cs rest : List Char} (front : skipSpace cs = ']' :: rest) (fuel : Nat) :
    value (fuel + 1) ('[' :: cs) = (.array [] true, some rest) := by
  have bracket : isSpace '[' = false := rfl
  rw [value, skipSpace_cons bracket]
  simp only [front]

theorem value_spaced (array : SpacedArray list cs) (rest : List Char) {fuel : Nat}
    (enough : 2 * cs.length ≤ fuel) :
    value fuel (cs ++ rest) = (.array (writtenItems list) true, some rest) := by
  cases array with
  | @empty spaces space =>
      have closing : isSpace ']' = false := rfl
      simp only [List.length_cons] at enough
      obtain ⟨fuel, rfl⟩ := Nat.exists_eq_add_one_of_ne_zero (show fuel ≠ 0 by omega)
      have front : skipSpace (spaces ++ ']' :: rest) = ']' :: rest := by
        rw [skipSpace_append space, skipSpace_cons closing]
      rw [List.cons_append, List.append_assoc, List.singleton_append, value_empty front]
      rfl
  | @items _ cs all =>
      simp only [List.length_cons] at enough
      obtain ⟨fuel, rfl⟩ := Nat.exists_eq_add_one_of_ne_zero (show fuel ≠ 0 by omega)
      have read : items fuel (skipSpace (cs ++ rest)) = _ := items_spaced all rest (by omega)
      obtain ⟨c, more, front, other⟩ := all.head rest
      rw [front] at read
      rw [List.cons_append, value_bracket front other, read]
      rfl

theorem document_spaced (array : SpacedArray list cs) :
    document (String.ofList cs) = ⟨.array (writtenItems list) true, true⟩ := by
  have read : value (2 * cs.length + 2) (cs ++ []) = _ := value_spaced array [] (by omega)
  rw [List.append_nil] at read
  unfold document
  rw [String.toList_ofList]
  dsimp only
  rw [read]
  rfl

theorem spacedItems_chars (some_ : list ≠ []) : SpacedItems list (itemChars list ++ [']']) := by
  induction list with
  | nil => exact absurd rfl some_
  | cons item rest ih =>
      cases rest with
      | nil => exact .last spaces_nil spaces_nil
      | cons next more =>
          rw [itemChars_cons, List.append_assoc, List.cons_append]
          exact .next spaces_nil spaces_nil (ih (List.cons_ne_nil _ _))

theorem SpacedArray.opens (array : SpacedArray list cs) : ['['] <+: cs := by
  cases array with
  | empty => exact ⟨_, rfl⟩
  | items => exact ⟨_, rfl⟩

theorem SpacedItems.closes (all : SpacedItems list cs) : [']'] <:+ cs := by
  induction all with
  | last =>
      iterate 2 apply List.suffix_append_of_suffix
      exact List.suffix_append ..
  | next _ _ _ ih =>
      iterate 3 apply List.suffix_append_of_suffix
      exact ih.trans (List.suffix_cons ..)

theorem SpacedArray.closes (array : SpacedArray list cs) : [']'] <:+ cs := by
  cases array with
  | @empty spaces => exact ⟨'[' :: spaces, rfl⟩
  | items all => exact all.closes.trans (List.suffix_cons ..)

/-- The text that is written for an array has no spaces. -/
theorem spacedArray_chars (list : List Json) : SpacedArray list (Json.array list).chars := by
  cases list with
  | nil => exact .empty spaces_nil
  | cons item rest => exact .items (spacedItems_chars (List.cons_ne_nil _ _))

end Arrays

end Node

section Reading

variable {α : Type} {reading : Reading α} {toJson : α → Json}

theorem itemsFrom_written (reads : ∀ a, reading (toJson a).written = .ok a) (as : List α)
    (index : Nat) :
    Reading.itemsFrom reading true index (writtenItems (as.map toJson)) = .ok as := by
  induction as generalizing index with
  | nil => rfl
  | cons a rest ih =>
      rw [List.map_cons, writtenItems, Reading.itemsFrom, reads, ih]
      rfl

/-- The items of an array are read back from any text of it. -/
theorem readText_spaced (reads : ∀ a, reading (toJson a).written = .ok a) (as : List α)
    {cs : List Char} (array : Node.SpacedArray (as.map toJson) cs) :
    readText (.list reading) (String.ofList cs) = .ok as := by
  unfold readText
  rw [Node.document_spaced array]
  dsimp only [Reading.list]
  rw [itemsFrom_written reads]
  rfl

theorem readText_array (reads : ∀ a, reading (toJson a).written = .ok a) (as : List α) :
    readText (.list reading) (Json.array (as.map toJson)).render = .ok as :=
  readText_spaced reads as (Node.spacedArray_chars _)

theorem string_written (s : String) : Reading.string (Json.string s).written = .ok s := rfl

theorem uint8_written (b : UInt8) : Reading.uint8 (Json.ofNat b.toNat).written = .ok b := by
  have small := b.toNat_lt
  have bound : UInt8.size = 256 := rfl
  have wide : UInt64.size = 18446744073709551616 := rfl
  have within : 0 ≤ (b.toNat : Int) ∧ (b.toNat : Int) < UInt8.size := by omega
  rw [Json.ofNat, written_natural (by omega), Reading.uint8, Reading.natural, if_pos within]
  exact congrArg Except.ok UInt8.ofNat_toNat

end Reading

end TokenFaucet.Json
