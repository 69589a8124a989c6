set_option autoImplicit false

/-!
Tables sorted by key. A table is a list of rows in ascending order of their keys, each key once; the
order is given by a function that tells which of two keys comes first.
-/

namespace TokenFaucet.Table

variable {κ α : Type}

def find? [BEq κ] (k : κ) : List (κ × α) → Option α
  | [] => none
  | (k', a) :: rest => if k == k' then some a else find? k rest

/-- Writes a value at a key, in place of one that is there. -/
def put (before : κ → κ → Bool) (k : κ) (a : α) : List (κ × α) → List (κ × α)
  | [] => [(k, a)]
  | (k', a') :: rest =>
    if before k k' then (k, a) :: (k', a') :: rest
    else if before k' k then (k', a') :: put before k a rest
    else (k, a) :: rest

theorem find?_put [BEq κ] [LawfulBEq κ] {before : κ → κ → Bool}
    (total : ∀ a b, before a b = false → before b a = false → a = b)
    (irrefl : ∀ a, before a a = false) (k k' : κ) (a : α) (rows : List (κ × α)) :
    find? k' (put before k a rows) = if k' == k then some a else find? k' rows := by
  induction rows with
  | nil => simp only [put, find?]
  | cons row rest ih =>
    obtain ⟨r, b⟩ := row
    simp only [put]
    split
    · simp only [find?]
    · split
      · next h1 h2 =>
        simp only [find?, ih]
        by_cases hk : k' = k
        · subst hk
          have hne : (k' == r) = false := by
            apply beq_false_of_ne
            rintro rfl
            rw [irrefl] at h2
            cases h2
          simp [hne]
        · simp [hk]
      · next h1 h2 =>
        have hr : k = r := total k r (by simpa using h1) (by simpa using h2)
        subst hr
        simp only [find?]
        split <;> rfl

/-- Words in ascending order, each once. -/
def sortedWords (words : List String) : List String :=
  (words.foldl (fun acc w => put (fun a b => decide (a < b)) w () acc) []).map (·.1)

end TokenFaucet.Table
