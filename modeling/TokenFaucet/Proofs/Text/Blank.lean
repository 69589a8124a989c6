import Mathlib.Data.List.DropRight
import TokenFaucet.Text.Blank

set_option autoImplicit false

namespace TokenFaucet.Text

/-- Nothing but blanks. -/
def Blank (cs : List Char) : Prop :=
  ∀ c ∈ cs, isBlank c = true

instance (cs : List Char) : Decidable (Blank cs) :=
  decidable_of_iff (cs.all isBlank = true) List.all_eq_true

/-- No blank at all. -/
def Solid (cs : List Char) : Prop :=
  ∀ c ∈ cs, isBlank c = false

instance (cs : List Char) : Decidable (Solid cs) :=
  decidable_of_iff (cs.all (fun c => !isBlank c) = true) (by simp [Solid])

/-- No blank at either end. -/
structure Bare (cs : List Char) : Prop where
  first : ∀ c, cs.head? = some c → isBlank c = false
  last : ∀ c, cs.getLast? = some c → isBlank c = false

/-- A text is another one with blanks around it. -/
def Surrounds (s core : String) : Prop :=
  ∃ before after, s.toList = before ++ core.toList ++ after ∧ Blank before ∧ Blank after

theorem isBlank_of_isDigit {c : Char} (digit : c.isDigit = true) : isBlank c = false := by
  have range := Char.isDigit_iff_toNat.mp digit
  have zero : '0'.toNat = 48 := rfl
  have nine : '9'.toNat = 57 := rfl
  simp only [isBlank, Bool.or_eq_false_iff, Bool.and_eq_false_iff, decide_eq_false_iff_not,
    beq_eq_false_iff_ne]
  omega

section Trimmed

variable {cs before after core : List Char}

theorem Solid.bare (solid : Solid cs) : Bare cs where
  first := fun c head => solid c (List.mem_of_head? head)
  last := fun c last => solid c (List.mem_of_getLast? last)

theorem Solid.append (solid : Solid before) (solid' : Solid after) : Solid (before ++ after) := by
  intro c mem
  cases List.mem_append.mp mem with
  | inl mem => exact solid c mem
  | inr mem => exact solid' c mem

theorem trimmed_eq (cs : List Char) : trimmed cs = (cs.dropWhile isBlank).rdropWhile isBlank := rfl

/-- The first character of a bare text stays the first one, so nothing of it is dropped. -/
theorem dropWhile_of_first (first : ∀ c, cs.head? = some c → isBlank c = false) :
    cs.dropWhile isBlank = cs := by
  cases cs with
  | nil => rfl
  | cons c rest =>
      have solid := first c rfl
      rw [List.dropWhile_cons_of_neg (by simp [solid])]

theorem trimmed_surrounded (bare : Bare core) (blank : Blank before) (blank' : Blank after) :
    trimmed (before ++ core ++ after) = core := by
  have behind : (core ++ after).rdropWhile isBlank = core := by
    have reversed : after.reverse.dropWhile isBlank = [] :=
      List.dropWhile_eq_nil_iff.2 fun c mem => blank' c (List.mem_reverse.1 mem)
    have kept : core.reverse.dropWhile isBlank = core.reverse := by
      apply dropWhile_of_first
      intro c head
      rw [List.head?_reverse] at head
      exact bare.last c head
    rw [List.rdropWhile, List.reverse_append, List.dropWhile_append, reversed]
    simp only [List.isEmpty_nil, if_true, kept, List.reverse_reverse]
  rw [trimmed_eq, List.append_assoc, List.dropWhile_append_of_pos blank]
  cases core with
  | nil =>
      rw [List.nil_append, List.dropWhile_eq_nil_iff.2 blank']
      rfl
  | cons c rest =>
      have first : ∀ d, (c :: rest ++ after).head? = some d → isBlank d = false := by
        intro d head
        exact bare.first d head
      rw [dropWhile_of_first first, behind]

theorem bare_trimmed (cs : List Char) : Bare (trimmed cs) := by
  have last (c : Char) (found : (trimmed cs).getLast? = some c) : isBlank c = false := by
    have nonempty : trimmed cs ≠ [] := by
      intro empty
      rw [empty] at found
      cases found
    rw [List.getLast?_eq_some_getLast nonempty, Option.some_inj] at found
    have solid := List.rdropWhile_last_not isBlank (cs.dropWhile isBlank) nonempty
    rw [← found]
    exact Bool.eq_false_iff.2 solid
  refine ⟨fun c found => ?_, last⟩
  have front := List.rdropWhile_prefix isBlank (cs.dropWhile isBlank)
  obtain ⟨behind, whole⟩ := front
  have head : (cs.dropWhile isBlank).head? = some c := by
    rw [← whole, List.head?_append, ← trimmed_eq, found, Option.some_or]
  have solid := List.head?_dropWhile_not isBlank cs
  rw [head] at solid
  exact solid

theorem exists_blanks (cs : List Char) :
    ∃ before after, cs = before ++ trimmed cs ++ after ∧ Blank before ∧ Blank after := by
  refine ⟨cs.takeWhile isBlank, (cs.dropWhile isBlank).rtakeWhile isBlank, ?_, ?_, ?_⟩
  · rw [List.append_assoc, trimmed_eq, List.rdropWhile_append_rtakeWhile,
      List.takeWhile_append_dropWhile]
  · intro c mem
    exact List.mem_takeWhile_imp mem
  · intro c mem
    exact List.mem_rtakeWhile_imp mem

end Trimmed

theorem trim_of_surrounds {s core : String} (bare : Bare core.toList) (around : Surrounds s core) :
    trim s = core := by
  obtain ⟨before, after, whole, blank, blank'⟩ := around
  rw [trim, whole, trimmed_surrounded bare blank blank', String.ofList_toList]

theorem surrounds_self (s : String) : Surrounds s s :=
  ⟨[], [], by simp, nofun, nofun⟩

theorem trim_of_solid {s : String} (solid : Solid s.toList) : trim s = s :=
  trim_of_surrounds solid.bare (surrounds_self s)

/-- A text has one bare text in blanks. -/
theorem trim_eq_iff {s core : String} : trim s = core ↔ Bare core.toList ∧ Surrounds s core := by
  constructor
  · rintro rfl
    rw [Surrounds, trim, String.toList_ofList]
    exact ⟨bare_trimmed _, exists_blanks _⟩
  · intro ⟨bare, around⟩
    exact trim_of_surrounds bare around

end TokenFaucet.Text
