import Mathlib.Logic.Function.Basic
import TokenFaucet.Proofs.Dialogue.Course

set_option autoImplicit false

namespace TokenFaucet.Dialogue

variable {Query : Type} {Answer : Query → Type} {α ι σ : Type} [DecidableEq ι]

/-- The turns that programs may take, one of them at a time: the world allows some answers to a
question, and each leads to another state of the world. -/
inductive Turns (allows : (q : Query) → σ → Answer q → σ → Prop)
    (programs : ι → Dialogue Query Answer α) (s : σ) :
    List (ι × Turn Query Answer) → (ι → Dialogue Query Answer α) → σ → Prop where
  | start : Turns allows programs s [] programs s
  | turn {trace : List (ι × Turn Query Answer)} {programs' : ι → Dialogue Query Answer α} {s' : σ}
      {i : ι} {q : Query} {next : Answer q → Dialogue Query Answer α} {r : Answer q} {s'' : σ}
      (before : Turns allows programs s trace programs' s') (asks : programs' i = .ask q next)
      (allowed : allows q s' r s'') :
      Turns allows programs s (trace ++ [(i, ⟨q, r⟩)]) (Function.update programs' i (next r)) s''

/-- The turns of one program. -/
def turnsOf (i : ι) (trace : List (ι × Turn Query Answer)) : List (Turn Query Answer) :=
  trace.filterMap fun taken => if taken.1 = i then some taken.2 else none

theorem turnsOf_snoc_self (i : ι) (trace : List (ι × Turn Query Answer)) (turn : Turn Query Answer) :
    turnsOf i (trace ++ [(i, turn)]) = turnsOf i trace ++ [turn] := by
  simp [turnsOf, List.filterMap_append]

theorem turnsOf_snoc_of_ne {i j : ι} (ne : j ≠ i) (trace : List (ι × Turn Query Answer))
    (turn : Turn Query Answer) : turnsOf i (trace ++ [(j, turn)]) = turnsOf i trace := by
  simp [turnsOf, List.filterMap_append, ne]

variable {allows : (q : Query) → σ → Answer q → σ → Prop}
  {programs programs' : ι → Dialogue Query Answer α} {s s' : σ}
  {trace : List (ι × Turn Query Answer)}

/-- A program goes along its own turns. -/
theorem Turns.leads (run : Turns allows programs s trace programs' s') (i : ι) :
    Leads (programs i) (turnsOf i trace) (programs' i) := by
  induction run with
  | start => exact .refl _
  | @turn trace programs' s' j q next r s'' before asks allowed ih =>
      by_cases same : j = i
      · subst same
        rw [turnsOf_snoc_self, Function.update_self]
        rw [asks] at ih
        exact ih.snoc r
      · rw [turnsOf_snoc_of_ne same, Function.update_of_ne (Ne.symm same)]
        exact ih

/-- What holds of some programs holds of them when another one takes a turn. -/
theorem forall_update {P : Dialogue Query Answer α → Prop} {i : ι} {others : List ι}
    (holds : ∀ j ∈ others, P (programs j)) (other : i ∉ others) (d : Dialogue Query Answer α) :
    ∀ j ∈ others, P (Function.update programs i d j) := by
  intro j mem
  have ne : j ≠ i := by
    rintro rfl
    exact other mem
  rw [Function.update_of_ne ne]
  exact holds j mem

/-- The world that a machine is: it allows its own answers. -/
def ofMachine (machine : (q : Query) → σ → Answer q × σ) (q : Query) (s : σ) (r : Answer q)
    (s' : σ) : Prop :=
  machine q s = (r, s')

/-- A program may take all its turns at once. -/
theorem Turns.alone {machine : (q : Query) → σ → Answer q × σ} {s'' : σ} {i : ι} {a : α}
    {turns : List (Turn Query Answer)}
    (before : Turns (ofMachine machine) programs s trace programs' s')
    (course : Course (programs' i) turns a) (follows : Follows machine s' turns s'') :
    Turns (ofMachine machine) programs s (trace ++ turns.map (i, ·))
      (Function.update programs' i (.done a)) s'' := by
  generalize asks : programs' i = d at course
  induction d generalizing trace programs' s' turns with
  | done b =>
      obtain ⟨rfl, rfl⟩ := course_done_iff.1 course
      rw [follows_nil_iff.1 follows, ← asks, Function.update_eq_self, List.map_nil, List.append_nil]
      exact before
  | ask q next ih =>
      obtain ⟨r, rest, rfl, onward⟩ := course_ask_iff.1 course
      obtain ⟨rfl, followed⟩ := follows_cons_iff.1 follows
      have after := ih _ (before.turn asks rfl) followed (Function.update_self ..) onward
      rw [Function.update_idem, List.append_assoc] at after
      exact after

theorem turnsOf_append (i : ι) (first second : List (ι × Turn Query Answer)) :
    turnsOf i (first ++ second) = turnsOf i first ++ turnsOf i second :=
  List.filterMap_append

theorem turnsOf_map_self (i : ι) (turns : List (Turn Query Answer)) :
    turnsOf i (turns.map (i, ·)) = turns := by
  induction turns with
  | nil => rfl
  | cons turn rest ih =>
      rw [List.map_cons, turnsOf, List.filterMap_cons, if_pos rfl]
      exact congrArg (turn :: ·) ih

theorem turnsOf_map_of_ne {i j : ι} (ne : j ≠ i) (turns : List (Turn Query Answer)) :
    turnsOf i (turns.map (j, ·)) = [] := by
  induction turns with
  | nil => rfl
  | cons turn rest ih => simp [turnsOf, ne]

/-- One program after another is one of the orders. -/
theorem Turns.oneAfterAnother {machine : (q : Query) → σ → Answer q × σ} {i j : ι} {a b : α}
    {s₁ s₂ : σ} (ne : j ≠ i) (first : (programs i).run machine s = (a, s₁))
    (second : (programs j).run machine s₁ = (b, s₂)) :
    ∃ trace programs', Turns (ofMachine machine) programs s trace programs' s₂ ∧
      programs' i = .done a ∧ programs' j = .done b ∧
      Follows machine s (turnsOf i trace) s₁ ∧ Follows machine s₁ (turnsOf j trace) s₂ := by
  obtain ⟨mine, course, follows⟩ := course_run machine (programs i) s
  obtain ⟨others, course', follows'⟩ := course_run machine (programs j) s₁
  rw [first] at course follows
  rw [second] at course' follows'
  have fresh : Turns (ofMachine machine) programs s [] programs s := .start
  have waits : Function.update programs i (.done a) j = programs j := Function.update_of_ne ne ..
  refine ⟨_, _, (fresh.alone course follows).alone (waits ▸ course') follows', ?_, ?_, ?_, ?_⟩
  · rw [Function.update_of_ne (Ne.symm ne), Function.update_self]
  · rw [Function.update_self]
  · rw [List.nil_append, turnsOf_append, turnsOf_map_self, turnsOf_map_of_ne ne, List.append_nil]
    exact follows
  · rw [List.nil_append, turnsOf_append, turnsOf_map_self, turnsOf_map_of_ne (Ne.symm ne),
      List.nil_append]
    exact follows'

end TokenFaucet.Dialogue
