import TokenFaucet.Proofs.Chain.Call
import TokenFaucet.Proofs.Dialogue.Course
import TokenFaucet.Proofs.Network.Inquiry

set_option autoImplicit false

attribute [local instance (2000)] instPowNat

namespace TokenFaucet

open Dialogue (Course)
open Network (Exchanged Outcome Request inquire)

/-- A call that was made, and how its exchange ended. -/
structure CallMade where
  call : RemoteCall
  request : Request
  made : call.MadeBy request
  outcome : Outcome

namespace CallMade

def exchanged (m : CallMade) : Exchanged := (m.request, m.outcome)

def Failed (m : CallMade) : Prop := m.call.Fails m.outcome

end CallMade

variable {ε α β : Type}

/-- How a program with a plan of calls ends: all of them were made and answered, or the program gave up
between two of them, or the last call that it made failed. Errors that are the node's are told from
others by `remote`. -/
inductive Ends (remote : ε → Prop) (plan : List RemoteCall) : List CallMade → Except ε α → Prop where
  | done {made : List CallMade} {a : α} (all : made.map (·.call) = plan)
      (answered : ∀ m ∈ made, ¬ m.Failed) : Ends remote plan made (.ok a)
  | refused {made : List CallMade} {e : ε} (part : made.map (·.call) <+: plan)
      (answered : ∀ m ∈ made, ¬ m.Failed) (other : ¬ remote e) : Ends remote plan made (.error e)
  | failed {before : List CallMade} {last : CallMade} {e : ε}
      (part : (before ++ [last]).map (·.call) <+: plan) (answered : ∀ m ∈ before, ¬ m.Failed)
      (failed : last.Failed) (reported : remote e) : Ends remote plan (before ++ [last]) (.error e)

namespace Ends

variable {remote : ε → Prop} {plan plan' : List RemoteCall} {made made' : List CallMade}
  {r : Except ε α}

/-- Every call is one of the plan, in its order. -/
theorem part (ends : Ends remote plan made r) : made.map (·.call) <+: plan := by
  cases ends with
  | done all => exact all ▸ List.prefix_rfl
  | refused part => exact part
  | failed part => exact part

theorem all_of_ok {a : α} (ends : Ends remote plan made (.ok a)) : made.map (·.call) = plan := by
  cases ends with
  | done all => exact all

/-- A program that fails with a longer plan. -/
theorem error_append {e : ε} (ends : Ends remote plan made (.error e : Except ε α))
    (plan' : List RemoteCall) : Ends remote (plan ++ plan') made (.error e : Except ε β) := by
  cases ends with
  | refused part answered other =>
      exact .refused (part.trans (List.prefix_append ..)) answered other
  | failed part answered failed reported =>
      exact .failed (part.trans (List.prefix_append ..)) answered failed reported

/-- A program whose errors are told in other words. -/
theorem mapError {ε' : Type} {remote' : ε' → Prop} {g : ε → ε'} (ends : Ends remote plan made r)
    (alike : ∀ {e}, remote' (g e) ↔ remote e) : Ends remote' plan made (r.mapError g) := by
  cases ends with
  | done all answered => exact .done all answered
  | refused part answered other => exact .refused part answered (mt alike.1 other)
  | failed part answered failed reported => exact .failed part answered failed (alike.2 reported)

/-- A program that goes on after all calls of a plan were answered. -/
theorem after {r : Except ε β} (all : made.map (·.call) = plan)
    (answered : ∀ m ∈ made, ¬ m.Failed) (ends : Ends remote plan' made' r) :
    Ends remote (plan ++ plan') (made ++ made') r := by
  have both {later : List CallMade} (more : ∀ m ∈ later, ¬ m.Failed) :
      ∀ m ∈ made ++ later, ¬ m.Failed :=
    fun m mem => (List.mem_append.1 mem).elim (answered m) (more m)
  cases ends with
  | done all' answered' => exact .done (by rw [List.map_append, all, all']) (both answered')
  | refused part answered' other =>
      refine .refused ?_ (both answered') other
      rw [List.map_append, all]
      exact (List.prefix_append_right_inj plan).2 part
  | failed part answered' failed reported =>
      rw [← List.append_assoc]
      refine .failed ?_ (both answered') failed reported
      rw [List.append_assoc, List.map_append, all]
      exact (List.prefix_append_right_inj plan).2 part

/-- No call is made after one that failed. -/
theorem answered_dropLast (ends : Ends remote plan made r) : ∀ m ∈ made.dropLast, ¬ m.Failed := by
  cases ends with
  | done _ answered => exact fun m mem => answered m (List.dropLast_subset _ mem)
  | refused _ answered _ => exact fun m mem => answered m (List.dropLast_subset _ mem)
  | failed _ answered => simpa using answered

/-- The node is blamed if and only if the last call failed. -/
theorem remote_iff (ends : Ends remote plan made r) :
    (∃ e, r = .error e ∧ remote e) ↔ ∃ last, made.getLast? = some last ∧ last.Failed := by
  cases ends with
  | done _ answered =>
      refine ⟨by rintro ⟨_, ⟨⟩, -⟩, ?_⟩
      rintro ⟨last, is, failed⟩
      exact absurd failed (answered last (List.mem_of_getLast? is))
  | refused _ answered other =>
      refine ⟨by rintro ⟨_, ⟨⟩, blamed⟩; exact absurd blamed other, ?_⟩
      rintro ⟨last, is, failed⟩
      exact absurd failed (answered last (List.mem_of_getLast? is))
  | @failed before last e _ _ failed reported =>
      exact ⟨fun _ => ⟨last, by simp, failed⟩, fun _ => ⟨e, rfl, reported⟩⟩

end Ends

section Programs

variable {Query : Type} {Answer : Query → Type}

/-- A program keeps to a plan: it makes the plan's calls in order, and stops at the first that fails. -/
def KeepsTo (exchange? : Dialogue.Turn Query Answer → Option Exchanged) (remote : ε → Prop)
    (plan : List RemoteCall) (program : ExceptT ε (Dialogue Query Answer) α) : Prop :=
  ∀ turns r, Course program.run turns r → ∃ made : List CallMade,
    turns.filterMap exchange? = made.map CallMade.exchanged ∧ Ends remote plan made r

variable {exchange? : Dialogue.Turn Query Answer → Option Exchanged} {remote : ε → Prop}
  {plan plan' : List RemoteCall}

theorem keepsTo_pure (a : α) :
    KeepsTo exchange? remote [] (pure a : ExceptT ε (Dialogue Query Answer) α) := by
  intro turns r course
  obtain ⟨rfl, rfl⟩ := Dialogue.course_pure_iff.1 course
  exact ⟨[], rfl, .done rfl (by simp)⟩

/-- Whatever was planned, a program may give up before it. -/
theorem keepsTo_throw {e : ε} (other : ¬ remote e) :
    KeepsTo exchange? remote plan (throw e : ExceptT ε (Dialogue Query Answer) α) := by
  intro turns r course
  obtain ⟨rfl, rfl⟩ := Dialogue.course_throw_iff.1 course
  exact ⟨[], rfl, .refused List.nil_prefix (by simp) other⟩

/-- One program after another, with what is known of the first one's result. -/
theorem KeepsTo.bind {program : ExceptT ε (Dialogue Query Answer) α}
    {next : α → ExceptT ε (Dialogue Query Answer) β} (first : KeepsTo exchange? remote plan program)
    (second : ∀ turns a, Course program.run turns (.ok a) →
      KeepsTo exchange? remote plan' (next a)) :
    KeepsTo exchange? remote (plan ++ plan') (program >>= next) := by
  intro turns r course
  obtain ⟨e, rfl, failed⟩ | ⟨a, before, later, rfl, read, onward⟩ := Dialogue.course_bind_iff.1 course
  · obtain ⟨made, same, ends⟩ := first _ _ failed
    exact ⟨made, same, ends.error_append plan'⟩
  · obtain ⟨made, same, ends⟩ := first _ _ read
    obtain ⟨made', same', ends'⟩ := second _ _ read _ _ onward
    cases ends with
    | done all answered =>
        refine ⟨made ++ made', ?_, .after all answered ends'⟩
        rw [List.filterMap_append, same, same', List.map_append]

/-- A program and then one that makes no calls. -/
theorem KeepsTo.bind_nil {program : ExceptT ε (Dialogue Query Answer) α}
    {next : α → ExceptT ε (Dialogue Query Answer) β} (first : KeepsTo exchange? remote plan program)
    (second : ∀ a, KeepsTo exchange? remote [] (next a)) :
    KeepsTo exchange? remote plan (program >>= next) := by
  have both := first.bind fun _ a _ => second a
  rwa [List.append_nil] at both

/-- A check before a program. -/
theorem KeepsTo.check {x : Except ε α} {next : α → ExceptT ε (Dialogue Query Answer) β}
    (other : ∀ e, x = .error e → ¬ remote e)
    (onward : ∀ a, x = .ok a → KeepsTo exchange? remote plan (next a)) :
    KeepsTo exchange? remote plan
      ((liftM x : ExceptT ε (Dialogue Query Answer) α) >>= next) := by
  intro turns r course
  obtain ⟨e, failed, rfl, rfl⟩ | ⟨a, read, course⟩ := Dialogue.course_lift_bind_iff.1 course
  · exact ⟨[], rfl, .refused List.nil_prefix (by simp) (other e failed)⟩
  · exact onward a read turns r course

end Programs

/-- An operation of a chain makes the calls of a plan in order, and stops at the first that fails. -/
def Network.FailsFast (plan : List RemoteCall) (program : Network.Attempt ChainError α) : Prop :=
  KeepsTo Network.Turn.exchange? (·.isValidation = false) plan program

/-- An inquiry is one call. -/
theorem Reports.failsFast {call : RemoteCall} {request : Request} {answer : Outcome → Except ChainError α}
    (reports : Reports answer call) (made : call.MadeBy request) :
    Network.FailsFast [call] (inquire request answer) := by
  intro turns r course
  obtain ⟨outcome, rfl, rfl⟩ := Network.course_inquire_iff.1 course
  refine ⟨[⟨call, request, made, outcome⟩], rfl, ?_⟩
  cases read : answer outcome with
  | ok a => exact .done rfl (by simpa [CallMade.Failed] using reports.ok read)
  | error e =>
      obtain ⟨failed, remote⟩ := reports.error read
      exact @Ends.failed _ _ _ _ [] _ _ List.prefix_rfl (by simp) failed remote

end TokenFaucet
