import TokenFaucet.Faucet.Basic
import TokenFaucet.Proofs.Network.Inquiry
import TokenFaucet.Proofs.Result

set_option autoImplicit false

namespace TokenFaucet

open Dialogue (Course FailsOnly Follows)

/-- A ledger, and the readings of its clock that are still to come. -/
structure Ledger.Desk where
  store : Ledger.Store
  clock : Nat → Timestamp

/-- One question to a ledger, at the next reading of its clock. -/
def Ledger.Desk.answer (q : Ledger.Query) (desk : Ledger.Desk) : q.Answer × Ledger.Desk :=
  let (r, store) := desk.store.answer (desk.clock 0) q
  (r, ⟨store, fun n => desk.clock (n + 1)⟩)

namespace Faucet

variable {α β ε : Type}

/-- A question of the faucet and its answer. -/
abbrev Turn := Dialogue.Turn Query Query.Answer

def Turn.ofNetwork (turn : Network.Turn) : Turn := ⟨.network turn.query, turn.answer⟩

def Turn.ofLedger (turn : Dialogue.Turn Ledger.Query Ledger.Query.Answer) : Turn :=
  ⟨.ledger turn.query, turn.answer⟩

/-- The exchange of a turn, if the turn is one. -/
def Turn.exchange? : Turn → Option Network.Exchanged
  | ⟨.network (.exchange request), outcome⟩ => some (request, outcome)
  | ⟨.network (.acquire _), _⟩ => none
  | ⟨.network (.release _), _⟩ => none
  | ⟨.ledger _, _⟩ => none

def exchanges (turns : List Turn) : List Network.Exchanged :=
  turns.filterMap Turn.exchange?

@[simp] theorem exchanges_append (first second : List Turn) :
    exchanges (first ++ second) = exchanges first ++ exchanges second :=
  List.filterMap_append

@[simp] theorem exchanges_ofNetwork (turns : List Network.Turn) :
    exchanges (turns.map Turn.ofNetwork) = Network.exchanges turns := by
  induction turns with
  | nil => rfl
  | cons turn rest ih =>
      obtain ⟨q, r⟩ := turn
      cases q <;>
        simp only [exchanges, Network.exchanges, List.map_cons, List.filterMap_cons] at ih ⊢ <;>
        simp only [Turn.ofNetwork, Turn.exchange?, Network.Turn.exchange?, ih]

@[simp] theorem exchanges_ofLedger
    (turns : List (Dialogue.Turn Ledger.Query Ledger.Query.Answer)) :
    exchanges (turns.map Turn.ofLedger) = [] := by
  induction turns with
  | nil => rfl
  | cons turn rest ih => exact ih

/-- The turn of the ledger that a turn is, if it is one. -/
def Turn.ledger? : Turn → Option (Dialogue.Turn Ledger.Query Ledger.Query.Answer)
  | ⟨.ledger q, r⟩ => some ⟨q, r⟩
  | ⟨.network _, _⟩ => none

/-- The turns of the ledger in a course, in order. -/
def ledgerTurns (turns : List Turn) : List (Dialogue.Turn Ledger.Query Ledger.Query.Answer) :=
  turns.filterMap Turn.ledger?

@[simp] theorem ledgerTurns_append (first second : List Turn) :
    ledgerTurns (first ++ second) = ledgerTurns first ++ ledgerTurns second :=
  List.filterMap_append

@[simp] theorem ledgerTurns_ofNetwork (turns : List Network.Turn) :
    ledgerTurns (turns.map Turn.ofNetwork) = [] := by
  induction turns with
  | nil => rfl
  | cons turn rest ih => exact ih

@[simp] theorem ledgerTurns_ofLedger
    (turns : List (Dialogue.Turn Ledger.Query Ledger.Query.Answer)) :
    ledgerTurns (turns.map Turn.ofLedger) = turns := by
  induction turns with
  | nil => rfl
  | cons turn rest ih => exact congrArg (turn :: ·) ih

theorem course_ofNetwork_iff {d : Network.Session α} {turns : List Turn} {a : α} :
    Course (ofNetwork d) turns a ↔
      ∃ asked, turns = asked.map Turn.ofNetwork ∧ Course d asked a :=
  Dialogue.course_embed_iff Query.network _ (fun _ r => r) (fun _ _ => rfl) (fun _ _ => rfl)

theorem course_ofLedger_iff {d : Ledger.Session α} {turns : List Turn} {a : α} :
    Course (ofLedger d) turns a ↔
      ∃ asked, turns = asked.map Turn.ofLedger ∧ Course d asked a :=
  Dialogue.course_embed_iff Query.ledger _ (fun _ r => r) (fun _ _ => rfl) (fun _ _ => rfl)

theorem course_onChain_iff {program : Network.Attempt ChainError α} {turns : List Turn}
    {r : Except FaucetError α} :
    Course (onChain program).run turns r ↔
      ∃ asked outcome, turns = asked.map Turn.ofNetwork ∧ Course program.run asked outcome ∧
        r = outcome.mapError .chain := by
  change Course ((ofNetwork program.run).andThen _) turns r ↔ _
  simp only [Dialogue.course_andThen_iff, course_ofNetwork_iff]
  constructor
  · rintro ⟨outcome, _, second, rfl, ⟨asked, rfl, course⟩, ended⟩
    obtain ⟨rfl, rfl⟩ := Dialogue.course_done_iff.1 ended
    exact ⟨asked, outcome, by simp, course, rfl⟩
  · rintro ⟨asked, outcome, rfl, course, rfl⟩
    exact ⟨outcome, _, [], by simp, ⟨asked, rfl, course⟩, .refl _⟩

/-- An inquiry of a chain is one exchange. -/
theorem course_onChain_inquire_iff {request : Network.Request}
    {read : Network.Outcome → Except ChainError α} {turns : List Turn} {r : Except FaucetError α} :
    Course (onChain (Network.inquire request read)).run turns r ↔
      ∃ outcome : Network.Outcome, turns = [Turn.ofNetwork ⟨.exchange request, outcome⟩] ∧
        r = (read outcome).mapError .chain := by
  rw [course_onChain_iff]
  constructor
  · rintro ⟨asked, result, rfl, called, rfl⟩
    obtain ⟨outcome, rfl, rfl⟩ := Network.course_inquire_iff.1 called
    exact ⟨outcome, rfl, rfl⟩
  · rintro ⟨outcome, rfl, rfl⟩
    exact ⟨_, _, rfl, Network.course_inquire_iff.2 ⟨outcome, rfl, rfl⟩, rfl⟩

/-- An inquiry of a chain comes first, and the program ends there or goes on with what was read. -/
theorem course_onChain_inquire_bind_iff {request : Network.Request}
    {read : Network.Outcome → Except ChainError α} {f : α → Attempt β} {turns : List Turn}
    {r : Except FaucetError β} :
    Course (onChain (Network.inquire request read) >>= f).run turns r ↔
      ∃ (outcome : Network.Outcome) (rest : List Turn),
        turns = Turn.ofNetwork ⟨.exchange request, outcome⟩ :: rest ∧
        ((∃ e, read outcome = .error e ∧ rest = [] ∧ r = .error (.chain e)) ∨
          ∃ a, read outcome = .ok a ∧ Course (f a).run rest r) := by
  rw [Dialogue.course_bind_iff]
  simp only [course_onChain_inquire_iff]
  constructor
  · rintro (⟨_, rfl, outcome, rfl, failed⟩ | ⟨a, _, rest, rfl, ⟨outcome, rfl, answered⟩, course⟩)
    · obtain ⟨e, refused, rfl⟩ := mapError_eq_error_iff.1 failed.symm
      exact ⟨outcome, [], rfl, .inl ⟨e, refused, rfl, rfl⟩⟩
    · exact ⟨outcome, rest, rfl, .inr ⟨a, mapError_eq_ok_iff.1 answered.symm, course⟩⟩
  · rintro ⟨outcome, rest, rfl, ⟨e, failed, rfl, rfl⟩ | ⟨a, answered, course⟩⟩
    · exact .inl ⟨_, rfl, outcome, rfl, by rw [failed]; rfl⟩
    · exact .inr ⟨a, _, rest, rfl, ⟨outcome, rfl, by rw [answered]; rfl⟩, course⟩

theorem course_onLedger_iff {program : Ledger.Session (Except Ledger.Error α)} {turns : List Turn}
    {r : Except FaucetError α} :
    Course (onLedger program).run turns r ↔
      ∃ asked outcome, turns = asked.map Turn.ofLedger ∧ Course program asked outcome ∧
        r = outcome.mapError .ledger := by
  change Course ((ofLedger program).andThen _) turns r ↔ _
  simp only [Dialogue.course_andThen_iff, course_ofLedger_iff]
  constructor
  · rintro ⟨outcome, _, second, rfl, ⟨asked, rfl, course⟩, ended⟩
    obtain ⟨rfl, rfl⟩ := Dialogue.course_done_iff.1 ended
    exact ⟨asked, outcome, by simp, course, rfl⟩
  · rintro ⟨asked, outcome, rfl, course, rfl⟩
    exact ⟨outcome, _, [], by simp, ⟨asked, rfl, course⟩, .refl _⟩

/-- An operation of a chain fails as it does there. -/
theorem failsOnly_onChain_iff {P : FaucetError → Prop}
    {program : Network.Attempt ChainError α} :
    FailsOnly P (onChain program) ↔ FailsOnly (fun why => P (.chain why)) program := by
  constructor
  · intro only asked why course
    exact only _ _ (course_onChain_iff.2 ⟨asked, _, rfl, course, rfl⟩)
  · intro only turns e course
    obtain ⟨asked, outcome, -, called, failed⟩ := course_onChain_iff.1 course
    obtain ⟨why, rfl, rfl⟩ := mapError_eq_error_iff.1 failed.symm
    exact only asked why called

/-- An operation of the ledger fails with its errors only. -/
theorem failsOnly_onLedger_of {P : FaucetError → Prop} (own : ∀ why, P (.ledger why))
    (program : Ledger.Session (Except Ledger.Error α)) : FailsOnly P (onLedger program) := by
  intro turns e course
  obtain ⟨asked, outcome, -, -, failed⟩ := course_onLedger_iff.1 course
  obtain ⟨why, -, rfl⟩ := mapError_eq_error_iff.1 failed.symm
  exact own why

/-- What a faucet runs against. -/
structure World where
  /-- How the exchanges that are still to come will end. -/
  outcomes : Nat → Network.Outcome
  /-- The exchanges so far. -/
  exchanged : List Network.Exchanged
  desk : Ledger.Desk

/-- One question to the world. A lane is free whenever a program that runs alone asks for it. -/
def World.answer : (q : Query) → World → q.Answer × World
  | .network (.exchange request), w =>
      (w.outcomes 0,
        ⟨fun n => w.outcomes (n + 1), w.exchanged ++ [(request, w.outcomes 0)], w.desk⟩)
  | .network (.acquire _), w => ((), w)
  | .network (.release _), w => ((), w)
  | .ledger q, w => ((w.desk.answer q).1, { w with desk := (w.desk.answer q).2 })

theorem exchanged_of_follows {w w' : World} {turns : List Turn}
    (follows : Follows World.answer w turns w') :
    w'.exchanged = w.exchanged ++ exchanges turns := by
  induction follows with
  | nil w => simp [exchanges]
  | @cons w w' q turns follows ih =>
      rw [ih]
      match q with
      | .network (.exchange request) => exact List.append_assoc ..
      | .network (.acquire _) => rfl
      | .network (.release _) => rfl
      | .ledger _ => rfl

/-- The exchanges end as the world has it, one after another. -/
theorem outcomes_of_follows {w w' : World} {turns : List Turn}
    (follows : Follows World.answer w turns w') :
    (exchanges turns).map (·.2) = (List.range (exchanges turns).length).map w.outcomes := by
  induction follows with
  | nil w => rfl
  | @cons w w' q turns follows ih =>
      match q with
      | .network (.exchange request) =>
          change w.outcomes 0 :: (exchanges turns).map (·.2) =
            (List.range ((exchanges turns).length + 1)).map w.outcomes
          rw [ih, List.range_succ_eq_map, List.map_cons, List.map_map]
          rfl
      | .network (.acquire _) => exact ih
      | .network (.release _) => exact ih
      | .ledger _ => exact ih

theorem desk_of_follows_network {w w' : World} {asked : List Network.Turn}
    (follows : Follows World.answer w (asked.map Turn.ofNetwork) w') : w'.desk = w.desk := by
  induction asked generalizing w with
  | nil => rw [Dialogue.follows_nil_iff.1 follows]
  | cons turn rest ih =>
      obtain ⟨q, r⟩ := turn
      obtain ⟨_, onward⟩ := Dialogue.follows_cons_iff.1 follows
      rw [ih onward]
      cases q <;> rfl

theorem desk_of_follows_ledger {w w' : World}
    {asked : List (Dialogue.Turn Ledger.Query Ledger.Query.Answer)}
    (follows : Follows World.answer w (asked.map Turn.ofLedger) w') :
    Follows Ledger.Desk.answer w.desk asked w'.desk := by
  induction asked generalizing w with
  | nil =>
      rw [Dialogue.follows_nil_iff.1 follows]
      exact .nil _
  | cons turn rest ih =>
      obtain ⟨q, r⟩ := turn
      obtain ⟨answered, onward⟩ := Dialogue.follows_cons_iff.1 follows
      exact Dialogue.follows_cons_iff.2 ⟨answered, ih onward⟩

end Faucet

end TokenFaucet
