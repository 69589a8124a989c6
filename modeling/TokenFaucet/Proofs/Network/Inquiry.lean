import TokenFaucet.Network.Call
import TokenFaucet.Proofs.Dialogue.Course

set_option autoImplicit false

namespace TokenFaucet.Network

variable {α β ε ε' : Type}

/-- A question to the network and its answer. -/
abbrev Turn := Dialogue.Turn Query Query.Answer

/-- A request and how its exchange ended. -/
abbrev Exchanged := Request × Outcome

/-- The exchange of a turn, if the turn is one. -/
def Turn.exchange? : Turn → Option Exchanged
  | ⟨.exchange request, outcome⟩ => some (request, outcome)
  | ⟨.acquire _, _⟩ => none
  | ⟨.release _, _⟩ => none

def exchanges (turns : List Turn) : List Exchanged :=
  turns.filterMap Turn.exchange?

@[simp] theorem exchanges_nil : exchanges [] = [] := rfl

@[simp] theorem exchanges_append (first second : List Turn) :
    exchanges (first ++ second) = exchanges first ++ exchanges second :=
  List.filterMap_append

@[simp] theorem exchanges_cons_exchange (request : Request) (outcome : Outcome) (rest : List Turn) :
    exchanges (⟨.exchange request, outcome⟩ :: rest) = (request, outcome) :: exchanges rest := rfl

@[simp] theorem exchanges_cons_acquire (lane : String) (u : Unit) (rest : List Turn) :
    exchanges (⟨.acquire lane, u⟩ :: rest) = exchanges rest := rfl

@[simp] theorem exchanges_cons_release (lane : String) (u : Unit) (rest : List Turn) :
    exchanges (⟨.release lane, u⟩ :: rest) = exchanges rest := rfl

/-- Exchanges one request and reads the outcome. -/
def inquire (request : Request) (read : Outcome → Except ε α) : Attempt ε α :=
  ExceptT.mk (.ask (.exchange request) fun outcome => .done (read outcome))

theorem inquire_bind_run (request : Request) (read : Outcome → Except ε α)
    (f : α → Attempt ε β) :
    (inquire request read >>= f).run = .ask (.exchange request) fun outcome =>
      match read outcome with
      | .ok a => (f a).run
      | .error e => .done (.error e) := by
  change Dialogue.andThen (Dialogue.ask _ _) _ = _
  rw [Dialogue.ask_andThen]
  congr 1
  funext outcome
  rw [Dialogue.done_andThen]
  cases read outcome <;> rfl

/-- What only reads a value further is part of the inquiry. -/
theorem inquire_bind_lift (request : Request) (read : Outcome → Except ε α)
    (further : α → Except ε β) :
    (inquire request read >>= fun a => (liftM (further a) : Attempt ε β)) =
      inquire request fun outcome => (read outcome).bind further := by
  apply ExceptT.ext
  rw [inquire_bind_run]
  change Dialogue.ask _ _ = Dialogue.ask _ _
  congr 1
  funext outcome
  dsimp only
  cases read outcome <;> rfl

theorem inquire_adapt (request : Request) (read : Outcome → Except ε α) (f : ε → ε') :
    (inquire request read).adapt f = inquire request fun outcome => (read outcome).mapError f := rfl

@[simp] theorem course_inquire_iff {request : Request} {read : Outcome → Except ε α}
    {turns : List Turn} {r : Except ε α} :
    Dialogue.Course (inquire request read).run turns r ↔
      ∃ outcome, turns = [⟨.exchange request, outcome⟩] ∧ r = read outcome := by
  change Dialogue.Course (Dialogue.ask _ _) _ _ ↔ _
  constructor
  · intro course
    obtain ⟨outcome, rest, rfl, ended⟩ := Dialogue.course_ask_iff.1 course
    obtain ⟨rfl, rfl⟩ := Dialogue.course_done_iff.1 ended
    exact ⟨outcome, rfl, rfl⟩
  · rintro ⟨outcome, rfl, rfl⟩
    exact .ask (.refl _)

/-- An inquiry comes first, and the program ends there or goes on with what was read. -/
theorem course_inquire_bind_iff {request : Request} {read : Outcome → Except ε α}
    {f : α → Attempt ε β} {turns : List Turn} {r : Except ε β} :
    Dialogue.Course (inquire request read >>= f).run turns r ↔
      ∃ outcome rest, turns = ⟨.exchange request, outcome⟩ :: rest ∧
        ((∃ e, read outcome = .error e ∧ rest = [] ∧ r = .error e) ∨
          ∃ a, read outcome = .ok a ∧ Dialogue.Course (f a).run rest r) := by
  rw [inquire_bind_run, Dialogue.course_ask_iff]
  refine exists_congr fun outcome => exists_congr fun rest => and_congr_right fun _ => ?_
  cases answered : read outcome with
  | error e =>
      rw [Dialogue.course_done_iff]
      exact ⟨fun ended => .inl ⟨e, rfl, ended⟩, by rintro (⟨_, ⟨⟩, ended⟩ | ⟨_, ⟨⟩, -⟩); exact ended⟩
  | ok a =>
      exact ⟨fun course => .inr ⟨a, rfl, course⟩,
        by rintro (⟨_, ⟨⟩, -⟩ | ⟨_, ⟨⟩, course⟩); exact course⟩

theorem inquire_bind_pure (request : Request) (read : Outcome → Except ε α) (f : α → β) :
    (inquire request read >>= fun a => (pure (f a) : Attempt ε β)) =
      inquire request fun outcome => (read outcome).map f := by
  rw [show (fun a => (pure (f a) : Attempt ε β)) = fun a => liftM (Except.ok (f a) : Except ε β)
    from rfl, inquire_bind_lift]
  congr 1

/-- What is read from an outcome in two steps is read in one. -/
theorem exchange_bind_lift_bind (request : Request) (read : Outcome → Except ε α)
    (further : α → Except ε β) :
    ((liftM (exchange request) : Attempt ε Outcome) >>= fun outcome => do
      let a ← (liftM (read outcome) : Attempt ε α)
      (liftM (further a) : Attempt ε β)) =
      inquire request fun outcome => (read outcome).bind further := by
  rw [← inquire_bind_lift]
  rfl

/-- A call of a method is an inquiry. -/
theorem call_eq (client : Client) (method : String) (params : Json) (reading : Json.Reading α) :
    client.call method params reading =
      inquire ⟨client, .call method (some params)⟩ fun outcome =>
        (answerBody client.url outcome).bind (resultOf reading) :=
  exchange_bind_lift_bind ..

theorem course_holding_iff {lane : String} {program : Session α} {turns : List Turn} {a : α} :
    Dialogue.Course (holding lane program) turns a ↔
      ∃ inner, turns = ⟨.acquire lane, ()⟩ :: (inner ++ [⟨.release lane, ()⟩]) ∧
        Dialogue.Course program inner a := by
  change Dialogue.Course (Dialogue.ask (.acquire lane) fun _ =>
    program.andThen fun a => Dialogue.ask (.release lane) fun _ => .done a) turns a ↔ _
  constructor
  · intro course
    obtain ⟨⟨⟩, rest, rfl, onward⟩ := Dialogue.course_ask_iff.1 course
    obtain ⟨b, inner, last, rfl, held, released⟩ := Dialogue.course_andThen_iff.1 onward
    obtain ⟨⟨⟩, _, rfl, ended⟩ := Dialogue.course_ask_iff.1 released
    obtain ⟨rfl, rfl⟩ := Dialogue.course_done_iff.1 ended
    exact ⟨inner, rfl, held⟩
  · rintro ⟨inner, rfl, held⟩
    exact .ask (Dialogue.course_andThen_iff.2 ⟨a, inner, _, rfl, held, .ask (.refl _)⟩)

section Failing

open Dialogue (FailsOnly)

variable {P : ε → Prop}

/-- An inquiry fails as its outcome is read. -/
theorem failsOnly_inquire {request : Request} {read : Outcome → Except ε α}
    (own : ∀ outcome e, read outcome = .error e → P e) : FailsOnly P (inquire request read) := by
  intro turns e course
  obtain ⟨outcome, -, failed⟩ := course_inquire_iff.1 course
  exact own outcome e failed.symm

theorem failsOnly_holding {lane : String} {program : Session (Except ε α)}
    (inner : FailsOnly P (ExceptT.mk program)) :
    FailsOnly P (ExceptT.mk (holding lane program)) := by
  intro turns e course
  obtain ⟨held, -, within⟩ := course_holding_iff.1 course
  exact inner held e within

end Failing

/-- Whether a request submits a transaction. -/
def Request.isSubmission (request : Request) : Bool :=
  match request.payload with
  | .call method _ =>
      method == "eth_sendRawTransaction" || method == "sendTransaction" ||
        method == "broadcast_tx_commit"
  | .identify _ => false

def submissions (exchanged : List Exchanged) : List Exchanged :=
  exchanged.filter fun x => x.1.isSubmission

@[simp] theorem submissions_append (first second : List Exchanged) :
    submissions (first ++ second) = submissions first ++ submissions second :=
  List.filter_append ..

theorem submissions_cons_of_other {request : Request} (outcome : Outcome) (rest : List Exchanged)
    (other : request.isSubmission = false) :
    submissions ((request, outcome) :: rest) = submissions rest := by
  simp [submissions, other]

/-- A program that submits nothing, whatever it is answered. -/
def Quiet (program : Attempt ε α) : Prop :=
  ∀ turns r, Dialogue.Course program.run turns r → submissions (exchanges turns) = []

theorem quiet_throw (e : ε) : Quiet (throw e : Attempt ε α) := by
  intro turns r course
  obtain ⟨rfl, rfl⟩ := Dialogue.course_throw_iff.1 course
  rfl

theorem quiet_inquire {request : Request} (read : Outcome → Except ε α)
    (other : request.isSubmission = false) : Quiet (inquire request read) := by
  intro turns r course
  obtain ⟨outcome, rfl, -⟩ := course_inquire_iff.1 course
  exact submissions_cons_of_other outcome [] other

/-- Every request by which a program submits has a property, whatever the program is answered. -/
def SubmitsOnly (P : Request → Prop) (program : Attempt ε α) : Prop :=
  ∀ turns r, Dialogue.Course program.run turns r → ∀ x ∈ submissions (exchanges turns), P x.1

section Submitting

variable {P Q : Request → Prop} {request : Request} {read : Outcome → Except ε α}

theorem SubmitsOnly.imp {program : Attempt ε α} (only : SubmitsOnly P program)
    (weaker : ∀ request, P request → Q request) : SubmitsOnly Q program :=
  fun turns r course x mem => weaker x.1 (only turns r course x mem)

theorem Quiet.submitsOnly {program : Attempt ε α} (quiet : Quiet program) : SubmitsOnly P program := by
  intro turns r course x mem
  rw [quiet turns r course] at mem
  cases mem

theorem submitsOnly_inquire (own : P request) : SubmitsOnly P (inquire request read) := by
  intro turns r course x mem
  obtain ⟨outcome, rfl, -⟩ := course_inquire_iff.1 course
  have same : x = (request, outcome) := List.mem_singleton.1 (List.mem_filter.1 mem).1
  rw [same]
  exact own

/-- A program that first asks for something else submits what it submits when it knows the answer. -/
theorem submitsOnly_inquire_bind {f : α → Attempt ε β} (other : request.isSubmission = false)
    (onward : ∀ outcome a, read outcome = .ok a → SubmitsOnly P (f a)) :
    SubmitsOnly P (inquire request read >>= f) := by
  intro turns r course x mem
  obtain ⟨outcome, rest, rfl, ended⟩ := course_inquire_bind_iff.1 course
  replace mem : x ∈ submissions ((request, outcome) :: exchanges rest) := mem
  rw [submissions_cons_of_other outcome _ other] at mem
  obtain ⟨e, -, rfl, -⟩ | ⟨a, answered, further⟩ := ended
  · cases mem
  · exact onward outcome a answered rest r further x mem

theorem submitsOnly_holding {lane : String} {program : Session (Except ε α)}
    (inner : SubmitsOnly P (ExceptT.mk program)) :
    SubmitsOnly P (ExceptT.mk (holding lane program)) := by
  intro turns r course x mem
  obtain ⟨held, rfl, within⟩ := course_holding_iff.1 course
  apply inner held r within x
  simpa using mem

end Submitting

end TokenFaucet.Network
