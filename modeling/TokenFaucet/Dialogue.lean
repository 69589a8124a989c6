set_option autoImplicit false

/-!
Programs that ask the world questions. A dialogue is the tree of all courses a program can take: it
is done, or it asks and goes on with the answer. What answers the questions is given elsewhere, so a
program can be run against a script, a network, or any sequence of answers, and several programs can
be run in turns.
-/

namespace TokenFaucet

/-- A program that asks questions of a type, each with its own type of answers. -/
inductive Dialogue (Query : Type) (Answer : Query → Type) (α : Type) where
  | done (a : α)
  | ask (q : Query) (next : Answer q → Dialogue Query Answer α)

namespace Dialogue

variable {Query : Type} {Answer : Query → Type} {α β : Type}

/-- Goes on with what a program ends with. -/
def andThen (d : Dialogue Query Answer α) (f : α → Dialogue Query Answer β) :
    Dialogue Query Answer β :=
  match d with
  | done a => f a
  | ask q next => ask q fun r => (next r).andThen f

instance : Monad (Dialogue Query Answer) where
  pure := done
  bind := andThen

/-- Asks one question and ends with its answer. -/
def query (q : Query) : Dialogue Query Answer (Answer q) :=
  ask q done

@[simp] theorem done_andThen (a : α) (f : α → Dialogue Query Answer β) :
    (done a).andThen f = f a := rfl

@[simp] theorem ask_andThen (q : Query) (next : Answer q → Dialogue Query Answer α)
    (f : α → Dialogue Query Answer β) :
    (ask q next).andThen f = ask q fun r => (next r).andThen f := rfl

@[simp] theorem andThen_done (d : Dialogue Query Answer α) : d.andThen done = d := by
  induction d with
  | done a => rfl
  | ask q next ih => simp only [ask_andThen, ih]

theorem andThen_assoc {γ : Type} (d : Dialogue Query Answer α) (f : α → Dialogue Query Answer β)
    (g : β → Dialogue Query Answer γ) :
    (d.andThen f).andThen g = d.andThen fun a => (f a).andThen g := by
  induction d with
  | done a => rfl
  | ask q next ih => simp only [ask_andThen, ih]

/-- Runs a program against a machine that answers from a state. -/
def run {σ : Type} (machine : (q : Query) → σ → Answer q × σ) :
    Dialogue Query Answer α → σ → α × σ
  | done a, s => (a, s)
  | ask q next, s =>
    let (r, s) := machine q s
    (next r).run machine s

/-- Runs a program with answers that come from the world. -/
def interpret {m : Type → Type} [Monad m] (answer : (q : Query) → m (Answer q)) :
    Dialogue Query Answer α → m α
  | done a => pure a
  | ask q next => answer q >>= fun r => (next r).interpret answer

theorem run_andThen {σ : Type} (machine : (q : Query) → σ → Answer q × σ)
    (d : Dialogue Query Answer α) (f : α → Dialogue Query Answer β) (s : σ) :
    (d.andThen f).run machine s =
      (f (d.run machine s).1).run machine (d.run machine s).2 := by
  induction d generalizing s with
  | done a => rfl
  | ask q next ih => exact ih _ _

/-- The same program among programs that ask more: each of its questions has a form there, and the
answer is brought back from it. -/
def embed {Query' : Type} {Answer' : Query' → Type} (form : Query → Query')
    (back : (q : Query) → Answer' (form q) → Answer q) :
    Dialogue Query Answer α → Dialogue Query' Answer' α
  | done a => done a
  | ask q next => ask (form q) fun r => (next (back q r)).embed form back

end Dialogue

end TokenFaucet
