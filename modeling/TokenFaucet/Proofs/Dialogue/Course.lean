import TokenFaucet.Dialogue

set_option autoImplicit false

namespace TokenFaucet.Dialogue

variable {Query : Type} {Answer : Query → Type} {α β ε σ : Type}

structure Turn (Query : Type) (Answer : Query → Type) where
  query : Query
  answer : Answer query

/-- A program that is answered so goes on as another. -/
inductive Leads :
    Dialogue Query Answer α → List (Turn Query Answer) → Dialogue Query Answer α → Prop where
  | refl (d : Dialogue Query Answer α) : Leads d [] d
  | ask {q : Query} {next : Answer q → Dialogue Query Answer α} {r : Answer q}
      {turns : List (Turn Query Answer)} {d : Dialogue Query Answer α} :
      Leads (next r) turns d → Leads (ask q next) (⟨q, r⟩ :: turns) d

/-- A program that is answered so ends with that. -/
def Course (d : Dialogue Query Answer α) (turns : List (Turn Query Answer)) (a : α) : Prop :=
  Leads d turns (done a)

@[simp] theorem course_done_iff {a b : α} {turns : List (Turn Query Answer)} :
    Course (done a) turns b ↔ turns = [] ∧ b = a := by
  constructor
  · intro course
    cases course
    exact ⟨rfl, rfl⟩
  · rintro ⟨rfl, rfl⟩
    exact .refl _

@[simp] theorem course_ask_iff {q : Query} {next : Answer q → Dialogue Query Answer α} {b : α}
    {turns : List (Turn Query Answer)} :
    Course (ask q next) turns b ↔
      ∃ r rest, turns = ⟨q, r⟩ :: rest ∧ Course (next r) rest b := by
  constructor
  · intro course
    cases course with
    | ask rest => exact ⟨_, _, rfl, rest⟩
  · rintro ⟨r, rest, rfl, course⟩
    exact .ask course

theorem course_andThen_iff {d : Dialogue Query Answer α} {f : α → Dialogue Query Answer β} {b : β}
    {turns : List (Turn Query Answer)} :
    Course (d.andThen f) turns b ↔
      ∃ a first second, turns = first ++ second ∧ Course d first a ∧ Course (f a) second b := by
  induction d generalizing turns with
  | done a =>
      constructor
      · intro course
        exact ⟨a, [], turns, rfl, by simp, course⟩
      · rintro ⟨a, first, second, rfl, ended, course⟩
        obtain ⟨rfl, rfl⟩ := course_done_iff.1 ended
        exact course
  | ask q next ih =>
      simp only [ask_andThen, course_ask_iff, ih]
      constructor
      · rintro ⟨r, rest, rfl, a, first, second, rfl, left, right⟩
        exact ⟨a, ⟨q, r⟩ :: first, second, rfl, ⟨r, first, rfl, left⟩, right⟩
      · rintro ⟨a, first, second, rfl, ⟨r, rest, rfl, left⟩, right⟩
        exact ⟨r, rest ++ second, rfl, a, rest, second, rfl, left, right⟩

theorem Leads.trans {d e g : Dialogue Query Answer α} {first second : List (Turn Query Answer)}
    (left : Leads d first e) (right : Leads e second g) : Leads d (first ++ second) g := by
  induction left with
  | refl => exact right
  | ask _ ih => exact .ask (ih right)

/-- One more answer. -/
theorem Leads.snoc {d : Dialogue Query Answer α} {turns : List (Turn Query Answer)} {q : Query}
    {next : Answer q → Dialogue Query Answer α} (leads : Leads d turns (.ask q next)) (r : Answer q) :
    Leads d (turns ++ [⟨q, r⟩]) (next r) :=
  leads.trans (.ask (.refl _))

/-- A program that asks at most so many questions. -/
def Brief : Nat → Dialogue Query Answer α → Prop
  | _, done _ => True
  | 0, ask _ _ => False
  | n + 1, ask _ next => ∀ r, Brief n (next r)

theorem brief_done (n : Nat) (a : α) : Brief n (done a : Dialogue Query Answer α) := by
  cases n <;> trivial

theorem Leads.length_le {n : Nat} {d e : Dialogue Query Answer α} {turns : List (Turn Query Answer)}
    (leads : Leads d turns e) (brief : Brief n d) : turns.length ≤ n := by
  induction leads generalizing n with
  | refl => exact Nat.zero_le n
  | ask rest ih =>
      cases n with
      | zero => exact brief.elim
      | succ n => exact Nat.succ_le_succ (ih (brief _))

/-- A program among programs that ask more has its own courses, in the form that its questions have
there. -/
theorem course_embed_iff {Query' : Type} {Answer' : Query' → Type} (form : Query → Query')
    (back : (q : Query) → Answer' (form q) → Answer q)
    (forth : (q : Query) → Answer q → Answer' (form q)) (backForth : ∀ q r, back q (forth q r) = r)
    (forthBack : ∀ q r, forth q (back q r) = r)
    {d : Dialogue Query Answer α} {turns : List (Turn Query' Answer')} {a : α} :
    Course (d.embed form back) turns a ↔
      ∃ asked : List (Turn Query Answer),
        turns = asked.map (fun turn => ⟨form turn.query, forth turn.query turn.answer⟩) ∧
          Course d asked a := by
  induction d generalizing turns with
  | done b =>
      constructor
      · intro course
        obtain ⟨rfl, rfl⟩ := course_done_iff.1 course
        exact ⟨[], rfl, .refl _⟩
      · rintro ⟨asked, rfl, course⟩
        obtain ⟨rfl, rfl⟩ := course_done_iff.1 course
        exact .refl _
  | ask q next ih =>
      constructor
      · intro course
        obtain ⟨r, rest, rfl, onward⟩ := course_ask_iff.1 course
        obtain ⟨asked, rfl, inner⟩ := (ih (back q r)).1 onward
        exact ⟨⟨q, back q r⟩ :: asked, by simp only [List.map_cons, forthBack], .ask inner⟩
      · rintro ⟨asked, rfl, course⟩
        obtain ⟨r, rest, rfl, onward⟩ := course_ask_iff.1 course
        exact .ask ((ih _).2 ⟨rest, rfl, by rwa [backForth]⟩)

section Failing

/-!
Programs that may fail. Each way to build one has its courses; a failure ends the program with the
turns that were taken so far.
-/

variable {turns : List (Turn Query Answer)}

theorem run_bind (x : ExceptT ε (Dialogue Query Answer) α)
    (f : α → ExceptT ε (Dialogue Query Answer) β) :
    (x >>= f).run = x.run.andThen fun r => match r with
      | .ok a => (f a).run
      | .error e => done (.error e) := by
  change x.run.andThen _ = x.run.andThen _
  congr 1
  funext r
  cases r <;> rfl

theorem course_bind_iff {x : ExceptT ε (Dialogue Query Answer) α}
    {f : α → ExceptT ε (Dialogue Query Answer) β} {r : Except ε β} :
    Course (x >>= f).run turns r ↔
      (∃ e, r = .error e ∧ Course x.run turns (.error e)) ∨
        ∃ a first second, turns = first ++ second ∧ Course x.run first (.ok a) ∧
          Course (f a).run second r := by
  rw [run_bind, course_andThen_iff]
  constructor
  · rintro ⟨a | a, first, second, rfl, left, right⟩
    · obtain ⟨rfl, rfl⟩ := course_done_iff.1 right
      exact .inl ⟨a, rfl, by simpa using left⟩
    · exact .inr ⟨a, first, second, rfl, left, right⟩
  · rintro (⟨e, rfl, left⟩ | ⟨a, first, second, rfl, left, right⟩)
    · exact ⟨.error e, turns, [], by simp, left, by simp⟩
    · exact ⟨.ok a, first, second, rfl, left, right⟩

@[simp] theorem course_pure_iff {a : α} {r : Except ε α} :
    Course (pure a : ExceptT ε (Dialogue Query Answer) α).run turns r ↔ turns = [] ∧ r = .ok a :=
  course_done_iff

@[simp] theorem course_throw_iff {e : ε} {r : Except ε α} :
    Course (throw e : ExceptT ε (Dialogue Query Answer) α).run turns r ↔
      turns = [] ∧ r = .error e :=
  course_done_iff

@[simp] theorem course_lift_iff {x : Except ε α} {r : Except ε α} :
    Course (liftM x : ExceptT ε (Dialogue Query Answer) α).run turns r ↔ turns = [] ∧ r = x :=
  course_done_iff

/-- A program that first reads a value goes on with it or fails, and asks nothing for it. -/
theorem course_lift_bind_iff {x : Except ε α} {f : α → ExceptT ε (Dialogue Query Answer) β}
    {r : Except ε β} :
    Course ((liftM x : ExceptT ε (Dialogue Query Answer) α) >>= f).run turns r ↔
      (∃ e, x = .error e ∧ turns = [] ∧ r = .error e) ∨ ∃ a, x = .ok a ∧ Course (f a).run turns r := by
  rw [course_bind_iff]
  constructor
  · rintro (⟨e, rfl, refused⟩ | ⟨a, _, second, rfl, read, course⟩)
    · obtain ⟨rfl, rfl⟩ := course_lift_iff.1 refused
      exact .inl ⟨e, rfl, rfl, rfl⟩
    · obtain ⟨rfl, rfl⟩ := course_lift_iff.1 read
      exact .inr ⟨a, rfl, course⟩
  · rintro (⟨e, rfl, rfl, rfl⟩ | ⟨a, rfl, course⟩)
    · exact .inl ⟨e, rfl, course_lift_iff.2 ⟨rfl, rfl⟩⟩
    · exact .inr ⟨a, [], turns, rfl, course_lift_iff.2 ⟨rfl, rfl⟩, course⟩

/-- Every failure of a program has a property. -/
def FailsOnly (P : ε → Prop) (program : ExceptT ε (Dialogue Query Answer) α) : Prop :=
  ∀ turns e, Course program.run turns (.error e) → P e

variable {P : ε → Prop}

theorem failsOnly_pure (a : α) : FailsOnly P (pure a : ExceptT ε (Dialogue Query Answer) α) := by
  intro turns e course
  exact nomatch (course_pure_iff.1 course).2

theorem failsOnly_throw {e : ε} (own : P e) :
    FailsOnly P (throw e : ExceptT ε (Dialogue Query Answer) α) := by
  intro turns e' course
  cases (course_throw_iff.1 course).2
  exact own

theorem failsOnly_lift {x : Except ε α} (own : ∀ e, x = .error e → P e) :
    FailsOnly P (liftM x : ExceptT ε (Dialogue Query Answer) α) := by
  intro turns e course
  exact own e (course_lift_iff.1 course).2.symm

/-- One program after another, with what is known of the first one's result. -/
theorem FailsOnly.bind_course {x : ExceptT ε (Dialogue Query Answer) α}
    {f : α → ExceptT ε (Dialogue Query Answer) β} (first : FailsOnly P x)
    (next : ∀ turns a, Course x.run turns (.ok a) → FailsOnly P (f a)) : FailsOnly P (x >>= f) := by
  intro turns e course
  obtain ⟨e', same, failed⟩ | ⟨a, _, second, -, read, further⟩ := course_bind_iff.1 course
  · cases same
    exact first _ _ failed
  · exact next _ a read _ _ further

theorem FailsOnly.bind {x : ExceptT ε (Dialogue Query Answer) α}
    {f : α → ExceptT ε (Dialogue Query Answer) β} (first : FailsOnly P x)
    (next : ∀ a, FailsOnly P (f a)) : FailsOnly P (x >>= f) :=
  first.bind_course fun _ a _ => next a

/-- A check before a program. -/
theorem FailsOnly.check {x : Except ε α} {f : α → ExceptT ε (Dialogue Query Answer) β}
    (own : ∀ e, x = .error e → P e) (next : ∀ a, x = .ok a → FailsOnly P (f a)) :
    FailsOnly P ((liftM x : ExceptT ε (Dialogue Query Answer) α) >>= f) := by
  refine (failsOnly_lift own).bind_course fun turns a read => next a ?_
  exact (course_lift_iff.1 read).2.symm

end Failing

/-- A machine answers so, from one state to another. -/
inductive Follows (machine : (q : Query) → σ → Answer q × σ) :
    σ → List (Turn Query Answer) → σ → Prop where
  | nil (s : σ) : Follows machine s [] s
  | cons {s s' : σ} (q : Query) {turns : List (Turn Query Answer)} :
      Follows machine (machine q s).2 turns s' →
      Follows machine s (⟨q, (machine q s).1⟩ :: turns) s'

variable {machine : (q : Query) → σ → Answer q × σ}

theorem follows_nil_iff {s s' : σ} : Follows machine s [] s' ↔ s' = s := by
  constructor
  · rintro ⟨⟩
    rfl
  · rintro rfl
    exact .nil _

theorem follows_cons_iff {s s' : σ} {q : Query} {r : Answer q} {turns : List (Turn Query Answer)} :
    Follows machine s (⟨q, r⟩ :: turns) s' ↔
      r = (machine q s).1 ∧ Follows machine (machine q s).2 turns s' := by
  constructor
  · intro follows
    cases follows with
    | cons _ rest => exact ⟨rfl, rest⟩
  · rintro ⟨rfl, rest⟩
    exact .cons q rest

theorem follows_append_iff {s s' : σ} {first second : List (Turn Query Answer)} :
    Follows machine s (first ++ second) s' ↔
      ∃ middle, Follows machine s first middle ∧ Follows machine middle second s' := by
  induction first generalizing s with
  | nil => simp [follows_nil_iff]
  | cons turn rest ih =>
      obtain ⟨q, r⟩ := turn
      simp only [List.cons_append, follows_cons_iff, ih]
      constructor
      · rintro ⟨answered, middle, left, right⟩
        exact ⟨middle, ⟨answered, left⟩, right⟩
      · rintro ⟨middle, ⟨answered, left⟩, right⟩
        exact ⟨answered, middle, left, right⟩

/-- The course that a machine singles out. -/
theorem course_run (machine : (q : Query) → σ → Answer q × σ) (d : Dialogue Query Answer α) (s : σ) :
    ∃ turns, Course d turns (d.run machine s).1 ∧ Follows machine s turns (d.run machine s).2 := by
  induction d generalizing s with
  | done a => exact ⟨[], .refl _, .nil s⟩
  | ask q next ih =>
      obtain ⟨turns, course, follows⟩ := ih (machine q s).1 (machine q s).2
      exact ⟨_, .ask course, .cons q follows⟩

theorem run_of_course {d : Dialogue Query Answer α} {turns : List (Turn Query Answer)} {a : α}
    {s s' : σ} (course : Course d turns a) (follows : Follows machine s turns s') :
    d.run machine s = (a, s') := by
  induction d generalizing turns s with
  | done b =>
      obtain ⟨rfl, rfl⟩ := course_done_iff.1 course
      rw [follows_nil_iff.1 follows]
      rfl
  | ask q next ih =>
      obtain ⟨r, rest, rfl, onward⟩ := course_ask_iff.1 course
      obtain ⟨rfl, followed⟩ := follows_cons_iff.1 follows
      exact ih _ onward followed

end TokenFaucet.Dialogue
