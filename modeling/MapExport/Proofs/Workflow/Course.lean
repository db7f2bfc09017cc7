import MapExport.Workflow

/-!
# Courses of workflows

A workflow says what is asked for next, for every answer to what was asked before. A *course* of it is
one way through this tree: the calls that are made, each with its answer, and what is left to do after
them. What holds of every course holds whoever the collaborators are and whatever they answer; in
particular it holds when they have a state, which each call can change (`play`).

Most workflows here may also fail. For these a course that ends with a failure and one that ends with a
value are kept apart from the start, because the first is where the calls stop.
-/

set_option autoImplicit false

namespace MapExport.Workflow

variable {Call : Type} {Reply : Call → Type} {α β ε ε' : Type}

/-! ## Laws -/

theorem bind_done (w : Workflow Call Reply α) : w >>= Workflow.done = w := by
  induction w with
  | done a => rfl
  | call c next ih => exact congrArg (call c) (funext ih)

theorem bind_assoc' {γ : Type} (w : Workflow Call Reply α) (k : α → Workflow Call Reply β)
    (l : β → Workflow Call Reply γ) : w >>= k >>= l = w >>= fun a => k a >>= l := by
  induction w with
  | done a => rfl
  | call c next ih => exact congrArg (call c) (funext ih)

instance : LawfulMonad (Workflow Call Reply) :=
  LawfulMonad.mk' _ bind_done (fun _ _ => rfl) bind_assoc'

/-- Carrying out one workflow after another is carrying out both in turn. -/
theorem run_bind {m : Type → Type} [Monad m] [LawfulMonad m] (answer : (c : Call) → m (Reply c))
    (w : Workflow Call Reply α) (k : α → Workflow Call Reply β) :
    (w >>= k).run answer = w.run answer >>= fun a => (k a).run answer := by
  induction w with
  | done a => simp [run]
  | call c next ih => simp [run, ih]

/-! ## Courses -/

/-- **A call and its answer.** -/
structure Event (Call : Type) (Reply : Call → Type) where
  call : Call
  reply : Reply call

/-- **A course of a workflow:** the calls that are made, with their answers, and what is left to do. -/
inductive Course :
    Workflow Call Reply α → List (Event Call Reply) → Workflow Call Reply α → Prop where
  | start (w : Workflow Call Reply α) : Course w [] w
  | answered {c : Call} {next : Reply c → Workflow Call Reply α} {log : List (Event Call Reply)}
      {rest : Workflow Call Reply α} (reply : Reply c) :
      Course (next reply) log rest → Course (call c next) (⟨c, reply⟩ :: log) rest

/-- Nothing is asked for once everything is done. -/
theorem course_done_iff {a b : α} {log : List (Event Call Reply)} :
    Course (done a) log (done b) ↔ log = [] ∧ a = b := by
  constructor
  · intro h
    cases h
    exact ⟨rfl, rfl⟩
  · rintro ⟨rfl, rfl⟩
    exact .start _

/-- What is to be asked for is asked for first. -/
theorem course_call_iff {c : Call} {next : Reply c → Workflow Call Reply α} {b : α}
    {log : List (Event Call Reply)} :
    Course (call c next) log (done b) ↔
      ∃ reply rest, log = ⟨c, reply⟩ :: rest ∧ Course (next reply) rest (done b) := by
  constructor
  · intro h
    cases h with
    | answered reply h => exact ⟨reply, _, rfl, h⟩
  · rintro ⟨reply, rest, rfl, h⟩
    exact .answered reply h

/-- A course goes on where another one has led. -/
theorem Course.append {u v w : Workflow Call Reply α} {log more : List (Event Call Reply)}
    (h : Course u log v) (h' : Course v more w) : Course u (log ++ more) w := by
  induction h with
  | start => exact h'
  | answered reply _ ih => exact .answered reply (ih h')

/-- A course of one workflow after another is a course of each. -/
theorem course_bind_iff {w : Workflow Call Reply α} {k : α → Workflow Call Reply β} {b : β}
    {log : List (Event Call Reply)} :
    Course (w >>= k) log (done b) ↔
      ∃ first second a, log = first ++ second ∧ Course w first (done a) ∧
        Course (k a) second (done b) := by
  induction w generalizing log with
  | done a =>
    constructor
    · intro h
      exact ⟨[], log, a, rfl, .start _, h⟩
    · rintro ⟨first, second, a', rfl, hfirst, hsecond⟩
      obtain ⟨rfl, rfl⟩ := course_done_iff.mp hfirst
      exact hsecond
  | call c next ih =>
    rw [call_bind, course_call_iff]
    constructor
    · rintro ⟨reply, rest, rfl, h⟩
      obtain ⟨first, second, a, rfl, hfirst, hsecond⟩ := (ih reply).mp h
      exact ⟨⟨c, reply⟩ :: first, second, a, rfl, .answered reply hfirst, hsecond⟩
    · rintro ⟨first, second, a, rfl, hfirst, hsecond⟩
      obtain ⟨reply, rest, rfl, h⟩ := course_call_iff.mp hfirst
      exact ⟨reply, rest ++ second, rfl, (ih reply).mpr ⟨rest, second, a, rfl, h, hsecond⟩⟩

/-- **The answers determine the result.** -/
theorem Course.done_unique {w : Workflow Call Reply α} {a b : α} {log : List (Event Call Reply)}
    (h : Course w log (done a)) (h' : Course w log (done b)) : a = b := by
  induction w generalizing log with
  | done c =>
    obtain ⟨-, rfl⟩ := course_done_iff.mp h
    exact (course_done_iff.mp h').2
  | call c next ih =>
    obtain ⟨reply, rest, rfl, hrest⟩ := course_call_iff.mp h
    obtain ⟨reply', rest', heq, hrest'⟩ := course_call_iff.mp h'
    cases heq
    exact ih reply hrest hrest'

/-- Every workflow can be brought to its end by answering each call as is said beforehand. -/
theorem exists_course_answering (answer : (c : Call) → Reply c) (w : Workflow Call Reply α) :
    ∃ log a, Course w log (done a) ∧ ∀ e ∈ log, e.reply = answer e.call := by
  induction w with
  | done a => exact ⟨[], a, .start _, fun _ h => absurd h List.not_mem_nil⟩
  | call c next ih =>
    obtain ⟨log, a, h, hanswers⟩ := ih (answer c)
    refine ⟨⟨c, answer c⟩ :: log, a, .answered (answer c) h, ?_⟩
    intro e he
    rcases List.mem_cons.mp he with rfl | he
    · rfl
    · exact hanswers e he

/-- So every workflow can be brought to its end, as long as there is some answer to every call. -/
theorem exists_course (answer : (c : Call) → Reply c) (w : Workflow Call Reply α) :
    ∃ log a, Course w log (done a) := by
  obtain ⟨log, a, h, -⟩ := exists_course_answering answer w
  exact ⟨log, a, h⟩

/-! ## Workflows that may fail -/

/-- **A course of a workflow that may fail,** to its end. -/
def Trace (x : ExceptT ε (Workflow Call Reply) α) (log : List (Event Call Reply))
    (result : Except ε α) : Prop :=
  Course x.run log (done result)

theorem trace_pure_iff {a : α} {log : List (Event Call Reply)} {result : Except ε α} :
    Trace (pure a : ExceptT ε (Workflow Call Reply) α) log result ↔
      log = [] ∧ result = .ok a := by
  rw [Trace, ExceptT.run_pure, pure_eq_done, course_done_iff, eq_comm (b := result)]

/-- A single call, and what is made of its answer. -/
theorem trace_call_iff {c : Call} {k : Reply c → Except ε α} {log : List (Event Call Reply)}
    {result : Except ε α} :
    Trace (ExceptT.mk (call c fun reply => done (k reply))) log result ↔
      ∃ reply, log = [⟨c, reply⟩] ∧ result = k reply := by
  constructor
  · intro h
    obtain ⟨reply, rest, rfl, hrest⟩ := course_call_iff.mp h
    obtain ⟨rfl, rfl⟩ := course_done_iff.mp hrest
    exact ⟨reply, rfl, rfl⟩
  · rintro ⟨reply, rfl, rfl⟩
    exact .answered reply (.start _)

/-- A failure of the first part is the end; else the second part follows. -/
theorem trace_bind_iff {x : ExceptT ε (Workflow Call Reply) α}
    {k : α → ExceptT ε (Workflow Call Reply) β} {log : List (Event Call Reply)}
    {result : Except ε β} :
    Trace (x >>= k) log result ↔
      (∃ e, result = .error e ∧ Trace x log (.error e)) ∨
      ∃ first second a, log = first ++ second ∧ Trace x first (.ok a) ∧
        Trace (k a) second result := by
  rw [Trace, ExceptT.run_bind, course_bind_iff]
  constructor
  · rintro ⟨first, second, a | a, rfl, hfirst, hsecond⟩
    -- After a failure nothing is left to do, so the second part has made no call.
    · obtain ⟨rfl, rfl⟩ := course_done_iff.mp hsecond
      exact .inl ⟨a, rfl, by rwa [List.append_nil]⟩
    · exact .inr ⟨first, second, a, rfl, hfirst, hsecond⟩
  · rintro (⟨e, rfl, h⟩ | ⟨first, second, a, rfl, hfirst, hsecond⟩)
    · exact ⟨log, [], .error e, by rw [List.append_nil], h, .start _⟩
    · exact ⟨first, second, .ok a, rfl, hfirst, hsecond⟩

/-- What ends well has all its parts end well. -/
theorem trace_bind_ok_iff {x : ExceptT ε (Workflow Call Reply) α} {k : α → ExceptT ε (Workflow Call Reply) β}
    {log : List (Event Call Reply)} {b : β} :
    Trace (x >>= k) log (.ok b) ↔
      ∃ first second a, log = first ++ second ∧ Trace x first (.ok a) ∧ Trace (k a) second (.ok b) := by
  simp [trace_bind_iff]

/-- **Nothing but such calls** is made, whatever the answers are. -/
def CallsOnly (P : Call → Prop) (x : ExceptT ε (Workflow Call Reply) α) : Prop :=
  ∀ log result, Trace x log result → ∀ e ∈ log, P e.call

/-- A result that needs no call makes none. -/
theorem callsOnly_done (P : Call → Prop) (r : Except ε α) :
    CallsOnly P (ExceptT.mk (done r) : ExceptT ε (Workflow Call Reply) α) := by
  intro log result h e he
  rw [(course_done_iff.mp h).1] at he
  cases he

theorem callsOnly_pure (P : Call → Prop) (a : α) : CallsOnly P (pure a : ExceptT ε (Workflow Call Reply) α) :=
  callsOnly_done P (.ok a)

theorem callsOnly_call {P : Call → Prop} {c : Call} {k : Reply c → Except ε α} (hc : P c) :
    CallsOnly P (ExceptT.mk (call c fun reply => done (k reply))) := by
  intro log result h e he
  obtain ⟨reply, rfl, -⟩ := trace_call_iff.mp h
  rw [List.mem_singleton.mp he]
  exact hc

theorem CallsOnly.bind {P : Call → Prop} {x : ExceptT ε (Workflow Call Reply) α}
    {k : α → ExceptT ε (Workflow Call Reply) β} (hx : CallsOnly P x) (hk : ∀ a, CallsOnly P (k a)) :
    CallsOnly P (x >>= k) := by
  intro log result h e he
  rcases trace_bind_iff.mp h with ⟨_, -, hfail⟩ | ⟨first, second, a, rfl, hfirst, hsecond⟩
  · exact hx _ _ hfail e he
  · rcases List.mem_append.mp he with he | he
    · exact hx _ _ hfirst e he
    · exact hk a _ _ hsecond e he

/-- Looking at how something ends makes no further calls. -/
theorem CallsOnly.lift {P : Call → Prop} {x : ExceptT ε (Workflow Call Reply) α} (hx : CallsOnly P x) :
    CallsOnly P (ExceptT.lift x.run : ExceptT ε' (Workflow Call Reply) (Except ε α)) := by
  have hrun : (ExceptT.lift x.run : ExceptT ε' (Workflow Call Reply) (Except ε α)).run =
      x.run >>= fun r => done (.ok r) := map_eq_pure_bind Except.ok x.run
  intro log result h e he
  rw [Trace, hrun, course_bind_iff] at h
  obtain ⟨first, second, r, rfl, hfirst, hsecond⟩ := h
  rw [(course_done_iff.mp hsecond).1, List.append_nil] at he
  exact hx first r hfirst e he

/-- Wording a failure anew changes nothing else. -/
theorem trace_adapt_iff {x : ExceptT ε (Workflow Call Reply) α} {f : ε → ε'}
    {log : List (Event Call Reply)} {result : Except ε' α} :
    Trace (x.adapt f) log result ↔ ∃ r, Trace x log r ∧ result = r.mapError f := by
  have hrun : (x.adapt f).run = x.run >>= fun r => done (r.mapError f) :=
    map_eq_pure_bind (Except.mapError f) x.run
  rw [Trace, hrun, course_bind_iff]
  constructor
  · rintro ⟨first, second, r, rfl, hfirst, hsecond⟩
    obtain ⟨rfl, rfl⟩ := course_done_iff.mp hsecond
    exact ⟨r, by rwa [List.append_nil], rfl⟩
  · rintro ⟨r, h, rfl⟩
    exact ⟨log, [], r, by rw [List.append_nil], h, .start _⟩

/-! ## Playing -/

variable {σ : Type}

/-- **What comes of playing a workflow:** what was asked for and answered, the result, and the state in
which the collaborators are left. -/
structure Played (Call : Type) (Reply : Call → Type) (σ α : Type) where
  log : List (Event Call Reply)
  result : α
  state : σ

/-- **Playing a workflow** with collaborators that have a state. It is carried out, and what is asked for is
written down. -/
def play (answer : σ → (c : Call) → Reply c × σ) : σ → Workflow Call Reply α → Played Call Reply σ α
  | s, done a => ⟨[], a, s⟩
  | s, call c next =>
    let rest := (next (answer s c).1).play answer (answer s c).2
    { rest with log := ⟨c, (answer s c).1⟩ :: rest.log }

/-- Writing down what is asked for changes nothing. -/
theorem run_eq_play (answer : σ → (c : Call) → Reply c × σ) (s : σ) (w : Workflow Call Reply α) :
    (w.run (m := StateM σ) fun c s => answer s c).run s =
      ((w.play answer s).result, (w.play answer s).state) := by
  -- The state is generalized because every call leaves another one to the rest of the workflow.
  induction w generalizing s with
  | done a => rfl
  | call c next ih => exact ih (answer s c).1 (answer s c).2

/-- Playing one workflow after another is playing both in turn. -/
theorem play_bind (answer : σ → (c : Call) → Reply c × σ) (s : σ) (w : Workflow Call Reply α)
    (k : α → Workflow Call Reply β) :
    (w >>= k).play answer s =
      let first := w.play answer s
      let second := (k first.result).play answer first.state
      ⟨first.log ++ second.log, second.result, second.state⟩ := by
  induction w generalizing s with
  | done a => rfl
  | call c next ih =>
    rw [call_bind, play, ih (answer s c).1 (answer s c).2]
    rfl

/-- **Answers:** from one state to another, the collaborators answer as the events say. -/
def Answers (answer : σ → (c : Call) → Reply c × σ) : σ → List (Event Call Reply) → σ → Prop
  | s, [], s' => s = s'
  | s, e :: log, s' => (answer s e.call).1 = e.reply ∧ Answers answer (answer s e.call).2 log s'

theorem answers_append_iff {answer : σ → (c : Call) → Reply c × σ} {s s' : σ}
    {log more : List (Event Call Reply)} :
    Answers answer s (log ++ more) s' ↔ ∃ mid, Answers answer s log mid ∧ Answers answer mid more s' := by
  induction log generalizing s with
  | nil => simp [Answers]
  | cons e log ih => simp [Answers, ih, and_assoc]

/-- **Playing is a course** in which the collaborators answer. -/
theorem course_play (answer : σ → (c : Call) → Reply c × σ) (s : σ) (w : Workflow Call Reply α) :
    Course w (w.play answer s).log (done (w.play answer s).result) ∧
      Answers answer s (w.play answer s).log (w.play answer s).state := by
  induction w generalizing s with
  | done a => exact ⟨.start _, rfl⟩
  | call c next ih =>
    obtain ⟨hcourse, hanswers⟩ := ih (answer s c).1 (answer s c).2
    exact ⟨.answered _ hcourse, rfl, hanswers⟩

/-- **Collaborators that answer alike** whatever is asked for lead to the same. -/
theorem play_congr {answer answer' : σ → (c : Call) → Reply c × σ} {P : Call → Prop} {w : Workflow Call Reply α}
    {s : σ} (h : ∀ s c, P c → answer' s c = answer s c) (hcalls : ∀ e ∈ (w.play answer s).log, P e.call) :
    w.play answer' s = w.play answer s := by
  induction w generalizing s with
  | done a => rfl
  | call c next ih =>
    rw [play] at hcalls
    obtain ⟨hfirst, hrest⟩ := List.forall_mem_cons.mp hcalls
    rw [play, play, h s c hfirst, ih (answer s c).1 hrest]

/-- So do those that answer alike the only calls that can be made. -/
theorem CallsOnly.run_congr {answer answer' : σ → (c : Call) → Reply c × σ} {P : Call → Prop}
    {x : ExceptT ε (Workflow Call Reply) α} (hx : CallsOnly P x) (h : ∀ s c, P c → answer' s c = answer s c) (s : σ) :
    (x.run.run (m := StateM σ) fun c s => answer' s c).run s =
      (x.run.run (m := StateM σ) fun c s => answer s c).run s := by
  rw [run_eq_play, run_eq_play, play_congr h (hx _ _ (course_play answer s x.run).1)]

/-- Every answer is one of the collaborators, in some state. -/
theorem Answers.exists_state {answer : σ → (c : Call) → Reply c × σ} {s s' : σ}
    {log : List (Event Call Reply)} (h : Answers answer s log s') :
    ∀ e ∈ log, ∃ t, e.reply = (answer t e.call).1 := by
  induction log generalizing s with
  | nil => simp
  | cons e log ih =>
    intro e' he'
    rcases List.mem_cons.mp he' with rfl | he'
    · exact ⟨s, h.1.symm⟩
    · exact ih h.2 e' he'

end MapExport.Workflow

/-! ## Results -/

namespace MapExport

variable {ε α β : Type}

/-- What ends well after a first part had that part end well. -/
theorem bind_eq_ok_iff {x : Except ε α} {k : α → Except ε β} {b : β} :
    x >>= k = .ok b ↔ ∃ a, x = .ok a ∧ k a = .ok b := by
  cases x with
  | error e => exact ⟨nofun, nofun⟩
  | ok a => exact ⟨fun h => ⟨a, rfl, h⟩, fun ⟨_, h, hk⟩ => Except.ok.inj h ▸ hk⟩

/-- Going through a list ends well if its first item and the others do. -/
theorem mapM_cons_eq_ok_iff {f : α → Except ε β} {a : α} {as : List α} {bs : List β} :
    (a :: as).mapM f = .ok bs ↔ ∃ b rest, f a = .ok b ∧ as.mapM f = .ok rest ∧ bs = b :: rest := by
  rw [List.mapM_cons, bind_eq_ok_iff]
  simp only [bind_eq_ok_iff]
  constructor
  · rintro ⟨b, hb, rest, hrest, hbs⟩
    exact ⟨b, rest, hb, hrest, (Except.ok.inj hbs).symm⟩
  · rintro ⟨b, rest, hb, hrest, rfl⟩
    exact ⟨b, hb, rest, hrest, rfl⟩

/-- Going through a list gives the list if every item gives itself. -/
theorem mapM_eq_ok_self {f : α → Except ε α} {as : List α} (h : ∀ a ∈ as, f a = .ok a) : as.mapM f = .ok as := by
  induction as with
  | nil => rfl
  | cons a as ih =>
    exact mapM_cons_eq_ok_iff.mpr
      ⟨a, as, h a List.mem_cons_self, ih fun b hb => h b (List.mem_cons_of_mem a hb), rfl⟩

/-- Going through a list ends well only if every item gives something. -/
theorem exists_ok_of_mapM {f : α → Except ε β} {as : List α} {bs : List β} (h : as.mapM f = .ok bs) {a : α}
    (ha : a ∈ as) : ∃ b, f a = .ok b := by
  induction as generalizing bs with
  | nil => exact absurd ha List.not_mem_nil
  | cons a' as ih =>
    obtain ⟨b, rest, hb, hrest, -⟩ := mapM_cons_eq_ok_iff.mp h
    rcases List.mem_cons.mp ha with rfl | ha
    · exact ⟨b, hb⟩
    · exact ih hrest ha

/-- What there is of a result is the result. -/
theorem eq_ok_of_toOption {x : Except ε α} {a : α} (h : x.toOption = some a) : x = .ok a := by
  cases x with
  | ok b => rw [Option.some.inj h]
  | error e => cases h

end MapExport
