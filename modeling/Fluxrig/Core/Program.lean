import Mathlib.Tactic

/-!
# Programs over atomic operations

A call of a concurrent component is a tree of atomic operations: it performs an
operation on the shared state, receives the reply, and continues.  The same
tree is executed in three ways below.  `runAlone` performs it without
interference, `crashPoints` lists every state at which it may be cut off, and
`Config.run` interleaves any number of such trees in any order.  What an
operation cannot know in advance (the clock, fresh randomness, the fate of a
transmission) is the `Input` of its step.
-/

namespace Fluxrig.Core

/-- A program that performs operations `Op`, with replies `Res`, and finally
returns an `A`. -/
inductive Program (Op : Type*) (Res : Op → Type*) (A : Type*) where
  | done (value : A)
  | perform (op : Op) (next : Res op → Program Op Res A)

namespace Program

universe u v

variable {Op : Type u} {Res : Op → Type v} {A B : Type v}

def bind (program : Program Op Res A) (next : A → Program Op Res B) : Program Op Res B :=
  match program with
  | done value => next value
  | perform op rest => perform op fun reply => (rest reply).bind next

instance : Monad (Program Op Res) where
  pure := done
  bind := bind

/-- The program made of one operation. -/
def request (op : Op) : Program Op Res (Res op) :=
  perform op done

@[simp]
lemma pure_eq (value : A) : (pure value : Program Op Res A) = done value := rfl

@[simp]
lemma done_bind (value : A) (next : A → Program Op Res B) :
    (done value >>= next) = next value := rfl

@[simp]
lemma perform_bind (op : Op) (rest : Res op → Program Op Res A) (next : A → Program Op Res B) :
    (perform op rest >>= next) = perform op fun reply => rest reply >>= next := rfl

@[simp]
lemma request_bind (op : Op) (next : Res op → Program Op Res B) :
    (request op >>= next) = perform op next := rfl

/-- The operation a program performs next. -/
def next? : Program Op Res A → Option Op
  | done _ => none
  | perform op _ => some op

/-- The value a finished program returned. -/
def result? : Program Op Res A → Option A
  | done value => some value
  | perform _ _ => none

/-- No path returns a `final` value unless it passes a milestone, which is an
operation together with its reply. -/
def Requires (milestone : (op : Op) → Res op → Prop) (final : A → Prop) : Program Op Res A → Prop
  | done value => ¬ final value
  | perform op next => ∀ reply, milestone op reply ∨ Requires milestone final (next reply)

lemma requires_never (milestone : (op : Op) → Res op → Prop)
    (program : Program Op Res A) : program.Requires milestone fun _ => False := by
  induction program with
  | done => exact id
  | perform _ _ ih => exact fun reply => Or.inr (ih reply)

lemma Requires.bind {milestone : (op : Op) → Res op → Prop}
    {reached : A → Prop} {final : B → Prop} {program : Program Op Res A}
    {next : A → Program Op Res B}
    (hprogram : program.Requires milestone reached)
    (hnext : ∀ value, ¬ reached value → (next value).Requires milestone final) :
    (program >>= next).Requires milestone final := by
  induction program with
  | done value => exact hnext value hprogram
  | perform _ _ ih =>
    intro reply
    exact (hprogram reply).imp_right fun hrest => ih reply hrest

section

variable {State Input : Type*}
variable (exec : (op : Op) → Input → State → Res op × State)

/-- Run to the end.  Step `n` consumes input `n`; the unused inputs are handed
on with the final state. -/
def runAlone : Program Op Res A → State × (ℕ → Input) → A × (State × (ℕ → Input))
  | done value, world => (value, world)
  | perform op next, world =>
      let reply := exec op (world.2 0) world.1
      runAlone (next reply.1) (reply.2, fun step => world.2 (step + 1))

/-- Every state at which a run can be cut off, the first and the last
included. -/
def crashPoints : Program Op Res A → State × (ℕ → Input) → List State
  | done _, world => [world.1]
  | perform op next, world =>
      let reply := exec op (world.2 0) world.1
      world.1 :: crashPoints (next reply.1) (reply.2, fun step => world.2 (step + 1))

@[simp]
lemma runAlone_done (value : A) (world : State × (ℕ → Input)) :
    (done value : Program Op Res A).runAlone exec world = (value, world) := rfl

@[simp]
lemma runAlone_perform (op : Op) (next : Res op → Program Op Res A)
    (world : State × (ℕ → Input)) :
    (perform op next).runAlone exec world = (next (exec op (world.2 0) world.1).1).runAlone exec
        ((exec op (world.2 0) world.1).2, fun step => world.2 (step + 1)) := rfl

@[simp]
lemma runAlone_bind (program : Program Op Res A)
    (next : A → Program Op Res B) (world : State × (ℕ → Input)) :
    (program >>= next).runAlone exec world = (next (program.runAlone exec world).1).runAlone exec
        (program.runAlone exec world).2 := by
  induction program generalizing world with
  | done => rfl
  | perform _ _ ih =>
    exact ih _ _

lemma mem_crashPoints_start (program : Program Op Res A) (world : State × (ℕ → Input)) :
    world.1 ∈ program.crashPoints exec world := by
  cases program with
  | done | perform => simp [crashPoints]

variable (allowed : Input → Prop)

/-- Whatever the inputs, as long as they are allowed, `post` holds of the
value, of the set of states passed through and of the final state.  `seen` is
the set of states passed through so far, the current one included. -/
def Alone : Program Op Res A → (A → Set State → State → Prop) → Set State → State → Prop
  | done value, post, seen, state => post value seen state
  | perform op next, post, seen, state =>
      ∀ input, allowed input → Alone (next (exec op input state).1) post
        (insert (exec op input state).2 seen) (exec op input state).2

variable {exec allowed}

variable {program : Program Op Res A} {seen : Set State} {state : State}

lemma Alone.bind {next : A → Program Op Res B} {post : B → Set State → State → Prop}
    (halone : program.Alone exec allowed
      (fun value => (next value).Alone exec allowed post) seen state) :
    (program >>= next).Alone exec allowed post seen state := by
  induction program generalizing seen state with
  | done => exact halone
  | perform _ _ ih =>
    intro input hallowed
    exact ih _ (halone input hallowed)

lemma Alone.mono {post weaker : A → Set State → State → Prop}
    (halone : program.Alone exec allowed post seen state)
    (hpost : ∀ value passed final, post value passed final →
      weaker value passed final) : program.Alone exec allowed weaker seen state := by
  induction program generalizing seen state with
  | done value => exact hpost value seen state halone
  | perform _ _ ih =>
    intro input hallowed
    exact ih _ (halone input hallowed)

/-- What holds of a program alone holds of its run and its crash points. -/
lemma Alone.runAlone {post : A → Set State → State → Prop}
    (halone : program.Alone exec allowed post seen state) (hseen : state ∈ seen)
    {inputs : ℕ → Input} (hallowed : ∀ step, allowed (inputs step)) :
    post (program.runAlone exec (state, inputs)).1
      (seen ∪ {point | point ∈ program.crashPoints exec (state, inputs)})
      (program.runAlone exec (state, inputs)).2.1 := by
  induction program generalizing seen state inputs with
  | done value =>
    have hunion : seen ∪ {point | point ∈
        (done value : Program Op Res A).crashPoints exec (state, inputs)} = seen := by
      apply Set.union_eq_left.mpr
      intro point hpoint
      have hstate : point = state := by simpa [crashPoints] using hpoint
      rw [hstate]
      exact hseen
    rw [hunion]
    exact halone
  | perform op next ih =>
    have hrest := ih _ (halone (inputs 0) (hallowed 0)) (Set.mem_insert _ _)
      (fun step => hallowed (step + 1))
    have hunion : seen ∪ {point | point ∈ (perform op next).crashPoints exec (state, inputs)} =
        insert (exec op (inputs 0) state).2 seen ∪ {point | point ∈
          (next (exec op (inputs 0) state).1).crashPoints exec
            ((exec op (inputs 0) state).2, fun step => inputs (step + 1))} := by
      have hstart := mem_crashPoints_start exec (next (exec op (inputs 0) state).1)
        ((exec op (inputs 0) state).2, fun step => inputs (step + 1))
      ext point
      simp only [crashPoints, List.mem_cons, Set.mem_union, Set.mem_ofPred_eq, Set.mem_insert_iff]
      constructor
      · rintro (hold | rfl | hlater)
        · exact Or.inl (Or.inr hold)
        · exact Or.inl (Or.inr hseen)
        · exact Or.inr hlater
      · rintro ((rfl | hold) | hlater)
        · exact Or.inr (Or.inr hstart)
        · exact Or.inl hold
        · exact Or.inr (Or.inr hlater)
    rw [hunion]
    exact hrest

end

end Program

/-- A call that begins, or one operation of a call in progress. -/
inductive Event (Call Input : Type*) where
  | start (call : Call)
  | step (thread : ℕ) (input : Input)

/-- The shared state and every call begun so far with what remains of it. -/
structure Config (Op : Type*) (Res : Op → Type*) (Out Call State : Type*) where
  state : State
  threads : List (Call × Program Op Res Out)

namespace Config

universe u v

variable {Op : Type u} {Res : Op → Type v} {Out : Type v}
variable {Call State Input : Type*}
variable (exec : (op : Op) → Input → State → Res op × State)
variable (body : Call → Program Op Res Out)

/-- Perform the next operation of a program, if it has one. -/
def advance (program : Program Op Res Out) (input : Input) (state : State) :
    Program Op Res Out × State :=
  match program with
  | .done value => (.done value, state)
  | .perform op next =>
      let reply := exec op input state
      (next reply.1, reply.2)

variable (config : Config Op Res Out Call State)

def next : Event Call Input → Config Op Res Out Call State
  | .start call => { config with threads := config.threads ++ [(call, body call)] }
  | .step thread input =>
      match config.threads[thread]? with
      | none => config
      | some (call, program) =>
          let moved := advance exec program input config.state
          { state := moved.2, threads := config.threads.set thread (call, moved.1) }

def run (events : List (Event Call Input)) : Config Op Res Out Call State :=
  events.foldl (next exec body) config

/-- No call is in progress: every call begun has returned. -/
def Quiescent : Prop :=
  ∀ thread ∈ config.threads, ∃ value, thread.2 = .done value

instance : Decidable config.Quiescent :=
  decidable_of_iff (∀ thread ∈ config.threads, thread.2.result?.isSome) <| by
    apply forall₂_congr
    intro thread _
    cases thread.2 <;> simp [Program.result?]

/-- The operation thread `thread` performs next. -/
def nextOp (thread : ℕ) : Option Op :=
  config.threads[thread]?.bind fun entry => entry.2.next?

variable {config : Config Op Res Out Call State} {thread : ℕ}
  {good : Config Op Res Out Call State → Event Call Input → Prop}
  {events : List (Event Call Input)} {Entry : Type*} {entry : Entry}
  {emit : Config Op Res Out Call State → Event Call Input → Option Entry}

lemma exists_perform_of_nextOp {op : Op} (hop : config.nextOp thread = some op) :
    ∃ call rest, config.threads[thread]? = some (call, .perform op rest) := by
  obtain ⟨⟨call, program⟩, hthread, hnext⟩ := Option.bind_eq_some_iff.mp hop
  cases program with
  | done => exact absurd hnext.symm (Option.some_ne_none op)
  | perform _ rest =>
    cases hnext
    exact ⟨call, rest, hthread⟩

/-- A property of every step of a run, judged in the state before the step. -/
def EveryStep (good : Config Op Res Out Call State → Event Call Input → Prop) :
    Config Op Res Out Call State → List (Event Call Input) → Prop
  | _, [] => True
  | config, event :: events =>
      good config event ∧ EveryStep good (next exec body config event) events

instance decidableEveryStep
    {good : Config Op Res Out Call State → Event Call Input → Prop}
    [∀ config event, Decidable (good config event)] :
    ∀ (config : Config Op Res Out Call State) (events : List (Event Call Input)),
      Decidable (EveryStep exec body good config events)
  | _, [] => isTrue trivial
  | config, event :: events =>
    @instDecidableAnd _ _ _ (decidableEveryStep (next exec body config event) events)

lemma everyStep_of_mem (hgood : ∀ config, ∀ event ∈ events, good config event)
    (config : Config Op Res Out Call State) : EveryStep exec body good config events := by
  induction events generalizing config with
  | nil => trivial
  | cons event _ ih =>
    exact ⟨hgood config event List.mem_cons_self, ih (fun config later hlater =>
      hgood config later (List.mem_cons_of_mem event hlater)) _⟩

/-- A property of single operations, as a property of events. -/
def EachOp (good : Config Op Res Out Call State → ℕ → Op → Prop)
    (config : Config Op Res Out Call State) : Event Call Input → Prop
  | .start _ => True
  | .step thread _ => ∀ op, config.nextOp thread = some op → good config thread op

instance {good : Config Op Res Out Call State → ℕ → Op → Prop}
    [∀ config thread op, Decidable (good config thread op)]
    (config : Config Op Res Out Call State) :
    ∀ event : Event Call Input, Decidable (EachOp good config event)
  | .start _ => isTrue trivial
  | .step thread _ =>
    match hop : config.nextOp thread with
    | none => isTrue fun _ hnext => by simp [hop] at hnext
    | some op => decidable_of_iff (good config thread op) (by simp [EachOp, hop])

@[simp]
lemma run_nil (config : Config Op Res Out Call State) :
    config.run exec body ([] : List (Event Call Input)) = config := rfl

@[simp]
lemma run_cons (config : Config Op Res Out Call State)
    (event : Event Call Input) (events : List (Event Call Input)) :
    config.run exec body (event :: events) =
      (config.next exec body event).run exec body events := rfl

lemma run_append (config : Config Op Res Out Call State) (front back : List (Event Call Input)) :
    config.run exec body (front ++ back) = (config.run exec body front).run exec body back :=
  List.foldl_append ..

lemma everyStep_append {front back : List (Event Call Input)}
    (hgood : EveryStep exec body good config (front ++ back)) :
    EveryStep exec body good config front ∧
      EveryStep exec body good (config.run exec body front) back := by
  induction front generalizing config with
  | nil => exact ⟨trivial, hgood⟩
  | cons _ _ ih => exact ⟨⟨hgood.1, (ih hgood.2).1⟩, (ih hgood.2).2⟩

/-- One event either begins a call, does nothing, or performs exactly one
operation of one thread. -/
lemma next_cases (config : Config Op Res Out Call State) (event : Event Call Input) :
    (∃ call, event = .start call ∧ config.next exec body event =
        { config with threads := config.threads ++ [(call, body call)] }) ∨
    (∃ thread input, event = .step thread input ∧ config.nextOp thread = none ∧
      config.next exec body event = config) ∨
    (∃ thread input call op rest, event = .step thread input ∧
      config.threads[thread]? = some (call, .perform op rest) ∧
      config.next exec body event =
        { state := (exec op input config.state).2,
          threads := config.threads.set thread
            (call, rest (exec op input config.state).1) }) := by
  cases event with
  | start call => exact Or.inl ⟨call, rfl, rfl⟩
  | step thread input =>
    cases hthread : config.threads[thread]? with
    | none =>
      refine Or.inr (Or.inl ⟨thread, input, rfl, ?_, ?_⟩)
      · simp [nextOp, hthread]
      · simp [next, hthread]
    | some entry =>
      obtain ⟨call, program⟩ := entry
      cases program with
      | done value =>
        have hset : config.threads.set thread (call, .done value) = config.threads := by
          obtain ⟨hlt, hget⟩ := List.getElem?_eq_some_iff.mp hthread
          rw [← hget]
          exact List.set_getElem_self hlt
        refine Or.inr (Or.inl ⟨thread, input, rfl, ?_, ?_⟩)
        · simp [nextOp, hthread, Program.next?]
        · simp [next, hthread, advance, hset]
      | perform op rest =>
        refine Or.inr (Or.inr ⟨thread, input, call, op, rest, rfl, hthread, ?_⟩)
        simp [next, hthread, advance]

/-- The threads after a call has begun: the old ones and the new one. -/
lemma getElem?_concat {threads : List Entry} {newest : Entry}
    (hentry : (threads ++ [newest])[thread]? = some entry) :
    threads[thread]? = some entry ∨ (thread = threads.length ∧ entry = newest) := by
  rw [List.getElem?_append] at hentry
  split at hentry
  · exact Or.inl hentry
  next hge =>
    obtain ⟨hzero, hget⟩ := List.getElem?_eq_some_iff.mp hentry
    have hindex : thread = threads.length := by
      simp only [List.length_cons, List.length_nil] at hzero
      omega
    subst hindex
    exact Or.inr ⟨rfl, by simpa using hget.symm⟩

/-- The threads after one of them has moved: that one and the old ones. -/
lemma getElem?_set_cases {threads : List Entry} {moved : Entry} {place : ℕ}
    (hentry : (threads.set place moved)[thread]? = some entry) :
    (thread = place ∧ entry = moved) ∨ (thread ≠ place ∧ threads[thread]? = some entry) := by
  by_cases hplace : place = thread
  · subst hplace
    rw [List.getElem?_set_self'] at hentry
    obtain ⟨_, _, hmoved⟩ := Option.map_eq_some_iff.mp hentry
    exact Or.inl ⟨rfl, hmoved.symm⟩
  · rw [List.getElem?_set_ne hplace] at hentry
    exact Or.inr ⟨Ne.symm hplace, hentry⟩

/-- An invariant of single events is an invariant of runs. -/
lemma run_invariant {good : Config Op Res Out Call State → Event Call Input → Prop}
    {invariant : Config Op Res Out Call State → Prop}
    {config : Config Op Res Out Call State} {events : List (Event Call Input)}
    (hnext : ∀ config, ∀ event ∈ events, invariant config → good config event →
      invariant (config.next exec body event))
    (hinit : invariant config)
    (hgood : EveryStep exec body good config events) :
    invariant (config.run exec body events) := by
  induction events generalizing config with
  | nil => exact hinit
  | cons event _ ih =>
    apply ih
    · intro config later hlater
      exact hnext config later (List.mem_cons_of_mem event hlater)
    · exact hnext config event List.mem_cons_self hinit hgood.1
    · exact hgood.2

/-- What an observer of single events writes down along a run. -/
def emitted {Entry : Type*}
    (emit : Config Op Res Out Call State → Event Call Input → Option Entry) :
    Config Op Res Out Call State → List (Event Call Input) → List Entry
  | _, [] => []
  | config, event :: events =>
      (emit config event).toList ++ emitted emit (next exec body config event) events

lemma emitted_append (config : Config Op Res Out Call State)
    (front back : List (Event Call Input)) :
    emitted exec body emit config (front ++ back) = emitted exec body emit config front ++
        emitted exec body emit (config.run exec body front) back := by
  induction front generalizing config with
  | nil => rfl
  | cons _ _ ih =>
    rw [List.cons_append, emitted, emitted, ih, List.append_assoc, run_cons]

/-- An invariant of single events and the log so far. -/
lemma run_invariant_log {invariant : List Entry → Config Op Res Out Call State → Prop}
    {log : List Entry} (hnext : ∀ log config, ∀ event ∈ events, invariant log config →
      good config event → invariant (log ++ (emit config event).toList)
        (config.next exec body event)) (hinit : invariant log config)
    (hgood : EveryStep exec body good config events) :
    invariant (log ++ emitted exec body emit config events) (config.run exec body events) := by
  induction events generalizing log config with
  | nil =>
    rw [emitted, List.append_nil]
    exact hinit
  | cons event _ ih =>
    rw [emitted, ← List.append_assoc]
    apply ih
    · intro log config later hlater
      exact hnext log config later (List.mem_cons_of_mem event hlater)
    · exact hnext log config event List.mem_cons_self hinit hgood.1
    · exact hgood.2

/-- One step of `thread` at a milestone: an operation and its reply. -/
def Reaches (milestone : (op : Op) → Res op → Prop)
    (config : Config Op Res Out Call State) (thread : ℕ)
    (events : List (Event Call Input)) : Prop :=
  ∃ front input back op, events = front ++ .step thread input :: back ∧
    (config.run exec body front).nextOp thread = some op ∧
      milestone op (exec op input (config.run exec body front).state).1

lemma Reaches.cons {milestone : (op : Op) → Res op → Prop}
    {config : Config Op Res Out Call State} {thread : ℕ}
    {event : Event Call Input} {events : List (Event Call Input)}
    (hreaches : Reaches exec body milestone (config.next exec body event) thread events) :
    Reaches exec body milestone config thread (event :: events) := by
  obtain ⟨front, input, back, op, rfl, hop, hmilestone⟩ := hreaches
  exact ⟨event :: front, input, back, op, rfl, hop, hmilestone⟩

/-- A thread that has returned a `final` value has passed every milestone on the
way to it. -/
lemma reaches_of_done {milestone : (op : Op) → Res op → Prop} {final : Out → Prop}
    {call : Call} {value : Out} (hbody : (body call).Requires milestone final)
    (hthread : ∀ program, config.threads[thread]? = some (call, program) →
      program.Requires milestone final)
    (hdone : (config.run exec body events).threads[thread]? =
      some (call, .done value)) (hfinal : final value) :
    Reaches exec body milestone config thread events := by
  induction events generalizing config with
  | nil => exact absurd hfinal (hthread _ hdone)
  | cons event events ih =>
    rcases next_cases exec body config event with ⟨started, _, hnext⟩ | ⟨_, _, _, _, hnext⟩ |
        ⟨moved, input, owner, op, rest, rfl, hmoved, hnext⟩
    · apply Reaches.cons
      apply ih _ hdone
      intro program hprogram
      rw [hnext] at hprogram
      rcases getElem?_concat hprogram with hold | ⟨_, hnew⟩
      · exact hthread program hold
      · cases hnew
        exact hbody
    · apply Reaches.cons
      apply ih _ hdone
      rw [hnext]
      exact hthread
    · by_cases hself : moved = thread
      · subst hself
        have hlt : moved < config.threads.length := (List.getElem?_eq_some_iff.mp hmoved).1
        have hafter : ∀ program, (config.next exec body (.step moved input)).threads[moved]? =
              some (call, program) →
            owner = call ∧ program = rest (exec op input config.state).1 := by
          intro program hprogram
          rw [hnext, List.getElem?_set_self hlt, Option.some.injEq, Prod.mk.injEq] at hprogram
          exact ⟨hprogram.1, hprogram.2.symm⟩
        by_cases hmilestone : owner = call ∧ milestone op (exec op input config.state).1
        · have hop : config.nextOp moved = some op := by
            simp [nextOp, hmoved, Program.next?]
          exact ⟨[], input, events, op, rfl, hop, hmilestone.2⟩
        · apply Reaches.cons
          apply ih _ hdone
          intro program hprogram
          obtain ⟨rfl, rfl⟩ := hafter program hprogram
          rcases hthread _ hmoved (exec op input config.state).1 with hpassed | hrest
          · exact absurd ⟨rfl, hpassed⟩ hmilestone
          · exact hrest
      · apply Reaches.cons
        apply ih _ hdone
        intro program hprogram
        rw [hnext, List.getElem?_set_ne hself] at hprogram
        exact hthread program hprogram

end Config

end Fluxrig.Core
