import Fluxrig.Core.Program

/-!
# Rely-guarantee protocols for interleaved programs

Each operation of a program carries a label, which says what the program owes
to the others while that operation is still ahead of it.  A protocol fixes how
other threads may change the shared state between two operations (`rely`), what
may be assumed of an operation's input and of the state in which it is performed
(`assume`), and what the operation must establish about the state and the label
that follows it (`guarantee`).  `Holds` states that a program follows the
protocol from a given state on, under any interference the rely allows.

Every thread of an interleaving follows a protocol of its own.  If what each of
them guarantees is an interference that all the others allow, then all of them
keep following theirs along every run.
-/

namespace Fluxrig.Core

universe u v

/-- The rules one thread follows. -/
structure Protocol {Op : Type u} {Res : Op → Type v} {State Input : Type*}
    (exec : (op : Op) → Input → State → Res op × State) (Label : Type*) where
  label : Op → Label
  idle : Label
  assume : Op → Input → State → Prop
  rely : State → State → Prop
  guarantee : Op → Input → State → Label → Prop
  rely_refl : ∀ state, rely state state
  rely_trans : ∀ {first second third}, rely first second → rely second third → rely first third

namespace Protocol

variable {Op : Type u} {Res : Op → Type v} {State Input Label : Type*}
variable {exec : (op : Op) → Input → State → Res op × State}
variable (rules : Protocol exec Label)
variable {A B : Type v}

/-- The program follows the protocol from `state` on, its next operation being
labelled `label`, and ends in `post`. -/
def Holds : Program Op Res A → (A → Label → State → Prop) → Label → State → Prop
  | .done value, post, label, state => post value label state
  | .perform op next, post, label, state =>
      rules.label op = label ∧
        ∀ current, rules.rely state current →
          ∀ input, rules.assume op input current →
            ∃ after, rules.guarantee op input current after ∧
              Holds (next (exec op input current).1) post after (exec op input current).2

/-- What remains of a thread owes nothing once it has returned. -/
def labelOf : Program Op Res A → Label
  | .done _ => rules.idle
  | .perform op _ => rules.label op

/-- A whole call: it follows the protocol and ends idle. -/
def Follows (program : Program Op Res A) (state : State) : Prop :=
  rules.Holds program (fun _ label _ => label = rules.idle) (rules.labelOf program) state

variable {rules}

variable {state : State}

lemma Holds.perform {op : Op} {next : Res op → Program Op Res A} {post : A → Label → State → Prop}
    (hstep : ∀ current, rules.rely state current → ∀ input, rules.assume op input current →
      ∃ after, rules.guarantee op input current after ∧
        rules.Holds (next (exec op input current).1) post after (exec op input current).2) :
    rules.Holds (.perform op next) post (rules.label op) state :=
  ⟨rfl, hstep⟩

variable {label : Label}

lemma Holds.weaken {program : Program Op Res A} {post weaker : A → Label → State → Prop}
    (hholds : rules.Holds program post label state)
    (hpost : ∀ value after final, post value after final → weaker value after final) :
    rules.Holds program weaker label state := by
  induction program generalizing label state with
  | done value => exact hpost value label state hholds
  | perform _ _ ih =>
    refine ⟨hholds.1, fun current hrely input hassume => ?_⟩
    obtain ⟨after, hguarantee, hrest⟩ := hholds.2 current hrely input hassume
    exact ⟨after, hguarantee, ih _ hrest⟩

/-- Sequential composition: the second program starts where the first ends. -/
lemma Holds.bind {program : Program Op Res A} {next : A → Program Op Res B}
    {post : B → Label → State → Prop}
    (hholds : rules.Holds program
      (fun value after final => rules.Holds (next value) post after final)
      label state) :
    rules.Holds (program >>= next) post label state := by
  induction program generalizing label state with
  | done => exact hholds
  | perform _ _ ih =>
    refine ⟨hholds.1, fun current hrely input hassume => ?_⟩
    obtain ⟨after, hguarantee, hrest⟩ := hholds.2 current hrely input hassume
    exact ⟨after, hguarantee, ih _ hrest⟩

/-- Interference between two operations does no harm. -/
lemma Holds.interfere {program : Program Op Res A}
    {post : A → Label → State → Prop} {later : State}
    (hstable : ∀ value after {first second}, rules.rely first second →
      post value after first → post value after second)
    (hholds : rules.Holds program post label state)
    (hrely : rules.rely state later) :
    rules.Holds program post label later := by
  cases program with
  | done value => exact hstable value label hrely hholds
  | perform =>
    exact ⟨hholds.1, fun current hcurrent input hassume =>
      hholds.2 current (rules.rely_trans hrely hcurrent) input hassume⟩

lemma Follows.interfere {program : Program Op Res A} {later : State}
    (hfollows : rules.Follows program state) (hrely : rules.rely state later) :
    rules.Follows program later :=
  Holds.interfere (fun _ _ _ _ _ hidle => hidle) hfollows hrely

/-- The label a call has reached is the label of its next operation. -/
lemma follows_of_holds {program : Program Op Res A}
    (hholds : rules.Holds program (fun _ after _ => after = rules.idle) label state) :
    rules.labelOf program = label ∧ rules.Follows program state := by
  cases program with
  | done =>
    have hlabel : label = rules.idle := hholds
    exact ⟨hlabel.symm, rfl⟩
  | perform op =>
    have hlabel : rules.label op = label := hholds.1
    subst hlabel
    exact ⟨rfl, hholds⟩

/-- One operation of a call that follows the protocol. -/
lemma Follows.step {op : Op} {next : Res op → Program Op Res A}
    (hfollows : rules.Follows (.perform op next) state)
    {input : Input} (hassume : rules.assume op input state) :
    rules.guarantee op input state (rules.labelOf (next (exec op input state).1)) ∧
      rules.Follows (next (exec op input state).1) (exec op input state).2 := by
  obtain ⟨after, hguarantee, hrest⟩ := hfollows.2 state (rules.rely_refl state) input hassume
  obtain ⟨hlabel, hnext⟩ := follows_of_holds hrest
  exact ⟨hlabel ▸ hguarantee, hnext⟩

section

variable {Call : Type*} {Out : Type v}
variable {team : ℕ → Protocol exec Label}

/-- What one thread guarantees, every other relies on. -/
def Compatible (team : ℕ → Protocol exec Label) : Prop :=
  ∀ first second, first ≠ second → ∀ op input state after,
    (team first).guarantee op input state after → (team second).rely state (exec op input state).2

/-- Every call begun so far follows the protocol of its thread. -/
def Sound (team : ℕ → Protocol exec Label) (config : Config Op Res Out Call State) : Prop :=
  ∀ thread entry, config.threads[thread]? = some entry →
    (team thread).Follows entry.2 config.state

variable {config : Config Op Res Out Call State}

lemma Sound.step (hcompatible : Compatible team) (hsound : Sound team config)
    {thread : ℕ} {call : Call} {op : Op} {next : Res op → Program Op Res Out}
    (hthread : config.threads[thread]? = some (call, .perform op next))
    {input : Input} (hassume : (team thread).assume op input config.state) :
    (team thread).guarantee op input config.state
        ((team thread).labelOf (next (exec op input config.state).1)) ∧
      Sound team
        { state := (exec op input config.state).2,
          threads := config.threads.set thread (call, next (exec op input config.state).1) } := by
  obtain ⟨hguarantee, hnext⟩ := (hsound thread _ hthread).step hassume
  refine ⟨hguarantee, fun other entry hentry => ?_⟩
  rcases Config.getElem?_set_cases hentry with ⟨rfl, rfl⟩ | ⟨hother, hold⟩
  · exact hnext
  · exact (hsound other entry hold).interfere
      (hcompatible thread other (Ne.symm hother) op input _ _ hguarantee)

/-- Every interleaving of calls that follow their protocols is sound. -/
lemma Sound.next (hcompatible : Compatible team) {body : Call → Program Op Res Out}
    {event : Event Call Input}
    (hbody : ∀ call, event = .start call →
      (team config.threads.length).Follows (body call) config.state)
    (hassume : ∀ thread input op, event = .step thread input → config.nextOp thread = some op →
        (team thread).assume op input config.state)
    (hsound : Sound team config) :
    Sound team (config.next exec body event) := by
  rcases Config.next_cases exec body config event with
    ⟨call, hevent, hnext⟩ | ⟨_, _, _, _, hnext⟩ |
      ⟨thread, input, call, op, rest, hevent, hthread, hnext⟩
  · rw [hnext]
    intro thread entry hentry
    rcases Config.getElem?_concat hentry with hold | ⟨rfl, hnew⟩
    · exact hsound thread entry hold
    · rw [hnew]
      exact hbody call hevent
  · rw [hnext]
    exact hsound
  · rw [hnext]
    have hop : config.nextOp thread = some op := by
      simp [Config.nextOp, hthread, Program.next?]
    exact (hsound.step hcompatible hthread (hassume thread input op hevent hop)).2

end

variable {Call : Type*} {Out : Type v}
variable (rules)

/-- Some call in progress is at a label of this kind. -/
def Owes (config : Config Op Res Out Call State) (owed : Label → Prop) : Prop :=
  ∃ entry ∈ config.threads, owed (rules.labelOf entry.2)

/-- Some call other than `thread` is. -/
def OthersOwe (config : Config Op Res Out Call State) (thread : ℕ) (owed : Label → Prop) : Prop :=
  ∃ other entry, other ≠ thread ∧ config.threads[other]? = some entry ∧
    owed (rules.labelOf entry.2)

instance (config : Config Op Res Out Call State) (thread : ℕ)
    (owed : Label → Prop) [DecidablePred owed] :
    Decidable (rules.OthersOwe config thread owed) :=
  decidable_of_iff (∃ entry ∈ config.threads.eraseIdx thread, owed (rules.labelOf entry.2)) <| by
    simp only [List.mem_eraseIdx_iff_getElem?, OthersOwe]
    constructor
    · rintro ⟨entry, ⟨other, hother, hget⟩, howed⟩
      exact ⟨other, entry, hother, hget, howed⟩
    · rintro ⟨other, entry, hother, hget, howed⟩
      exact ⟨entry, ⟨other, hother, hget⟩, howed⟩

variable {rules} {owed : Label → Prop}

variable {config : Config Op Res Out Call State} {thread : ℕ} {entry : Call × Program Op Res Out}

lemma owes_iff (hthread : config.threads[thread]? = some entry) : rules.Owes config owed ↔
      owed (rules.labelOf entry.2) ∨ rules.OthersOwe config thread owed := by
  constructor
  · rintro ⟨owing, hmem, howed⟩
    obtain ⟨other, hother⟩ := List.getElem?_of_mem hmem
    by_cases hsame : other = thread
    · rw [hsame, hthread, Option.some.injEq] at hother
      rw [hother]
      exact Or.inl howed
    · exact Or.inr ⟨other, owing, hsame, hother, howed⟩
  · rintro (howed | ⟨other, owing, _, hother, howed⟩)
    · exact ⟨entry, List.mem_of_getElem? hthread, howed⟩
    · exact ⟨owing, List.mem_of_getElem? hother, howed⟩

variable {moved : Call × Program Op Res Out}

/-- After a step of `thread`, what is owed is what it owes now and what the
others owed before. -/
lemma owes_set_iff (hthread : config.threads[thread]? = some entry) :
    rules.Owes { state := state, threads := config.threads.set thread moved } owed ↔
      owed (rules.labelOf moved.2) ∨ rules.OthersOwe config thread owed := by
  have hlt : thread < config.threads.length := (List.getElem?_eq_some_iff.mp hthread).1
  rw [owes_iff (List.getElem?_set_self hlt)]
  apply or_congr Iff.rfl
  constructor
  · rintro ⟨other, owing, hother, hget, howed⟩
    rw [List.getElem?_set_ne (Ne.symm hother)] at hget
    exact ⟨other, owing, hother, hget, howed⟩
  · rintro ⟨other, owing, hother, hget, howed⟩
    refine ⟨other, owing, hother, ?_, howed⟩
    rw [List.getElem?_set_ne (Ne.symm hother)]
    exact hget

lemma owes_start_iff {call : Call} {program : Program Op Res Out} :
    rules.Owes { config with threads := config.threads ++ [(call, program)] } owed ↔
      rules.Owes config owed ∨ owed (rules.labelOf program) := by
  constructor
  · rintro ⟨entry, hentry, howed⟩
    rcases List.mem_append.mp hentry with hold | hnew
    · exact Or.inl ⟨entry, hold, howed⟩
    · rw [List.mem_singleton.mp hnew] at howed
      exact Or.inr howed
  · rintro (⟨entry, hentry, howed⟩ | howed)
    · exact ⟨entry, List.mem_append_left _ hentry, howed⟩
    · exact ⟨(call, program), by simp, howed⟩

variable (rules) in
/-- The number of calls in progress at a label of this kind. -/
def owing (config : Config Op Res Out Call State) (owed : Label → Bool) : ℕ :=
  config.threads.countP fun entry => owed (rules.labelOf entry.2)

variable {counted : Label → Bool}

/-- A step of one thread replaces what that thread owes. -/
lemma owing_set (hthread : config.threads[thread]? = some entry) :
    rules.owing { state := state, threads := config.threads.set thread moved } counted +
        (counted (rules.labelOf entry.2)).toNat =
      rules.owing config counted + (counted (rules.labelOf moved.2)).toNat := by
  obtain ⟨hlt, hget⟩ := List.getElem?_eq_some_iff.mp hthread
  have hcount := List.countP_set (p := fun entry => counted (rules.labelOf entry.2))
    (a := moved) hlt
  rw [hget] at hcount
  have hpos : counted (rules.labelOf entry.2) = true → 0 < rules.owing config counted := by
    intro howed
    exact List.countP_pos_iff.mpr ⟨entry, List.mem_of_getElem? hthread, howed⟩
  simp only [owing] at hpos ⊢
  rw [hcount]
  cases hold : counted (rules.labelOf entry.2) with
  | false => cases counted (rules.labelOf moved.2) <;> simp
  | true =>
    have hone := hpos hold
    cases counted (rules.labelOf moved.2) <;> simp <;> omega

lemma owing_start {call : Call} {program : Program Op Res Out} :
    rules.owing { config with threads := config.threads ++ [(call, program)] } counted =
      rules.owing config counted + (counted (rules.labelOf program)).toNat := by
  rw [owing, owing]
  cases hcounted : counted (rules.labelOf program) <;> simp [hcounted]

/-- Once every call has returned, all of them are idle. -/
lemma owed_idle_of_owes (hquiet : config.Quiescent) (howes : rules.Owes config owed) :
    owed rules.idle := by
  obtain ⟨entry, hentry, howed⟩ := howes
  obtain ⟨value, hdone⟩ := hquiet entry hentry
  rw [hdone] at howed
  exact howed

end Protocol

end Fluxrig.Core
