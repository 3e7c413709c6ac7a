import Fluxrig.Registry.Alone
import Fluxrig.Registry.CallMoves
import Fluxrig.Registry.NameLedger

/-!
# Names stay unique under concurrent calls

Every call keeps the ledger of names at each of its operations, so it is kept
along every interleaving.  Once no call is in progress nothing is owed any
more, every record that carries a name holds its key, and names are unique.
-/

namespace Fluxrig.Registry

open Fluxrig.Core

/-- Every record that carries a name holds its name key. -/
def NamesAgree (reg : RegBucket) : Prop :=
  ∀ ref rec, recordOf reg ref = some rec → rec.name ≠ "" → holderOf reg rec.name = some ref

/-- No two Racks share a name, and the name of every record resolves to it. -/
def NamesUnique (reg : RegBucket) : Prop :=
  (∀ first second firstRecord secondRecord,
    recordOf reg ⟨typeRack, first⟩ = some firstRecord →
    recordOf reg ⟨typeRack, second⟩ = some secondRecord →
    firstRecord.name ≠ "" → firstRecord.name = secondRecord.name → first = second) ∧
  ∀ ref rec, recordOf reg ref = some rec → rec.name ≠ "" →
    ∀ inputs, ((resolveName rec.name).runAlone exec (reg, inputs)).1 = .ok rec

/-- What the calls in progress, other than `thread`, still have to settle. -/
def owedByOthers (cfg : Settings) (world : World) (thread : ℕ) (ref : NameRef)
    (name : String) : Prop :=
  (moving cfg).OthersOwe world thread (· = .name ref name)

/-- The event performs no harmful step. -/
def Harmless (cfg : Settings) : World → Event Call Input → Prop :=
  Config.EachOp fun world thread op =>
    ¬ Harmful (owedByOthers cfg world thread) world.state op

instance (cfg : Settings) (world : World) (thread : ℕ) (ref : NameRef)
    (name : String) : Decidable (owedByOthers cfg world thread ref name) :=
  inferInstanceAs (Decidable ((moving cfg).OthersOwe _ _ _))

instance (cfg : Settings) (world : World) (event : Event Call Input) :
    Decidable (Harmless cfg world event) :=
  inferInstanceAs (Decidable (Config.EachOp _ _ _))

/-- Every call follows the protocol and every name is held or owed. -/
def InAccount (cfg : Settings) (world : World) : Prop :=
  Protocol.Sound (fun _ => moving cfg) world ∧
    Accounted world.state fun ref name =>
      (moving cfg).Owes world (· = .name ref name)

lemma Accounted.mono {reg : RegBucket} {owed more : NameRef → String → Prop}
    (haccounted : Accounted reg owed)
    (hmore : ∀ ref name, owed ref name → more ref name) :
    Accounted reg more := by
  intro ref name hcarries hname
  exact (haccounted ref name hcarries hname).imp_right (hmore ref name)

lemma inAccount_next {cfg : Settings} {world : World} {event : Event Call Input}
    (hcall : ∀ self, event ≠ .start (.upsertSelf self))
    (hharmless : Harmless cfg world event)
    (haccount : InAccount cfg world) :
    InAccount cfg (world.next exec (Call.body cfg) event) := by
  obtain ⟨hsound, haccounted⟩ := haccount
  refine ⟨moving_sound_next hcall hsound, ?_⟩
  rcases Config.next_cases exec (Call.body cfg) world event with
    ⟨call, rfl, hnext⟩ | ⟨_, _, _, _, hnext⟩ |
      ⟨thread, input, call, op, rest, rfl, hthread, hnext⟩
  · apply haccounted.mono
    intro ref name howes
    exact Protocol.owes_start_iff.mpr (Or.inl howes)
  · rw [hnext]
    exact haccounted
  · rw [hnext]
    have hkeeps : Keeps op input world.state
        ((moving cfg).labelOf (rest (exec op input world.state).1)) :=
      keeps_of_moves (moves_of_sound hsound hthread input)
    have hop : ¬ Harmful (owedByOthers cfg world thread) world.state op := by
      apply hharmless op
      simp [Config.nextOp, hthread, Program.next?]
    have hbefore : Accounted world.state fun ref name =>
        op.debt = .name ref name ∨ owedByOthers cfg world thread ref name := by
      apply haccounted.mono
      intro ref name howes
      exact (Protocol.owes_iff hthread).mp howes
    apply (hkeeps _ hbefore hop).mono
    intro ref name howes
    exact (Protocol.owes_set_iff hthread).mpr howes

lemma namesUnique_of_namesAgree {reg : RegBucket}
    (hagree : NamesAgree reg) : NamesUnique reg := by
  constructor
  · intro first second firstRecord secondRecord hfirst hsecond hname hsame
    have hkey := hagree _ _ hfirst hname
    have hother := hagree _ _ hsecond (hsame ▸ hname)
    rw [← hsame, hkey, Option.some.injEq, NameRef.mk.injEq] at hother
    exact hother.2
  · intro ref rec hrecord hname inputs
    have hresolved : resolved reg rec.name = some rec :=
      resolved_eq_some_iff.mpr ⟨ref, hagree ref rec hrecord hname, hrecord, rfl⟩
    rw [resolveName_runAlone, resolution, hresolved]

/-- Rack 1 registers as "rack-a".  Then machine 2 adopts it by name, and while
the adoption is between its read of the old revision and its last delete, Rack 1
sends another Hello. -/
def collision : List (Event Call Input) :=
  .start (.register (sampleHello 1 "rack-a" "bootstrap")) :: sampleSteps 0 9 secretA ++
  [.start (.register (sampleHello 2 "rack-a" secretA)),
    .start (.register (sampleHello 1 "rack-a" secretA))] ++
  sampleSteps 1 5 secretA ++ sampleSteps 2 5 secretA ++ sampleSteps 1 7 secretA

def afterCollision : World :=
  Config.run exec (Call.body sampleSettings) ⟨Bucket.empty, []⟩ collision

theorem names_collide : (∀ self, .start (.upsertSelf self) ∉ collision) ∧
      afterCollision.Quiescent ∧ ¬ NamesUnique afterCollision.state := by
  have hfirst : nameOf afterCollision.state ⟨typeRack, 1⟩ = some "rack-a" := by
    decide +kernel
  have hsecond : nameOf afterCollision.state ⟨typeRack, 2⟩ = some "rack-a" := by
    decide +kernel
  obtain ⟨first, hrecord, hname⟩ := Option.map_eq_some_iff.mp hfirst
  obtain ⟨second, hother, hsame⟩ := Option.map_eq_some_iff.mp hsecond
  refine ⟨by simp [collision, sampleSteps], by decide +kernel, ?_⟩
  intro hunique
  have heq := hunique.1 1 2 first second hrecord hother (by simp [hname]) (hname.trans hsame.symm)
  exact absurd heq (by decide)

/-- Take a registry in which every named record holds its name key, and any
run of registrations, adoptions, approvals, removals and status updates from
there, interleaved operation by operation.  If no step of the run is harmful,
then in every state in which no call is in progress names are unique and every
named record is the one its name resolves to. -/
theorem namesUnique_of_harmless {cfg : Settings} {reg : RegBucket}
    (hagree : NamesAgree reg) {events : List (Event Call Input)}
    (hcalls : ∀ self, .start (.upsertSelf self) ∉ events)
    (hharmless : Config.EveryStep exec (Call.body cfg) (Harmless cfg) ⟨reg, []⟩ events)
    (hquiet : (Config.run exec (Call.body cfg) ⟨reg, []⟩ events).Quiescent) :
    NamesUnique (Config.run exec (Call.body cfg) ⟨reg, []⟩ events).state := by
  have hstart : InAccount cfg ⟨reg, []⟩ := by
    constructor
    · intro thread entry hentry
      simp at hentry
    · intro ref name hcarries hname
      obtain ⟨rec, hrecord, rfl⟩ := Option.map_eq_some_iff.mp hcarries
      exact Or.inl (hagree ref rec hrecord hname)
  obtain ⟨_, haccounted⟩ := Config.run_invariant exec (Call.body cfg)
    (fun world event hmem haccount hgood =>
      inAccount_next (fun self hevent => hcalls self (hevent ▸ hmem))
        hgood haccount) hstart hharmless
  apply namesUnique_of_namesAgree
  intro ref rec hrecord hname
  rcases haccounted ref rec.name (nameOf_of_recordOf hrecord) hname with hkey | howes
  · exact hkey
  · have hidle : Debt.clear = .name ref rec.name := Protocol.owed_idle_of_owes hquiet howes
    exact Debt.noConfusion hidle

/-- Two machines register under one name at once: the second loses the claim
and takes its record back. -/
def contest : List (Event Call Input) :=
  [.start (.register (sampleHello 1 "rack-a" "bootstrap")),
    .start (.register (sampleHello 2 "rack-a" "bootstrap"))] ++
  sampleSteps 0 6 secretA ++ sampleSteps 1 6 secretB ++ sampleSteps 0 3 secretA ++
  sampleSteps 1 4 secretB

theorem contest_unique : NamesUnique (Config.run exec (Call.body sampleSettings)
      ⟨Bucket.empty, []⟩ contest).state :=
  namesUnique_of_harmless (by simp [NamesAgree]) (by simp [contest, sampleSteps])
    (by decide +kernel) (by decide +kernel)

end Fluxrig.Registry
