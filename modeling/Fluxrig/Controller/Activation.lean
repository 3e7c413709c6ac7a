import Fluxrig.Controller.Topology
import Fluxrig.Core.Timeline
import Fluxrig.Message.Runes
import Fluxrig.Sdl.When

/-!
# Activation of a scenario

`Activate` loads and checks a scenario, replaces the rows of the topology, moves the
stored pointer, sets the scenario in memory and pushes it to the Racks.  Each of these can
fail, and nothing that was changed before is taken back.  A failed activation keeps the
topology, the pointer and the memory only if it fails before the rows are cleared, or if
there was nothing to clear and nothing was written.
-/

namespace Fluxrig.Controller

open Fluxrig.Core Message

/-- `strings.ReplaceAll(name, "..", "")`. -/
def removeDoubleDots : Text → Text
  | 46 :: 46 :: rest => removeDoubleDots rest
  | byte :: rest => byte :: removeDoubleDots rest
  | [] => []

/-- The class `[a-zA-Z0-9\-_]`. -/
def isSafeByte (byte : UInt8) : Bool :=
  (97 ≤ byte && byte ≤ 122) || (65 ≤ byte && byte ≤ 90) || (48 ≤ byte && byte ≤ 57) ||
    byte = 45 || byte = 95

/-- A rune outside the class becomes one underscore. -/
def safeRune : Option Text → UInt8
  | some [byte] => if isSafeByte byte then byte else 95
  | _ => 95

def sanitizeName (name : Text) : Text :=
  let flat := (removeDoubleDots name).map fun byte => if byte = 47 ∨ byte = 92 then 95 else byte
  let restricted := (runes flat).map safeRune
  let edge := fun byte : UInt8 => byte = 95 ∨ byte = 45
  let trimmed := (restricted.dropWhile edge).rdropWhile edge
  if trimmed = [] then utf8 "unnamed" else trimmed

/-- The stored pointer. -/
structure ActiveScenario where
  name : Text
  version : Text
  content : Text
  deriving DecidableEq

/-- What `Activate` reads and writes: the scenario files, the pointer, the table of
entities and the scenario in memory. -/
structure Stores where
  files : Text → Option Text
  pointer : Option ActiveScenario
  topology : List Row
  active : Option Active

/-- The YAML library. -/
structure Yaml where
  unmarshal : Text → Except Text Scenario
  marshal : Scenario → Except Text Text

/-- How the controller was built: with a topology store and an identity generator, with a
directory of Racks, with a bus.  A topology store never comes without a directory. -/
structure Setup where
  mixerID : BitVec 128
  hasStore : Bool
  hasRacks : Bool
  hasBus : Bool
  racksOfStore : hasStore = true → hasRacks = true

section

variable (setup : Setup) (yaml : Yaml) (quote : Text → Text) (answers : Answers)

/-- The error for one gear, if it has one.  `quote` is the verb `%q`. -/
def targetProblem (sc : Scenario) (gear : GearSpec) : Option Text :=
  match gear.deployName with
  | none => none
  | some target =>
      if target ≠ [] ∧ target ∈ answers.activeRacks then none
      else if target ≠ [] ∧ target ∈ sc.racks.map (·.group) then
        some (utf8 "gear " ++ gear.name ++ utf8 " deploys to group " ++ quote target ++
          utf8 ": deploy target names a Rack group, which cannot be matched against " ++
          utf8 "active Racks yet")
      else
        some (utf8 "gear " ++ gear.name ++ utf8 " deploys to unknown or inactive target '" ++
          target ++ utf8 "'")

/-- The error of the check, if it fails. -/
def validateDeployTargets (sc : Scenario) : Option Text :=
  if setup.hasRacks then
    match answers.error .listRacks with
    | some failure => some (utf8 "failed to list active racks: " ++ failure)
    | none => sc.gears.findSome? (targetProblem quote answers sc)
  else none

/-- The part of `Activate` that changes nothing: the scenario is loaded, parsed and its
targets are checked. -/
def loadScenario (stores : Stores) (safeName : Text) : Except Text Scenario :=
  match answers.error .getScenario with
  | some failure =>
      .error (utf8 "failed to load scenario " ++ safeName ++ utf8 ": " ++ failure)
  | none =>
      match stores.files safeName with
      | none => .error (utf8 "scenario not found: " ++ safeName)
      | some content =>
          match yaml.unmarshal content with
          | .error failure => .error (utf8 "failed to parse scenario: " ++ failure)
          | .ok sc =>
              match validateDeployTargets setup quote answers sc with
              | some failure =>
                  .error (utf8 "deploy target validation failed: " ++ failure)
              | none => .ok sc

/-- The rows of the scenario take the place of those in the table, on an activation or,
`restoring`, at the start of the Mixer. -/
def replaceEntities (restoring : Bool) (sc : Scenario) (topology : List Row) :
    List Row × Except Text Scenario :=
  if setup.hasStore then
    match answers.error .clearScenarioEntities with
    | some failure =>
        let entities := if restoring then utf8 "scenario" else utf8 "existing scenario"
        (topology, .error (utf8 "failed to clear " ++ entities ++ utf8 " entities: " ++ failure))
    | none =>
        match registerScenarioEntities answers setup.mixerID restoring sc
          (clearScenarioEntities topology) with
        | (table, .error failure) =>
            (table, .error (utf8 "failed to register scenario entities: " ++ failure))
        | (table, .ok registered) => (table, .ok registered)
  else (topology, .ok sc)

/-- `pushScenarioToRacks` to all targets: its error, if none of them is reached. -/
def pushScenarioToRacks (sc : Scenario) : Option Text :=
  let targets := pushTargets sc (if setup.hasRacks then answers.listed else []) []
  if targets ≠ [] ∧ targets.filter answers.reaches = [] then
    some (utf8 "reached no target rack: " ++ Sdl.decimal targets.length ++
      utf8 " target rack(s): [" ++ [32].intercalate targets ++ utf8 "]")
  else none

/-- A `SetActive` that fails has not moved the pointer. -/
def Answers.Truthful : Prop := answers.error .setActive ≠ none → answers.answerLost = false

/-- `SetActive` moves the pointer. -/
def Answers.MovesPointer : Prop := answers.error .setActive = none ∨ answers.answerLost = true

instance : Decidable answers.MovesPointer := inferInstanceAs (Decidable (_ ∨ _))

variable (stores : Stores)

def setActive (pointer : ActiveScenario) : Stores :=
  { stores with pointer := if answers.MovesPointer then some pointer else stores.pointer }

/-- The last part of `Activate`, with the scenario as it was registered: the pointer is
moved, the scenario set in memory and pushed. -/
def commitScenario (safeName : Text) (registered : Scenario) : Stores × Option Text :=
  match yaml.marshal registered with
  | .error failure =>
      (stores, some (utf8 "failed to encode the registered scenario: " ++ failure))
  | .ok content =>
      let moved := setActive answers stores ⟨safeName, registered.version, content⟩
      match answers.error .setActive with
      | some failure =>
          (moved, some (utf8 "failed to move the active scenario pointer: " ++ failure))
      | none =>
          let activated := { moved with active := some ⟨registered, content⟩ }
          match setup.hasBus, pushScenarioToRacks setup answers registered with
          | true, some failure =>
              (activated, some (utf8 "scenario " ++ quote safeName ++
                utf8 " is active but was not delivered: " ++ failure))
          | _, _ => (activated, none)

/-- `Activate`: the stores as it leaves them and its error. -/
def activate (name : Text) : Stores × Option Text :=
  let safeName := sanitizeName name
  match loadScenario setup yaml quote answers stores safeName with
  | .error failure => (stores, some failure)
  | .ok sc =>
      match replaceEntities setup answers false sc stores.topology with
      | (topology, .error failure) => ({ stores with topology := topology }, some failure)
      | (topology, .ok registered) =>
          commitScenario setup yaml quote answers { stores with topology := topology }
            safeName registered

/-- The bytes that `LoadActive` restores: those of the pointer or, for a pointer without
any, those of the imported file. -/
def restoredContent (pointer : ActiveScenario) : Except Text Text :=
  if pointer.content ≠ [] then .ok pointer.content
  else
    match answers.error .getScenario, stores.files pointer.name with
    | some failure, _ => .error failure
    | none, none => .error (utf8 "entity not found")
    | none, some content => .ok content

/-- `LoadActive`: a Mixer that starts restores the scenario its pointer names. -/
def loadActive : Stores × Option Text :=
  match answers.error .getActive, stores.pointer with
  | some failure, _ =>
      (stores, some (utf8 "failed to read the active scenario pointer: " ++ failure))
  | none, none => (stores, none)
  | none, some pointer =>
      let cannot := fun failure : Text =>
        some (utf8 "active scenario " ++ pointer.name ++ utf8 ": " ++ failure)
      match restoredContent answers stores pointer with
      | .error failure => (stores, cannot failure)
      | .ok content =>
          match yaml.unmarshal content with
          | .error failure => (stores, cannot failure)
          | .ok sc =>
              match replaceEntities setup answers true sc stores.topology with
              | (topology, .error failure) =>
                  ({ stores with topology := topology }, some failure)
              | (topology, .ok registered) =>
                  -- only the imported file is encoded again
                  match if pointer.content ≠ [] then .ok content else yaml.marshal registered with
                  | .error failure => ({ stores with topology := topology }, cannot failure)
                  | .ok encoded =>
                      ({ stores with topology := topology, active := some ⟨registered, encoded⟩ },
                        none)

/-- What happens to a Mixer: an activation, or a restart, which loses what is in memory. -/
inductive MixerStep where
  | activate (answers : Answers) (name : Text)
  | restart (answers : Answers)

def Stores.take (stores : Stores) : MixerStep → Stores
  | .activate answers name => (activate setup yaml quote answers stores name).1
  | .restart answers => (loadActive setup yaml answers { stores with active := none }).1

/-- The stored pointer has the scenario in memory, byte for byte. -/
def Stores.Durable (stores : Stores) : Prop :=
  ∀ active ∈ stores.active, ∃ pointer ∈ stores.pointer,
    pointer.content ≠ [] → active.content = pointer.content

/-- The scenario can be loaded and its targets are active Racks. -/
structure Loaded (stores : Stores) (safeName : Text) (sc : Scenario) : Prop where
  read : answers.error .getScenario = none
  parsed : ∃ content, stores.files safeName = some content ∧ yaml.unmarshal content = .ok sc
  listed : setup.hasRacks = true → answers.error .listRacks = none
  targets : setup.hasRacks = true → ∀ gear ∈ sc.gears, ∀ target,
    gear.deployName = some target → target ≠ [] ∧ target ∈ answers.activeRacks

/-- The topology, the pointer and the memory are as they were. -/
def Kept (before after : Stores) : Prop :=
  after.topology = before.topology ∧ after.pointer = before.pointer ∧ after.active = before.active

/-- The activation cannot have changed anything.  The scenario does not load; or its rows
could not be cleared; or there were none and its first row could not be written; or the
Mixer keeps no rows and the scenario could not be encoded or stored, or is the one that is
stored and, unless the answer of the store was lost, in memory already. -/
def Spared (stores : Stores) (name : Text) : Prop :=
  ∀ sc, Loaded setup yaml answers stores (sanitizeName name) sc →
    (setup.hasStore = true →
      answers.error .clearScenarioEntities ≠ none ∨
        answers.error .registerScenario ≠ none ∧
          ∀ row ∈ stores.topology, row.type.ofScenario = false) ∧
    (setup.hasStore = false →
      ∀ content, yaml.marshal sc = .ok content →
        (answers.MovesPointer → stores.pointer = some ⟨sanitizeName name, sc.version, content⟩) ∧
        (answers.error .setActive = none → stores.active = some ⟨sc, content⟩))

end

section

variable {setup : Setup} {yaml : Yaml} {quote : Text → Text} {answers : Answers}
  {stores : Stores} {name safeName : Text} {sc : Scenario}

lemma targetProblem_eq_none_iff {gear : GearSpec} :
    targetProblem quote answers sc gear = none ↔ ∀ target, gear.deployName = some target →
        target ≠ [] ∧ target ∈ answers.activeRacks := by
  rw [targetProblem]
  cases gear.deployName with
  | none => simp
  | some target =>
    by_cases hactive : target ≠ [] ∧ target ∈ answers.activeRacks
    · simp [hactive]
    · simp only [if_neg hactive]
      split <;> simp [hactive]

lemma validateDeployTargets_eq_none_iff : validateDeployTargets setup quote answers sc = none ↔
      (setup.hasRacks = true → answers.error .listRacks = none) ∧
        (setup.hasRacks = true → ∀ gear ∈ sc.gears, ∀ target,
          gear.deployName = some target → target ≠ [] ∧ target ∈ answers.activeRacks) := by
  rw [validateDeployTargets]
  cases setup.hasRacks with
  | false => simp
  | true =>
    cases answers.error .listRacks with
    | some => simp
    | none => simp [List.findSome?_eq_none_iff, targetProblem_eq_none_iff]

lemma loadScenario_eq_ok_iff : loadScenario setup yaml quote answers stores safeName = .ok sc ↔
      Loaded setup yaml answers stores safeName sc := by
  constructor
  · intro hload
    rw [loadScenario] at hload
    split at hload
    · nomatch hload
    · next hread =>
        split at hload
        · nomatch hload
        · next content hfile =>
            split at hload
            · nomatch hload
            · next parsed hparse =>
                split at hload
                · nomatch hload
                · next hvalid =>
                    obtain rfl : parsed = sc := Except.ok.inj hload
                    obtain ⟨hlisted, htargets⟩ := validateDeployTargets_eq_none_iff.mp hvalid
                    exact ⟨hread, ⟨content, hfile, hparse⟩, hlisted, htargets⟩
  · intro hloaded
    obtain ⟨content, hfile, hparse⟩ := hloaded.parsed
    have hvalid : validateDeployTargets setup quote answers sc = none :=
      validateDeployTargets_eq_none_iff.mpr ⟨hloaded.listed, hloaded.targets⟩
    simp only [loadScenario, hloaded.read, hfile, hparse, hvalid]

/-- A scenario that loads is the only one that does. -/
lemma Loaded.unique {other : Scenario} (hloaded : Loaded setup yaml answers stores safeName sc)
    (hother : Loaded setup yaml answers stores safeName other) : other = sc := by
  obtain ⟨content, hfile, hparse⟩ := hloaded.parsed
  obtain ⟨otherContent, hotherFile, hotherParse⟩ := hother.parsed
  rw [hfile, Option.some.injEq] at hotherFile
  rw [← hotherFile, hparse] at hotherParse
  exact (Except.ok.inj hotherParse).symm

lemma clearScenarioEntities_eq_self_iff {table : List Row} :
    clearScenarioEntities table = table ↔ ∀ row ∈ table, row.type.ofScenario = false := by
  rw [clearScenarioEntities, List.filter_eq_self]
  simp only [Bool.not_eq_true']

/-- With a new identity for the scenario, the table stays as it is if the rows cannot be
cleared, or if there are none and the first one cannot be written. -/
lemma replaceEntities_kept_iff (hstore : setup.hasStore = true) {table : List Row}
    (hfresh : ∀ row ∈ table, row.entityID ≠ answers.nextEntityID .scenario 0) :
    (replaceEntities setup answers false sc table).1 = table ↔
      answers.error .clearScenarioEntities ≠ none ∨ answers.error .registerScenario ≠ none ∧
          ∀ row ∈ table, row.type.ofScenario = false := by
  have htable : answers.error .clearScenarioEntities = none →
      (replaceEntities setup answers false sc table).1 =
        (registerScenarioEntities answers setup.mixerID false sc
          (clearScenarioEntities table)).1 := by
    intro hclear
    simp only [replaceEntities, if_pos hstore, hclear]
    split
    · next heq => rw [heq]
    · next heq => rw [heq]
  cases hclear : answers.error .clearScenarioEntities with
  | some => simp [replaceEntities, hstore, hclear]
  | none =>
    rw [htable hclear, ← clearScenarioEntities_eq_self_iff]
    cases hregister : answers.error .registerScenario with
    | some =>
      rw [registerScenarioEntities_of_error hregister]
      simp
    | none =>
      -- the row with the new identity was not there before
      obtain ⟨row, hrow, hid⟩ := registerScenarioEntities_leaves hregister
      have hchanged : (registerScenarioEntities answers setup.mixerID false sc
          (clearScenarioEntities table)).1 ≠ table := by
        intro hsame
        rw [hsame] at hrow
        exact hfresh row hrow hid
      simp [hchanged]

/-- If the activation goes on from there, the table has changed. -/
lemma replaceEntities_of_ok (hstore : setup.hasStore = true) {table : List Row}
    {registered : Scenario}
    (hok : (replaceEntities setup answers false sc table).2 = .ok registered) :
    answers.error .clearScenarioEntities = none ∧ answers.error .registerScenario = none := by
  cases hclear : answers.error .clearScenarioEntities with
  | some =>
    simp only [replaceEntities, if_pos hstore, hclear] at hok
    nomatch hok
  | none =>
    cases hregister : answers.error .registerScenario with
    | some =>
      simp only [replaceEntities, if_pos hstore, hclear,
        registerScenarioEntities_of_error hregister] at hok
      nomatch hok
    | none => exact ⟨rfl, rfl⟩

lemma commitScenario_topology (registered : Scenario) :
    (commitScenario setup yaml quote answers stores safeName registered).1.topology =
      stores.topology := by
  rw [commitScenario]
  split
  · rfl
  · split
    · rfl
    · split <;> rfl

/-- A commit changes the pointer and the memory unless it fails to encode or to store the
scenario, or finds it there. -/
lemma commitScenario_kept_iff {registered : Scenario} :
    ((commitScenario setup yaml quote answers stores safeName registered).1.pointer =
          stores.pointer ∧
        (commitScenario setup yaml quote answers stores safeName registered).1.active =
          stores.active) ↔
      ∀ content, yaml.marshal registered = .ok content → (answers.MovesPointer →
          stores.pointer = some ⟨safeName, registered.version, content⟩) ∧
        (answers.error .setActive = none → stores.active = some ⟨registered, content⟩) := by
  rw [commitScenario]
  cases hmarshal : yaml.marshal registered with
  | error => simp
  | ok =>
    cases hset : answers.error .setActive with
    | some => simp [setActive, eq_comm]
    | none =>
      dsimp only
      split
      · simp [setActive, eq_comm]
      · simp [setActive, eq_comm]

/-- What is left of `Spared` for the scenario that loads. -/
lemma spared_iff (hloaded : Loaded setup yaml answers stores (sanitizeName name) sc) :
    Spared setup yaml answers stores name ↔ (setup.hasStore = true →
        answers.error .clearScenarioEntities ≠ none ∨ answers.error .registerScenario ≠ none ∧
            ∀ row ∈ stores.topology, row.type.ofScenario = false) ∧
      (setup.hasStore = false → ∀ content, yaml.marshal sc = .ok content → (answers.MovesPointer →
            stores.pointer = some ⟨sanitizeName name, sc.version, content⟩) ∧
          (answers.error .setActive = none → stores.active = some ⟨sc, content⟩)) := by
  constructor
  · intro hspared
    exact hspared sc hloaded
  · intro hspared other hother
    rw [hloaded.unique hother]
    exact hspared

/-- On a Mixer without rows the commit decides. -/
lemma activate_kept_iff_of_not_store (hstore : setup.hasStore = false)
    (hloaded : Loaded setup yaml answers stores (sanitizeName name) sc) :
    Kept stores (activate setup yaml quote answers stores name).1 ↔
      Spared setup yaml answers stores name := by
  have hload := (@loadScenario_eq_ok_iff setup yaml quote answers stores _ sc).mpr hloaded
  have hactivate : activate setup yaml quote answers stores name =
      commitScenario setup yaml quote answers stores (sanitizeName name) sc := by
    simp only [activate, hload, replaceEntities, hstore]
    rfl
  rw [hactivate, Kept, commitScenario_topology, commitScenario_kept_iff, spared_iff hloaded,
    hstore]
  simp

/-- On a Mixer with rows the table decides: an activation that gets past it has replaced
them. -/
lemma activate_kept_iff_of_store (hstore : setup.hasStore = true)
    (hloaded : Loaded setup yaml answers stores (sanitizeName name) sc)
    (hfresh : ∀ row ∈ stores.topology, row.entityID ≠ answers.nextEntityID .scenario 0) :
    Kept stores (activate setup yaml quote answers stores name).1 ↔
      Spared setup yaml answers stores name := by
  have hload := (@loadScenario_eq_ok_iff setup yaml quote answers stores _ sc).mpr hloaded
  have htable := @replaceEntities_kept_iff setup answers sc hstore _ hfresh
  have hspared : Spared setup yaml answers stores name ↔
      (replaceEntities setup answers false sc stores.topology).1 = stores.topology := by
    rw [spared_iff hloaded, htable, hstore]
    simp
  rw [hspared]
  cases hreplace : replaceEntities setup answers false sc stores.topology with
  | mk topology outcome =>
    cases outcome with
    | error =>
      simp only [activate, hload, hreplace, Kept, and_true]
    | ok =>
      have hreplaced : topology ≠ stores.topology := by
        intro hsame
        rw [hreplace] at htable
        obtain ⟨hclear, hregister⟩ := replaceEntities_of_ok hstore (congrArg Prod.snd hreplace)
        rcases htable.mp hsame with hfailed | ⟨hfailed, _⟩
        · exact hfailed hclear
        · exact hfailed hregister
      simp only [activate, hload, hreplace, Kept, commitScenario_topology, hreplaced, false_and]

lemma activate_kept_iff
    (hfresh : ∀ row ∈ stores.topology, row.entityID ≠ answers.nextEntityID .scenario 0) :
    Kept stores (activate setup yaml quote answers stores name).1 ↔
      Spared setup yaml answers stores name := by
  cases hload : loadScenario setup yaml quote answers stores (sanitizeName name) with
  | error =>
    have hnot : ∀ sc, ¬ Loaded setup yaml answers stores (sanitizeName name) sc := by
      intro sc hloaded
      rw [loadScenario_eq_ok_iff.mpr hloaded] at hload
      nomatch hload
    have hspared : Spared setup yaml answers stores name := by
      intro sc hloaded
      exact absurd hloaded (hnot sc)
    simp [activate, hload, Kept, hspared]
  | ok =>
    have hloaded := loadScenario_eq_ok_iff.mp hload
    cases hstore : setup.hasStore with
    | true => exact activate_kept_iff_of_store hstore hloaded hfresh
    | false => exact activate_kept_iff_of_not_store hstore hloaded

lemma durable_activate (htruthful : answers.Truthful) (hdurable : stores.Durable) (name : Text) :
    (activate setup yaml quote answers stores name).1.Durable := by
  rw [activate]
  split
  · exact hdurable
  · split
    · exact hdurable
    · rw [commitScenario]
      split
      · exact hdurable
      · split
        · next hset =>
            have hstays : ¬ answers.MovesPointer := by
              simp [Answers.MovesPointer, hset, htruthful (hset ▸ nofun)]
            simp only [setActive, if_neg hstays]
            exact hdurable
        · next hset =>
            have hmoves : answers.MovesPointer := .inl hset
            simp only [setActive, if_pos hmoves]
            -- whether or not the push reaches a Rack
            split <;> exact fun active hactive => ⟨_, rfl, fun _ => by cases hactive; rfl⟩

lemma durable_loadActive (hdurable : stores.Durable) :
    (loadActive setup yaml answers stores).1.Durable := by
  rw [loadActive]
  split
  · exact hdurable
  · exact hdurable
  · rename_i pointer _ hpointer
    dsimp only
    split
    · exact hdurable
    · rename_i content hcontent
      split
      · exact hdurable
      · split
        · exact hdurable
        · split
          · exact hdurable
          · rename_i hencoded
            intro active hactive
            refine ⟨pointer, hpointer, fun hstored => ?_⟩
            cases hactive
            rw [if_pos hstored] at hencoded
            rw [restoredContent, if_pos hstored] at hcontent
            cases hencoded
            cases hcontent
            rfl

end

/-- Through activations that may fail anywhere and restarts, in any order, what the Mixer
has in memory is what a restart restores, as long as a `SetActive` that fails has not moved
the pointer. -/
theorem memory_follows_pointer (setup : Setup) (yaml : Yaml) (quote : Text → Text)
    (stores : Stores) (steps : List MixerStep)
    (htruthful : ∀ answers name, .activate answers name ∈ steps → answers.Truthful) (time : ℕ) :
    (stateAt (Stores.take setup yaml quote) { stores with active := none } steps time).Durable := by
  apply stateAt_invariant
  · exact nofun
  · intro state step hstep hdurable
    cases step with
    | activate answers name => exact durable_activate (htruthful answers name hstep) hdurable name
    | restart answers => exact durable_loadActive nofun

/-- A scenario without Racks, gears and wires, told apart by its version. -/
def emptyScenario (version : Text) : Scenario :=
  ⟨utf8 "payments", version, [], [], []⟩

/-- The encoding of an empty scenario is its version. -/
def versionYaml : Yaml where
  unmarshal content := .ok (emptyScenario content)
  marshal sc := .ok sc.version

def wholeSetup : Setup where
  mixerID := 1
  hasStore := true
  hasRacks := true
  hasBus := true
  racksOfStore := fun _ => rfl

/-- One operation fails; identities count up from `first`. -/
def failingAt (failing : Operation) (first : ℕ) : Answers where
  error operation := if operation = failing then some (utf8 "timeout") else none
  activeRacks := []
  machineID := fun _ => 0
  nextEntityID := fun _ minted => BitVec.ofNat 128 (first + minted)
  listed := []
  reaches := fun _ => true
  answerLost := false

/-- The first version is active and registered; the second is on file. -/
def firstActive : Stores where
  files := fun _ => some (utf8 "2")
  pointer := some ⟨utf8 "payments", utf8 "1", utf8 "1"⟩
  topology := [scenarioRow 1 5 (emptyScenario (utf8 "1"))]
  active := some ⟨emptyScenario (utf8 "1"), utf8 "1"⟩

/-- The Mixer restores the first version, and its pointer cannot be moved to the second. -/
def unmovedPointer : List MixerStep :=
  [.restart (failingAt .setActive 9), .activate (failingAt .setActive 9) (utf8 "payments")]

theorem unmovedPointer_durable :
    let after := stateAt (Stores.take wholeSetup versionYaml id)
      { firstActive with active := none } unmovedPointer 2
    after.active = some ⟨emptyScenario (utf8 "1"), utf8 "1"⟩ ∧ after.Durable := by
  refine ⟨rfl, memory_follows_pointer wholeSetup versionYaml id firstActive unmovedPointer ?_ 2⟩
  intro answers name hstep
  obtain ⟨rfl, -⟩ : answers = failingAt .setActive 9 ∧ name = utf8 "payments" := by
    simpa [unmovedPointer] using hstep
  exact fun _ => rfl

/-- A failed activation keeps the topology, the pointer and the memory exactly if it
fails before it has changed any of them, the generator's identities being new. -/
theorem failed_activation_kept_iff (setup : Setup) (yaml : Yaml) (quote : Text → Text)
    (answers : Answers) (stores : Stores) (name : Text)
    (hfresh : ∀ row ∈ stores.topology, row.entityID ≠ answers.nextEntityID .scenario 0) :
    ((activate setup yaml quote answers stores name).2 ≠ none →
        Kept stores (activate setup yaml quote answers stores name).1) ↔
      ((activate setup yaml quote answers stores name).2 ≠ none →
        Spared setup yaml answers stores name) := by
  rw [activate_kept_iff hfresh]

/-- The rows cannot be cleared: all is as before. -/
theorem uncleared_activation_kept :
    (activate wholeSetup versionYaml id (failingAt .clearScenarioEntities 9) firstActive
        (utf8 "payments")).2 ≠ none ∧
      Kept firstActive (activate wholeSetup versionYaml id
        (failingAt .clearScenarioEntities 9) firstActive (utf8 "payments")).1 := by
  have hfails : (activate wholeSetup versionYaml id (failingAt .clearScenarioEntities 9)
      firstActive (utf8 "payments")).2 ≠ none := by
    decide +kernel
  refine ⟨hfails, (failed_activation_kept_iff wholeSetup versionYaml id
    (failingAt .clearScenarioEntities 9) firstActive (utf8 "payments") (by decide)).mpr ?_ hfails⟩
  intro _ sc _
  exact ⟨fun _ => Or.inl nofun, nofun⟩

/-- The pointer cannot be moved: the call fails, the topology is that of the second
version, and the pointer and the memory are those of the first. -/
theorem unmoved_pointer_changes_topology :
    let after := activate wholeSetup versionYaml id (failingAt .setActive 9) firstActive
      (utf8 "payments")
    after.2 = some (utf8 "failed to move the active scenario pointer: timeout") ∧
      after.1.topology = [scenarioRow 1 9 (emptyScenario (utf8 "2"))] ∧
      after.1.pointer = some ⟨utf8 "payments", utf8 "1", utf8 "1"⟩ ∧
      after.1.active = some ⟨emptyScenario (utf8 "1"), utf8 "1"⟩ := by
  intro after
  refine ⟨?_, ?_, ?_, ?_⟩
  all_goals rfl

end Fluxrig.Controller
