import Fluxrig.Controller.Topology
import Fluxrig.Core.Worklist
import Fluxrig.Manager.Retrieval

/-!
# Specs that travel with a scenario

`collectSpecs` loads every store reference that the gears of a scenario name, and those
that the loaded translations name in turn, and sends the documents along.  A Rack files
each of them under the name and the tag that `storeRef` splits off.  `Load` splits a
reserved reference in another way, and finds on the Rack only what was sent for the bare
reference as well.
-/

namespace Fluxrig.Controller

open Fluxrig.Core Message Manager
open Iso8583 (validString)
open Registry (firstNonEmpty configText)

/-- The spec that a gear config names. -/
def specRefFromConfig (config : List (Text × Value)) : Text :=
  firstNonEmpty [configText config (utf8 "spec_path"), configText config (utf8 "spec")]

/-- The split of a reference that is not a path. -/
def storeRef (ref : Text) : Option (Text × Text) :=
  if 47 ∈ ref ∨ 92 ∈ ref ∨ utf8 ".yaml" <:+ ref ∨ utf8 ".yml" <:+ ref then none
  else
    match cutLast 58 ref with
    | none => none
    | some (name, tag) => if name = [] ∨ tag = [] then none else some (name, tag)

structure SpecArtifact where
  name : Text
  tag : Text
  content : Text
  deriving DecidableEq

/-- The store of the Mixer, as its manager has it in memory. -/
structure SpecStore where
  index : Index
  blobs : Text → Option Text

def gearRefs (sc : Scenario) : List Text :=
  (sc.gears.map fun gear => specRefFromConfig gear.config).filter fun ref => ref ≠ []

section

variable (libs : Libraries) (quote : Text → Text)
  (references : Text → Option (List Text)) (store : SpecStore)

def SpecStore.load (ref : Text) : Except Text Text :=
  Manager.load quote libs.semver store.index store.blobs ref

/-- A reference with a name and a tag is loaded; a translation names more of them.
`references` is `translation.References`. -/
def visitSpec (ref : Text) : Option (SpecArtifact × List Text) :=
  match storeRef ref with
  | none => none
  | some (name, tag) =>
      match store.load libs quote ref with
      | .error _ => none
      | .ok content => some (⟨name, tag, content⟩, (references content).getD [])

/-- The loop of `collectSpecs`, cut off after `fuel` turns. -/
def collectSpecs (sc : Scenario) (fuel : ℕ) : Option (List SpecArtifact) :=
  loop (Worklist.turn (fun ref => (storeRef ref).isSome)
    (visitSpec libs quote references store)) fuel ⟨gearRefs sc, [], []⟩

/-- The references that `collectSpecs` comes across. -/
def Collected (sc : Scenario) (ref : Text) : Prop :=
  Reached (fun ref => (storeRef ref).isSome) (visitSpec libs quote references store)
    (gearRefs sc) ref

end

def SpecArtifact.request (artifact : SpecArtifact) : Request :=
  ⟨artifact.content, [], artifact.name, artifact.tag, .spec⟩

/-- A Rack with an empty store imports the documents. -/
def rackSteps (artifacts : List SpecArtifact) : List Manager.Step :=
  .newManager 0 :: artifacts.map fun artifact => .importArtifact 0 artifact.request

section

variable (libs : Libraries) (quote : Text → Text) (artifacts : List SpecArtifact)

def rackShelf : Shelf := shelfAt libs (rackSteps artifacts) (artifacts.length + 1)

/-- Every import succeeds. -/
def RackImports : Prop :=
  ∀ (place : ℕ) (artifact : SpecArtifact), artifacts[place]? = some artifact →
    (shelfAt libs (rackSteps artifacts) (place + 1)).filed libs
      (.importArtifact 0 artifact.request) ≠ none

def RackLoads (ref content : Text) : Prop :=
  ∃ memory, (rackShelf libs artifacts).memory 0 = some memory ∧
    Manager.load quote libs.semver memory (rackShelf libs artifacts).blobs ref = .ok content

end

section

variable {quote : Text → Text} {ref name tag : Text}

lemma storeRef_eq_some (hsplit : storeRef ref = some (name, tag)) :
    ref = shortForm name tag ∧ name ≠ [] ∧ tag ≠ [] ∧ 58 ∉ tag := by
  rw [storeRef] at hsplit
  split at hsplit
  · nomatch hsplit
  split at hsplit
  · nomatch hsplit
  · next hcut =>
      split at hsplit
      · nomatch hsplit
      · next hnonempty =>
          rw [Option.some.injEq, Prod.mk.injEq] at hsplit
          rw [hsplit.1, hsplit.2] at hcut hnonempty
          obtain ⟨hform, hcolon⟩ := eq_of_cutLast hcut
          exact ⟨hform, (not_or.mp hnonempty).1, (not_or.mp hnonempty).2, hcolon⟩

lemma colon_mem_of_storeRef (hsplit : storeRef ref = some (name, tag)) : 58 ∈ ref := by
  rw [(storeRef_eq_some hsplit).1]
  exact colon_mem_shortForm name tag

/-- Both parsers take the tag from behind the last colon. -/
lemma tag_eq_of_parseURN {own parsed : Text} (hsplit : storeRef ref = some (name, own))
    (hparse : parseURN quote ref = .ok (parsed, tag)) : own = tag := by
  obtain ⟨hform, _, _, hown⟩ := storeRef_eq_some hsplit
  have hfirst : cutLast 58 ref = some (name, own) := by
    rw [hform]
    exact cutLast_append name hown
  have hsecond : ∃ before, cutLast 58 ref = some (before, tag) := by
    obtain ⟨rfl | ⟨kind, rfl⟩, htag⟩ := parseURN_eq_ok hparse
    · exact ⟨parsed, cutLast_append parsed htag⟩
    · refine ⟨urnFluxPrefix ++ (kind.text ++ 58 :: parsed), ?_⟩
      rw [← cutLast_append _ htag]
      simp [reservedForm, shortForm]
  obtain ⟨before, hsecond⟩ := hsecond
  rw [hfirst, Option.some.injEq, Prod.mk.injEq] at hsecond
  exact hsecond.2

/-- All references of both forms to what an index may resolve. -/
def resolvable (index : Index) : List Text :=
  (index.specs.entries ++ index.scenarios.entries).flatMap fun entry =>
    (latest :: entry.2.keys).flatMap fun tag =>
      [shortForm entry.1 tag, reservedForm .spec entry.1 tag, reservedForm .scenario entry.1 tag]

lemma mem_resolvable {semver : Semver} {index : Index} {hash : Text}
    (hparse : parseURN quote ref = .ok (name, tag))
    (hresolve : resolve semver index name tag = .ok hash) : ref ∈ resolvable index := by
  rw [resolve] at hresolve
  split at hresolve
  · cases hresolve
  next tags htags =>
    have hentry : (⟨name, tags⟩ : Σ _ : Text, Tags) ∈
        index.specs.entries ++ index.scenarios.entries := by
      rw [tagsOf] at htags
      split at htags
      · next hspec =>
          exact List.mem_append_left _ (AList.mem_lookup_iff.mp (hspec.trans htags))
      · exact List.mem_append_right _ (AList.mem_lookup_iff.mp htags)
    have htag : tag ∈ latest :: tags.keys := by
      split at hresolve
      · next hfound =>
          exact List.mem_cons_of_mem _ (List.mem_keys_of_mem (AList.mem_lookup_iff.mp hfound))
      · split at hresolve
        · next heq =>
            rw [heq]
            exact List.mem_cons_self
        · cases hresolve
    apply List.mem_flatMap_of_mem hentry
    apply List.mem_flatMap_of_mem htag
    obtain ⟨rfl | ⟨kind, rfl⟩, _⟩ := parseURN_eq_ok hparse
    · exact List.mem_cons_self
    · cases kind <;> simp

end

section

variable {libs : Libraries} {quote : Text → Text} {references : Text → Option (List Text)}
  {store : SpecStore} {sc : Scenario} {ref content : Text} {artifacts : List SpecArtifact}

lemma visitSpec_eq_some {artifact : SpecArtifact} {more : List Text}
    (hvisit : visitSpec libs quote references store ref = some (artifact, more)) :
    storeRef ref = some (artifact.name, artifact.tag) ∧
      store.load libs quote ref = .ok artifact.content := by
  rw [visitSpec] at hvisit
  split at hvisit
  · nomatch hvisit
  next hsplit =>
    split at hvisit
    · nomatch hvisit
    · next hload =>
        rw [Option.some.injEq, Prod.mk.injEq] at hvisit
        rw [← hvisit.1]
        exact ⟨hsplit, hload⟩

/-- The loop ends: only finitely many references load. -/
lemma collectSpecs_returns : ∃ artifacts, ∃ fuel,
    collectSpecs libs quote references store sc fuel = some artifacts := by
  obtain ⟨fuel, artifacts, hloop⟩ := worklist_returns (resolvable store.index).toFinset
    (fun ref found _ hvisit => by
      obtain ⟨hsplit, hload⟩ := visitSpec_eq_some (Prod.eta found ▸ hvisit)
      obtain ⟨name, tag, hash, hparse, hresolve, _⟩ :=
        (load_eq_ok_iff (colon_mem_of_storeRef hsplit)).mp hload
      exact List.mem_toFinset.mpr (mem_resolvable hparse hresolve))
    (⟨gearRefs sc, [], []⟩ : Worklist Text SpecArtifact)
  exact ⟨artifacts, fuel, hloop⟩

/-- The documents sent are those of the collected references that load. -/
lemma mem_collectSpecs_iff {fuel : ℕ}
    (hcollect : collectSpecs libs quote references store sc fuel = some artifacts)
    (artifact : SpecArtifact) :
    artifact ∈ artifacts ↔ ∃ ref, Collected libs quote references store sc ref ∧
      storeRef ref = some (artifact.name, artifact.tag) ∧
      store.load libs quote ref = .ok artifact.content := by
  rw [mem_worklist_iff hcollect]
  constructor
  · intro hfound
    obtain ⟨ref, more, hcollected, _, hvisit⟩ := hfound
    exact ⟨ref, hcollected, visitSpec_eq_some hvisit⟩
  · intro hfound
    obtain ⟨ref, hcollected, hsplit, hload⟩ := hfound
    refine ⟨ref, (references artifact.content).getD [], hcollected, ?_, ?_⟩
    · rw [hsplit, Option.isSome_some]
    · simp only [visitSpec, hsplit, hload]

variable {artifact : SpecArtifact}

lemma mem_rackSteps {manager : ℕ} {request : Request}
    (hmem : Manager.Step.importArtifact manager request ∈ rackSteps artifacts) :
    ∃ artifact ∈ artifacts, request = artifact.request := by
  rw [rackSteps, List.mem_cons, List.mem_map] at hmem
  obtain ⟨artifact, hartifact, heq⟩ := hmem.resolve_left nofun
  rw [Manager.Step.importArtifact.injEq] at heq
  exact ⟨artifact, hartifact, heq.2.symm⟩

/-- The name and the tag of the reference override those of the document. -/
lemma request_finalName (hname : artifact.name ≠ []) :
    artifact.request.finalName libs = artifact.name := by
  simp [Request.finalName, SpecArtifact.request, firstNonEmpty, hname]

lemma request_finalTag (htag : artifact.tag ≠ []) (index : Index) :
    artifact.request.finalTag libs index = semverTag artifact.tag := by
  have hnonempty : semverTag artifact.tag ≠ [] := by
    rw [semverTag]
    split
    · exact htag
    · exact List.cons_ne_nil _ _
  simp [Request.finalTag, SpecArtifact.request, firstNonEmpty, hnonempty]

/-- The documents have names and tags, in UTF-8, and no two of them the same hash. -/
structure Sendable (libs : Libraries) (artifacts : List SpecArtifact) : Prop where
  names : ∀ artifact ∈ artifacts, artifact.name ≠ [] ∧ validString artifact.name = true
  tags : ∀ artifact ∈ artifacts, artifact.tag ≠ []
  hashes : ∀ artifact ∈ artifacts, ∀ other ∈ artifacts,
    libs.digest.hash artifact.content = libs.digest.hash other.content →
    artifact.content = other.content

section

variable (hsendable : Sendable libs artifacts)

include hsendable

lemma Sendable.namesValid : NamesValid libs (rackSteps artifacts) := by
  intro manager request hmem
  obtain ⟨artifact, hartifact, rfl⟩ := mem_rackSteps hmem
  obtain ⟨hname, hvalid⟩ := hsendable.names artifact hartifact
  rw [request_finalName hname]
  exact hvalid

lemma Sendable.collisionless : Collisionless libs (rackSteps artifacts) := by
  intro manager request other another hmem hother
  obtain ⟨artifact, hartifact, rfl⟩ := mem_rackSteps hmem
  obtain ⟨second, hsecond, rfl⟩ := mem_rackSteps hother
  exact hsendable.hashes artifact hartifact second hsecond

section

variable (himports : RackImports libs artifacts) (hartifact : artifact ∈ artifacts)

include himports hartifact

/-- A document that was sent is filed on the Rack under the name and the tag of its
reference, which gets a leading `v`. -/
lemma rack_files : libs.semver.isValid (semverTag artifact.tag) = true ∧
    ∃ memory, (rackShelf libs artifacts).memory 0 = some memory ∧
      memory.recorded .spec artifact.name (semverTag artifact.tag) =
        some (libs.digest.hash artifact.content) ∧
      getBlob (rackShelf libs artifacts).blobs
        (libs.digest.hash artifact.content) = .ok artifact.content := by
  obtain ⟨place, hplace⟩ := List.mem_iff_getElem?.mp hartifact
  have hstep : (rackSteps artifacts)[place + 1]? = some (.importArtifact 0 artifact.request) := by
    rw [rackSteps, List.getElem?_cons_succ, List.getElem?_map, hplace, Option.map_some]
  have hlater : place + 1 < artifacts.length + 1 :=
    Nat.succ_lt_succ (List.getElem?_eq_some_iff.mp hplace).1
  obtain ⟨⟨kind, filed⟩, hfiled⟩ := Option.ne_none_iff_exists'.mp (himports place artifact hplace)
  obtain ⟨_, _, hvalid, hhash, hkind, hname, current, htag⟩ := filed_eq_some hfiled
  obtain ⟨memory, hmemory, hrecorded⟩ := recorded_later hsendable.namesValid hstep hfiled hlater
  have hblob := getBlob_later hsendable.namesValid hstep hfiled hlater hsendable.collisionless
  rw [request_finalTag (hsendable.tags artifact hartifact)] at htag
  rw [request_finalName (hsendable.names artifact hartifact).1] at hname
  rw [hhash] at hblob
  rw [hkind, hname, htag, hhash] at hrecorded
  rw [htag] at hvalid
  exact ⟨hvalid, memory, hmemory, hrecorded, hblob⟩

/-- Nothing is sent under the tag `latest`: its `v` makes it no version. -/
lemma tag_ne_latest : artifact.tag ≠ latest := by
  intro htag
  obtain ⟨hvalid, _⟩ := rack_files hsendable himports hartifact
  rw [htag] at hvalid
  obtain ⟨digit, rest, hfront, hlow, hhigh⟩ := libs.semver.front_of_isValid _ hvalid
  have hdigit : some digit = (semverTag latest)[1]? := by rw [hfront]; rfl
  have hletter : (semverTag latest)[1]? = some 108 := by decide
  rw [hletter, Option.some.injEq] at hdigit
  rw [hdigit] at hhigh
  exact absurd hhigh (by decide)

end

/-- What the Rack loads under a version was sent for a reference with that name. -/
lemma sent_of_rackLoads {ref content name tag : Text}
    (hcolon : 58 ∈ ref) (hparse : parseURN quote ref = .ok (name, tag)) (htag : tag ≠ latest)
    (hloads : RackLoads libs quote artifacts ref content) :
    ∃ artifact ∈ artifacts, artifact.name = name ∧ semverTag artifact.tag = tag ∧
      artifact.content = content := by
  obtain ⟨memory, hmemory, hload⟩ := hloads
  obtain ⟨found, version, hash, hsame, hresolve, hblob⟩ := (load_eq_ok_iff hcolon).mp hload
  rw [hparse, Except.ok.injEq, Prod.mk.injEq] at hsame
  rw [← hsame.1, ← hsame.2] at hresolve
  obtain ⟨kind, hrecorded⟩ := recorded_of_resolve hresolve htag
  obtain ⟨manager, request, current, hmem, _, hhash, hname, hversion⟩ :=
    ((sourced_shelfAt hsendable.namesValid _).memory 0 memory hmemory).versions kind name tag hash
      htag hrecorded
  have hstored := stored_of_getBlob hblob
  rw [hhash] at hstored
  have hcontent := eq_of_stored hsendable.namesValid hsendable.collisionless hmem hstored
  obtain ⟨artifact, hartifact, rfl⟩ := mem_rackSteps hmem
  rw [request_finalName (hsendable.names artifact hartifact).1] at hname
  rw [request_finalTag (hsendable.tags artifact hartifact)] at hversion
  exact ⟨artifact, hartifact, hname, hversion, hcontent.symm⟩

end

end

/-- The Rack finds under the name and the tag of the reference what was sent for some
collected reference, and that loads on the Mixer as the reference does. -/
def Served (libs : Libraries) (quote : Text → Text)
    (references : Text → Option (List Text)) (store : SpecStore) (sc : Scenario)
    (ref : Text) : Prop :=
  ∀ name tag, parseURN quote ref = .ok (name, tag) →
    ∃ bare own, Collected libs quote references store sc bare ∧
      storeRef bare = some (name, own) ∧ semverTag own = tag ∧
      store.load libs quote bare = store.load libs quote ref

/-- Names in UTF-8 are what YAML yields.  The Rack loads the references of the gears with
the bytes that the Mixer loads exactly if each of them is served by a collected one. -/
theorem spec_delivery_closed_iff (libs : Libraries) (quote : Text → Text)
    (references : Text → Option (List Text)) (store : SpecStore) (sc : Scenario)
    (hloads : ∀ ref ∈ gearRefs sc, storeRef ref ≠ none →
      ∃ content, store.load libs quote ref = .ok content)
    (htext : ∀ ref name tag, Collected libs quote references store sc ref →
      storeRef ref = some (name, tag) → validString name = true)
    (hhashes : ∀ ref other content another, Collected libs quote references store sc ref →
      Collected libs quote references store sc other →
      store.load libs quote ref = .ok content →
      store.load libs quote other = .ok another →
      libs.digest.hash content = libs.digest.hash another → content = another) :
    ∃ artifacts, (∃ fuel, collectSpecs libs quote references store sc fuel = some artifacts) ∧
      (RackImports libs artifacts → ((∀ ref ∈ gearRefs sc, storeRef ref ≠ none → ∀ content,
            store.load libs quote ref = .ok content →
            RackLoads libs quote artifacts ref content) ↔
          ∀ ref ∈ gearRefs sc, storeRef ref ≠ none →
            Served libs quote references store sc ref)) := by
  obtain ⟨artifacts, fuel, hcollect⟩ := @collectSpecs_returns libs quote references store sc
  refine ⟨artifacts, ⟨fuel, hcollect⟩, ?_⟩
  intro himports
  have hsent := mem_collectSpecs_iff hcollect
  have hsendable : Sendable libs artifacts := by
    refine ⟨?_, ?_, ?_⟩
    · intro artifact hartifact
      obtain ⟨ref, hcollected, hsplit, _⟩ := (hsent artifact).mp hartifact
      exact ⟨(storeRef_eq_some hsplit).2.1, htext ref _ _ hcollected hsplit⟩
    · intro artifact hartifact
      obtain ⟨ref, _, hsplit, _⟩ := (hsent artifact).mp hartifact
      exact (storeRef_eq_some hsplit).2.2.1
    · intro artifact hartifact other hother
      obtain ⟨ref, hcollected, _, hload⟩ := (hsent artifact).mp hartifact
      obtain ⟨second, hsecond, _, hloadSecond⟩ := (hsent other).mp hother
      exact hhashes ref second _ _ hcollected hsecond hload hloadSecond
  constructor
  · intro hrack ref hgear hstore name tag hparse
    obtain ⟨content, hload⟩ := hloads ref hgear hstore
    obtain ⟨⟨own, ownTag⟩, hsplit⟩ := Option.ne_none_iff_exists'.mp hstore
    -- The reference itself was sent, so its tag is a version.
    have hown : (⟨own, ownTag, content⟩ : SpecArtifact) ∈ artifacts :=
      (hsent _).mpr ⟨ref, .start hgear, hsplit, hload⟩
    have htag : tag ≠ latest := by
      rw [← tag_eq_of_parseURN hsplit hparse]
      exact tag_ne_latest hsendable himports hown
    obtain ⟨artifact, hartifact, rfl, hversion, rfl⟩ :=
      sent_of_rackLoads hsendable (colon_mem_of_storeRef hsplit) hparse htag
        (hrack ref hgear hstore content hload)
    obtain ⟨bare, hcollected, hbare, hloadBare⟩ := (hsent artifact).mp hartifact
    exact ⟨bare, artifact.tag, hcollected, hbare, hversion, hloadBare.trans hload.symm⟩
  · intro hserved ref hgear hstore content hload
    obtain ⟨⟨own, ownTag⟩, hsplit⟩ := Option.ne_none_iff_exists'.mp hstore
    have hcolon := colon_mem_of_storeRef hsplit
    obtain ⟨name, tag, _, hparse, _, _⟩ := (load_eq_ok_iff hcolon).mp hload
    obtain ⟨bare, bareTag, hcollected, hbare, rfl, hsame⟩ :=
      hserved ref hgear hstore name tag hparse
    have hartifact : (⟨name, bareTag, content⟩ : SpecArtifact) ∈ artifacts :=
      (hsent _).mpr ⟨bare, hcollected, hbare, hsame.trans hload⟩
    obtain ⟨_, memory, hmemory, hrecorded, hblob⟩ := rack_files hsendable himports hartifact
    exact ⟨memory, hmemory, (load_eq_ok_iff hcolon).mpr
      ⟨name, _, _, hparse, resolve_of_recorded hrecorded nofun, hblob⟩⟩

/-- A scenario with one gear, which names a spec. -/
def oneSpec (ref : Text) : Scenario where
  name := utf8 "pay"
  version := utf8 "1"
  racks := []
  gears := [{ name := utf8 "in", type := utf8 "codec", deploy := .absent
              config := [(utf8 "spec_path", .text ref)], id := 0, ports := [] }]
  wires := []

/-- The store of a Mixer that has imported the spec `visa` in version 1.0.0. -/
def visaStore : SpecStore where
  index := Index.empty.assign .spec (utf8 "visa")
    ((∅ : Tags).insert (utf8 "v1.0.0") (List.replicate 64 49))
  blobs hash := if hash = List.replicate 64 49 then some (utf8 "one") else none

lemma mem_oneSpec {ref other : Text}
    (hcollected : Collected plainLibraries id (fun _ => none) visaStore (oneSpec ref) other) :
    other ∈ gearRefs (oneSpec ref) := by
  induction hcollected with
  | start hstart => exact hstart
  | more _ _ hvisit hmore =>
    rw [visitSpec] at hvisit
    split at hvisit
    · nomatch hvisit
    split at hvisit
    · nomatch hvisit
    · rw [Option.some.injEq, Prod.mk.injEq] at hvisit
      rw [← hvisit.2] at hmore
      nomatch hmore

theorem bare_spec_delivered :
    let ref := utf8 "visa:v1.0.0"
    let sent : List SpecArtifact := [⟨utf8 "visa", utf8 "v1.0.0", utf8 "one"⟩]
    collectSpecs plainLibraries id (fun _ => none) visaStore (oneSpec ref) 2 = some sent ∧
      RackImports plainLibraries sent ∧ RackLoads plainLibraries id sent ref (utf8 "one") := by
  intro ref sent
  have hload : visaStore.load plainLibraries id ref = .ok (utf8 "one") := rfl
  have hone : ∀ {other}, Collected plainLibraries id (fun _ => none) visaStore (oneSpec ref)
      other → other = ref := fun hcollected => List.mem_singleton.mp (mem_oneSpec hcollected)
  have hcollect : collectSpecs plainLibraries id (fun _ => none) visaStore (oneSpec ref) 2 =
      some sent := by decide +kernel
  have himports : RackImports plainLibraries sent := by
    intro place artifact hplace
    cases place with
    | zero =>
      rw [← Option.some.inj hplace]
      decide +kernel
    | succ => cases hplace
  refine ⟨hcollect, himports, ?_⟩
  obtain ⟨artifacts, ⟨fuel, hagain⟩, hiff⟩ := spec_delivery_closed_iff plainLibraries id
    (fun _ => none) visaStore (oneSpec ref)
    (fun _ href _ => by
      rw [List.mem_singleton.mp href]
      exact ⟨_, hload⟩)
    (fun _ name tag hcollected hsplit => by
      rw [hone hcollected] at hsplit
      have hname : name = utf8 "visa" := congrArg Prod.fst (Option.some.inj hsplit).symm
      rw [hname]
      decide +kernel)
    (fun _ _ content another href hother hfirst hsecond _ => by
      rw [hone href, hload, Except.ok.injEq] at hfirst
      rw [hone hother, hload, Except.ok.injEq] at hsecond
      rw [← hfirst, ← hsecond])
  obtain rfl : artifacts = sent := loop_unique hagain hcollect
  refine (hiff himports).mpr ?_ ref (List.mem_singleton_self _) (by decide) _ hload
  intro _ href _ name tag hparse
  rw [List.mem_singleton.mp href] at hparse ⊢
  have hparts : (utf8 "visa", utf8 "v1.0.0") = (name, tag) := Except.ok.inj hparse
  cases hparts
  exact ⟨ref, utf8 "v1.0.0", .start (List.mem_singleton_self _), by decide, by decide, rfl⟩

/-- The reserved reference loads on the Mixer.  The Rack files what is sent for it under
the name `urn:flux:spec:visa`, and looks it up under the name `visa`. -/
theorem reserved_spec_undelivered :
    let ref := utf8 "urn:flux:spec:visa:v1.0.0"
    let sent : List SpecArtifact := [⟨utf8 "urn:flux:spec:visa", utf8 "v1.0.0", utf8 "one"⟩]
    gearRefs (oneSpec ref) = [ref] ∧
    visaStore.load plainLibraries id ref = .ok (utf8 "one") ∧
    collectSpecs plainLibraries id (fun _ => none) visaStore (oneSpec ref) 2 = some sent ∧
    (shelfAt plainLibraries (rackSteps sent) 1).filed plainLibraries
        (.importArtifact 0 ⟨utf8 "one", [], utf8 "urn:flux:spec:visa", utf8 "v1.0.0", .spec⟩) =
      some (.spec, ⟨List.replicate 64 49, utf8 "urn:flux:spec:visa", utf8 "v1.0.0"⟩) ∧
    ((rackShelf plainLibraries sent).memory 0).map (fun memory =>
        Manager.load id lengthSemver memory (rackShelf plainLibraries sent).blobs ref) =
      some (.error (utf8 "artifact not found: visa")) := by
  intro ref sent
  refine ⟨by decide, rfl, by decide +kernel, by decide +kernel, rfl⟩

end Fluxrig.Controller
