import Fluxrig.Manager.Load

/-!
# What was imported is what loads

Every name in an index is that of a document that was imported, and every stored content
lies under its own hash.  A manager that has filed a document therefore finds its bytes
again at any later time, by the short and by the reserved form of its reference, if no
spec stands in front of it and its name does not make the short form a reserved one.
-/

namespace Fluxrig.Manager

open Fluxrig.Core Message
open Iso8583 (validString)

section

variable {libs : Libraries} {steps : List Step} {shelf : Shelf} {step : Step}
  {index mine theirs : Index}

/-- The names and the versions of the index are those of documents that the steps
import. -/
structure Named (libs : Libraries) (steps : List Step) (index : Index) : Prop where
  names : ∀ kind name, name ∈ index.artifacts kind →
    ∃ mgr req, Step.importArtifact mgr req ∈ steps ∧ req.kind = kind ∧ req.finalName libs = name
  versions : ∀ kind name tag hash, tag ≠ latest → index.recorded kind name tag = some hash →
    ∃ mgr req current, Step.importArtifact mgr req ∈ steps ∧
      req.kind = kind ∧ hash = libs.digest.hash req.content ∧
      req.finalName libs = name ∧ req.finalTag libs current = tag

/-- All that the shelf holds comes from the steps. -/
structure Shelf.Sourced (libs : Libraries) (steps : List Step) (shelf : Shelf) : Prop where
  disk : Named libs steps shelf.disk
  memory : ∀ mgr memory, shelf.memory mgr = some memory → Named libs steps memory
  blobs : ∀ hash content, shelf.blobs hash = some content →
    hash = libs.digest.hash content ∧
      ∃ mgr req, Step.importArtifact mgr req ∈ steps ∧ req.content = content

lemma Named.of_agree (hagree : Agree mine theirs) (hmine : Named libs steps mine) :
    Named libs steps theirs where
  names kind name hname := hmine.names kind name ((hagree.names kind name).mpr hname)
  versions kind name tag hash htag hrecorded :=
    hmine.versions kind name tag hash htag ((hagree.recorded kind name tag).trans hrecorded)

lemma named_mergeIndex (hmine : Named libs steps mine) (htheirs : Named libs steps theirs) :
    Named libs steps (mergeIndex mine theirs) where
  names kind name hname := by
    rcases mem_mergeIndex_iff.mp hname with hname | hname
    · exact htheirs.names kind name hname
    · exact hmine.names kind name hname
  versions kind name tag hash htag hrecorded := by
    rw [recorded_mergeIndex, Option.or_eq_some_iff] at hrecorded
    rcases hrecorded with hrecorded | ⟨_, hrecorded⟩
    · exact htheirs.versions kind name tag hash htag hrecorded
    · exact hmine.versions kind name tag hash htag hrecorded

lemma named_empty : Named libs steps Index.empty where
  names kind _ hname := by cases kind <;> nomatch hname
  versions kind _ _ _ _ hrecorded := by cases kind <;> nomatch hrecorded

lemma sourced_start : Shelf.start.Sourced libs steps where
  disk := named_empty
  memory _ _ hmemory := absurd hmemory nofun
  blobs _ _ hblob := absurd hblob nofun

/-- An update adds the name and the version of its document. -/
lemma named_updateIndex {mgr : ℕ} {req : Request} {memory disk : Index}
    (hstep : Step.importArtifact mgr req ∈ steps)
    (hmemory : Named libs steps memory) (hdisk : Named libs steps disk) :
    Named libs steps (updateIndex libs req memory disk).1 := by
  have hmerged := named_mergeIndex hmemory hdisk
  cases hresult : fileVersion libs req (mergeIndex memory disk) with
  | error =>
    simp only [updateIndex, hresult]
    exact hmerged
  | ok result =>
    obtain ⟨changed, filed⟩ := result
    obtain ⟨hfiledValid, hfiled, hchanged, _⟩ := fileVersion_eq_ok hresult
    simp only [updateIndex, hresult, hchanged]
    constructor
    · intro kind name hmem
      rcases mem_enter_iff.mp hmem with hold | ⟨hkind, hnew⟩
      · exact hmerged.names kind name hold
      · exact ⟨mgr, req, hstep, hkind.symm, by grind⟩
    · intro kind name tag hash hversion hrecorded
      by_cases hold : (mergeIndex memory disk).recorded kind name tag = some hash
      · exact hmerged.versions kind name tag hash hversion hold
      · -- the version that was filed
        exact ⟨mgr, req, mergeIndex memory disk, hstep,
          by grind [lookup_enteredTags, recorded_eq_getD]⟩

lemma Shelf.Moves.sourced {next : Shelf} {result : Option (Kind × Filed)}
    (hmoves : shelf.Moves libs step next result) (hkept : shelf.Kept libs)
    (hsourced : shelf.Sourced libs steps) (hmem : step ∈ steps)
    (hnames : NamesValid libs steps) : next.Sourced libs steps := by
  cases hmoves with
  | opened =>
    refine ⟨hsourced.disk, ?_, hsourced.blobs⟩
    intro other memory hmemory
    rcases eq_or_of_update hmemory with ⟨_, hnew⟩ | hold
    · rw [← hnew]
      exact hsourced.disk
    · exact hsourced.memory other memory hold
  | refused => exact hsourced
  | @imported mgr req memory outcome hmemory _ houtcome =>
    have hupdated := @updateIndex_updated libs req memory shelf.disk hkept.orderly
      (hkept.behind mgr memory hmemory) (hnames mgr req hmem)
    have hnamed := named_updateIndex hmem (hsourced.memory mgr memory hmemory) hsourced.disk
    rw [houtcome] at hupdated hnamed
    refine ⟨hnamed.of_agree hupdated.agree, ?_, ?_⟩
    · intro other found hfound
      rcases eq_or_of_update hfound with ⟨_, hnew⟩ | hold
      · rw [← hnew]
        exact hnamed
      · exact hsourced.memory other found hold
    · intro hash content hblob
      rcases eq_or_of_update hblob with ⟨hhash, hnew⟩ | hold
      · rw [← hnew]
        exact ⟨hhash, mgr, req, hmem, rfl⟩
      · exact hsourced.blobs hash content hold

lemma sourced_shelfAt (hnames : NamesValid libs steps) (time : ℕ) :
    (shelfAt libs steps time).Sourced libs steps := by
  apply stateAt_induction sourced_start
  intro time step hstep hsourced
  exact (Shelf.moves libs _ step).sourced (kept_shelfAt hnames time) hsourced
    (List.mem_of_getElem? hstep) hnames

variable {early late : ℕ}

/-- The memory of a manager only grows. -/
lemma memory_shelfAt (hnames : NamesValid libs steps) (hle : early ≤ late)
    {mgr : ℕ} {memory : Index}
    (hmemory : (shelfAt libs steps early).memory mgr = some memory) :
    ∃ later, (shelfAt libs steps late).memory mgr = some later ∧
      Extends libs.semver memory later := by
  refine @stateAt_from _ _ (Shelf.take libs) Shelf.start steps
    (fun shelf => ∃ later, shelf.memory mgr = some later ∧
      Extends libs.semver memory later) early late ⟨memory, hmemory, .refl memory⟩ ?_ hle
  intro time step hstep hbetween
  obtain ⟨between, hbetween, hextends⟩ := hbetween
  obtain ⟨later, hlater, hmore⟩ := (advanced_shelfAt hnames hstep
    (kept_shelfAt hnames time)).extends_memory mgr between hbetween
  exact ⟨later, hlater, hextends.trans hmore⟩

/-- What is stored under a hash may be stored again, but is never gone. -/
lemma Shelf.Moves.blobs {shelf next : Shelf} {step : Step} {result : Option (Kind × Filed)}
    (hmoves : shelf.Moves libs step next result) {hash : Text}
    (hstored : shelf.blobs hash ≠ none) : next.blobs hash ≠ none := by
  cases hmoves with
  | opened | refused => exact hstored
  | imported => exact update_ne_none (Or.inr hstored)

/-- What a successful import has filed, and where it has stored the content. -/
lemma filed_eq_some {shelf : Shelf} {mgr : ℕ} {req : Request} {kind : Kind} {filed : Filed}
    (hfiled : shelf.filed libs (.importArtifact mgr req) = some (kind, filed)) :
    (shelf.take libs (.importArtifact mgr req)).blobs filed.hash ≠ none ∧
      filed.name ≠ [] ∧ libs.semver.isValid filed.tag = true ∧
      filed.hash = libs.digest.hash req.content ∧ kind = req.kind ∧
      filed.name = req.finalName libs ∧
      ∃ current, filed.tag = req.finalTag libs current := by
  have hmoves := Shelf.moves libs shelf (.importArtifact mgr req)
  rw [hfiled] at hmoves
  generalize shelf.take libs (.importArtifact mgr req) = next at hmoves ⊢
  generalize hsome : some (kind, filed) = result at hmoves
  cases hmoves with
  | refused => nomatch hsome
  | @imported _ _ memory outcome hmemory hempty houtcome =>
    rw [updateIndex] at houtcome
    cases hresult : fileVersion libs req (mergeIndex memory shelf.disk) with
    | error => grind [Except.toOption]
    | ok found =>
      obtain ⟨hvalid, hfound, _⟩ := fileVersion_eq_ok hresult
      simp only [hresult] at houtcome
      rw [← houtcome] at hsome
      cases hsome
      have hhash : found.2.hash = libs.digest.hash req.content := by grind
      exact ⟨update_ne_none (Or.inl hhash), by grind, hvalid, hhash, rfl, by grind, _,
        congrArg Filed.tag hfound⟩

lemma blobs_shelfAt (hle : early ≤ late) {hash : Text}
    (hstored : (shelfAt libs steps early).blobs hash ≠ none) :
    (shelfAt libs steps late).blobs hash ≠ none := by
  exact @stateAt_of_le _ _ (Shelf.take libs) Shelf.start steps
    (fun shelf => shelf.blobs hash ≠ none) early late
    (fun shelf step _ => (Shelf.moves libs shelf step).blobs)
    hstored hle

end

/-- No two documents of the run have the same hash. -/
def Collisionless (libs : Libraries) (steps : List Step) : Prop :=
  ∀ mgr req other another, Step.importArtifact mgr req ∈ steps →
    Step.importArtifact other another ∈ steps →
    libs.digest.hash req.content = libs.digest.hash another.content →
    req.content = another.content

section

variable {libs : Libraries} {steps : List Step} {time later mgr : ℕ}
  {req : Request} {kind : Kind} {filed : Filed}

/-- What is stored under the hash of a document is the document. -/
lemma eq_of_stored (hnames : NamesValid libs steps) (hcollisionless : Collisionless libs steps)
    (hmem : Step.importArtifact mgr req ∈ steps) {content : Text}
    (hstored : (shelfAt libs steps later).blobs (libs.digest.hash req.content) =
      some content) : content = req.content := by
  obtain ⟨hsame, other, another, hother, rfl⟩ :=
    (sourced_shelfAt hnames later).blobs _ content hstored
  exact (hcollisionless mgr req other another hmem hother hsame).symm

variable (hnames : NamesValid libs steps)
  (hstep : steps[time]? = some (.importArtifact mgr req))
  (hfiled : (shelfAt libs steps time).filed libs (.importArtifact mgr req) =
    some (kind, filed)) (hlater : time < later)

include hnames hstep hfiled hlater

/-- What a manager has filed it knows at any later time. -/
lemma recorded_later : ∃ memory, (shelfAt libs steps later).memory mgr = some memory ∧
      memory.recorded kind filed.name filed.tag = some filed.hash := by
  have hnext : shelfAt libs steps (time + 1) =
      (shelfAt libs steps time).take libs (.importArtifact mgr req) :=
    stateAt_succ hstep
  obtain ⟨_, _, hvalid, _⟩ := filed_eq_some hfiled
  obtain ⟨after, hafter, hrecorded⟩ := (advanced_shelfAt hnames hstep
    (kept_shelfAt hnames time)).remembered mgr req kind filed rfl hfiled
  rw [← hnext] at hafter
  obtain ⟨memory, hmemory, hextends⟩ := memory_shelfAt hnames hlater hafter
  exact ⟨memory, hmemory, hextends.versions kind filed.name filed.tag filed.hash hvalid hrecorded⟩

lemma getBlob_later (hcollisionless : Collisionless libs steps) :
    getBlob (shelfAt libs steps later).blobs filed.hash = .ok req.content := by
  have hnext : shelfAt libs steps (time + 1) =
      (shelfAt libs steps time).take libs (.importArtifact mgr req) :=
    stateAt_succ hstep
  obtain ⟨hstored, _, _, hhash, _⟩ := filed_eq_some hfiled
  rw [← hnext, hhash] at hstored
  obtain ⟨content, hcontent⟩ := Option.ne_none_iff_exists'.mp (blobs_shelfAt hlater hstored)
  have hsame := eq_of_stored hnames hcollisionless (List.mem_of_getElem? hstep) hcontent
  rw [hhash, ← hsame]
  rw [← hsame] at hcontent
  rw [getBlob, libs.digest.isHash_hash content, hcontent]
  rfl

end

/-- What is imported in between under names in UTF-8 does not matter: at any later time
the manager loads the document by the short and by the reserved form of its reference. -/
theorem imported_artefact_loads (libs : Libraries) (quote : Text → Text)
    (steps : List Step) (hnames : NamesValid libs steps)
    (hcollisionless : Collisionless libs steps)
    (time : ℕ) (mgr : ℕ) (req : Request) (kind : Kind) (filed : Filed)
    (hstep : steps[time]? = some (.importArtifact mgr req))
    (hfiled : (shelfAt libs steps time).filed libs (.importArtifact mgr req) = some (kind, filed))
    (hshort : ¬ urnFluxPrefix <+: shortForm filed.name filed.tag)
    (hfirst : kind = .scenario → ∀ other another, Step.importArtifact other another ∈ steps →
      another.kind = .spec → another.finalName libs ≠ filed.name)
    (later : ℕ) (hlater : time < later) :
    ∃ memory, (shelfAt libs steps later).memory mgr = some memory ∧
      load quote libs.semver memory (shelfAt libs steps later).blobs
        (shortForm filed.name filed.tag) = .ok req.content ∧
      load quote libs.semver memory (shelfAt libs steps later).blobs
        (reservedForm kind filed.name filed.tag) = .ok req.content := by
  obtain ⟨_, hname, hvalid, _⟩ := filed_eq_some hfiled
  obtain ⟨memory, hmemory, hrecorded⟩ := recorded_later hnames hstep hfiled hlater
  have hblob := getBlob_later hnames hstep hfiled hlater hcollisionless
  have hresolve : resolve libs.semver memory filed.name filed.tag = .ok filed.hash := by
    apply resolve_of_recorded hrecorded
    intro hscenario hspec
    obtain ⟨other, another, hother, hkind, hsame⟩ :=
      ((sourced_shelfAt hnames later).memory mgr memory hmemory).names .spec filed.name hspec
    exact hfirst hscenario other another hother hkind hsame
  have htag : filed.tag ≠ [] := by
    intro hempty
    obtain ⟨_, _, hfront, _⟩ := libs.semver.front_of_isValid filed.tag hvalid
    rw [hempty] at hfront
    nomatch hfront
  have hplain := libs.semver.colon_of_isValid filed.tag hvalid
  refine ⟨memory, hmemory, ?_, ?_⟩
  · exact (load_eq_ok_iff (colon_mem_shortForm _ _)).mpr
      ⟨_, _, _, parseURN_shortForm hname htag hplain hshort, hresolve, hblob⟩
  · exact (load_eq_ok_iff (colon_mem_reservedForm _ _ _)).mpr
      ⟨_, _, _, parseURN_reservedForm kind hname htag hplain, hresolve, hblob⟩

/-- A spec and a scenario with a tag each, filed by one manager. -/
def specAndScenario (specName scenarioName : Text) : List Step :=
  [.newManager 0,
    .importArtifact 0 ⟨utf8 "one", [], specName, utf8 "1.0.0", .spec⟩,
    .importArtifact 0 ⟨utf8 "two", [], scenarioName, utf8 "1.0.0", .scenario⟩]

lemma mem_specAndScenario {specName scenarioName : Text} {mgr : ℕ} {req : Request}
    (hmem : Step.importArtifact mgr req ∈ specAndScenario specName scenarioName) :
    req = ⟨utf8 "one", [], specName, utf8 "1.0.0", .spec⟩ ∨
      req = ⟨utf8 "two", [], scenarioName, utf8 "1.0.0", .scenario⟩ := by
  simp only [specAndScenario, List.mem_cons, reduceCtorEq, Step.importArtifact.injEq,
    List.not_mem_nil, or_false, false_or] at hmem
  exact hmem.imp And.right And.right

theorem scenario_beside_spec_loads :
    ∃ memory, (shelfAt plainLibraries (specAndScenario (utf8 "visa") (utf8 "pay")) 3).memory 0 =
        some memory ∧
      load id lengthSemver memory
        (shelfAt plainLibraries (specAndScenario (utf8 "visa") (utf8 "pay")) 3).blobs
        (utf8 "pay:v1.0.0") = .ok (utf8 "two") ∧
      load id lengthSemver memory
        (shelfAt plainLibraries (specAndScenario (utf8 "visa") (utf8 "pay")) 3).blobs
        (utf8 "urn:flux:scenario:pay:v1.0.0") = .ok (utf8 "two") := by
  have hnames : NamesValid plainLibraries (specAndScenario (utf8 "visa") (utf8 "pay")) := by
    intro mgr req hmem
    rcases mem_specAndScenario hmem with rfl | rfl
    · decide +kernel
    · decide +kernel
  have hcollisionless :
      Collisionless plainLibraries (specAndScenario (utf8 "visa") (utf8 "pay")) := by
    intro mgr req other another hmem hother
    rcases mem_specAndScenario hmem with rfl | rfl
    · rcases mem_specAndScenario hother with rfl | rfl
      · exact fun _ => rfl
      · exact fun hhash => absurd hhash (by decide)
    · rcases mem_specAndScenario hother with rfl | rfl
      · exact fun hhash => absurd hhash (by decide)
      · exact fun _ => rfl
  have hfirst : ∀ other another,
      Step.importArtifact other another ∈ specAndScenario (utf8 "visa") (utf8 "pay") →
      another.kind = .spec → another.finalName plainLibraries ≠ utf8 "pay" := by
    intro other another hother hkind
    rcases mem_specAndScenario hother with rfl | rfl
    · decide
    · nomatch hkind
  exact imported_artefact_loads plainLibraries id _ hnames hcollisionless 2 0
    ⟨utf8 "two", [], utf8 "pay", utf8 "1.0.0", .scenario⟩ .scenario
    ⟨List.replicate 64 50, utf8 "pay", utf8 "v1.0.0"⟩ rfl (by decide +kernel) (by decide)
    (fun _ => hfirst) 3 (by decide)

/-- A scenario filed under the name of a spec loads as the spec, by its reserved form of
kind scenario too. -/
theorem scenario_behind_spec :
    let steps := specAndScenario (utf8 "visa") (utf8 "visa")
    (shelfAt plainLibraries steps 2).filed plainLibraries
        (.importArtifact 0 ⟨utf8 "two", [], utf8 "visa", utf8 "1.0.0", .scenario⟩) =
      some (.scenario, ⟨List.replicate 64 50, utf8 "visa", utf8 "v1.0.0"⟩) ∧
    ((shelfAt plainLibraries steps 3).memory 0).map (fun memory =>
        load id lengthSemver memory (shelfAt plainLibraries steps 3).blobs
          (reservedForm .scenario (utf8 "visa") (utf8 "v1.0.0"))) =
      some (.ok (utf8 "one")) := by
  intro steps
  refine ⟨?_, ?_⟩
  · decide +kernel
  · rfl

end Fluxrig.Manager
