import Fluxrig.Manager.Import

/-!
# The index over whole runs

The memory of a manager is always behind the file: each version it knows is in the file
under the same hash.  A merge is therefore the file, whichever manager makes it, and each
artefact that is imported adds one version to it.
-/

namespace Fluxrig.Manager

open Fluxrig.Core Message
open Iso8583 (validString)

section

variable {semver : Semver} {tags : Tags} {tag best : Text}

lemma latest_isValid : semver.isValid latest = false := by
  apply Bool.eq_false_of_not_eq_true
  intro hvalid
  obtain ⟨digit, rest, heq, _⟩ := semver.front_of_isValid latest hvalid
  have hfront : latest.head? = some 118 := congrArg List.head? heq
  exact absurd hfront (by decide)

lemma ne_latest_of_isValid (hvalid : semver.isValid tag = true) : tag ≠ latest := by
  intro heq
  rw [heq, latest_isValid] at hvalid
  nomatch hvalid

/-- No version of the list is above `best`. -/
def Semver.Tops (semver : Semver) (best : Text) (versions : List Text) : Prop :=
  ∀ version ∈ versions, (semver.compare version best).isLE = true

/-- The higher of two versions is one of them, and neither is above it. -/
lemma less_spec (old version : Text) :
    if semver.less old version then (semver.compare old version).isLE = true
    else (semver.compare version old).isLE = true := by
  have := semver.ordered
  have hswap := @Std.OrientedCmp.eq_swap _ semver.compare _ version old
  cases hcompare : semver.compare old version <;>
    grind [Semver.less, Ordering.swap, Ordering.isLE]

lemma foldl_higher_spec (versions : List Text) {found : Option Text}
    (hbest : versions.foldl semver.higher found = some best) :
    best ∈ found.toList ++ versions ∧ semver.Tops best (found.toList ++ versions) := by
  have := semver.ordered
  have htrans : ∀ low middle high, (semver.compare low middle).isLE = true →
      (semver.compare middle high).isLE = true → (semver.compare low high).isLE = true :=
    fun _ _ _ => Std.TransCmp.isLE_trans
  have hless := @less_spec semver
  induction versions generalizing found with
  | nil => grind [Semver.Tops]
  | cons version _ ih =>
    have hrest := ih hbest
    cases found with
    | none => grind [Semver.higher]
    | some old =>
      have hchosen := hless old version
      by_cases hlower : semver.less old version = true <;>
        simp [Semver.higher, Semver.Tops, hlower] at hrest hchosen ⊢ <;> grind

/-- The latest tag is a version of the name, and none is above it. -/
lemma resolveLatest_spec (hbest : resolveLatest semver tags = some best) :
    best ∈ tags ∧ semver.isValid best = true ∧ ∀ other ∈ tags, semver.isValid other = true →
        (semver.compare other best).isLE = true := by
  obtain ⟨hmem, htops⟩ := foldl_higher_spec _ hbest
  obtain ⟨htag, hvalid⟩ := List.mem_filter.mp hmem
  refine ⟨htag, hvalid, ?_⟩
  intro other hother hotherValid
  exact htops other (List.mem_filter.mpr ⟨hother, hotherValid⟩)

lemma foldl_higher_ne_none (versions : List Text) {found : Option Text}
    (hsome : found ≠ none ∨ versions ≠ []) : versions.foldl semver.higher found ≠ none := by
  induction versions generalizing found with
  | nil => exact hsome.resolve_right fun hne => hne rfl
  | cons version _ ih =>
    apply ih
    cases found <;> grind [Semver.higher]

lemma exists_resolveLatest (htag : tag ∈ tags) (hvalid : semver.isValid tag = true) :
    ∃ best, resolveLatest semver tags = some best := by
  have hversion : tag ∈ tags.keys.filter semver.isValid := List.mem_filter.mpr ⟨htag, hvalid⟩
  exact Option.ne_none_iff_exists'.mp
    (foldl_higher_ne_none _ (Or.inr (List.ne_nil_of_mem hversion)))

end

section

/-- Every version stays under its hash, and every entry and every name stays. -/
structure Extends (semver : Semver) (before after : Index) : Prop where
  versions : ∀ kind name tag hash, semver.isValid tag = true →
    before.recorded kind name tag = some hash → after.recorded kind name tag = some hash
  entries : ∀ kind name tag, before.recorded kind name tag ≠ none →
    after.recorded kind name tag ≠ none
  names : ∀ kind name, name ∈ before.artifacts kind → name ∈ after.artifacts kind

/-- The two record the same under the same names. -/
structure Agree (left right : Index) : Prop where
  recorded : ∀ kind name tag, left.recorded kind name tag = right.recorded kind name tag
  names : ∀ kind name, name ∈ left.artifacts kind ↔ name ∈ right.artifacts kind

/-- `latest` of every name is the hash of one of its versions, and none of its versions is
above that one. -/
def LatestHighest (semver : Semver) (index : Index) : Prop :=
  ∀ kind name, name ∈ index.artifacts kind →
    ∃ best hash, semver.isValid best = true ∧ index.recorded kind name best = some hash ∧
      index.recorded kind name latest = some hash ∧
      ∀ other, semver.isValid other = true → index.recorded kind name other ≠ none →
        (semver.compare other best).isLE = true

variable {libs : Libraries} {semver : Semver} {index left right : Index}
  {kind other : Kind} {name another tag hash : Text}

lemma Extends.refl (index : Index) : Extends semver index index where
  versions _ _ _ _ _ hrecorded := hrecorded
  entries _ _ _ hrecorded := hrecorded
  names _ _ hname := hname

lemma Extends.trans {third : Index} (hfirst : Extends semver left right)
    (hsecond : Extends semver right third) : Extends semver left third where
  versions kind name tag hash hvalid hrecorded :=
    hsecond.versions kind name tag hash hvalid (hfirst.versions kind name tag hash hvalid hrecorded)
  entries kind name tag hrecorded :=
    hsecond.entries kind name tag (hfirst.entries kind name tag hrecorded)
  names kind name hname := hsecond.names kind name (hfirst.names kind name hname)

lemma Agree.extends (hagree : Agree left right) : Extends semver left right where
  versions kind name tag hash _ hrecorded := (hagree.recorded kind name tag).symm.trans hrecorded
  entries kind name tag hrecorded := by
    rw [← hagree.recorded]
    exact hrecorded
  names kind name hname := (hagree.names kind name).mp hname

lemma Agree.symm (hagree : Agree left right) : Agree right left where
  recorded kind name tag := (hagree.recorded kind name tag).symm
  names kind name := (hagree.names kind name).symm

lemma Agree.latestHighest (hagree : Agree left right) (hlatest : LatestHighest semver right) :
    LatestHighest semver left := by
  intro kind name hname
  obtain ⟨best, hash, hvalid, hbest, hrecorded, htops⟩ :=
    hlatest kind name ((hagree.names kind name).mp hname)
  refine ⟨best, hash, hvalid, (hagree.recorded _ _ _).trans hbest,
    (hagree.recorded _ _ _).trans hrecorded, ?_⟩
  intro other hother hentry
  rw [hagree.recorded] at hentry
  exact htops other hother hentry

lemma Agree.clean (hagree : Agree left right) (hclean : right.Clean) : left.Clean where
  names kind name hname := hclean.names kind name ((hagree.names kind name).mp hname)
  entries kind name tag hash hrecorded :=
    hclean.entries kind name tag hash ((hagree.recorded kind name tag).symm.trans hrecorded)

/-- A merge with a file that is ahead is the file. -/
lemma agree_mergeIndex (hextends : Extends semver left right) :
    Agree (mergeIndex left right) right where
  recorded kind name tag := by
    rw [recorded_mergeIndex]
    cases hright : right.recorded kind name tag with
    | some => rfl
    | none =>
      by_contra hleft
      exact hextends.entries kind name tag hleft hright
  names kind name := by
    rw [mem_mergeIndex_iff]
    exact ⟨fun hname => hname.elim id (hextends.names kind name), Or.inl⟩

lemma agree_reread (hclean : index.Clean) : Agree index.reread index where
  recorded _ _ _ := recorded_reread hclean
  names _ _ := mem_reread_iff hclean

section

variable {tags : Tags}

lemma lookup_enteredTags (old : Text) : (enteredTags libs tags tag hash).lookup old =
      if old = latest then some (resolveLatestHash libs.semver (tags.insert tag hash))
      else if old = tag then some hash else tags.lookup old := by
  rw [enteredTags]
  grind [AList.lookup_insert, AList.lookup_insert_ne]

section

variable (hvalid : libs.semver.isValid tag = true)

include hvalid

/-- The hash that `latest` gets is that of the highest version. -/
lemma resolveLatestHash_spec :
    ∃ best, libs.semver.isValid best = true ∧ (tags.insert tag hash).lookup best =
        some (resolveLatestHash libs.semver (tags.insert tag hash)) ∧
      ∀ old ∈ tags.insert tag hash, libs.semver.isValid old = true →
        (libs.semver.compare old best).isLE = true := by
  have htag : tag ∈ tags.insert tag hash := (AList.mem_insert tags).mpr (Or.inl rfl)
  obtain ⟨best, hbest⟩ := exists_resolveLatest htag hvalid
  obtain ⟨hmem, hbestValid, htops⟩ := resolveLatest_spec hbest
  obtain ⟨found, hfound⟩ := Option.isSome_iff_exists.mp (AList.lookup_isSome.mpr hmem)
  refine ⟨best, hbestValid, ?_, htops⟩
  rw [resolveLatestHash, hbest]
  change _ = some (((tags.insert tag hash).lookup best).getD [])
  rw [hfound, Option.getD_some]

lemma enteredTags_latest : ∃ best found, libs.semver.isValid best = true ∧
      (enteredTags libs tags tag hash).lookup best = some found ∧
      (enteredTags libs tags tag hash).lookup latest = some found ∧
      ∀ old, libs.semver.isValid old = true → (enteredTags libs tags tag hash).lookup old ≠ none →
          (libs.semver.compare old best).isLE = true := by
  have hversion : ∀ old, libs.semver.isValid old = true →
      (enteredTags libs tags tag hash).lookup old = (tags.insert tag hash).lookup old := by
    intro old hold
    rw [enteredTags, AList.lookup_insert_ne (ne_latest_of_isValid hold)]
  obtain ⟨best, hbest, hfound, htops⟩ := @resolveLatestHash_spec libs tag hash tags hvalid
  refine ⟨best, _, hbest, (hversion best hbest).trans hfound, AList.lookup_insert _, ?_⟩
  intro old hold hentry
  rw [hversion old hold] at hentry
  exact htops old (AList.lookup_isSome.mp (Option.isSome_iff_ne_none.mpr hentry)) hold

/-- It is the new one or was there before. -/
lemma resolveLatestHash_cases :
    resolveLatestHash libs.semver (tags.insert tag hash) = hash ∨ ∃ old, tags.lookup old =
        some (resolveLatestHash libs.semver (tags.insert tag hash)) := by
  obtain ⟨best, _, hfound, _⟩ := @resolveLatestHash_spec libs tag hash tags hvalid
  by_cases hsame : best = tag
  · rw [hsame, AList.lookup_insert, Option.some.injEq] at hfound
    exact Or.inl hfound.symm
  · rw [AList.lookup_insert_ne hsame] at hfound
    exact Or.inr ⟨best, hfound⟩

end

end

/-- What is recorded after an import. -/
@[grind =]
lemma recorded_enter {old : Text} :
    (enter libs index kind name tag hash).recorded other another old =
      if other = kind ∧ another = name then
        (enteredTags libs (((index.artifacts kind).lookup name).getD ∅) tag hash).lookup old
      else index.recorded other another old := by
  split
  next hsame =>
    rw [hsame.1, hsame.2, Index.recorded, enter, lookup_assign_self]
    rfl
  next hne =>
    rw [Index.recorded, enter, lookup_assign_of_ne _ hne]
    rfl

lemma recorded_eq_getD {old : Text} :
    index.recorded kind name old = (((index.artifacts kind).lookup name).getD ∅).lookup old := by
  rw [Index.recorded]
  cases (index.artifacts kind).lookup name with
  | none | some => rfl

lemma mem_enter_iff : another ∈ (enter libs index kind name tag hash).artifacts other ↔
      another ∈ index.artifacts other ∨ other = kind ∧ another = name := by
  rw [← AList.lookup_isSome, ← AList.lookup_isSome]
  by_cases hsame : other = kind ∧ another = name
  · rw [hsame.1, hsame.2, enter, lookup_assign_self]
    simp
  · rw [enter, lookup_assign_of_ne _ hsame]
    simp [hsame]

/-- A version that is new, or entered under its hash again, leaves the others. -/
lemma enter_extends
    (hnew : ∀ existing, index.recorded kind name tag = some existing → existing = hash) :
    Extends libs.semver index (enter libs index kind name tag hash) := by
  have hversion := @ne_latest_of_isValid libs.semver
  constructor <;> grind [lookup_enteredTags, recorded_eq_getD, mem_enter_iff]

lemma enter_latestHighest (hvalid : libs.semver.isValid tag = true)
    (hlatest : LatestHighest libs.semver index) :
    LatestHighest libs.semver (enter libs index kind name tag hash) := by
  intro other another hname
  by_cases hsame : other = kind ∧ another = name
  · simp only [recorded_enter, if_pos hsame]
    exact enteredTags_latest hvalid
  · simp only [recorded_enter, if_neg hsame]
    exact hlatest other another ((mem_enter_iff.mp hname).resolve_right hsame)

lemma validString_latest : validString latest = true := by decide +kernel

lemma enter_clean (hvalid : libs.semver.isValid tag = true) (hclean : index.Clean)
    (hname : validString name = true) (hhash : validString hash = true) :
    (enter libs index kind name tag hash).Clean where
  names other another hmem := by
    have hold := hclean.names other another
    grind [mem_enter_iff]
  entries other another old found hrecorded := by
    have hold := hclean.entries other another
    have htext := libs.semver.text_of_isValid tag hvalid
    rcases @resolveLatestHash_cases libs tag hash
      (((index.artifacts kind).lookup name).getD ∅) hvalid with hnew | ⟨best, hbest⟩
    · grind [lookup_enteredTags, recorded_eq_getD, validString_latest]
    · rw [← recorded_eq_getD] at hbest
      grind [lookup_enteredTags, recorded_eq_getD, validString_latest]

end

section

variable {libs : Libraries} {req : Request} {index memory disk changed : Index}
  {filed : Filed}

/-- What a change of the index that succeeds has done. -/
lemma fileVersion_eq_ok (hok : fileVersion libs req index = .ok (changed, filed)) :
    libs.semver.isValid filed.tag = true ∧
      filed = ⟨libs.digest.hash req.content, req.finalName libs, req.finalTag libs index⟩ ∧
      changed = enter libs index req.kind filed.name filed.tag filed.hash ∧
      ∀ existing, index.recorded req.kind filed.name filed.tag = some existing →
        existing = filed.hash := by
  grind [fileVersion]

/-- The file as it should be. -/
structure Orderly (libs : Libraries) (disk : Index) : Prop where
  clean : disk.Clean
  latest : LatestHighest libs.semver disk

/-- An update by a manager whose memory is behind the file extends both, leaves them alike
and the file orderly, and records what it returns. -/
structure Updated (libs : Libraries) (kind : Kind) (memory disk : Index)
    (outcome : Index × Index × Except Text Filed) : Prop where
  orderly : Orderly libs outcome.2.1
  extends_memory : Extends libs.semver memory outcome.1
  extends_disk : Extends libs.semver disk outcome.2.1
  agree : Agree outcome.1 outcome.2.1
  recorded : ∀ filed, outcome.2.2 = .ok filed →
    outcome.1.recorded kind filed.name filed.tag = some filed.hash ∧
      outcome.2.1.recorded kind filed.name filed.tag = some filed.hash

lemma updateIndex_updated (horderly : Orderly libs disk)
    (hbehind : Extends libs.semver memory disk)
    (hname : validString (req.finalName libs) = true) :
    Updated libs req.kind memory disk (updateIndex libs req memory disk) := by
  have hagree := agree_mergeIndex hbehind
  have hmerged := hbehind.trans hagree.symm.extends
  cases hresult : fileVersion libs req (mergeIndex memory disk) with
  | error =>
    simp only [updateIndex, hresult]
    exact ⟨horderly, hmerged, .refl disk, hagree, nofun⟩
  | ok result =>
    obtain ⟨changed, filed⟩ := result
    obtain ⟨hvalid, hfiled, hchanged, hnew⟩ := fileVersion_eq_ok hresult
    have hclean : changed.Clean := by
      rw [hchanged]
      apply enter_clean hvalid (hagree.clean horderly.clean)
      · rw [hfiled]
        exact hname
      · rw [hfiled]
        exact libs.digest.text_hash req.content
    have hlatest : LatestHighest libs.semver changed := by
      rw [hchanged]
      exact enter_latestHighest hvalid (hagree.latestHighest horderly.latest)
    have hextends : Extends libs.semver (mergeIndex memory disk) changed := by
      rw [hchanged]
      exact enter_extends hnew
    have hrecorded : changed.recorded req.kind filed.name filed.tag = some filed.hash := by
      grind [lookup_enteredTags, ne_latest_of_isValid]
    have hreread := agree_reread hclean
    simp only [updateIndex, hresult]
    refine ⟨⟨hreread.clean hclean, hreread.latestHighest hlatest⟩, hmerged.trans hextends,
      (hagree.symm.extends.trans hextends).trans hreread.symm.extends,
      hreread.symm, ?_⟩
    intro found hfound
    rw [← Except.ok.inj hfound]
    exact ⟨hrecorded, (hreread.recorded _ _ _).trans hrecorded⟩

variable {shelf : Shelf} {steps : List Step} {step : Step}

/-- The file is orderly and every manager is behind it. -/
structure Shelf.Kept (libs : Libraries) (shelf : Shelf) : Prop where
  orderly : Orderly libs shelf.disk
  behind : ∀ mgr memory, shelf.memory mgr = some memory → Extends libs.semver memory shelf.disk

/-- The documents that are imported have names in UTF-8. -/
def NamesValid (libs : Libraries) (steps : List Step) : Prop :=
  ∀ mgr req, Step.importArtifact mgr req ∈ steps → validString (req.finalName libs) = true

lemma kept_start : Shelf.start.Kept libs where
  orderly :=
    { clean := ⟨fun kind _ hname => by cases kind <;> exact absurd hname nofun,
        fun kind _ _ _ hrecorded => by cases kind <;> exact absurd hrecorded nofun⟩
      latest := fun kind _ hname => by cases kind <;> exact absurd hname nofun }
  behind _ _ hmemory := absurd hmemory nofun

/-- What a step does: the shelf after it, and what it has filed. -/
inductive Shelf.Moves (libs : Libraries) (shelf : Shelf) :
    Step → Shelf → Option (Kind × Filed) → Prop where
  | opened (mgr : ℕ) :
      Moves libs shelf (.newManager mgr)
        { shelf with memory := Function.update shelf.memory mgr (some shelf.disk) } none
  | refused (mgr : ℕ) (req : Request) : Moves libs shelf (.importArtifact mgr req) shelf none
  | imported {mgr : ℕ} {req : Request} {memory : Index}
      {outcome : Index × Index × Except Text Filed}
      (hmemory : shelf.memory mgr = some memory)
      (hname : req.finalName libs ≠ [])
      (houtcome : updateIndex libs req memory shelf.disk = outcome) :
      Moves libs shelf (.importArtifact mgr req)
        { disk := outcome.2.1
          blobs := Function.update shelf.blobs (libs.digest.hash req.content) (some req.content)
          memory := Function.update shelf.memory mgr (some outcome.1) }
        (outcome.2.2.toOption.map fun filed => (req.kind, filed))

lemma Shelf.moves (libs : Libraries) (shelf : Shelf) (step : Step) :
    shelf.Moves libs step (shelf.take libs step) (shelf.filed libs step) := by
  cases step with
  | newManager mgr => exact .opened mgr
  | importArtifact mgr req =>
    cases hmemory : shelf.memory mgr with
    | none =>
      simp only [Shelf.take, Shelf.filed, hmemory]
      exact .refused mgr req
    | some memory =>
      by_cases hempty : req.finalName libs = []
      · simp only [Shelf.take, Shelf.filed, hmemory, importArtifact, if_pos hempty]
        exact .refused mgr req
      · have hmove := Moves.imported hmemory hempty rfl
        simp only [Shelf.take, Shelf.filed, hmemory, importArtifact, if_neg hempty]
        cases hresult : (updateIndex libs req memory shelf.disk).2.2 with
        | error | ok =>
          rw [hresult] at hmove
          exact hmove

/-- What one step of a kept shelf does. -/
structure Shelf.Advanced (libs : Libraries) (shelf : Shelf) (step : Step) (next : Shelf)
    (result : Option (Kind × Filed)) : Prop where
  kept : next.Kept libs
  extends_disk : Extends libs.semver shelf.disk next.disk
  extends_memory : ∀ mgr memory, shelf.memory mgr = some memory →
    ∃ later, next.memory mgr = some later ∧ Extends libs.semver memory later
  recorded : ∀ kind filed, result = some (kind, filed) →
    next.disk.recorded kind filed.name filed.tag = some filed.hash
  remembered : ∀ mgr req kind filed, step = .importArtifact mgr req →
    result = some (kind, filed) → ∃ memory, next.memory mgr = some memory ∧
      memory.recorded kind filed.name filed.tag = some filed.hash

/-- The managers whose memory is not replaced know what they knew. -/
lemma extends_update {mgr other : ℕ} {memory mine : Index}
    (hmine : ∀ known, shelf.memory mgr = some known → Extends libs.semver known mine)
    (hmemory : shelf.memory other = some memory) :
    ∃ later, Function.update shelf.memory mgr (some mine) other = some later ∧
      Extends libs.semver memory later := by
  by_cases hother : other = mgr
  · rw [hother, Function.update_self]
    exact ⟨mine, rfl, hmine memory (hother ▸ hmemory)⟩
  · rw [Function.update_of_ne hother]
    exact ⟨memory, hmemory, .refl memory⟩

lemma Shelf.Moves.advanced {next : Shelf} {result : Option (Kind × Filed)}
    (hmoves : shelf.Moves libs step next result) (hkept : shelf.Kept libs)
    (hname : ∀ mgr req, step = .importArtifact mgr req →
      validString (req.finalName libs) = true) :
    shelf.Advanced libs step next result := by
  cases hmoves with
  | opened mgr =>
    refine ⟨⟨hkept.orderly, ?_⟩, .refl shelf.disk, ?_, nofun, nofun⟩
    · intro other memory hmemory
      rcases eq_or_of_update hmemory with ⟨_, hnew⟩ | hold
      · rw [← hnew]
        exact .refl shelf.disk
      · exact hkept.behind other memory hold
    · exact fun other memory hmemory => extends_update (hkept.behind mgr) hmemory
  | refused =>
    exact ⟨hkept, .refl shelf.disk, fun _ memory hmemory => ⟨memory, hmemory, .refl memory⟩,
      nofun, nofun⟩
  | @imported mgr req memory outcome hmemory _ houtcome =>
    have hupdated := @updateIndex_updated libs req memory shelf.disk hkept.orderly
      (hkept.behind mgr memory hmemory) (hname mgr req rfl)
    rw [houtcome] at hupdated
    have hresult : ∀ kind filed,
        (outcome.2.2.toOption.map fun filed => (req.kind, filed)) = some (kind, filed) →
          kind = req.kind ∧ outcome.2.2 = .ok filed := by
      cases outcome.2.2 <;> grind [Except.toOption]
    refine ⟨⟨hupdated.orderly, ?_⟩, hupdated.extends_disk, ?_, ?_, ?_⟩
    · -- The other managers stay behind the file.
      intro other found hfound
      rcases eq_or_of_update hfound with ⟨_, hnew⟩ | hold
      · rw [← hnew]
        exact hupdated.agree.extends
      · exact (hkept.behind other found hold).trans hupdated.extends_disk
    · intro other found hfound
      apply extends_update _ hfound
      intro known hknown
      rw [hmemory, Option.some.injEq] at hknown
      exact hknown ▸ hupdated.extends_memory
    · intro kind filed hfiled
      obtain ⟨rfl, hok⟩ := hresult kind filed hfiled
      exact (hupdated.recorded filed hok).2
    · intro other asked kind filed hstep hfiled
      obtain ⟨rfl, hok⟩ := hresult kind filed hfiled
      rw [Step.importArtifact.injEq] at hstep
      rw [← hstep.1]
      exact ⟨_, Function.update_self _ _ _, (hupdated.recorded filed hok).1⟩

lemma advanced_shelfAt (hnames : NamesValid libs steps) {time : ℕ}
    (hstep : steps[time]? = some step) (hkept : (shelfAt libs steps time).Kept libs) :
    (shelfAt libs steps time).Advanced libs step ((shelfAt libs steps time).take libs step)
      ((shelfAt libs steps time).filed libs step) := by
  apply (Shelf.moves libs _ step).advanced hkept
  intro mgr req heq
  rw [heq] at hstep
  exact hnames mgr req (List.mem_of_getElem? hstep)

lemma kept_shelfAt (hnames : NamesValid libs steps) (time : ℕ) :
    (shelfAt libs steps time).Kept libs := by
  apply stateAt_induction kept_start
  intro time step hstep hkept
  exact (advanced_shelfAt hnames hstep hkept).kept

lemma extends_shelfAt (hnames : NamesValid libs steps) {early late : ℕ} (hle : early ≤ late) :
    Extends libs.semver (shelfAt libs steps early).disk (shelfAt libs steps late).disk := by
  refine @stateAt_from _ _ (Shelf.take libs) Shelf.start steps
    (fun shelf => Extends libs.semver (shelfAt libs steps early).disk shelf.disk)
    early late (.refl _) ?_ hle
  intro time step hstep hextends
  exact hextends.trans (advanced_shelfAt hnames hstep (kept_shelfAt hnames time)).extends_disk

end

/-- The letter `v` and a digit. -/
def startsVersion : Text → Bool
  | 118 :: digit :: _ => 48 ≤ digit && digit ≤ 57
  | _ => false

/-- Versions are texts with a leading `v` and a digit; longer ones are higher. -/
def lengthSemver : Semver where
  isValid tag := startsVersion tag && !tag.contains 58 && validString tag
  compare := compareOn List.length
  canonical := id
  ordered := inferInstance
  front_of_isValid tag hvalid := by
    simp only [Bool.and_eq_true] at hvalid
    have hfront := hvalid.1.1
    rw [startsVersion.eq_def] at hfront
    split at hfront
    · next digit rest =>
        simp only [Bool.and_eq_true, decide_eq_true_eq] at hfront
        exact ⟨digit, rest, rfl, hfront⟩
    · nomatch hfront
  colon_of_isValid tag hvalid := by
    simp only [Bool.and_eq_true, Bool.not_eq_true', List.contains_eq_mem,
      decide_eq_false_iff_not] at hvalid
    exact hvalid.1.2
  text_of_isValid tag hvalid := by
    simp only [Bool.and_eq_true] at hvalid
    exact hvalid.2

/-- A digest that tells one document from all others. -/
def oneDigest : Digest where
  hash content := List.replicate 64 (if content = utf8 "one" then 49 else 50)
  isHash_hash content := by
    split <;> decide +kernel
  text_hash content := by
    split <;> decide +kernel

def plainLibraries : Libraries := ⟨lengthSemver, oneDigest, fun _ => none⟩

/-- An import of a spec under a given name and tag. -/
def plainRequest (content name tag : Text) : Request := ⟨content, [], name, tag, .spec⟩

/-- Over every interleaving of imports under names in UTF-8, the hash on disk of a version
stays, every successful import is recorded, and `latest` is the hash of a version that no
recorded version exceeds. -/
theorem version_index_integrity (libs : Libraries) (steps : List Step)
    (hnames : NamesValid libs steps) :
    (∀ early late kind name tag hash, early ≤ late → libs.semver.isValid tag = true →
      (shelfAt libs steps early).disk.recorded kind name tag = some hash →
      (shelfAt libs steps late).disk.recorded kind name tag = some hash) ∧
    (∀ time step kind filed, steps[time]? = some step →
      (shelfAt libs steps time).filed libs step = some (kind, filed) →
      (shelfAt libs steps (time + 1)).disk.recorded kind filed.name filed.tag = some filed.hash) ∧
    ∀ time, LatestHighest libs.semver (shelfAt libs steps time).disk := by
  refine ⟨?_, ?_, ?_⟩
  · intro early late kind name tag hash hle hvalid hrecorded
    exact (extends_shelfAt hnames hle).versions kind name tag hash hvalid hrecorded
  · intro time step kind filed hstep hfiled
    have hnext : shelfAt libs steps (time + 1) =
        (shelfAt libs steps time).take libs step := stateAt_succ hstep
    rw [hnext]
    exact (advanced_shelfAt hnames hstep (kept_shelfAt hnames time)).recorded kind filed hfiled
  · intro time
    exact (kept_shelfAt hnames time).orderly.latest

/-- Two managers file two versions of one spec. -/
def twoVersions : List Step :=
  [.newManager 0, .newManager 1,
    .importArtifact 0 (plainRequest (utf8 "one") (utf8 "visa") (utf8 "1.0.0")),
    .importArtifact 1 (plainRequest (utf8 "two") (utf8 "visa") (utf8 "1.10.0"))]

theorem twoVersions_latest :
    LatestHighest lengthSemver (shelfAt plainLibraries twoVersions 4).disk := by
  have hnames : NamesValid plainLibraries twoVersions := by
    intro mgr req hmem
    simp only [twoVersions, List.mem_cons, reduceCtorEq, Step.importArtifact.injEq,
      List.not_mem_nil, or_false, false_or] at hmem
    rcases hmem with ⟨_, rfl⟩ | ⟨_, rfl⟩
    · decide +kernel
    · decide +kernel
  exact (version_index_integrity plainLibraries twoVersions hnames).2.2 4

/-- One manager files two specs under names that are not UTF-8 and have the same tag. -/
def brokenNames : List Step :=
  [.newManager 0,
    .importArtifact 0 (plainRequest (utf8 "one") [0xFE] (utf8 "1.0.0")),
    .importArtifact 0 (plainRequest (utf8 "two") [0xFF] (utf8 "1.0.0"))]

/-- Both names come back from the file as the replacement rune, and the hash recorded
under it changes. -/
theorem recorded_hash_changes :
    (shelfAt plainLibraries brokenNames 2).disk.recorded .spec replacementRune
        (utf8 "v1.0.0") = some (List.replicate 64 49) ∧
      (shelfAt plainLibraries brokenNames 3).disk.recorded .spec replacementRune
        (utf8 "v1.0.0") = some (List.replicate 64 50) := by
  decide +kernel

end Fluxrig.Manager
