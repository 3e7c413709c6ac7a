import Fluxrig.Core.Timeline
import Fluxrig.Manager.Index
import Fluxrig.Registry.Scenario

/-!
# Imports

An import determines the name and the tag of a document, files its bytes under their hash
and enters the hash in the index.  The index is shared by any number of managers: each
merges its copy with the file, changes the result and writes it back under a lock.  A tag
is never given a second hash, and the entry `latest` of a name is that of its highest
version, as long as all names are UTF-8.
-/

namespace Fluxrig.Manager

open Fluxrig.Core Message
open Iso8583 (validString)
open Registry (firstNonEmpty)

/-- The package `golang.org/x/mod/semver`.  Versions are ASCII texts that start with a `v`
and a digit and hold no colon; `compare` is a total preorder. -/
structure Semver where
  isValid : Text → Bool
  compare : Text → Text → Ordering
  canonical : Text → Text
  ordered : Std.TransCmp compare
  front_of_isValid : ∀ tag, isValid tag = true →
    ∃ digit rest, tag = 118 :: digit :: rest ∧ 48 ≤ digit ∧ digit ≤ 57
  colon_of_isValid : ∀ tag, isValid tag = true → 58 ∉ tag
  text_of_isValid : ∀ tag, isValid tag = true → validString tag = true

def latest : Text := utf8 "latest"

section

variable (semver : Semver)

/-- The order of `semver.Sort`: texts break ties. -/
def Semver.less (left right : Text) : Bool :=
  match semver.compare left right with
  | .lt => true
  | .eq => textLess left right
  | .gt => false

/-- The higher of the version found so far and another. -/
def Semver.higher (best : Option Text) (version : Text) : Option Text :=
  match best with
  | none => some version
  | some best => if semver.less best version then some version else some best

/-- The last of the versions when they are sorted. -/
def resolveLatest (tags : Tags) : Option Text :=
  (tags.keys.filter semver.isValid).foldl semver.higher none

def resolveLatestHash (tags : Tags) : Text :=
  match resolveLatest semver tags with
  | none => []
  | some tag => (tags.lookup tag).getD []

/-- `semverTag`: the leading `v`. -/
def semverTag (version : Text) : Text :=
  if version = [] ∨ version.head? = some 118 then version else 118 :: version

/-- The verb `%d` on a text without blanks and signs. -/
def scanInt (text : Text) : Option (ℤ × Text) :=
  let digits := text.takeWhile fun byte => 48 ≤ byte && byte ≤ 57
  let number : ℤ := digits.foldl (fun total digit => total * 10 + (digit.toNat - 48)) 0
  if digits = [] ∨ 2 ^ 63 ≤ number then none else some (number, text.drop digits.length)

/-- `fmt.Sscanf(c, "v%d.%d.%d", ...)`: the first two numbers. -/
def scanVersion (text : Text) : Option (ℤ × ℤ) :=
  match text with
  | 118 :: rest =>
      match scanInt rest with
      | some (major, 46 :: rest) =>
          match scanInt rest with
          | some (minor, 46 :: rest) => (scanInt rest).map fun _ => (major, minor)
          | _ => none
      | _ => none
  | _ => none

def calcNextMinorFrom (artifacts : Artifacts) (name : Text) : Text :=
  let next := (resolveLatest semver ((artifacts.lookup name).getD ∅)).bind fun tag =>
    scanVersion (semver.canonical tag)
  match next with
  | none => utf8 "v0.1.0"
  | some (major, minor) =>
      utf8 "v" ++ Sdl.sprintInt major ++ utf8 "." ++
        Sdl.sprintInt (Sdl.wrapInt (minor + 1)) ++ utf8 ".0"

end

/-- What YAML reads of a document. -/
structure Document where
  specID : Text
  specName : Text
  specVersion : Text
  metaName : Text
  metaVersion : Text
  name : Text
  version : Text

structure SpecHeader where
  name : Text
  version : Text

/-- `parseHeader`; a document that YAML refuses has no header. -/
def parseHeader (document : Option Document) : SpecHeader :=
  match document with
  | none => ⟨[], []⟩
  | some doc =>
      ⟨firstNonEmpty [doc.specID, doc.specName, doc.metaName, doc.name],
        firstNonEmpty [doc.specVersion, doc.specVersion, doc.metaVersion, doc.version]⟩

/-- The 64 lowercase hexadecimal digits that the store takes for a hash. -/
def isHash (text : Text) : Bool :=
  text.length = 64 && text.all fun byte =>
    (48 ≤ byte && byte ≤ 57) || (97 ≤ byte && byte ≤ 102)

/-- SHA-256 in hexadecimal. -/
structure Digest where
  hash : Text → Text
  isHash_hash : ∀ content, isHash (hash content) = true
  text_hash : ∀ content, validString (hash content) = true

/-- What the model takes from libraries. -/
structure Libraries where
  semver : Semver
  digest : Digest
  unmarshal : Text → Option Document

def Kind.text : Kind → Text
  | .spec => utf8 "spec"
  | .scenario => utf8 "scenario"

/-- The arguments of `importArtifact`. -/
structure Request where
  content : Text
  nameFallback : Text
  nameOverride : Text
  tagOverride : Text
  kind : Kind

/-- What a successful import returns. -/
structure Filed where
  hash : Text
  name : Text
  tag : Text
  deriving DecidableEq

section

variable (libs : Libraries)

def Request.header (req : Request) : SpecHeader :=
  parseHeader (libs.unmarshal req.content)

def Request.finalName (req : Request) : Text :=
  firstNonEmpty [req.nameOverride, (req.header libs).name, req.nameFallback]

def Request.finalTag (req : Request) (index : Index) : Text :=
  firstNonEmpty [semverTag req.tagOverride, semverTag (req.header libs).version,
    calcNextMinorFrom libs.semver (index.artifacts req.kind)
      (req.finalName libs)]

/-- The tags of a name with one version entered, and `latest` computed again. -/
def enteredTags (tags : Tags) (tag hash : Text) : Tags :=
  let entered := tags.insert tag hash
  entered.insert latest (resolveLatestHash libs.semver entered)

def enter (index : Index) (kind : Kind) (name tag hash : Text) : Index :=
  index.assign kind name (enteredTags libs (((index.artifacts kind).lookup name).getD ∅) tag hash)

/-- The change that `importArtifact` makes to the index. -/
def fileVersion (req : Request) (index : Index) : Except Text (Index × Filed) :=
  let hash := libs.digest.hash req.content
  let name := req.finalName libs
  let tag := req.finalTag libs index
  if libs.semver.isValid tag = false then
    .error (utf8 "invalid semantic version: " ++ tag ++
      utf8 " (must start with 'v' and follow semver)")
  else
    match index.recorded req.kind name tag with
    | some existing =>
        if existing ≠ hash then
          .error (utf8 "version already exists with different content: " ++ name ++ utf8 ":" ++
            tag ++ utf8 " (immutable). Please increment version")
        else .ok (enter libs index req.kind name tag hash, ⟨hash, name, tag⟩)
    | none => .ok (enter libs index req.kind name tag hash, ⟨hash, name, tag⟩)

/-- The index file as it is read, the stored bytes by their hash, and the index in the
memory of each manager that was opened. -/
structure Shelf where
  disk : Index
  blobs : Text → Option Text
  memory : ℕ → Option Index

/-- `importArtifact` of a manager with the given memory: its new memory, the new file and
the result. -/
def updateIndex (req : Request) (memory disk : Index) : Index × Index × Except Text Filed :=
  let current := mergeIndex memory disk
  match fileVersion libs req current with
  | .error failure => (current, disk, .error failure)
  | .ok (changed, filed) => (changed, changed.reread, .ok filed)

def importArtifact (shelf : Shelf) (mgr : ℕ) (req : Request) (memory : Index) :
    Shelf × Except Text Filed :=
  if req.finalName libs = [] then
    (shelf, .error (req.kind.text ++ utf8 " declares no name and none was given"))
  else
    let (current, disk, result) := updateIndex libs req memory shelf.disk
    ({ disk := disk
       blobs := Function.update shelf.blobs (libs.digest.hash req.content) (some req.content)
       memory := Function.update shelf.memory mgr (some current) }, result)

/-- A manager is opened, in any process, or imports a document. -/
inductive Step where
  | newManager (mgr : ℕ)
  | importArtifact (mgr : ℕ) (req : Request)

namespace Shelf

def start : Shelf := ⟨Index.empty, fun _ => none, fun _ => none⟩

def take (shelf : Shelf) : Step → Shelf
  | .newManager mgr =>
      { shelf with memory := Function.update shelf.memory mgr (some shelf.disk) }
  | .importArtifact mgr req =>
      match shelf.memory mgr with
      | none => shelf
      | some memory => (Manager.importArtifact libs shelf mgr req memory).1

/-- The kind of the document and the result, if the step is a successful import. -/
def filed (shelf : Shelf) : Step → Option (Kind × Filed)
  | .newManager _ => none
  | .importArtifact mgr req =>
      match shelf.memory mgr with
      | none => none
      | some memory =>
          match (Manager.importArtifact libs shelf mgr req memory).2 with
          | .error _ => none
          | .ok result => some (req.kind, result)

end Shelf

def shelfAt (steps : List Step) (time : ℕ) : Shelf :=
  stateAt (Shelf.take libs) Shelf.start steps time

end

end Fluxrig.Manager
