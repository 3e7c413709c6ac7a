import Fluxrig.Manager.Integrity
import Fluxrig.Message.Cuts

/-!
# References

`Load` takes a hash, a short reference `name:tag` or a reserved one,
`urn:flux:<kind>:<name>:<tag>`.  It ignores the kind and looks among the specs before the
scenarios.  What a manager has imported it loads again under both forms, unless a spec
stands in front of a scenario of the same name or the short form reads as a reserved one.
-/

namespace Fluxrig.Manager

open Fluxrig.Core Message
open Iso8583 (validString)

def urnFluxPrefix : Text := utf8 "urn:flux:"

def expectedShort (urn : Text) : Text :=
  utf8 "invalid URN format: " ++ urn ++ utf8 " (expected name:tag or hash)"

def expectedReserved (urn : Text) : Text :=
  utf8 "invalid URN format: " ++ urn ++ utf8 " (expected urn:flux:<kind>:<name>:<tag>)"

/-- The split at the last colon, with both sides non-empty. -/
def splitReference (failure : Text) (text : Text) : Except Text (Text × Text) :=
  match cutLast 58 text with
  | none => .error failure
  | some (name, tag) => if name = [] ∨ tag = [] then .error failure else .ok (name, tag)

/-- The name and the tag of a reference.  `quote` is the verb `%q`. -/
def parseURN (quote : Text → Text) (urn : Text) : Except Text (Text × Text) :=
  if urn = [] then .error (expectedShort urn)
  else if urnFluxPrefix <+: urn then
    -- `strings.SplitN(rest, ":", 3)`
    match cutFirst 58 (urn.drop urnFluxPrefix.length) with
    | none => .error (expectedReserved urn)
    | some (kind, rest) =>
        match cutFirst 58 rest with
        | none => .error (expectedReserved urn)
        | some (first, second) =>
            if kind ≠ utf8 "spec" ∧ kind ≠ utf8 "scenario" then
              .error (utf8 "invalid URN kind " ++ quote kind ++ utf8 " in " ++ urn ++
                utf8 " (expected spec or scenario)")
            else splitReference (expectedReserved urn) (first ++ 58 :: second)
  else splitReference (expectedShort urn) urn

/-- `store.Get`. -/
def getBlob (blobs : Text → Option Text) (hash : Text) : Except Text Text :=
  if isHash hash = false then
    .error (utf8 "invalid hash: must be 64 lowercase hex characters")
  else
    match blobs hash with
    | none => .error (utf8 "no such file or directory")
    | some content => .ok content

/-- The tags under which `Load` looks for a name: those of the spec, else those of the
scenario. -/
def tagsOf (index : Index) (name : Text) : Option Tags :=
  match index.specs.lookup name with
  | some tags => some tags
  | none => index.scenarios.lookup name

/-- The hash of a name and a tag. -/
def resolve (semver : Semver) (index : Index) (name tag : Text) : Except Text Text :=
  match tagsOf index name with
  | none => .error (utf8 "artifact not found: " ++ name)
  | some tags =>
      match tags.lookup tag with
      | some hash => .ok hash
      | none =>
          if tag = latest then
            match resolveLatest semver tags with
            | none => .error (utf8 "no versions found for: " ++ name)
            | some version => .ok ((tags.lookup version).getD [])
          else .error (utf8 "version not found: " ++ name ++ utf8 ":" ++ tag)

/-- `Load` of a manager with the given index. -/
def load (quote : Text → Text) (semver : Semver) (index : Index) (blobs : Text → Option Text)
    (urn : Text) : Except Text Text :=
  if isHash urn = true ∧ blobs urn ≠ none then getBlob blobs urn
  else
    match parseURN quote urn with
    | .error failure => .error failure
    | .ok (name, tag) =>
        match resolve semver index name tag with
        | .error failure => .error failure
        | .ok hash => getBlob blobs hash

/-- `name:tag`. -/
def shortForm (name tag : Text) : Text := name ++ 58 :: tag

/-- `urn:flux:<kind>:<name>:<tag>`. -/
def reservedForm (kind : Kind) (name tag : Text) : Text :=
  urnFluxPrefix ++ (kind.text ++ 58 :: shortForm name tag)

lemma colon_mem_shortForm (name tag : Text) : 58 ∈ shortForm name tag := by
  rw [shortForm, List.mem_append]
  exact Or.inr List.mem_cons_self

lemma colon_mem_reservedForm (kind : Kind) (name tag : Text) :
    58 ∈ reservedForm kind name tag := by
  rw [reservedForm, List.mem_append, List.mem_append]
  exact Or.inr (Or.inr List.mem_cons_self)

section

variable {quote : Text → Text} {name tag : Text}

lemma splitReference_shortForm {failure : Text} (hname : name ≠ []) (htag : tag ≠ [])
    (hcolon : 58 ∉ tag) : splitReference failure (shortForm name tag) = .ok (name, tag) := by
  rw [splitReference, shortForm, cutLast_append name hcolon]
  exact if_neg (not_or.mpr ⟨hname, htag⟩)

/-- A short reference that is not a reserved one. -/
lemma parseURN_shortForm (hname : name ≠ []) (htag : tag ≠ []) (hcolon : 58 ∉ tag)
    (hplain : ¬ urnFluxPrefix <+: shortForm name tag) :
    parseURN quote (shortForm name tag) = .ok (name, tag) := by
  have hnonempty : shortForm name tag ≠ [] := by
    exact List.append_ne_nil_of_left_ne_nil hname _
  rw [parseURN, if_neg hnonempty, if_neg hplain]
  exact splitReference_shortForm hname htag hcolon

/-- A reserved reference, whatever the name. -/
lemma parseURN_reservedForm (kind : Kind) (hname : name ≠ []) (htag : tag ≠ [])
    (hcolon : 58 ∉ tag) : parseURN quote (reservedForm kind name tag) = .ok (name, tag) := by
  have hkind : 58 ∉ kind.text := by
    cases kind <;> decide
  have hknown : ¬ (kind.text ≠ utf8 "spec" ∧ kind.text ≠ utf8 "scenario") := by
    cases kind with
    | spec => exact fun hnot => hnot.1 rfl
    | scenario => exact fun hnot => hnot.2 rfl
  obtain ⟨first, second, hcut⟩ := exists_cutFirst (colon_mem_shortForm name tag)
  have hreserved : urnFluxPrefix <+: reservedForm kind name tag := List.prefix_append _ _
  have hrest : (reservedForm kind name tag).drop urnFluxPrefix.length =
      kind.text ++ 58 :: shortForm name tag := List.drop_left
  have hnonempty : reservedForm kind name tag ≠ [] := by
    exact List.append_ne_nil_of_left_ne_nil (by decide) _
  rw [parseURN, if_pos hreserved, hrest, cutFirst_append hkind]
  simp only [hcut, if_neg hknown, ← eq_of_cutFirst hcut]
  exact splitReference_shortForm hname htag hcolon

lemma splitReference_eq_ok {failure text : Text}
    (hsplit : splitReference failure text = .ok (name, tag)) :
    text = shortForm name tag ∧ 58 ∉ tag := by
  rw [splitReference] at hsplit
  split at hsplit
  · nomatch hsplit
  · next hcut =>
      split at hsplit
      · nomatch hsplit
      · rw [Except.ok.injEq, Prod.mk.injEq] at hsplit
        rw [hsplit.1, hsplit.2] at hcut
        exact eq_of_cutLast hcut

/-- There are no other references than those of the two forms. -/
lemma parseURN_eq_ok {urn : Text} (hparse : parseURN quote urn = .ok (name, tag)) :
    (urn = shortForm name tag ∨ ∃ kind, urn = reservedForm kind name tag) ∧ 58 ∉ tag := by
  rw [parseURN] at hparse
  split at hparse
  · nomatch hparse
  split at hparse
  · next hreserved =>
      obtain ⟨rest, rfl⟩ := hreserved
      rw [List.drop_left] at hparse
      split at hparse
      · nomatch hparse
      · next kindText body hkind =>
          split at hparse
          · nomatch hparse
          · next first second hbody =>
              split at hparse
              · nomatch hparse
              · next hknown =>
                  rw [← eq_of_cutFirst hbody] at hparse
                  obtain ⟨hform, hcolon⟩ := splitReference_eq_ok hparse
                  have hexists : ∃ kind : Kind, kind.text = kindText := by
                    rw [not_and_or, not_not, not_not] at hknown
                    rcases hknown with hspec | hscenario
                    · exact ⟨.spec, hspec.symm⟩
                    · exact ⟨.scenario, hscenario.symm⟩
                  obtain ⟨kind, rfl⟩ := hexists
                  refine ⟨Or.inr ⟨kind, ?_⟩, hcolon⟩
                  rw [eq_of_cutFirst hkind, hform, reservedForm]
  · obtain ⟨hform, hcolon⟩ := splitReference_eq_ok hparse
    exact ⟨Or.inl hform, hcolon⟩

end

section

variable {quote : Text → Text} {semver : Semver} {index : Index}
  {blobs : Text → Option Text} {kind : Kind} {name tag hash content : Text}

lemma isHash_of_colon {urn : Text} (hcolon : 58 ∈ urn) : isHash urn = false := by
  apply Bool.eq_false_of_not_eq_true
  intro hhash
  rw [isHash, Bool.and_eq_true, List.all_eq_true] at hhash
  exact absurd (hhash.2 58 hcolon) (by decide)

/-- A recorded version is found, a scenario only if no spec has its name. -/
lemma resolve_of_recorded (hrecorded : index.recorded kind name tag = some hash)
    (hfirst : kind = .scenario → name ∉ index.specs) :
    resolve semver index name tag = .ok hash := by
  obtain ⟨tags, htags, hhash⟩ := recorded_eq_some_iff.mp hrecorded
  have hfound : tagsOf index name = some tags := by
    cases kind with
    | spec =>
      change index.specs.lookup name = some tags at htags
      rw [tagsOf, htags]
    | scenario =>
      rw [tagsOf, AList.lookup_eq_none.mpr (hfirst rfl)]
      exact htags
  rw [resolve, hfound]
  simp only [hhash]

/-- A version that is found is recorded. -/
lemma recorded_of_resolve (hresolve : resolve semver index name tag = .ok hash)
    (htag : tag ≠ latest) : ∃ kind, index.recorded kind name tag = some hash := by
  rw [resolve] at hresolve
  split at hresolve
  · nomatch hresolve
  · next tags htags =>
      have hkind : ∃ kind, (index.artifacts kind).lookup name = some tags := by
        rw [tagsOf] at htags
        split at htags
        · next hspec => exact ⟨.spec, hspec.trans htags⟩
        · exact ⟨.scenario, htags⟩
      obtain ⟨kind, hlookup⟩ := hkind
      split at hresolve
      · next hfound =>
          rw [Except.ok.inj hresolve] at hfound
          exact ⟨kind, recorded_eq_some_iff.mpr ⟨tags, hlookup, hfound⟩⟩
      · rw [if_neg htag] at hresolve
        nomatch hresolve

lemma stored_of_getBlob (hblob : getBlob blobs hash = .ok content) :
    blobs hash = some content := by
  rw [getBlob] at hblob
  split at hblob
  · cases hblob
  split at hblob
  · cases hblob
  · next hstored => rw [hstored, Except.ok.inj hblob]

/-- What a reference of either form loads. -/
lemma load_eq_ok_iff {urn : Text} (hcolon : 58 ∈ urn) :
    load quote semver index blobs urn = .ok content ↔
      ∃ name tag hash, parseURN quote urn = .ok (name, tag) ∧
        resolve semver index name tag = .ok hash ∧ getBlob blobs hash = .ok content := by
  have hnot : ¬ (isHash urn = true ∧ blobs urn ≠ none) := by
    rw [isHash_of_colon hcolon]
    exact fun h => Bool.false_ne_true h.1
  rw [load, if_neg hnot]
  cases hparse : parseURN quote urn with
  | error => simp
  | ok parts =>
    obtain ⟨name, tag⟩ := parts
    cases hresolve : resolve semver index name tag with
    | error | ok => simp [hresolve]

end

end Fluxrig.Manager
