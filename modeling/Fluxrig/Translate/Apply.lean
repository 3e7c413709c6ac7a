import Fluxrig.Message.Paths
import Fluxrig.Translate.Spec

/-!
# Applying a translation

Every binding reads the message as it arrived; the writes are gathered in a map and
carried out in the order of their aliases, and then the message is made the target
message.  `apply_reads` says what a target alias holds afterwards.
-/

namespace Fluxrig.Translate

open Fluxrig.Core Message

/-- What a translation takes from its surroundings: `fmt.Sprint` of values that are not
texts, and the value each binding with `generate` gets. -/
structure Env where
  sprint : Value → Text
  generated : Binding → Text

inductive BindErr where
  | lookupNotLoaded (name : Text)
  | noTableEntry (table value : Text)
  | amount (err : AmountErr)

inductive ApplyErr where
  | binding (toAlias : Text) (err : BindErr)
  | write (name failure : Text)

/-- The message and the findings, and the error if the translation could not run. -/
structure Outcome where
  msg : FluxMsg
  findings : List Text
  error : Option ApplyErr

/-- The text under a key; nothing for a missing entry or a map. -/
def readString (env : Env) (msg : FluxMsg) (key : Text) : Text :=
  match msg.get key with
  | none => []
  | some .null => []
  | some (.object _) => []
  | some (.table _) => []
  | some (.text content) => content
  | some value => env.sprint value

section

variable (env : Env) (spec : Spec) (tr : Translation) (msg : FluxMsg)

def lookupValue (binding : Binding) : Except BindErr (Option Text) :=
  let name := (cutDot binding.lookup).1
  match (spec.lookups.lookup name).bind fun lookup =>
      lookup.records.map fun records => (lookup.keyAlias, records) with
  | none => .error (.lookupNotLoaded name)
  | some (keyAlias, records) =>
      let field := ((records.lookup (readString env msg keyAlias)).bind fun record =>
        record.lookup (cutDot binding.lookup).2).getD []
      .ok (if field = [] then none else some field)

/-- The texts of the sources that have one, joined by slashes. -/
def sourceValue (binding : Binding) : Option Text :=
  let parts := (binding.sources.map (readString env msg)).filter fun part => part ≠ []
  if parts = [] then none else some ([47].intercalate parts)

/-- The value of a binding before its table. -/
def rawValue (binding : Binding) : Except BindErr (Option Text) :=
  match binding.value with
  | some constant => .ok (some constant)
  | none =>
      if binding.sources ≠ [] then .ok (sourceValue env msg binding)
      else if binding.lookup ≠ [] then lookupValue env spec msg binding
      else if binding.generate ≠ [] then .ok (some (env.generated binding))
      else .ok (some [])

/-- What a table makes of a text.  A table that is not there has no entries. -/
def tableEntry (table text : Text) : Option Text :=
  (spec.tables.lookup table).bind fun entries => (entries.values.lookup text).or entries.default

def tableValue (table text : Text) : Except BindErr Text :=
  if table = [] then .ok text
  else
    match tableEntry spec table text with
    | none => .error (.noTableEntry table text)
    | some out => .ok out

def value (binding : Binding) : Except BindErr (Option Text) := do
  match ← rawValue env spec msg binding with
  | none => .ok none
  | some text => do
      let out ← tableValue spec binding.table text
      .ok (some out)

/-- The assignments one binding makes to the map of writes. -/
def bindingWrites (binding : Binding) : Except BindErr (List (Text × Text)) := do
  match ← value env spec msg binding with
  | none => .ok []
  | some text =>
      if binding.format = amountFormat then
        match convertAmount text (readString env msg binding.currency) tr.toProto.kind with
        | .error err => .error (.amount err)
        | .ok (amount, code) =>
            let currency :=
              tr.toProto.currencyAlias tr.toMessage binding.toAlias
            .ok (currency.toList.map (fun name => (name, code)) ++ [(binding.toAlias, amount)])
      else .ok [(binding.toAlias, text)]

/-- Assign one after the other. -/
def assign (pairs writes : List (Text × Text)) : List (Text × Text) :=
  pairs.foldl (fun acc entry => putField entry.1 entry.2 acc) writes

def collectWrites : List Binding → List (Text × Text) → Except ApplyErr (List (Text × Text))
  | [], writes => .ok writes
  | binding :: rest, writes =>
      match bindingWrites env spec tr msg binding with
      | .error err => .error (.binding binding.toAlias err)
      | .ok pairs => collectWrites rest (assign pairs writes)

/-- In the order of `sortedKeys`. -/
def sortWrites (writes : List (Text × Text)) : List (Text × Text) :=
  writes.insertionSort fun left right => left.1 ≤ right.1

/-- `Set` for each write, up to the first that fails. -/
def writeAll : List (Text × Text) → FluxMsg → FluxMsg × Option ApplyErr
  | [], msg => (msg, none)
  | (name, text) :: rest, msg =>
      match (msg.set name (.text text)).2 with
      | some failure => ((msg.set name (.text text)).1, some (.write name failure))
      | none => writeAll rest (msg.set name (.text text)).1

def metadataText (key : Text) : Text := (msg.metadata.lookup key).getD []

/-- A message decoded with another spec than the one the translation names. -/
def decodedFindings : List Text :=
  let id := metadataText msg (utf8 "codec.spec_id")
  let version := metadataText msg (utf8 "codec.spec_version")
  let source := tr.fromProto
  problemIf (id ≠ [] ∧ (id ≠ source.id ∨ version ≠ source.version))
    (utf8 "the message was decoded with " ++ id ++ utf8 " " ++ version ++
      utf8 "; translation " ++ tr.name ++ utf8 " is for " ++ source.id ++ utf8 " " ++
      source.version)

def requiredFindings : List Text :=
  (tr.toProto.required tr.toMessage).flatMap fun required =>
    problemIf
      (¬ ((required.aliasName ≠ [] ∧ readString env msg required.aliasName ≠ []) ∨
        readString env msg required.path ≠ []))
      ((if required.aliasName ≠ [] then required.aliasName else required.path) ++
        utf8 " is required in " ++ tr.toMessage ++
        utf8 " and empty after translation " ++ tr.name)

/-- Make the message the target message and say in its metadata what translated it. -/
def stamp : FluxMsg :=
  let named := tr.toProto.setMessage msg tr.toMessage
  let member :=
    if tr.toProto.kind = .iso20022 ∧ spec.participantID ≠ [] then
      named.annotate (utf8 "iso20022.participant_id") spec.participantID
    else named
  (((member.annotate (utf8 "translate.spec_id") spec.id).annotate
    (utf8 "translate.spec_version") spec.version).annotate
    (utf8 "translate.spec_hash") spec.hash).annotate (utf8 "translate.name") tr.name

def sortTexts (texts : List Text) : List Text :=
  texts.insertionSort fun left right => left ≤ right

/-- The message with its maps allocated. -/
def arrived : FluxMsg := { msg with data := some (msg.data.getD []) }

/-- `Apply`. -/
def apply : Outcome :=
  let decoded := decodedFindings tr (arrived msg)
  match collectWrites env spec tr (arrived msg) tr.bindings [] with
  | .error err => ⟨arrived msg, decoded, some err⟩
  | .ok writes =>
      match writeAll (sortWrites writes) (arrived msg) with
      | (written, some err) => ⟨written, decoded, some err⟩
      | (written, none) =>
          let stamped := stamp spec tr written
          ⟨stamped, sortTexts (decoded ++ requiredFindings env tr stamped), none⟩

end

lemma lookup_assign (pairs writes : List (Text × Text)) (name : Text) :
    (assign pairs writes).lookup name = (pairs.reverse.lookup name).or (writes.lookup name) := by
  induction pairs generalizing writes with
  | nil => rfl
  | cons entry rest ih =>
    have hstep : assign (entry :: rest) writes =
        assign rest (putField entry.1 entry.2 writes) := rfl
    rw [hstep, ih, lookup_putField, List.reverse_cons, List.lookup_append, Option.or_assoc,
      lookup_cons_ite]
    by_cases hname : name = entry.1
    · rw [if_pos hname, if_pos hname, Option.some_or]
    · rw [if_neg hname, if_neg hname]
      rfl

/-- The aliases a map of writes has, each once. -/
def Distinct (writes : List (Text × Text)) : Prop := (writes.map Prod.fst).Nodup

lemma keys_putField {Key Item : Type*} [DecidableEq Key] {key : Key} {item : Item}
    {fields : List (Key × Item)} : (putField key item fields).map Prod.fst =
      if key ∈ fields.map Prod.fst then fields.map Prod.fst else fields.map Prod.fst ++ [key] := by
  induction fields with
  | nil => simp [putField]
  | cons field rest ih =>
    rw [putField]
    by_cases hfield : field.1 = key
    · simp [hfield]
    · simp only [if_neg hfield, List.map_cons, ih, List.mem_cons, Ne.symm hfield, false_or]
      split <;> simp

variable {writes : List (Text × Text)} {name text : Text} {msg written : FluxMsg}

lemma Distinct.assign (hdistinct : Distinct writes) (pairs : List (Text × Text)) :
    Distinct (assign pairs writes) := by
  induction pairs generalizing writes with
  | nil => exact hdistinct
  | cons entry _ ih =>
    have hnext : Distinct (putField entry.1 entry.2 writes) := by
      rw [Distinct, keys_putField]
      split
      case isTrue => exact hdistinct
      case isFalse habsent =>
        exact hdistinct.append (List.nodup_singleton _) (List.disjoint_singleton.mpr habsent)
    exact ih hnext

section

variable {env : Env} {spec : Spec} {tr : Translation} {msg : FluxMsg}

variable {writes result : List (Text × Text)}

lemma collectWrites_cons {binding : Binding} {rest : List Binding}
    (hok : collectWrites env spec tr msg (binding :: rest) writes = .ok result) :
    ∃ pairs, bindingWrites env spec tr msg binding = .ok pairs ∧
      collectWrites env spec tr msg rest (assign pairs writes) = .ok result := by
  rw [collectWrites] at hok
  cases hbinding : bindingWrites env spec tr msg binding with
  | error =>
    rw [hbinding] at hok
    nomatch hok
  | ok pairs =>
    rw [hbinding] at hok
    exact ⟨pairs, rfl, hok⟩

variable {bindings : List Binding}

lemma Distinct.collectWrites (hdistinct : Distinct writes)
    (hok : collectWrites env spec tr msg bindings writes = .ok result) :
    Distinct result := by
  induction bindings generalizing writes with
  | nil =>
    rw [← Except.ok.inj hok]
    exact hdistinct
  | cons _ _ ih =>
    obtain ⟨pairs, -, hrest⟩ := collectWrites_cons hok
    exact ih (hdistinct.assign pairs) hrest

lemma distinct_gathered
    (hok : collectWrites env spec tr msg bindings [] = .ok result) : Distinct result := by
  have hempty : Distinct [] := List.nodup_nil
  exact hempty.collectWrites hok

/-- What the bindings from some point on leave under an alias: the last of them that
assigns it decides. -/
lemma lookup_collectWrites {left : Binding → Option Text} (hleft : ∀ binding ∈ bindings, ∀ pairs,
      bindingWrites env spec tr msg binding = .ok pairs →
        pairs.reverse.lookup name = left binding)
    (hok : collectWrites env spec tr msg bindings writes = .ok result) :
    result.lookup name = (bindings.reverse.findSome? left).or (writes.lookup name) := by
  induction bindings generalizing writes with
  | nil =>
    rw [← Except.ok.inj hok]
    rfl
  | cons binding _ ih =>
    obtain ⟨pairs, hassigned, hrest⟩ := collectWrites_cons hok
    have hnow := hleft binding List.mem_cons_self pairs hassigned
    rw [ih (fun later hlater => hleft later (List.mem_cons_of_mem _ hlater)) hrest,
      lookup_assign, hnow, List.reverse_cons, List.findSome?_append, Option.or_assoc,
      List.findSome?_singleton]

/-- A run over all bindings passes each of them. -/
lemma collectWrites_split {earlier later : List Binding} {binding : Binding}
    (hok : collectWrites env spec tr msg (earlier ++ binding :: later) writes = .ok result) :
    ∃ before pairs, bindingWrites env spec tr msg binding = .ok pairs ∧
      collectWrites env spec tr msg later (assign pairs before) = .ok result := by
  induction earlier generalizing writes with
  | nil =>
    obtain ⟨pairs, hassigned, hrest⟩ := collectWrites_cons hok
    exact ⟨writes, pairs, hassigned, hrest⟩
  | cons _ _ ih =>
    obtain ⟨pairs, -, hrest⟩ := collectWrites_cons hok
    exact ih hrest

end

section

variable (writes : List (Text × Text))

/-- No alias leads to one that was written before it. -/
def Unblocked : Prop :=
  writes.Pairwise fun earlier later => ¬ splitDots later.1 <+: splitDots earlier.1

lemma sortWrites_perm : (sortWrites writes).Perm writes := List.perm_insertionSort _ writes

lemma sortWrites_sorted : (sortWrites writes).Pairwise fun left right => left.1 ≤ right.1 := by
  exact List.pairwise_insertionSort _ writes

end

lemma Distinct.sortWrites (hdistinct : Distinct writes) : Distinct (sortWrites writes) :=
  ((sortWrites_perm writes).map Prod.fst).nodup_iff.mpr hdistinct

/-- A map holds an entry exactly when it is found. -/
lemma Distinct.mem_iff (hdistinct : Distinct writes) :
    (name, text) ∈ writes ↔ writes.lookup name = some text := by
  rw [List.lookup_eq_some_iff]
  constructor
  · intro hentry
    obtain ⟨before, after, rfl⟩ := List.append_of_mem hentry
    rw [Distinct, List.map_append, List.map_cons, List.nodup_middle, List.nodup_cons] at hdistinct
    refine ⟨before, after, rfl, ?_⟩
    intro other hother
    rw [bne_iff_ne]
    intro hname
    exact hdistinct.1 (List.mem_append_left _ (List.mem_map.mpr ⟨other, hother, hname.symm⟩))
  · rintro ⟨before, after, rfl, -⟩
    simp

lemma unblocked_sortWrites (hdistinct : Distinct writes) : Unblocked (sortWrites writes) := by
  have hnodup : ((sortWrites writes).map Prod.fst).Nodup := hdistinct.sortWrites
  -- the start of a text comes before it, so an alias that leads to another one does too
  apply ((sortWrites_sorted writes).and (List.pairwise_map.mp hnodup)).imp
  intro earlier later horder hleads
  exact horder.2 (List.le_antisymm horder.1 (start_of_splitDots hleads).le)

lemma writeAll_cons {rest : List (Text × Text)}
    (hok : writeAll ((name, text) :: rest) msg = (written, none)) :
    (msg.set name (.text text)).2 = none ∧
      writeAll rest (msg.set name (.text text)).1 = (written, none) := by
  rw [writeAll] at hok
  cases hset : (msg.set name (.text text)).2 with
  | some =>
    rw [hset] at hok
    nomatch congrArg Prod.snd hok
  | none =>
    rw [hset] at hok
    exact ⟨rfl, hok⟩

/-- Later writes keep an entry that none of them leads to, whether or not they succeed. -/
lemma writeAll_keeps {leaf : Value} (hget : msg.get name = some leaf) (hleaf : leaf.isMap = false)
    (hapart : ∀ entry ∈ writes, ¬ splitDots entry.1 <+: splitDots name) :
    (writeAll writes msg).1.get name = some leaf := by
  induction writes generalizing msg with
  | nil => exact hget
  | cons entry _ ih =>
    obtain ⟨hfirst, hrest⟩ := List.forall_mem_cons.mp hapart
    rw [writeAll]
    cases hset : (msg.set entry.1 (.text entry.2)).2 with
    | none => exact ih (FluxMsg.get_set_other hset hget hleaf hfirst) hrest
    | some =>
      rw [FluxMsg.get, ← FluxMsg.root, FluxMsg.root_set_of_failed (by simp [hset])]
      exact hget

lemma writeAll_get (hok : writeAll writes msg = (written, none))
    (hunblocked : Unblocked writes) (hentry : (name, text) ∈ writes) :
    written.get name = some (.text text) := by
  induction writes generalizing msg with
  | nil => nomatch hentry
  | cons _ _ ih =>
    obtain ⟨hset, hrest⟩ := writeAll_cons hok
    obtain ⟨hhead, hunblocked⟩ := List.pairwise_cons.mp hunblocked
    cases List.mem_cons.mp hentry with
    | inl hfirst =>
      rw [← hfirst] at hset hrest hhead
      have hkept := writeAll_keeps (FluxMsg.get_set_self hset) rfl hhead
      rwa [hrest] at hkept
    | inr hlater => exact ih hrest hunblocked hlater

/-- What is left of a text under `name` once the message has its new identity: a protocol
may keep that in the data, at `name` or above it. -/
def textLeft (protocol : Protocol) (message name text : Text) : Text :=
  match protocol.messageAlias with
  | none => text
  | some own =>
      if own = name then message
      else if splitDots own <+: splitDots name then []
      else text

section

variable {env : Env} {spec : Spec} {tr : Translation} {msg : FluxMsg}

variable {name : Text}

lemma readString_text (hget : msg.get name = some (.text text)) :
    readString env msg name = text := by
  rw [readString, hget]

lemma readString_none (hget : msg.get name = none) : readString env msg name = [] := by
  rw [readString, hget]

lemma readString_setMessage {protocol : Protocol} {message : Text}
    (hget : msg.get name = some (.text text)) :
    readString env (protocol.setMessage msg message) name =
      textLeft protocol message name text := by
  rw [Protocol.setMessage, textLeft]
  cases protocol.messageAlias with
  | none => exact readString_text hget
  | some own =>
    dsimp only
    generalize hnamed : msg.annotate _ message = named
    have hstill : named.get name = some (.text text) := by
      rw [← hnamed]
      exact hget
    by_cases hown : own = name
    · subst hown
      rw [if_pos rfl]
      exact readString_text (FluxMsg.get_set_self
        (FluxMsg.set_ok_of_get hstill (List.prefix_refl _)))
    · rw [if_neg hown]
      by_cases hleads : splitDots own <+: splitDots name
      · rw [if_pos hleads]
        exact readString_none (FluxMsg.get_set_above hstill rfl hleads hown)
      · rw [if_neg hleads]
        apply readString_text
        by_cases hset : (named.set own (.text message)).2 = none
        · exact FluxMsg.get_set_other hset hstill rfl hleads
        · rw [FluxMsg.get, ← FluxMsg.root, FluxMsg.root_set_of_failed hset]
          exact hstill

lemma readString_stamp (name : Text) : readString env (stamp spec tr msg) name =
      readString env (tr.toProto.setMessage msg tr.toMessage) name := by
  have hget : (stamp spec tr msg).get name =
      (tr.toProto.setMessage msg tr.toMessage).get name := by
    rw [stamp]
    split <;> rfl
  rw [readString, readString, hget]

lemma apply_ok (hok : (apply env spec tr msg).error = none) : ∃ writes written,
      collectWrites env spec tr (arrived msg) tr.bindings [] = .ok writes ∧
      writeAll (sortWrites writes) (arrived msg) = (written, none) ∧
      (apply env spec tr msg).msg = stamp spec tr written := by
  rw [apply] at hok ⊢
  cases hwrites : collectWrites env spec tr (arrived msg) tr.bindings [] with
  | error =>
    rw [hwrites] at hok
    nomatch hok
  | ok writes =>
    rw [hwrites] at hok
    cases hwritten : writeAll (sortWrites writes) (arrived msg) with
    | mk written failure =>
      simp only [hwritten] at hok ⊢
      cases failure with
      | none => exact ⟨writes, written, rfl, hwritten, rfl⟩
      | some => nomatch hok

/-- A translation that succeeds leaves under every alias it wrote what it gathered for it,
the identity of the message apart. -/
lemma apply_reads (hok : (apply env spec tr msg).error = none) : ∃ writes,
      collectWrites env spec tr (arrived msg) tr.bindings [] = .ok writes ∧
      ∀ name text, writes.lookup name = some text →
        readString env (apply env spec tr msg).msg name =
          textLeft tr.toProto tr.toMessage name text := by
  obtain ⟨writes, written, hwrites, hwritten, hmsg⟩ := apply_ok hok
  refine ⟨writes, hwrites, ?_⟩
  intro name text hlookup
  have hdistinct := distinct_gathered hwrites
  have hentry : (name, text) ∈ sortWrites writes :=
    (sortWrites_perm writes).mem_iff.mpr (hdistinct.mem_iff.mpr hlookup)
  rw [hmsg, readString_stamp]
  exact readString_setMessage (writeAll_get hwritten (unblocked_sortWrites hdistinct) hentry)

end

end Fluxrig.Translate
