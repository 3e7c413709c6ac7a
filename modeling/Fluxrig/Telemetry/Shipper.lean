import Fluxrig.Core.Timeline
import Fluxrig.Message.Shapes

/-!
# Shipping the telemetry log

The shipper reads a write-ahead log record by record and publishes each of them.  It
keeps its place in a cursor, saves the cursor from time to time and cuts off the front
of the log every thousand records.  After a crash it goes on from the saved cursor.

`Invariant` relates the log, the cursor on disk, the cursor in memory and what was
published.  Every step keeps it (`invariant_take`), a restart under the condition that
the log still holds the record after the saved cursor.
-/

namespace Fluxrig.Telemetry

open Fluxrig.Core
open Message

abbrev Payload := List UInt8

/-- The log underneath.  Records are numbered from 1 on; a record outside the first and
the last index is not found, and truncation keeps the index it is given. -/
structure WriteAheadLog (Log : Type) where
  empty : Log
  firstIndex : Log → ℕ
  lastIndex : Log → ℕ
  read : Log → ℕ → Option Payload
  write : Log → Payload → Log
  truncateFront : Log → ℕ → Log
  firstIndex_empty : firstIndex empty ≤ 1
  lastIndex_empty : lastIndex empty = 0
  read_eq_none_iff : ∀ log index, 0 < index →
    (read log index = none ↔ index < firstIndex log ∨ lastIndex log < index)
  firstIndex_write : ∀ log payload,
    firstIndex log ≤ firstIndex (write log payload) ∧
      firstIndex (write log payload) ≤ max 1 (firstIndex log)
  lastIndex_write : ∀ log payload, lastIndex (write log payload) = lastIndex log + 1
  read_write_last : ∀ log payload, read (write log payload) (lastIndex log + 1) = some payload
  read_write : ∀ log payload index, index ≤ lastIndex log → 0 < index →
    read (write log payload) index = read log index
  firstIndex_truncateFront : ∀ log index,
    firstIndex log ≤ firstIndex (truncateFront log index) ∧
      firstIndex (truncateFront log index) ≤ max index (firstIndex log)
  lastIndex_truncateFront : ∀ log index, lastIndex (truncateFront log index) = lastIndex log
  read_truncateFront : ∀ log index other, firstIndex (truncateFront log index) ≤ other →
    read (truncateFront log index) other = read log other

/-- CBOR decoding; there are payloads that decode. -/
structure Cbor where
  unmarshal : Payload → Option FluxMsg
  sample : Payload
  unmarshal_sample : (unmarshal sample).isSome = true

/-- What the shipper hands to the bus: a record of the log with its index, or the metric
that counts records which do not decode. -/
inductive Emission where
  | raw (index : ℕ) (subject : Text) (payload : Payload) (fluxID : BitVec 128)
  | decodeFailure (subject : Text)

def Emission.index? : Emission → Option ℕ
  | .raw index _ _ _ => some index
  | .decodeFailure _ => none

def indices (emissions : List Emission) : List ℕ := emissions.filterMap Emission.index?

@[simp]
lemma indices_append (first second : List Emission) :
    indices (first ++ second) = indices first ++ indices second := List.filterMap_append

/-- Where the loop stands: before a read, with a record in hand, after the record was
dealt with, and before the log is cut. -/
inductive Phase where
  | reading
  | processing (data : Payload)
  | processed
  | truncating

/-- A running shipper: the loop's variable `index`, and the cursor in memory. -/
structure Shipper where
  index : ℕ
  cursor : ℕ
  phase : Phase

/-- The index that the next read asks for. -/
def Shipper.nextRead (shipper : Shipper) : ℕ :=
  match shipper.phase with
  | .processed => shipper.index + 2
  | _ => shipper.index + 1

/-- The log, the saved cursor, the shipper if it runs, and for the record all payloads
ever written and all that was published, before the last start and since. -/
structure State (Log : Type) where
  log : Log
  saved : ℕ
  shipper : Option Shipper
  written : List Payload
  earlier : List Emission
  session : List Emission

inductive Step where
  | write (payload : Payload)
  | start
  | save
  | read
  | process (accepted : Bool)
  | advance
  | truncate (succeeds : Bool)
  | stop
  | crash

section

variable {Log : Type} (wal : WriteAheadLog Log) (cbor : Cbor) (base : Text)

/-- The subject for a decoded record. -/
def subjectFor (msg : FluxMsg) : Text :=
  base ++
    match msg.metadata.lookup (utf8 "type") with
    | none => utf8 ".logs"
    | some kind =>
        if kind = utf8 "telemetry.log" then utf8 ".logs"
        else if kind = utf8 "telemetry.metric" then utf8 ".metrics"
        else utf8 ".logs"

/-- `process`: what is published, and whether it returns without an error.  `accepted`
says whether the bus takes the message. -/
def process (index : ℕ) (payload : Payload) (accepted : Bool) : List Emission × Bool :=
  match cbor.unmarshal payload with
  | none =>
      (if accepted then [.decodeFailure (base ++ utf8 ".metrics")] else [], true)
  | some msg =>
      if accepted then ([.raw index (subjectFor base msg) payload msg.fluxID], true)
      else ([], false)

/-- `NewCursor` and the beginning of `loop`. -/
def startLoop (log : Log) (saved : ℕ) : Shipper :=
  let index := if saved = 0 ∧ 1 < wal.firstIndex log then wal.firstIndex log - 1 else saved
  ⟨index, index, .reading⟩

/-- One step of the log's writers, of the loop, or of the process it runs in.  A step
that the state does not allow changes nothing. -/
def take (state : State Log) : Step → State Log
  | .write payload =>
      { state with log := wal.write state.log payload, written := state.written ++ [payload] }
  | .start =>
      match state.shipper with
      | some _ => state
      | none =>
          { state with
            shipper := some (startLoop wal state.log state.saved)
            earlier := state.earlier ++ state.session
            session := [] }
  | .save =>
      match state.shipper with
      | some ⟨_, cursor, .reading⟩ => { state with saved := cursor }
      | _ => state
  | .read =>
      match state.shipper with
      | some ⟨index, cursor, .reading⟩ =>
          match wal.read state.log (index + 1) with
          | some data => { state with shipper := some ⟨index, cursor, .processing data⟩ }
          | none => state
      | _ => state
  | .process accepted =>
      match state.shipper with
      | some ⟨index, cursor, .processing data⟩ =>
          let (emitted, fine) := process cbor base (index + 1) data accepted
          { state with
            shipper := some ⟨index, cursor, if fine then .processed else .reading⟩
            session := state.session ++ emitted }
      | _ => state
  | .advance =>
      match state.shipper with
      | some ⟨index, _, .processed⟩ =>
          { state with
            shipper := some ⟨index + 1, index + 1,
              if (index + 1) % 1000 = 0 then .truncating else .reading⟩ }
      | _ => state
  | .truncate succeeds =>
      match state.shipper with
      | some ⟨index, cursor, .truncating⟩ =>
          { state with
            log := if succeeds then wal.truncateFront state.log index else state.log
            shipper := some ⟨index, cursor, .reading⟩ }
      | _ => state
  | .stop =>
      match state.shipper with
      | some ⟨_, cursor, .reading⟩ => { state with saved := cursor, shipper := none }
      | _ => state
  | .crash => { state with shipper := none }

def initial : State Log := ⟨wal.empty, 0, none, [], [], []⟩

/-- The steps of one pass of the loop that no failure disturbs. -/
def pass : List Step := [.read, .process true, .advance, .truncate true]

def turn (state : State Log) : State Log := pass.foldl (take wal cbor base) state

def State.published (state : State Log) : List ℕ := indices (state.earlier ++ state.session)

/-- The log was given a decodable record under that index. -/
def Decodable (written : List Payload) (index : ℕ) : Prop :=
  0 < index ∧ ∃ payload, written[index - 1]? = some payload ∧
    (cbor.unmarshal payload).isSome = true

/-- What shipping promises in a state: the records published since the last start come
in the order of their indices; a published record is the one written, and all earlier
ones were published too; if the log holds a record that was not published, then the
record to be read next exists; and enough passes of the loop publish everything. -/
structure Ships (state : State Log) : Prop where
  ordered : (indices state.session).Pairwise (· < ·)
  authentic : ∀ index subject payload fluxID,
    .raw index subject payload fluxID ∈ state.earlier ++ state.session →
      0 < index ∧ state.written[index - 1]? = some payload
  complete : ∀ index ∈ state.published, ∀ before < index,
    Decodable cbor state.written before → before ∈ state.published
  readable : ∀ shipper, state.shipper = some shipper → ∀ index,
    wal.firstIndex state.log ≤ index → index ≤ wal.lastIndex state.log →
    Decodable cbor state.written index → index ∉ state.published →
      (wal.read state.log shipper.nextRead).isSome = true
  delivers : state.shipper.isSome = true → ∃ turns, ∀ index,
    Decodable cbor state.written index → index ∈ ((turn wal cbor base)^[turns] state).published

end

section

variable {Log : Type} {wal : WriteAheadLog Log} {cbor : Cbor} {base : Text}
  {state : State Log} {shipper : Shipper}

/-- What a running shipper relies on. -/
structure Running (wal : WriteAheadLog Log) (cbor : Cbor) (state : State Log)
    (shipper : Shipper) : Prop where
  cursor : shipper.cursor = shipper.index
  front : wal.firstIndex state.log ≤ shipper.index + 1
  back : shipper.nextRead ≤ state.written.length + 1
  done : ∀ index < shipper.nextRead, Decodable cbor state.written index → index ∈ state.published
  sent : ∀ index ∈ indices state.session, index < shipper.nextRead
  holding : ∀ data, shipper.phase = .processing data → state.written[shipper.index]? = some data

structure Invariant (wal : WriteAheadLog Log) (cbor : Cbor) (state : State Log) : Prop where
  last : wal.lastIndex state.log = state.written.length
  reads : ∀ index, 0 < index → wal.firstIndex state.log ≤ index →
    wal.read state.log index = state.written[index - 1]?
  front : wal.firstIndex state.log ≤ state.written.length + 1
  truncated : ∀ index < wal.firstIndex state.log, Decodable cbor state.written index →
    index ∈ state.published
  savedBack : state.saved ≤ state.written.length
  savedDone : ∀ index ≤ state.saved, Decodable cbor state.written index → index ∈ state.published
  ordered : (indices state.session).Pairwise (· < ·)
  authentic : ∀ index subject payload fluxID,
    .raw index subject payload fluxID ∈ state.earlier ++ state.session →
      0 < index ∧ state.written[index - 1]? = some payload
  complete : ∀ index ∈ state.published, ∀ before < index,
    Decodable cbor state.written before → before ∈ state.published
  running : ∀ shipper, state.shipper = some shipper → Running wal cbor state shipper

lemma mem_indices_iff {emissions : List Emission} {index : ℕ} : index ∈ indices emissions ↔
      ∃ subject payload fluxID, .raw index subject payload fluxID ∈ emissions := by
  rw [indices, List.mem_filterMap]
  constructor
  · intro ⟨emission, hemission, hindex⟩
    cases emission <;> grind [Emission.index?]
  · intro ⟨subject, payload, fluxID, hemission⟩
    exact ⟨_, hemission, rfl⟩

lemma Decodable.le {written : List Payload} {index : ℕ}
    (hdecodable : Decodable cbor written index) : index ≤ written.length := by
  obtain ⟨hpos, payload, hpayload, _⟩ := hdecodable
  have hlt := (List.getElem?_eq_some_iff.mp hpayload).1
  omega

/-- Records keep their indices when the log grows. -/
lemma decodable_append {written : List Payload} {payload : Payload} {index : ℕ}
    (hle : index ≤ written.length) :
    Decodable cbor (written ++ [payload]) index ↔ Decodable cbor written index := by
  constructor <;> intro ⟨hpos, hfound⟩ <;> refine ⟨hpos, ?_⟩ <;>
    simpa only [List.getElem?_append_left (show index - 1 < written.length by omega)] using hfound

lemma Invariant.published_le (hinv : Invariant wal cbor state) {index : ℕ}
    (hmem : index ∈ state.published) : index ≤ state.written.length := by
  obtain ⟨subject, payload, fluxID, hraw⟩ := mem_indices_iff.mp hmem
  obtain ⟨hpos, hpayload⟩ := hinv.authentic index subject payload fluxID hraw
  have hlt := (List.getElem?_eq_some_iff.mp hpayload).1
  omega

lemma invariant_initial : Invariant wal cbor (initial wal) where
  last := wal.lastIndex_empty
  reads index hpos _ := by
    have hlast : wal.lastIndex wal.empty < index := by
      rw [wal.lastIndex_empty]
      exact hpos
    exact (wal.read_eq_none_iff wal.empty index hpos).mpr (.inr hlast)
  front := wal.firstIndex_empty
  truncated index _ hdecodable := by
    obtain ⟨_, payload, hpayload, _⟩ := hdecodable
    cases hpayload
  savedBack := le_rfl
  savedDone index _ hdecodable := by
    obtain ⟨_, payload, hpayload, _⟩ := hdecodable
    cases hpayload
  ordered := List.Pairwise.nil
  authentic _ _ _ _ hmem := absurd hmem List.not_mem_nil
  complete _ hmem := absurd hmem List.not_mem_nil
  running _ hshipper := by cases hshipper

section

variable (hinv : Invariant wal cbor state)

include hinv

lemma Invariant.write (payload : Payload) :
    Invariant wal cbor (take wal cbor base state (.write payload)) := by
  have hfirst := wal.firstIndex_write state.log payload
  have hfront := hinv.front
  have hkeeps := @decodable_append cbor state.written payload
  have hbefore := @hinv.published_le
  have hlength : (state.written ++ [payload]).length = state.written.length + 1 := by simp
  have hget : ∀ (index : ℕ) data, state.written[index]? = some data →
      (state.written ++ [payload])[index]? = some data := by grind
  simp only [take]
  refine ⟨?_, ?_, ?_, ?_, ?_, ?_, hinv.ordered, ?_, ?_, ?_⟩
  · rw [wal.lastIndex_write, hinv.last, hlength]
  · intro index hpos hheld
    dsimp only at hheld ⊢
    rcases Nat.lt_trichotomy index (state.written.length + 1) with hlt | heq | hgt
    · rw [wal.read_write _ _ _ (by rw [hinv.last]; omega) hpos,
        List.getElem?_append_left (by omega)]
      exact hinv.reads index hpos (hfirst.1.trans hheld)
    · rw [heq, ← hinv.last, wal.read_write_last, hinv.last, Nat.add_sub_cancel,
        List.getElem?_concat_length]
    · rw [List.getElem?_eq_none (by omega)]
      refine (wal.read_eq_none_iff _ _ hpos).mpr (.inr ?_)
      rw [wal.lastIndex_write, hinv.last]
      exact hgt
  · grind
  · grind [hinv.truncated, Decodable, State.published]
  · grind [hinv.savedBack]
  · grind [hinv.savedBack, hinv.savedDone, State.published]
  · intro index subject found fluxID hmem
    have hold := hinv.authentic index subject found fluxID hmem
    exact ⟨hold.1, hget _ _ hold.2⟩
  · grind [hinv.complete, State.published]
  · intro shipper hshipper
    obtain ⟨hcursor, hheld, hback, hdone, hsent, hholding⟩ := hinv.running shipper hshipper
    refine ⟨hcursor, ?_, ?_, ?_, hsent, ?_⟩ <;> grind [State.published]

/-- A step that moves the shipper only. -/
lemma Invariant.withShipper (shipper : Option Shipper)
    (hrunning : ∀ moved, shipper = some moved → Running wal cbor state moved) :
    Invariant wal cbor { state with shipper := shipper } :=
  { hinv with running := fun moved hmoved => { hrunning moved hmoved with } }

lemma Invariant.crash : Invariant wal cbor (take wal cbor base state .crash) :=
  hinv.withShipper none fun _ hmoved => by cases hmoved

/-- The cursor of a shipper that is about to read may be saved. -/
lemma Invariant.save {index cursor : ℕ}
    (hshipper : state.shipper = some ⟨index, cursor, .reading⟩) :
    Invariant wal cbor { state with saved := cursor } := by
  have hrun := hinv.running _ hshipper
  have hback : index + 1 ≤ state.written.length + 1 := hrun.back
  exact { hinv with
    savedBack := hrun.cursor.le.trans (Nat.le_of_succ_le_succ hback)
    savedDone := fun other hle => hrun.done other (Nat.lt_succ_of_le (hle.trans_eq hrun.cursor))
    running := fun moved hmoved => { hinv.running moved hmoved with } }

end

/-- The log still holds the record after the saved cursor, or no cursor was saved. -/
def CleanRestart (wal : WriteAheadLog Log) (state : State Log) : Prop :=
  state.saved = 0 ∨ wal.firstIndex state.log ≤ state.saved + 1

lemma Invariant.start (hinv : Invariant wal cbor state) (hnone : state.shipper = none)
    (hclean : CleanRestart wal state) :
    Invariant wal cbor (take wal cbor base state .start) := by
  have hfront := hinv.front
  have hback := hinv.savedBack
  have hpublished : State.published { state with
      shipper := some (startLoop wal state.log state.saved)
      earlier := state.earlier ++ state.session, session := [] } = state.published := by
    rw [State.published, List.append_nil, State.published]
  -- Everything up to the index started from was published before.
  have hindex : wal.firstIndex state.log ≤ (startLoop wal state.log state.saved).index + 1 ∧
      (startLoop wal state.log state.saved).index ≤ state.written.length ∧
      ∀ index ≤ (startLoop wal state.log state.saved).index,
        Decodable cbor state.written index → index ∈ state.published := by
    grind [startLoop, CleanRestart, hinv.truncated, hinv.savedDone]
  simp only [take, hnone]
  refine ⟨hinv.last, hinv.reads, hfront, ?_, hback, ?_, List.Pairwise.nil, ?_, ?_, ?_⟩
  · exact hpublished ▸ hinv.truncated
  · exact hpublished ▸ hinv.savedDone
  · simpa only [List.append_nil] using hinv.authentic
  · exact hpublished ▸ hinv.complete
  · intro shipper hshipper
    cases hshipper
    refine ⟨rfl, hindex.1, Nat.succ_le_succ hindex.2.1, ?_, nofun, nofun⟩
    grind [Shipper.nextRead, startLoop]

lemma Invariant.read (hinv : Invariant wal cbor state) :
    Invariant wal cbor (take wal cbor base state .read) := by
  simp only [take]
  split
  · next index cursor hshipper =>
      have hrun := hinv.running _ hshipper
      split
      · next data hread =>
          refine hinv.withShipper _ fun moved hmoved => ?_
          cases hmoved
          refine ⟨hrun.cursor, hrun.front, hrun.back, hrun.done, hrun.sent, ?_⟩
          intro other hphase
          cases hphase
          rw [← hread]
          exact (hinv.reads (index + 1) (Nat.succ_pos index) hrun.front).symm
      · exact hinv
  · exact hinv

/-- What `process` publishes is the record it was given, and it does so unless the
record does not decode or the bus refuses it. -/
lemma process_raw {index found : ℕ} {payload other : Payload} {accepted : Bool}
    {subject : Text} {fluxID : BitVec 128}
    (hmem : .raw found subject other fluxID ∈ (process cbor base index payload accepted).1) :
    found = index ∧ other = payload := by
  revert hmem
  fun_cases Telemetry.process cbor base index payload accepted <;> grind

lemma indices_process (index : ℕ) (payload : Payload) (accepted : Bool) :
    indices (process cbor base index payload accepted).1 =
      if (cbor.unmarshal payload).isSome ∧ accepted = true then [index] else [] := by
  rw [process]
  cases cbor.unmarshal payload with
  | none | some => cases accepted <;> rfl

lemma process_fine {index : ℕ} {payload : Payload} {accepted : Bool} :
    (process cbor base index payload accepted).2 =
      (accepted || (cbor.unmarshal payload).isNone) := by
  rw [process]
  cases cbor.unmarshal payload with
  | none | some => cases accepted <;> rfl

section

variable (hinv : Invariant wal cbor state)

include hinv

lemma Invariant.process (accepted : Bool) :
    Invariant wal cbor (take wal cbor base state (.process accepted)) := by
  simp only [take]
  split
  · next index cursor data hshipper =>
      obtain ⟨hcursor, hheld, hback, hdone, hsent, hholding⟩ := hinv.running _ hshipper
      have hdata : state.written[index]? = some data := hholding data rfl
      have hdecodable : Decodable cbor state.written (index + 1) ↔
          (cbor.unmarshal data).isSome = true := by simp [Decodable, hdata]
      have hraw : ∀ found other subject fluxID, .raw found subject other fluxID ∈
          (Telemetry.process cbor base (index + 1) data accepted).1 →
          found = index + 1 ∧ other = data := fun _ _ _ _ => process_raw
      have hindices := @indices_process cbor base (index + 1) data accepted
      have hfine := @process_fine cbor base (index + 1) data accepted
      generalize Telemetry.process cbor base (index + 1) data accepted = result at *
      have hsorted : (indices result.1).Pairwise (· < ·) := by grind
      have hnew : ∀ other ∈ indices result.1, other = index + 1 := by grind
      have hnone : result.2 = false → indices result.1 = [] := by grind
      have hnext : result.2 = true → Decodable cbor state.written (index + 1) →
          index + 1 ∈ indices result.1 := by
        cases hdecode : cbor.unmarshal data <;> grind
      clear hindices hfine hdecodable
      have hpublished : ∀ shipper, State.published { state with
          shipper := shipper, session := state.session ++ result.1 } =
          state.published ++ indices result.1 := by
        simp [State.published]
      refine ⟨hinv.last, hinv.reads, hinv.front, ?_, hinv.savedBack, ?_, ?_, ?_, ?_, ?_⟩
      · grind [hinv.truncated]
      · grind [hinv.savedDone]
      · rw [indices_append, List.pairwise_append]
        exact ⟨hinv.ordered, hsorted, by grind [Shipper.nextRead]⟩
      · intro other subject payload fluxID hmem
        rw [← List.append_assoc, List.mem_append] at hmem
        rcases hmem with hold | hnewest
        · exact hinv.authentic other subject payload fluxID hold
        · obtain ⟨rfl, rfl⟩ := hraw _ _ _ _ hnewest
          exact ⟨Nat.succ_pos index, hdata⟩
      · grind [hinv.complete, Shipper.nextRead]
      · intro shipper hmoved
        cases hmoved
        have hlt := (List.getElem?_eq_some_iff.mp hdata).1
        refine ⟨hcursor, hheld, ?_, ?_, ?_, ?_⟩ <;> grind [Shipper.nextRead, indices_append]
  · exact hinv

lemma Invariant.advance : Invariant wal cbor (take wal cbor base state .advance) := by
  simp only [take]
  split
  · next index cursor hshipper =>
      have hrun := hinv.running _ hshipper
      refine hinv.withShipper _ fun moved hmoved => ?_
      cases hmoved
      have hfront : wal.firstIndex state.log ≤ index + 1 + 1 := hrun.front.trans (Nat.le_succ _)
      split_ifs
      · exact ⟨rfl, hfront, hrun.back, hrun.done, hrun.sent, nofun⟩
      · exact ⟨rfl, hfront, hrun.back, hrun.done, hrun.sent, nofun⟩
  · exact hinv

lemma Invariant.truncate (succeeds : Bool) :
    Invariant wal cbor (take wal cbor base state (.truncate succeeds)) := by
  simp only [take]
  split
  · next index cursor hshipper =>
      have hrun := hinv.running _ hshipper
      have hback : index + 1 ≤ state.written.length + 1 := hrun.back
      have hfirst := wal.firstIndex_truncateFront state.log index
      have hfront : wal.firstIndex state.log ≤ index + 1 := hrun.front
      cases succeeds with
      | false =>
        refine hinv.withShipper _ fun moved hmoved => ?_
        cases hmoved
        exact ⟨hrun.cursor, hrun.front, hrun.back, hrun.done, hrun.sent, nofun⟩
      | true =>
        have hindex : wal.firstIndex (wal.truncateFront state.log index) ≤ index + 1 := by
          omega
        refine ⟨?_, ?_, hindex.trans hback, ?_, hinv.savedBack, hinv.savedDone, hinv.ordered,
          hinv.authentic, hinv.complete, ?_⟩
        · exact (wal.lastIndex_truncateFront state.log index).trans hinv.last
        · intro other hpos hheld
          exact (wal.read_truncateFront state.log index other hheld).trans
            (hinv.reads other hpos (hfirst.1.trans hheld))
        · intro other hbefore
          exact hrun.done other (lt_of_lt_of_le hbefore hindex)
        · intro moved hmoved
          cases hmoved
          exact ⟨hrun.cursor, hindex, hrun.back, hrun.done, hrun.sent, nofun⟩
  · exact hinv

/-- Every step keeps the invariant, a restart if it is a clean one. -/
lemma invariant_take (step : Step)
    (hclean : step = .start → state.shipper = none → CleanRestart wal state) :
    Invariant wal cbor (take wal cbor base state step) := by
  cases step with
  | write payload => exact hinv.write payload
  | start =>
    cases hshipper : state.shipper with
    | none => exact hinv.start hshipper (hclean rfl hshipper)
    | some =>
      simp only [take, hshipper]
      exact hinv
  | save =>
    simp only [take]
    split
    · next index cursor hshipper => exact hinv.save hshipper
    · exact hinv
  | read => exact hinv.read
  | process accepted => exact hinv.process accepted
  | advance => exact hinv.advance
  | truncate succeeds => exact hinv.truncate succeeds
  | stop =>
    simp only [take]
    split
    · next index cursor hshipper =>
        exact (hinv.save hshipper).withShipper none nofun
    · exact hinv
  | crash => exact hinv.crash

end

end

end Fluxrig.Telemetry
