import Fluxrig.Telemetry.Shipper

/-!
# Delivery of the telemetry log

Passes of the shipper's loop catch up with the log, so that the invariant is enough for
`Ships`.  The runs on which shipping never skips and never stalls are those whose
restarts all find a record to go on with (`shipping_iff`).
-/

namespace Fluxrig.Telemetry

open Fluxrig.Core
open Message

section

variable {Log : Type} {wal : WriteAheadLog Log} {cbor : Cbor} {base : Text}
  {state : State Log}

/-- A pass that finds a record deals with it. -/
lemma turn_of_read {index cursor : ℕ} {data : Payload}
    (hshipper : state.shipper = some ⟨index, cursor, .reading⟩)
    (hread : wal.read state.log (index + 1) = some data) :
    turn wal cbor base state =
      { state with
        log := if (index + 1) % 1000 = 0 then wal.truncateFront state.log (index + 1)
          else state.log
        shipper := some ⟨index + 1, index + 1, .reading⟩
        session := state.session ++ (process cbor base (index + 1) data true).1 } := by
  have hfine : (process cbor base (index + 1) data true).2 = true := process_fine
  simp only [turn, pass, List.foldl_cons, List.foldl_nil, take, hshipper, hread, hfine, if_true]
  by_cases hfull : (index + 1) % 1000 = 0
  · simp only [if_pos hfull]
  · simp only [if_neg hfull]

/-- A pass that finds none changes nothing. -/
lemma turn_of_not_found {index cursor : ℕ}
    (hshipper : state.shipper = some ⟨index, cursor, .reading⟩)
    (hread : wal.read state.log (index + 1) = none) :
    turn wal cbor base state = state := by
  simp only [turn, pass, List.foldl_cons, List.foldl_nil, take, hshipper, hread]

lemma invariant_turn (hinv : Invariant wal cbor state) :
    Invariant wal cbor (turn wal cbor base state) := by
  change Invariant wal cbor (take wal cbor base _ (.truncate true))
  exact hinv.read.process true |>.advance |>.truncate true

/-- After a pass the shipper is about to read again. -/
lemma turn_reading {shipper : Shipper} (hshipper : state.shipper = some shipper) :
    ∃ index cursor, (turn wal cbor base state).shipper = some ⟨index, cursor, .reading⟩ ∧
      (turn wal cbor base state).written = state.written := by
  obtain ⟨index, cursor, phase⟩ := shipper
  cases phase with
  | reading =>
    cases hread : wal.read state.log (index + 1) with
    | none =>
      rw [turn_of_not_found hshipper hread]
      exact ⟨index, cursor, hshipper, rfl⟩
    | some =>
      rw [turn_of_read hshipper hread]
      exact ⟨index + 1, index + 1, rfl, rfl⟩
  | processing data =>
    have hfine : (process cbor base (index + 1) data true).2 = true := process_fine
    refine ⟨index + 1, index + 1, ?_⟩
    simp only [turn, pass, List.foldl_cons, List.foldl_nil, take, hshipper, hfine, if_true]
    by_cases hfull : (index + 1) % 1000 = 0
    · simp only [if_pos hfull, and_self]
    · simp only [if_neg hfull, and_self]
  | processed =>
    refine ⟨index + 1, index + 1, ?_⟩
    simp only [turn, pass, List.foldl_cons, List.foldl_nil, take, hshipper]
    by_cases hfull : (index + 1) % 1000 = 0
    · simp only [if_pos hfull, and_self]
    · simp only [if_neg hfull, and_self]
  | truncating =>
    refine ⟨index, cursor, ?_⟩
    simp only [turn, pass, List.foldl_cons, List.foldl_nil, take, hshipper, and_self]

/-- A shipper that has records before it goes on by one with each pass. -/
lemma turns_advance (hinv : Invariant wal cbor state) {index : ℕ}
    (hshipper : state.shipper = some ⟨index, index, .reading⟩) {count : ℕ}
    (hcount : index + count ≤ state.written.length) :
    ((turn wal cbor base)^[count] state).shipper = some ⟨index + count, index + count, .reading⟩ ∧
      ((turn wal cbor base)^[count] state).saved = state.saved ∧
      ((turn wal cbor base)^[count] state).written = state.written ∧
      Invariant wal cbor ((turn wal cbor base)^[count] state) := by
  induction count with
  | zero => exact ⟨hshipper, rfl, rfl, hinv⟩
  | succ count ih =>
    obtain ⟨hnow, hsaved, hwritten, hlater⟩ := ih (by omega)
    rw [Function.iterate_succ_apply']
    generalize (turn wal cbor base)^[count] state = before at *
    have hread := hlater.reads (index + count + 1) (Nat.succ_pos _) (hlater.running _ hnow).front
    rw [List.getElem?_eq_getElem (by rw [hwritten]; omega)] at hread
    have hturn := @turn_of_read _ wal cbor base before _ _ _ hnow hread
    have hkept := @invariant_turn _ wal cbor base before hlater
    rw [hturn] at hkept ⊢
    exact ⟨rfl, hsaved, hwritten, hkept⟩

/-- What the invariant is for. -/
lemma Invariant.ships (hinv : Invariant wal cbor state) : Ships wal cbor base state where
  ordered := hinv.ordered
  authentic := hinv.authentic
  complete := hinv.complete
  readable shipper hshipper index hfirst hlast hdecodable hmissing := by
    have hrun := hinv.running shipper hshipper
    have hfront := hrun.front
    -- The missing record is not among those the shipper has passed.
    have hahead : shipper.nextRead ≤ index := by
      by_contra hpassed
      exact hmissing (hrun.done index (not_le.mp hpassed) hdecodable)
    have hnext : shipper.index + 1 ≤ shipper.nextRead := by
      rw [Shipper.nextRead]
      split
      · exact Nat.le_succ _
      · exact le_rfl
    rw [Option.isSome_iff_ne_none]
    intro hnone
    rcases (wal.read_eq_none_iff _ _ (by omega)).mp hnone with hbefore | hbehind
    · omega
    · omega
  delivers hrunning := by
    obtain ⟨shipper, hshipper⟩ := Option.isSome_iff_exists.mp hrunning
    obtain ⟨index, cursor, hreading, hwritten⟩ :=
      @turn_reading Log wal cbor base state shipper hshipper
    have hnext := @invariant_turn Log wal cbor base state hinv
    have hrun := hnext.running _ hreading
    have hcursor : cursor = index := hrun.cursor
    have hback : index + 1 ≤ _ := hrun.back
    obtain ⟨behind, hbehind⟩ := Nat.exists_eq_add_of_le (Nat.le_of_succ_le_succ hback)
    -- As many further passes as the shipper lags behind.
    obtain ⟨hlast, _, hsame, hfinal⟩ :=
      @turns_advance Log wal cbor base _ hnext index (hcursor ▸ hreading) behind hbehind.ge
    refine ⟨behind + 1, fun other hdecodable => ?_⟩
    rw [← hwritten, ← hsame] at hdecodable
    apply (hfinal.running _ hlast).done other _ hdecodable
    exact Nat.lt_succ_of_le (hdecodable.le.trans_eq (by rw [hsame, hbehind]))

end

section

variable {Log : Type} (wal : WriteAheadLog Log) (cbor : Cbor) (base : Text)

/-- The state after the first `time` steps of a run. -/
def runAt (steps : List Step) (time : ℕ) : State Log :=
  stateAt (take wal cbor base) (initial wal) steps time

/-- Write more records. -/
def writeAll (state : State Log) (payloads : List Payload) : State Log :=
  payloads.foldl (fun before payload => take wal cbor base before (.write payload)) state

variable {wal cbor base}

lemma invariant_writeAll {state : State Log} (hinv : Invariant wal cbor state)
    (payloads : List Payload) :
    Invariant wal cbor (writeAll wal cbor base state payloads) := by
  induction payloads generalizing state with
  | nil => exact hinv
  | cons payload _ ih => exact ih (hinv.write payload)

/-- After a restart from a saved cursor whose next record was cut off, the record to be
read is not there, and a record written then is not reached. -/
lemma cleanRestart_of_ships {state : State Log} (hinv : Invariant wal cbor state)
    (hnone : state.shipper = none)
    (hships : Ships wal cbor base (writeAll wal cbor base
      (take wal cbor base state .start) [cbor.sample])) :
    CleanRestart wal state := by
  by_contra hunclean
  obtain ⟨hsaved, hcut⟩ := not_or.mp hunclean
  have hwrite := wal.firstIndex_write state.log cbor.sample
  have hfront := hinv.front
  have hstart : startLoop wal state.log state.saved = ⟨state.saved, state.saved, .reading⟩ := by
    rw [startLoop]
    simp only [hsaved, false_and, if_false]
  have hafter : writeAll wal cbor base (take wal cbor base state .start)
      [cbor.sample] = ⟨wal.write state.log cbor.sample, state.saved,
          some ⟨state.saved, state.saved, .reading⟩, state.written ++ [cbor.sample],
          state.earlier ++ state.session, []⟩ := by
    simp only [writeAll, List.foldl_cons, List.foldl_nil, take, hnone, hstart]
  rw [hafter] at hships
  have hmissing : state.written.length + 1 ∉ indices ((state.earlier ++ state.session) ++ []) := by
    intro hmem
    rw [List.append_nil] at hmem
    exact absurd (hinv.published_le hmem) (Nat.not_succ_le_self _)
  have hdecodable : Decodable cbor (state.written ++ [cbor.sample]) (state.written.length + 1) :=
    ⟨Nat.succ_pos _, cbor.sample, List.getElem?_concat_length, cbor.unmarshal_sample⟩
  have hheld : wal.firstIndex (wal.write state.log cbor.sample) ≤ state.written.length + 1 := by
    omega
  have hread : (wal.read (wal.write state.log cbor.sample) (state.saved + 1)).isSome = true :=
    hships.readable _ rfl (state.written.length + 1) hheld
      (by rw [wal.lastIndex_write, hinv.last]) hdecodable hmissing
  have hgone : wal.read (wal.write state.log cbor.sample) (state.saved + 1) = none :=
    (wal.read_eq_none_iff _ _ (Nat.succ_pos _)).mpr (.inl (by omega))
  rw [hgone] at hread
  cases hread

lemma invariant_runAt {steps : List Step}
    (hclean : ∀ time, Invariant wal cbor (runAt wal cbor base steps time) →
      steps[time]? = some .start → (runAt wal cbor base steps time).shipper = none →
      CleanRestart wal (runAt wal cbor base steps time)) (time : ℕ) :
    Invariant wal cbor (runAt wal cbor base steps time) := by
  apply stateAt_induction invariant_initial
  intro moment step hstep hbefore
  apply invariant_take hbefore
  intro hstart
  rw [hstart] at hstep
  exact hclean moment hbefore hstep

/-- Whatever is written at whatever time of a run, shipping keeps its promises, exactly
if each restart in the run finds no saved cursor or one that the log still follows. -/
theorem shipping_iff (wal : WriteAheadLog Log) (cbor : Cbor) (base : Text) (steps : List Step) :
    (∀ time payloads, Ships wal cbor base
      (writeAll wal cbor base (runAt wal cbor base steps time) payloads)) ↔
      ∀ time, steps[time]? = some .start → (runAt wal cbor base steps time).shipper = none →
        CleanRestart wal (runAt wal cbor base steps time) := by
  constructor
  · intro hships time
    have hclean : ∀ moment, Invariant wal cbor (runAt wal cbor base steps moment) →
        steps[moment]? = some .start →
        (runAt wal cbor base steps moment).shipper = none →
        CleanRestart wal (runAt wal cbor base steps moment) := by
      intro moment hinv hstart hnone
      have hlater := hships (moment + 1) [cbor.sample]
      rw [runAt, stateAt_succ hstart] at hlater
      exact cleanRestart_of_ships hinv hnone hlater
    exact hclean time (invariant_runAt hclean time)
  · intro hclean time payloads
    have hinv := invariant_runAt (fun moment _ => hclean moment) time
    exact (invariant_writeAll hinv payloads).ships

end

/-! ## A crash between a truncation and the next save -/

/-- A log that keeps everything and remembers where it was cut. -/
structure PlainLog where
  payloads : List Payload
  first : ℕ
  held : first ≤ payloads.length + 1

def PlainLog.truncate (log : PlainLog) (index : ℕ) : PlainLog where
  payloads := log.payloads
  first := if log.first ≤ index ∧ index ≤ log.payloads.length then index else log.first
  held := by
    have hheld := log.held
    split_ifs with hrange
    · exact hrange.2.trans (Nat.le_succ _)
    · exact hheld

def plainLog : WriteAheadLog PlainLog where
  empty := ⟨[], 1, le_rfl⟩
  firstIndex log := log.first
  lastIndex log := log.payloads.length
  read log index := if log.first ≤ index then log.payloads[index - 1]? else none
  write log payload := ⟨log.payloads ++ [payload], log.first, by
    rw [List.length_append]
    exact log.held.trans (Nat.le_succ _)⟩
  truncateFront := PlainLog.truncate
  firstIndex_empty := le_rfl
  lastIndex_empty := rfl
  read_eq_none_iff log index hpos := by
    split_ifs with hheld
    · rw [List.getElem?_eq_none_iff]
      omega
    · simp only [true_iff]
      omega
  firstIndex_write log payload := ⟨le_rfl, le_max_right _ _⟩
  lastIndex_write log payload := by rw [List.length_append, List.length_singleton]
  read_write_last log payload := by
    rw [if_pos log.held, Nat.add_sub_cancel, List.getElem?_concat_length]
  read_write log payload index hle hpos := by
    rw [List.getElem?_append_left (by omega)]
  firstIndex_truncateFront log index := by
    rw [PlainLog.truncate]
    split_ifs with hrange
    · exact ⟨hrange.1, le_max_left _ _⟩
    · exact ⟨le_rfl, le_max_right _ _⟩
  lastIndex_truncateFront _ _ := rfl
  read_truncateFront log index other hheld := by
    have hfirst : log.first ≤ other := by
      rw [PlainLog.truncate] at hheld
      split_ifs at hheld with hrange
      · exact hrange.1.trans hheld
      · exact hheld
    rw [if_pos hheld, if_pos hfirst]
    rfl

/-- A decoder that takes everything. -/
def plainCbor : Cbor := ⟨fun _ => some FluxMsg.new, [], rfl⟩

def telemetry : Text := utf8 "fluxrig.telemetry"

/-- A thousand records are written.  The first is shipped and the cursor saved, the
others are shipped and the log is cut; then the process crashes before it saves the
cursor again, starts, and one more record is written. -/
def crashRun : List Step :=
  List.replicate 1000 (.write []) ++ (.start :: (pass ++ (.save ::
    ((List.replicate 998 pass).flatten ++ (pass ++ [.crash, .start, .write []])))))

section

variable {state : State PlainLog} {index saved : ℕ}

/-- A shipper between two passes, with a thousand records in the log. -/
structure Shipping (state : State PlainLog) (index saved : ℕ) : Prop where
  shipper : state.shipper = some ⟨index, index, .reading⟩
  saved : state.saved = saved
  written : state.written.length = 1000
  invariant : Invariant plainLog plainCbor state

section

variable (hshipping : Shipping state index saved)

include hshipping

lemma Shipping.turns (count : ℕ) (hcount : index + count ≤ 1000) :
    Shipping ((turn plainLog plainCbor telemetry)^[count] state) (index + count) saved := by
  obtain ⟨hshipper, hsaved, hwritten, hinv⟩ := @turns_advance _ plainLog plainCbor telemetry
    state hshipping.invariant index hshipping.shipper count (hshipping.written.symm ▸ hcount)
  exact ⟨hshipper, hsaved.trans hshipping.saved, by rw [hwritten, hshipping.written], hinv⟩

lemma Shipping.turn (hindex : index + 1 ≤ 1000) :
    Shipping (turn plainLog plainCbor telemetry state) (index + 1) saved :=
  hshipping.turns 1 hindex

lemma Shipping.save : Shipping (take plainLog plainCbor telemetry state .save) index index := by
  have htake : take plainLog plainCbor telemetry state .save = { state with saved := index } := by
    simp only [take, hshipping.shipper]
  rw [htake]
  exact ⟨hshipping.shipper, rfl, hshipping.written, hshipping.invariant.save hshipping.shipper⟩

end

/-- The thousandth record cuts the log. -/
lemma Shipping.cut (hshipping : Shipping state 999 saved) :
    (Telemetry.turn plainLog plainCbor telemetry state).log.first = 1000 := by
  have hinv := hshipping.invariant
  have hfront : state.log.first ≤ 1000 := (hinv.running _ hshipping.shipper).front
  have hlast : state.log.payloads.length = 1000 := hinv.last.trans hshipping.written
  have hread := hinv.reads 1000 (by decide) hfront
  rw [List.getElem?_eq_getElem (by rw [hshipping.written]; decide)] at hread
  rw [turn_of_read hshipping.shipper hread]
  exact if_pos ⟨hfront, hlast.ge⟩

lemma foldl_passes (count : ℕ) (state : State PlainLog) :
    (List.replicate count pass).flatten.foldl (take plainLog plainCbor telemetry) state =
      (turn plainLog plainCbor telemetry)^[count] state := by
  induction count generalizing state with
  | zero => rfl
  | succ _ ih =>
    rw [List.replicate_succ, List.flatten_cons, List.foldl_append, ih]
    rfl

lemma foldl_pass (state : State PlainLog) : pass.foldl (take plainLog plainCbor telemetry) state =
      turn plainLog plainCbor telemetry state := rfl

/-- Writing to a log that is not shipped yet. -/
lemma foldl_writes (count : ℕ) (state : State PlainLog) :
    let after := (List.replicate count (.write [])).foldl (take plainLog plainCbor telemetry) state
    after.shipper = state.shipper ∧ after.saved = state.saved ∧
      after.log.first = state.log.first ∧
      after.written.length = state.written.length + count ∧
      (Invariant plainLog plainCbor state → Invariant plainLog plainCbor after) := by
  induction count generalizing state with
  | zero => exact ⟨rfl, rfl, rfl, rfl, id⟩
  | succ count ih =>
    obtain ⟨hshipper, hsaved, hfirst, hwritten, hinv⟩ :=
      ih (take plainLog plainCbor telemetry state (.write []))
    refine ⟨hshipper, hsaved, hfirst, ?_, fun hbefore => hinv (hbefore.write [])⟩
    rw [List.replicate_succ, List.foldl_cons, hwritten]
    change (state.written ++ [[]]).length + count = _
    rw [List.length_append, List.length_singleton]
    omega

lemma shipping_start (hinv : Invariant plainLog plainCbor state)
    (hnone : state.shipper = none) (hsaved : state.saved = 0) (hfirst : state.log.first = 1)
    (hwritten : state.written.length = 1000) :
    Shipping (take plainLog plainCbor telemetry state .start) 0 0 := by
  have hstart : startLoop plainLog state.log state.saved = ⟨0, 0, .reading⟩ := by
    have hone : ¬ 1 < plainLog.firstIndex state.log := hfirst.not_gt
    simp only [startLoop, hone, and_false, if_false, hsaved]
  have hkept := @Invariant.start _ plainLog plainCbor telemetry state hinv hnone (.inl hsaved)
  simp only [take, hnone, hstart] at hkept ⊢
  exact ⟨rfl, hsaved, hwritten, hkept⟩

/-- Right before the crash the log starts at the thousandth record, and the cursor on
disk is at the first. -/
lemma crashRun_eq : ∃ state, Shipping state 1000 1 ∧ state.log.first = 1000 ∧
    crashRun.foldl (take plainLog plainCbor telemetry) (initial plainLog) =
      [Step.crash, .start, .write []].foldl (take plainLog plainCbor telemetry) state := by
  obtain ⟨hnone, hsaved, hfirst, hwritten, hinv⟩ := foldl_writes 1000 (initial plainLog)
  have hfilled := hinv invariant_initial
  have hstarted := shipping_start hfilled hnone hsaved hfirst (hwritten.trans (Nat.zero_add 1000))
  have hone := hstarted.turn (by decide)
  have hmost := hone.save.turns 998 (by decide)
  have hall := hmost.turn (by decide)
  refine ⟨_, hall, hmost.cut, ?_⟩
  rw [crashRun, List.foldl_append, List.foldl_cons, List.foldl_append, foldl_pass,
    List.foldl_cons, List.foldl_append, foldl_passes, List.foldl_append, foldl_pass]

/-- The shipper asks for the second record for ever, and never comes to the last one. -/
theorem stalled_after_crash :
    let state := crashRun.foldl (take plainLog plainCbor telemetry) (initial plainLog)
    state.shipper = some ⟨1, 1, .reading⟩ ∧ plainLog.read state.log 2 = none ∧
      plainLog.read state.log 1001 = some [] ∧
      ∀ turns, 1001 ∉ ((turn plainLog plainCbor telemetry)^[turns] state).published := by
  obtain ⟨before, hshipping, hfirst, heq⟩ := crashRun_eq
  have hinv := hshipping.invariant
  have hlast : before.log.payloads.length = 1000 := hinv.last.trans hshipping.written
  have hafter : [Step.crash, .start, .write []].foldl (take plainLog plainCbor telemetry) before =
      ⟨plainLog.write before.log [], 1, some ⟨1, 1, .reading⟩, before.written ++ [[]],
        before.earlier ++ before.session, []⟩ := by
    simp only [List.foldl_cons, List.foldl_nil, take, startLoop, hshipping.saved, one_ne_zero,
      false_and, if_false]
  have hgone : plainLog.read (plainLog.write before.log []) 2 = none :=
    if_neg (by rw [show (plainLog.write before.log []).first = 1000 from hfirst]; decide)
  have hthere : plainLog.read (plainLog.write before.log []) 1001 = some [] := by
    have hread := plainLog.read_write_last before.log []
    rwa [show plainLog.lastIndex before.log = 1000 from hlast] at hread
  rw [heq, hafter]
  refine ⟨rfl, hgone, hthere, fun turns => ?_⟩
  have hstays := @turn_of_not_found _ plainLog plainCbor telemetry
    ⟨plainLog.write before.log [], 1, some ⟨1, 1, .reading⟩, before.written ++ [[]],
      before.earlier ++ before.session, []⟩ 1 1 rfl hgone
  rw [Function.iterate_fixed hstays, State.published, List.append_nil]
  intro hmem
  have hle := hinv.published_le hmem
  rw [hshipping.written] at hle
  exact absurd hle (by decide)

end

end Fluxrig.Telemetry
