import Fluxrig.Core.Timeline
import Fluxrig.Tcp.Splitter

/-!
# Several writers on one connection

A call of `Process` writes one payload and a flush writes the backlog, each payload with
one socket write for its frame and, for an appended delimiter, one more.  Nothing keeps
another goroutine from writing between the two.  With a length before the payload there is
only one write, and the peer receives whole payloads in every interleaving.
-/

namespace Fluxrig.Tcp

open Fluxrig.Core Message
open scoped List

/-- A goroutine that sends: what it has still to write for the payload it is at, and the
payloads after that. -/
structure Writer where
  rest : List Text
  queue : List Text

/-- The next socket write: the bytes, the payload that begins with them, and what is left.
A payload that cannot be framed is skipped. -/
def Writer.write (cfg : Config) : Writer → Text × List Text × Writer
  | ⟨bytes :: rest, queue⟩ => (bytes, [], ⟨rest, queue⟩)
  | ⟨[], payload :: queue⟩ =>
      match frameOutbound cfg.framing payload with
      | .ok frame => (frame, [payload], ⟨cfg.trailer, queue⟩)
      | .error _ => ([], [], ⟨[], queue⟩)
  | ⟨[], []⟩ => ([], [], ⟨[], []⟩)

/-- A connection: its writers, the bytes written, and the payloads begun. -/
structure Socket where
  writers : List Writer
  stream : Text
  sent : List Text

def Socket.new (backlogs : List (List Text)) : Socket := ⟨backlogs.map (⟨[], ·⟩), [], []⟩

/-- The writer with the index makes its next write. -/
def Socket.take (cfg : Config) (socket : Socket) (index : ℕ) : Socket :=
  match socket.writers[index]? with
  | none => socket
  | some writer =>
      let (bytes, begun, next) := writer.write cfg
      ⟨socket.writers.set index next, socket.stream ++ bytes, socket.sent ++ begun⟩

def socketAt (cfg : Config) (backlogs : List (List Text)) (steps : List ℕ) (time : ℕ) : Socket :=
  stateAt (Socket.take cfg) (.new backlogs) steps time

/-- Nobody but the writer with the index is between a frame and its delimiter. -/
def Socket.Undivided (socket : Socket) (index : ℕ) : Prop :=
  ∀ other writer, socket.writers[other]? = some writer → other ≠ index → writer.rest = []

instance (socket : Socket) (index : ℕ) : Decidable (socket.Undivided index) :=
  decidable_of_iff (∀ other, (hlt : other < socket.writers.length) → other ≠ index →
    socket.writers[other].rest = []) (by simp [Socket.Undivided, List.getElem?_eq_some_iff])

def Socket.Finished (socket : Socket) : Prop :=
  ∀ writer ∈ socket.writers, writer.rest = [] ∧ writer.queue = []

/-- The gear sends the payload. -/
def Config.sends (cfg : Config) (payload : Text) : Bool :=
  match frameOutbound cfg.framing payload with
  | .ok _ => true
  | .error _ => false

/-- The payload is not empty, within the limit of the reader and has no byte of the
delimiter. -/
structure Config.Fits (cfg : Config) (payload : Text) : Prop where
  nonempty : payload ≠ []
  apart : ∀ byte ∈ payload, byte ∉ cfg.delimiter
  short : match cfg.framing with
    | .lengthPrefix2 | .lengthPrefix4 => payload.length ≤ 1024 * 1024
    | _ => payload.length + cfg.delimiter.length ≤ maxScanTokenSize

section

variable {cfg : Config} {socket : Socket} {index : ℕ}

lemma flatMap_of_others {Item Part : Type*} {items : List Item} {item : Item} {index : ℕ}
    {parts : Item → List Part} (hitem : items[index]? = some item)
    (hothers : ∀ other found, items[other]? = some found → other ≠ index → parts found = []) :
    items.flatMap parts = parts item := by
  induction items generalizing index with
  | nil => nomatch hitem
  | cons first items ih =>
    rw [List.flatMap_cons]
    cases index with
    | zero =>
      obtain rfl : first = item := Option.some.inj hitem
      rw [List.flatMap_eq_nil_iff.mpr, List.append_nil]
      intro found hfound
      obtain ⟨other, hother⟩ := List.mem_iff_getElem?.mp hfound
      exact hothers (other + 1) found hother nofun
    | succ index =>
      rw [hothers 0 first rfl nofun]
      apply ih hitem
      intro other found hfound hother
      exact hothers (other + 1) found hfound (by simpa using hother)

/-- What one write puts on the socket, and takes from what the writer has to write. -/
structure Writer.Wrote (cfg : Config) (writer : Writer) (bytes : Text) (begun : List Text)
    (next : Writer) : Prop where
  bytes : bytes ++ next.rest.flatten = writer.rest.flatten ++ (begun.map cfg.frame).flatten
  begun : begun ++ next.queue.filter cfg.sends = writer.queue.filter cfg.sends
  whole : cfg.trailer = [] → writer.rest = [] → next.rest = []

lemma Writer.wrote (writer : Writer) : writer.Wrote cfg (writer.write cfg).1
    (writer.write cfg).2.1 (writer.write cfg).2.2 := by
  fun_cases Writer.write cfg writer with
  | case1 bytes rest queue => constructor <;> simp
  | case2 payload queue frame hframe =>
    constructor
    · simp [Config.frame, hframe]
    · simp [Config.sends, hframe]
    · exact fun htrailer _ => htrailer
  | case3 payload queue err hframe => constructor <;> simp [Config.sends, hframe]
  | case4 => constructor <;> simp

/-- What is written and what its writers have still to add are the frames of the payloads
begun. -/
def Socket.Whole (cfg : Config) (socket : Socket) : Prop :=
  socket.stream ++ (socket.writers.flatMap Writer.rest).flatten =
    (socket.sent.map cfg.frame).flatten

lemma Socket.Whole.take (hwhole : socket.Whole cfg) (hundivided : socket.Undivided index) :
    (socket.take cfg index).Whole cfg := by
  rw [Socket.take]
  cases hwriter : socket.writers[index]? with
  | none => exact hwhole
  | some writer =>
    have hlt := (List.getElem?_eq_some_iff.mp hwriter).1
    have hafter : ∀ next : Writer, (socket.writers.set index next).flatMap Writer.rest =
        next.rest := by
      intro next
      apply flatMap_of_others (List.getElem?_set_self hlt)
      intro other found hfound hother
      rw [List.getElem?_set_ne (Ne.symm hother)] at hfound
      exact hundivided other found hfound hother
    rw [Socket.Whole, flatMap_of_others hwriter hundivided] at hwhole
    simp only [Socket.Whole, hafter]
    rw [List.append_assoc, writer.wrote.bytes, ← List.append_assoc, hwhole, List.map_append,
      List.flatten_append]

lemma perm_flatMap_set {Item Part : Type*} {items : List Item} {item : Item} {index : ℕ}
    {parts : Item → List Part} (hitem : items[index]? = some item) (next : Item) :
    ∃ others, (items.flatMap parts).Perm (parts item ++ others) ∧
      ((items.set index next).flatMap parts).Perm (parts next ++ others) := by
  obtain ⟨hlt, rfl⟩ := List.getElem?_eq_some_iff.mp hitem
  refine ⟨(items.eraseIdx index).flatMap parts, ?_, ?_⟩
  · exact ((List.getElem_cons_eraseIdx_perm hlt).flatMap_right parts).symm
  · have hperm := List.getElem_cons_eraseIdx_perm (l := items.set index next)
      (n := index) (by rwa [List.length_set])
    rw [List.getElem_set_self, List.eraseIdx_set_eq] at hperm
    exact (hperm.flatMap_right parts).symm

/-- What is begun and what is still to come are the payloads that the gear sends. -/
def Socket.Counted (cfg : Config) (payloads : List Text) (socket : Socket) : Prop :=
  (socket.sent ++ (socket.writers.flatMap Writer.queue).filter cfg.sends).Perm
    (payloads.filter cfg.sends)

lemma Socket.Counted.take {payloads : List Text} (hcounted : socket.Counted cfg payloads) :
    (socket.take cfg index).Counted cfg payloads := by
  rw [Socket.take]
  cases hwriter : socket.writers[index]? with
  | none => exact hcounted
  | some writer =>
    obtain ⟨others, hbefore, hafter⟩ :=
      @perm_flatMap_set _ _ _ _ _ Writer.queue hwriter (writer.write cfg).2.2
    have hsame : socket.sent ++ (writer.write cfg).2.1 ++
        ((writer.write cfg).2.2.queue ++ others).filter cfg.sends =
        socket.sent ++ (writer.queue ++ others).filter cfg.sends := by
      simp only [List.filter_append, ← writer.wrote.begun, List.append_assoc]
    calc socket.sent ++ (writer.write cfg).2.1 ++
          ((socket.writers.set index _).flatMap Writer.queue).filter cfg.sends
      _ ~ _ := (hafter.filter cfg.sends).append_left _
      _ = _ := hsame
      _ ~ _ := ((hbefore.filter cfg.sends).append_left _).symm
      _ ~ _ := hcounted

/-- With nothing to append no writer is ever in the middle of a payload. -/
lemma rest_take (htrailer : cfg.trailer = [])
    (hrest : ∀ writer ∈ socket.writers, writer.rest = []) :
    ∀ writer ∈ (socket.take cfg index).writers, writer.rest = [] := by
  rw [Socket.take]
  cases hwriter : socket.writers[index]? with
  | none => exact hrest
  | some writer =>
    intro found hfound
    cases List.mem_or_eq_of_mem_set hfound with
    | inl hold => exact hrest found hold
    | inr hnext =>
      rw [hnext]
      exact writer.wrote.whole htrailer (hrest writer (List.mem_of_getElem? hwriter))

lemma Config.Fits.accepts {payload : Text} (hfits : cfg.Fits payload)
    (hsymmetric : cfg.Symmetric) (hsends : cfg.sends payload = true) :
    cfg.Accepts payload ∧ cfg.Recoverable payload := by
  obtain ⟨_, hapart, hshort⟩ := hfits
  have hframed : ∃ frame, frameOutbound cfg.framing payload = .ok frame := by
    cases hframe : frameOutbound cfg.framing payload with
    | ok frame => exact ⟨frame, rfl⟩
    | error => simp [Config.sends, hframe] at hsends
  cases hframing : cfg.framing with
  | lengthPrefix2 | lengthPrefix4 =>
    simp only [Config.Accepts, Config.Recoverable, hframing] at hframed hshort ⊢
    exact ⟨hframed, hshort⟩
  | delimiter =>
    simp only [Config.Symmetric, hframing] at hsymmetric
    simp only [Config.Accepts, Config.Recoverable, hframing] at hshort ⊢
    obtain ⟨first, rest, hdelimiter⟩ := List.exists_cons_of_ne_nil hsymmetric.1
    have hfirst : first ∉ payload := fun hmem => hapart first hmem (by simp [hdelimiter])
    refine ⟨⟨fun hinside => hfirst (hinside.subset (by simp [hdelimiter])), hshort⟩, ?_⟩
    intro i hi hstart
    rw [hdelimiter, List.drop_append_of_le_length hi.le, List.drop_eq_getElem_cons hi,
      List.cons_append, List.cons_prefix_cons] at hstart
    exact hfirst (hstart.1 ▸ List.getElem_mem hi)
  | other => simp [Config.Symmetric, hframing] at hsymmetric

end

/-- In every interleaving of the writers, the peer receives the payloads whole and each
once, if with an appended delimiter nobody writes between a frame and its delimiter. -/
theorem tcp_payloads_unmixed (cfg : Config) (hsymmetric : cfg.Symmetric)
    (backlogs : List (List Text)) (hfits : ∀ payload ∈ backlogs.flatten, cfg.Fits payload)
    (steps : List ℕ)
    (hundivided : cfg.framing = .delimiter → ∀ time index, steps[time]? = some index →
      (socketAt cfg backlogs steps time).Undivided index)
    (hfinished : (socketAt cfg backlogs steps steps.length).Finished) (reads : List Text)
    (hreads : reads.flatten = (socketAt cfg backlogs steps steps.length).stream) :
    ∃ tokens, tokens.Perm (backlogs.flatten.filter cfg.sends) ∧
      Scans (makeSplitter cfg) maxScanTokenSize (.new reads) (tokens, none) := by
  have hruns : (socketAt cfg backlogs steps steps.length).Whole cfg ∧
      (socketAt cfg backlogs steps steps.length).Counted cfg backlogs.flatten ∧
      (cfg.trailer = [] →
        ∀ writer ∈ (socketAt cfg backlogs steps steps.length).writers, writer.rest = []) := by
    have hall := @stateAt_induction _ _ (Socket.take cfg) (.new backlogs) steps
      (fun socket => socket.Whole cfg ∧ socket.Counted cfg backlogs.flatten ∧
        (cfg.trailer = [] → ∀ writer ∈ socket.writers, writer.rest = []))
    refine hall ?_ ?_ steps.length
    · refine ⟨?_, ?_, ?_⟩
      · simp [Socket.Whole, Socket.new, List.flatMap_map]
      · simp [Socket.Counted, Socket.new, List.flatMap_map]
      · simp [Socket.new]
    · intro time index hindex ⟨hwhole, hcounted, hrest⟩
      refine ⟨hwhole.take ?_, hcounted.take, fun htrailer => rest_take htrailer (hrest htrailer)⟩
      by_cases hdelimiter : cfg.framing = .delimiter
      · exact hundivided hdelimiter time index hindex
      · have htrailer : cfg.trailer = [] := by simp [Config.trailer, hdelimiter]
        exact fun other writer hwriter _ => hrest htrailer writer (List.mem_of_getElem? hwriter)
  obtain ⟨hwhole, hcounted, -⟩ := hruns
  rw [Socket.Whole, List.flatMap_eq_nil_iff.mpr fun writer hwriter => (hfinished writer hwriter).1,
    List.flatten_nil, List.append_nil] at hwhole
  rw [Socket.Counted,
    List.flatMap_eq_nil_iff.mpr fun writer hwriter => (hfinished writer hwriter).2, List.filter_nil,
    List.append_nil] at hcounted
  have hall : ∀ payload ∈ (socketAt cfg backlogs steps steps.length).sent,
      cfg.Accepts payload ∧ cfg.Recoverable payload := by
    intro payload hpayload
    obtain ⟨hmem, hsends⟩ := List.mem_filter.mp (hcounted.subset hpayload)
    exact (hfits payload hmem).accepts hsymmetric hsends
  refine ⟨_, hcounted, ?_⟩
  rw [scans_payloads_iff hsymmetric (fun payload hpayload => (hall payload hpayload).1)
    (hreads.trans hwhole)]
  exact fun payload hpayload => (hall payload hpayload).2

lemma fits_bar (payloads : List Text)
    (hfits : ∀ payload ∈ payloads, payload ≠ [] ∧ (∀ byte ∈ payload, byte ∉ utf8 "|") ∧
      payload.length + (utf8 "|").length ≤ maxScanTokenSize) :
    ∀ payload ∈ payloads, (delimited (utf8 "|")).Fits payload :=
  fun payload hmem => ⟨(hfits payload hmem).1, (hfits payload hmem).2.1, (hfits payload hmem).2.2⟩

theorem tcp_payloads_unmixed_bar : ∃ tokens, tokens.Perm [utf8 "a", utf8 "b", utf8 "c"] ∧
      Scans (makeSplitter (delimited (utf8 "|"))) maxScanTokenSize
        (.new [utf8 "b|a", utf8 "|c|"]) (tokens, none) := by
  apply tcp_payloads_unmixed (delimited (utf8 "|")) ⟨by decide, rfl, rfl, rfl⟩
    [[utf8 "a"], [utf8 "b", utf8 "c"]] (fits_bar _ (by decide +kernel)) [1, 1, 0, 0, 1, 1] ?_
    (by simp only [Socket.Finished]; decide +kernel) _ (by decide +kernel)
  intro _ time index hstep
  have hlt : time < 6 := (List.getElem?_eq_some_iff.mp hstep).1
  interval_cases time <;> (obtain rfl : _ = index := Option.some.inj hstep; decide +kernel)

/-- Two calls write their payloads before either writes its delimiter. -/
theorem tcp_payloads_mixed :
    (∀ payload ∈ [utf8 "a", utf8 "b"], (delimited (utf8 "|")).Fits payload) ∧
      (socketAt (delimited (utf8 "|")) [[utf8 "a"], [utf8 "b"]] [0, 1, 0, 1] 4).Finished ∧
      (socketAt (delimited (utf8 "|")) [[utf8 "a"], [utf8 "b"]] [0, 1, 0, 1] 4).stream =
        utf8 "ab||" ∧
      Scans (makeSplitter (delimited (utf8 "|"))) maxScanTokenSize (.new [utf8 "ab||"])
        ([utf8 "ab", []], none) :=
  ⟨fits_bar _ (by decide +kernel), by simp only [Socket.Finished]; decide +kernel,
    by decide +kernel, 6, by rfl⟩

end Fluxrig.Tcp
