import Fluxrig.Core.Loop

/-!
# A scanner over a stream that arrives in reads

A scanner holds what it has read and hands it to a split function, which passes some bytes
and may return a token, or fails.  Without a token the scanner reads on, until what it
holds is as long as a token may be.  If the split function takes a frame for its payload
as soon as it is whole, and no part of a frame for anything, then a stream of frames comes
out as their payloads, however it is cut into reads.
-/

namespace Fluxrig.Core

open Relation

variable {Byte Err : Type*}

/-- What is made of the bytes held: how many to pass, and the token if there is one.  The
flag says that no more bytes follow. -/
abbrev SplitFunc (Byte Err : Type*) := List Byte → Bool → Except Err (ℕ × Option (List Byte))

inductive ScanErr (Err : Type*) where
  | tooLong
  | split (err : Err)

structure Scanner (Byte : Type*) where
  held : List Byte
  reads : List (List Byte)
  ended : Bool
  tokens : List (List Byte)

def Scanner.new (reads : List (List Byte)) : Scanner Byte := ⟨[], reads, false, []⟩

abbrev Scanned (Byte Err : Type*) := List (List Byte) × Option (ScanErr Err)

/-- Read on, or leave. -/
def Scanner.readMore (most : ℕ) (scanner : Scanner Byte) : Scanner Byte ⊕ Scanned Byte Err :=
  if scanner.ended then .inr (scanner.tokens, none)
  else if most ≤ scanner.held.length then .inr (scanner.tokens, some .tooLong)
  else
    match scanner.reads with
    | [] => .inl { scanner with ended := true }
    | read :: reads => .inl { scanner with held := scanner.held ++ read, reads := reads }

variable (split : SplitFunc Byte Err) (most : ℕ) (scanner : Scanner Byte)

/-- One turn of a loop that collects all tokens. -/
def Scanner.turn : Scanner Byte ⊕ Scanned Byte Err :=
  if scanner.held.isEmpty && !scanner.ended then scanner.readMore most
  else
    match split scanner.held scanner.ended with
    | .error err => .inr (scanner.tokens, some (.split err))
    | .ok (advance, none) =>
        Scanner.readMore most { scanner with held := scanner.held.drop advance }
    | .ok (advance, some token) =>
        .inl { scanner with
          held := scanner.held.drop advance
          tokens := scanner.tokens ++ [token] }

/-- The tokens that the scanner returns in the end. -/
def Scans (result : Scanned Byte Err) : Prop :=
  ∃ fuel, loop (Scanner.turn split most) fuel scanner = some result

/-- The split function takes the frame for the payload, and no part of it for anything. -/
structure Recovers (split : SplitFunc Byte Err) (most : ℕ) (frame payload : List Byte) :
    Prop where
  whole : ∀ more ended, split (frame ++ more) ended = .ok (frame.length, some payload)
  part : ∀ held, held <+: frame → held ≠ frame → split held false = .ok (0, none)
  short : frame.length ≤ most
  nonempty : frame ≠ []

section

variable {split : SplitFunc Byte Err} {most : ℕ} {scanner : Scanner Byte}
  {frame payload rest : List Byte} {result : Scanned Byte Err}

/-- What is still to come of the stream. -/
def Scanner.unread (scanner : Scanner Byte) : List Byte := scanner.held ++ scanner.reads.flatten

lemma Scans.of_reaches {later : Scanner Byte}
    (hreaches : ReflTransGen (Continues (Scanner.turn split most)) scanner later)
    (hscans : Scans split most later result) : Scans split most scanner result := by
  obtain ⟨last, hlast, hleaves⟩ := loop_returns_iff.mp hscans
  exact loop_returns_iff.mpr ⟨last, hreaches.trans hlast, hleaves⟩

/-- A frame that is recovered comes out of the scanner, whatever follows it. -/
lemma Recovers.arrives (hrecovers : Recovers split most frame payload)
    (hended : scanner.ended = false) (hunread : scanner.unread = frame ++ rest) :
    ∃ later : Scanner Byte, ReflTransGen (Continues (Scanner.turn split most)) scanner later ∧
        later.ended = false ∧ later.unread = rest ∧
        later.tokens = scanner.tokens ++ [payload] := by
  obtain ⟨held, reads, ended, tokens⟩ := scanner
  obtain rfl : ended = false := hended
  rw [Scanner.unread] at hunread
  induction reads generalizing held with
  | nil =>
    obtain rfl : held = frame ++ rest := by simpa using hunread
    refine ⟨⟨rest, [], false, tokens ++ [payload]⟩, .single ?_, rfl, by simp [Scanner.unread],
      rfl⟩
    have hne : frame ++ rest ≠ [] := by simp [hrecovers.nonempty]
    simp [Continues, Scanner.turn, hrecovers.whole, hne]
  | cons read reads ih =>
    by_cases hwhole : frame <+: held
    · obtain ⟨more, rfl⟩ := hwhole
      rw [List.append_assoc, List.append_cancel_left_eq] at hunread
      refine ⟨⟨more, read :: reads, false, tokens ++ [payload]⟩, .single ?_, rfl, hunread, rfl⟩
      have hne : frame ++ more ≠ [] := by simp [hrecovers.nonempty]
      simp [Continues, Scanner.turn, hrecovers.whole, hne]
    · -- The frame is not whole yet, so the scanner reads on.
      have hpart : held <+: frame := by
        have hstart : held <+: frame ++ rest := ⟨_, hunread⟩
        exact (List.prefix_or_prefix_of_prefix hstart (List.prefix_append frame rest)).resolve_right
          hwhole
      have hne : held ≠ frame := fun heq => hwhole (heq ▸ List.prefix_rfl)
      have hlength : ¬ most ≤ held.length := by
        have hless := hpart.length_le.lt_of_ne fun heq => hne (hpart.eq_of_length heq)
        exact not_le.mpr (hless.trans_le hrecovers.short)
      obtain ⟨later, hreaches, hlater⟩ := ih (held ++ read) (by simpa using hunread)
      refine ⟨later, .head ?_ hreaches, hlater⟩
      by_cases hempty : held = []
      · simp_all [Continues, Scanner.turn, Scanner.readMore]
      · simp [Continues, Scanner.turn, Scanner.readMore, hempty, hlength,
          hrecovers.part held hpart hne]

/-- Without a token the split function passes nothing. -/
def Steady (split : SplitFunc Byte Err) : Prop :=
  ∀ held ended advance, split held ended = .ok (advance, none) → advance = 0

section

variable (hsteady : Steady split) (hended : scanner.ended = true → scanner.reads = [])

include hsteady hended

/-- The scanner leaves with what it has, reads on, or finds a token. -/
lemma Scanner.turn_cases : (∃ err, Scanner.turn split most scanner = .inr (scanner.tokens, err)) ∨
    (∃ next, Scanner.turn split most scanner = .inl next ∧ next.tokens = scanner.tokens ∧
      next.unread = scanner.unread ∧ (next.ended = true → next.reads = [])) ∨
    ∃ advance token next, split scanner.held scanner.ended = .ok (advance, some token) ∧
      Scanner.turn split most scanner = .inl next ∧
      next.tokens = scanner.tokens ++ [token] ∧ (next.ended = true → next.reads = []) := by
  have hread : (∃ err, (scanner.readMore most : _ ⊕ Scanned Byte Err) =
      .inr (scanner.tokens, err)) ∨ ∃ next, (scanner.readMore most : _ ⊕ Scanned Byte Err) =
      .inl next ∧ next.tokens = scanner.tokens ∧ next.unread = scanner.unread ∧
      (next.ended = true → next.reads = []) := by
    rw [Scanner.readMore]
    split
    · exact .inl ⟨none, rfl⟩
    · split
      · exact .inl ⟨some .tooLong, rfl⟩
      · split
        · next hreads => exact .inr ⟨_, rfl, rfl, rfl, fun _ => hreads⟩
        · next read reads hreads =>
          refine .inr ⟨_, rfl, rfl, ?_, fun hend => absurd hend ‹_›⟩
          rw [Scanner.unread, Scanner.unread, hreads, List.flatten_cons, List.append_assoc]
  rw [Scanner.turn]
  split
  · exact hread.imp_right .inl
  · split
    · exact .inl ⟨_, rfl⟩
    · next advance hsplit =>
      obtain rfl := hsteady _ _ advance hsplit
      exact hread.imp_right .inl
    · next advance token hsplit => exact .inr (.inr ⟨advance, token, _, hsplit, rfl, rfl, hended⟩)

/-- The tokens that a scanner has returned stay. -/
lemma tokens_of_loop {fuel : ℕ}
    (hloop : loop (Scanner.turn split most) fuel scanner = some result) :
    scanner.tokens <+: result.1 := by
  induction fuel generalizing scanner with
  | zero => nomatch hloop
  | succ _ ih =>
    rcases @Scanner.turn_cases _ _ split most scanner hsteady hended with ⟨err, hleaves⟩ |
      ⟨next, hnext, htokens, _, hreads⟩ | ⟨_, token, next, _, hnext, htokens, hreads⟩
    · rw [loop_of_leaves hleaves, Option.some.injEq] at hloop
      rw [← hloop]
    · rw [loop_of_continues hnext] at hloop
      exact htokens ▸ ih hreads hloop
    · rw [loop_of_continues hnext] at hloop
      exact (List.prefix_append _ [token]).trans (htokens ▸ ih hreads hloop)

/-- A token that a scanner returns next is one that the split function finds at the start
of the stream. -/
lemma exists_split_of_loop {fuel : ℕ} {later : List (List Byte)}
    (hloop : loop (Scanner.turn split most) fuel scanner = some result)
    (hresult : result.1 = scanner.tokens ++ payload :: later) :
    ∃ held ended advance, held <+: scanner.unread ∧ (ended = true → held = scanner.unread) ∧
      split held ended = .ok (advance, some payload) := by
  induction fuel generalizing scanner with
  | zero => nomatch hloop
  | succ _ ih =>
    rcases @Scanner.turn_cases _ _ split most scanner hsteady hended with ⟨err, hleaves⟩ |
      ⟨next, hnext, htokens, hunread, hreads⟩ |
      ⟨advance, token, next, hsplit, hnext, htokens, hreads⟩
    · rw [loop_of_leaves hleaves, Option.some.injEq] at hloop
      rw [← hloop] at hresult
      exact absurd hresult (by simp)
    · rw [loop_of_continues hnext] at hloop
      rw [← hunread]
      exact ih hreads hloop (htokens ▸ hresult)
    · rw [loop_of_continues hnext] at hloop
      have hstay := tokens_of_loop hsteady hreads hloop
      rw [htokens, hresult] at hstay
      have htoken : token = payload := by simpa using hstay
      refine ⟨scanner.held, scanner.ended, advance, List.prefix_append _ _, ?_, htoken ▸ hsplit⟩
      intro hend
      rw [Scanner.unread, hended hend, List.flatten_nil, List.append_nil]

end

/-- At the end of the stream the scanner leaves. -/
lemma scans_end (hend : split [] true = .ok (0, none)) (hmost : 0 < most)
    (hended : scanner.ended = false) (hunread : scanner.unread = []) :
    Scans split most scanner (scanner.tokens, none) := by
  obtain ⟨held, reads, ended, tokens⟩ := scanner
  obtain rfl : ended = false := hended
  obtain ⟨rfl, hreads⟩ := List.append_eq_nil_iff.mp hunread
  clear hunread
  induction reads with
  | nil =>
    refine ⟨2, ?_⟩
    simp [loop, Scanner.turn, Scanner.readMore, hend, hmost.ne']
  | cons _ _ ih =>
    rw [List.flatten_cons, List.append_eq_nil_iff] at hreads
    refine (ih hreads.2).of_reaches (.single ?_)
    simp [Continues, Scanner.turn, Scanner.readMore, hmost.ne', hreads.1]

/-- The scanner returns the payloads of a stream of frames, however the stream is cut into
reads, exactly if all the frames are good: those that are recovered, and the only ones
for which the split function can find the payload at the start of the stream. -/
lemma scans_frames_iff {frameOf : List Byte → List Byte} {good : List Byte → Prop}
    (hsteady : Steady split) (hend : split [] true = .ok (0, none)) (hmost : 0 < most)
    {payloads : List (List Byte)}
    (hgood : ∀ payload ∈ payloads, good payload → Recovers split most (frameOf payload) payload)
    (hfound : ∀ payload ∈ payloads, ∀ rest held ended advance, held <+: frameOf payload ++ rest →
      (ended = true → held = frameOf payload ++ rest) →
      split held ended = .ok (advance, some payload) → good payload)
    (hended : scanner.ended = false)
    (hunread : scanner.unread = (payloads.map frameOf).flatten) :
    Scans split most scanner (scanner.tokens ++ payloads, none) ↔
      ∀ payload ∈ payloads, good payload := by
  induction payloads generalizing scanner with
  | nil =>
    rw [List.append_nil]
    exact iff_of_true (scans_end hend hmost hended hunread) nofun
  | cons payload _ ih =>
    rw [List.forall_mem_cons] at hgood hfound ⊢
    by_cases hfirst : good payload
    · obtain ⟨later, hreaches, hrest⟩ := (hgood.1 hfirst).arrives hended hunread
      have hiff := ih hgood.2 hfound.2 hrest.1 hrest.2.1
      rw [hrest.2.2, List.append_assoc] at hiff
      simp only [hfirst, true_and, ← hiff]
      exact ⟨fun hscans => loop_returns_of_reaches hscans hreaches, .of_reaches hreaches⟩
    · refine iff_of_false ?_ fun hall => hfirst hall.1
      intro ⟨fuel, hloop⟩
      obtain ⟨held, ended, advance, hheld, hwhole, hsplit⟩ := exists_split_of_loop hsteady
        (fun hend => absurd (hended.symm.trans hend) nofun) hloop rfl
      rw [hunread] at hheld hwhole
      exact hfirst (hfound.1 _ held ended advance hheld hwhole hsplit)

end

end Fluxrig.Core
