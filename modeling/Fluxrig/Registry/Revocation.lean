import Fluxrig.Registry.CallMoves
import Fluxrig.Registry.Milestones

/-!
# A removed secret stays removed

A secret hash lives in the records that carry it and in the calls that are about
to write one: an adoption holds a copy of the record it moves, and a
registration the secret it was issued.  Every operation of every call takes the
hash from one of these places, so once it is in none of them it does not come
back.

`RemoveEntity` deletes one record.  An adoption that has already read this
record writes its copy afterwards, and the removed Rack is back under another
machine ID with the secret that was revoked.
-/

namespace Fluxrig.Registry

open Fluxrig.Core

def Key.ref? : Key → Option NameRef
  | .entity ref => some ref
  | .name _ => none

/-- No record carries the secret hash. -/
def Unused (hash : String) (reg : RegBucket) : Prop :=
  ∀ ref ∈ reg.keys Key.ref?, ∀ rec ∈ recordOf reg ref, rec.secretHash ≠ hash

instance (hash : String) (reg : RegBucket) : Decidable (Unused hash reg) :=
  inferInstanceAs (Decidable (∀ _ ∈ _, _))

/-- The call is about to write a record with this secret hash. -/
def Debt.Carries (cfg : Settings) (hash : String) : Debt → Prop
  | .issue secret => cfg.hashSecret secret = hash
  | .copy holder => holder.secretHash = hash
  | .clear | .name _ _ => False

instance (cfg : Settings) (hash : String) : DecidablePred (Debt.Carries cfg hash)
  | .issue secret => inferInstanceAs (Decidable (cfg.hashSecret secret = hash))
  | .copy holder => inferInstanceAs (Decidable (holder.secretHash = hash))
  | .clear => isFalse id
  | .name _ _ => isFalse id

section

variable {cfg : Settings} {hash : String}
variable {op : Op} {input : Input} {reg : RegBucket} {after : Debt}

lemma unused_iff : Unused hash reg ↔
    ∀ ref rec, recordOf reg ref = some rec → rec.secretHash ≠ hash := by
  constructor
  · intro hunused ref rec hrecord
    obtain ⟨rev, hitem⟩ := exists_get_of_recordOf hrecord
    exact hunused ref ((reg.mem_keys_iff _ _).mpr ⟨_, _, hitem, rfl⟩) rec hrecord
  · exact fun hunused ref _ rec hrecord => hunused ref rec hrecord

section

variable (hunused : Unused hash reg)

include hunused

lemma Unused.write_entity {ref : NameRef} {rec : Record} (hhash : rec.secretHash ≠ hash) :
    Unused hash (reg.write (.entity ref) rec) := by
  rw [unused_iff] at hunused ⊢
  grind

lemma Unused.write_name {name : String} {ref : NameRef} :
    Unused hash (reg.write (.name name) ref) := by
  rw [unused_iff] at hunused ⊢
  grind

lemma Unused.remove {key : Key} : Unused hash (reg.remove key) := by
  rw [unused_iff] at hunused ⊢
  cases key <;> grind

lemma Unused.delete {key : Key} {rev : ℕ} (hrev : rev ≠ 0) :
    Unused hash (reg.delete key rev).2 := by
  by_cases hat : reg.At key rev
  · rw [Bucket.delete_of_at hat]
    exact hunused.remove
  · rw [Bucket.delete_of_not_at hrev hat]
    exact hunused

end

/-- A call takes a hash from a record, from its copy of one, or from the secret
it was issued. -/
lemma Moves.unused (hfresh : ∀ secret, input.secret = some secret → cfg.hashSecret secret ≠ hash)
    (hmoves : Moves cfg op input reg after)
    (hunused : Unused hash reg) (hdebt : ¬ op.debt.Carries cfg hash) :
    Unused hash (exec op input reg).2 ∧ ¬ after.Carries cfg hash := by
  have hnone := unused_iff.mp hunused
  cases hmoves with
  | pass _ hstate => exact ⟨by rwa [hstate], hdebt⟩
  | settle => exact ⟨hunused, id⟩
  | take hstored => exact ⟨hunused, hnone _ _ hstored⟩
  | draw hsecret => exact ⟨hunused, hfresh _ hsecret⟩
  | forget _ hstate => exact ⟨by rwa [hstate], id⟩
  | createFresh habsent hhash hafter =>
    rw [exec, Bucket.create_of_none _ habsent]
    exact ⟨hunused.write_entity (hhash ▸ hdebt), by grind [Debt.Carries]⟩
  | createCopy habsent hhash =>
    rw [exec, Bucket.create_of_none _ habsent]
    exact ⟨hunused.write_entity (hhash ▸ hdebt), id⟩
  | createName _ habsent hafter =>
    rw [exec, Bucket.create_of_none _ habsent]
    exact ⟨hunused.write_name, by grind [Debt.Carries]⟩
  | repoint hat =>
    rw [exec, Bucket.update_of_at _ hat]
    exact ⟨hunused.write_name, id⟩
  | moveKey hheld =>
    rw [exec, Bucket.update_of_at _ ⟨_, hheld, rfl⟩]
    exact ⟨hunused.write_name, id⟩
  | rewrite hread hhash hafter =>
    rw [exec, Bucket.update_of_at _ ⟨_, hread, rfl⟩]
    exact ⟨hunused.write_entity (hhash ▸ hnone _ _ (recordOf_of_get hread)),
      by grind [Debt.Carries]⟩
  | release hrev | takeBack hrev | dropOld hrev => exact ⟨hunused.delete hrev, id⟩
  | remove hat =>
    rw [exec, Bucket.delete_of_at hat]
    exact ⟨hunused.remove, id⟩
  | @restore ref name orig rev _ _ hhash =>
    refine ⟨?_, id⟩
    by_cases hat : reg.At (.entity ref) rev
    · rw [exec, Bucket.update_of_at _ hat]
      obtain ⟨⟨rec, _⟩, hread, rfl⟩ := hat
      exact hunused.write_entity (hhash rec hread ▸ hnone _ _ (recordOf_of_get hread))
    · rw [exec, Bucket.update_of_not_at _ hat]
      exact hunused

/-- A removal that has deleted its record owes nothing, and its delete is
conditional. -/
lemma Moves.clear_of_delete {key : Key} {rev : ℕ}
    (hmoves : Moves cfg (.delete .plain key rev) input reg after) :
    after = .clear ∧ rev ≠ 0 := by
  cases hmoves with
  | pass hconditional => exact ⟨rfl, hconditional⟩
  | forget hpending => exact hpending.elim
  | remove hat =>
    obtain ⟨item, hitem, rfl⟩ := hat
    exact ⟨rfl, (Bucket.rev_pos hitem).ne'⟩

end

/-- The step issues no secret with this hash. -/
def Fresh (cfg : Settings) (hash : String) : Event Call Input → Prop
  | .start _ => True
  | .step _ input => ∀ secret, input.secret = some secret → cfg.hashSecret secret ≠ hash

/-- When a removal deletes its record, no other record carries the secret hash,
and no other call in progress is about to write one that does. -/
def Clean (cfg : Settings) (world : World) (thread : ℕ) : Op → Prop
  | .delete .plain (.entity ref) rev =>
      ∀ item ∈ world.state.get (.entity ref), item.rev = rev →
        Unused item.value.secretHash (world.state.remove (.entity ref)) ∧
          ¬ (moving cfg).OthersOwe world thread (Debt.Carries cfg item.value.secretHash)
  | _ => True

instance (cfg : Settings) (world : World) (thread : ℕ) (op : Op) :
    Decidable (Clean cfg world thread op) := by
  unfold Clean
  split <;> infer_instance

/-- The hash is nowhere: in no record, and with no call in progress. -/
structure Revoked (cfg : Settings) (hash : String) (world : World) : Prop where
  sound : Protocol.Sound (fun _ => moving cfg) world
  unused : Unused hash world.state
  unowed : ¬ (moving cfg).Owes world (Debt.Carries cfg hash)

section

variable {cfg : Settings} {hash : String} {world : World}

lemma revoked_next {event : Event Call Input} (hcall : ∀ self, event ≠ .start (.upsertSelf self))
    (hfresh : Fresh cfg hash event) (hrevoked : Revoked cfg hash world) :
    Revoked cfg hash (world.next exec (Call.body cfg) event) := by
  obtain ⟨hsound, hunused, hunowed⟩ := hrevoked
  have hnext := moving_sound_next hcall hsound
  rcases Config.next_cases exec (Call.body cfg) world event with
    ⟨call, rfl, hworld⟩ | ⟨_, _, _, _, hworld⟩ |
      ⟨thread, input, call, op, rest, rfl, hthread, hworld⟩
  · rw [hworld] at hnext ⊢
    refine ⟨hnext, hunused, ?_⟩
    rw [Protocol.owes_start_iff, not_or]
    refine ⟨hunowed, ?_⟩
    have hlabel : (moving cfg).labelOf (call.body cfg) = .clear :=
      (follows_body (fun self hself => hcall self (hself ▸ rfl)) world.state).1
    rw [hlabel]
    exact id
  · rw [hworld]
    exact ⟨hsound, hunused, hunowed⟩
  · have hmoves := moves_of_sound hsound hthread input
    have hothers := hunowed
    rw [Protocol.owes_iff hthread, not_or] at hothers
    obtain ⟨hstate, hafter⟩ := Moves.unused hfresh hmoves hunused hothers.1
    rw [hworld] at hnext ⊢
    refine ⟨hnext, hstate, ?_⟩
    rw [Protocol.owes_set_iff hthread, not_or]
    exact ⟨hafter, hothers.2⟩

lemma revoked_of_delete {thread : ℕ} {call : Call} {ref : NameRef} {rev : ℕ}
    {rest : Bool → Prog (Except Err (Option Rack))} {rec : Record}
    (hsound : Protocol.Sound (fun _ => moving cfg) world)
    (hthread : world.threads[thread]? =
      some (call, .perform (.delete .plain (.entity ref) rev) rest))
    (hstored : world.state.get (.entity ref) = some ⟨rec, rev⟩)
    (hclean : Clean cfg world thread (.delete .plain (.entity ref) rev))
    (input : Input) :
    Revoked cfg rec.secretHash (world.next exec (Call.body cfg) (.step thread input)) := by
  have hmoves := moves_of_sound hsound hthread input
  have hnext : Protocol.Sound (fun _ => moving cfg)
      (world.next exec (Call.body cfg) (.step thread input)) :=
    moving_sound_next (by simp) hsound
  obtain ⟨hunused, hothers⟩ := hclean _ hstored rfl
  have hworld : world.next exec (Call.body cfg) (.step thread input) =
      { state := world.state.remove (.entity ref),
        threads := world.threads.set thread (call, rest true) } := by
    simp [Config.next, hthread, Config.advance, exec, Bucket.delete_of_at ⟨_, hstored, rfl⟩]
  have hreply : (exec (.delete .plain (.entity ref) rev) input world.state).1 = true := by
    rw [exec, Bucket.delete_of_at ⟨_, hstored, rfl⟩]
  rw [hreply] at hmoves
  rw [hworld] at hnext ⊢
  refine ⟨hnext, hunused, ?_⟩
  rw [Protocol.owes_set_iff hthread, not_or, hmoves.clear_of_delete.1]
  exact ⟨id, hothers⟩

lemma moving_sound_run {reg : RegBucket} {events : List (Event Call Input)}
    (hcalls : ∀ self, .start (.upsertSelf self) ∉ events) :
    Protocol.Sound (fun _ => moving cfg) (Config.run exec (Call.body cfg) ⟨reg, []⟩ events) := by
  have hstart : Protocol.Sound (fun _ => moving cfg) (⟨reg, []⟩ : World) := by
    intro thread entry hentry
    simp at hentry
  apply Config.run_invariant exec (Call.body cfg) _ hstart
    (Config.everyStep_of_mem exec (Call.body cfg) (fun _ _ _ => trivial) _)
  intro world event hmem hsound _
  exact moving_sound_next (fun self hevent => hcalls self (hevent ▸ hmem)) hsound

end

/-- Thread `thread` deletes the record under `ref`, and from then on no record
carries its secret hash, unless a secret with that hash is issued anew. -/
def Revokes (cfg : Settings) (reg : RegBucket)
    (events : List (Event Call Input)) (thread : ℕ) (ref : NameRef) : Prop :=
  ∃ front input back rec rev, events = front ++ .step thread input :: back ∧
    (Config.run exec (Call.body cfg) ⟨reg, []⟩ front).nextOp thread =
      some (.delete .plain (.entity ref) rev) ∧
    (Config.run exec (Call.body cfg) ⟨reg, []⟩ front).state.get (.entity ref) = some ⟨rec, rev⟩ ∧
    ∀ mid rest, back = mid ++ rest →
      (∀ event ∈ mid, Fresh cfg rec.secretHash event) →
      Unused rec.secretHash (Config.run exec (Call.body cfg) ⟨reg, []⟩
        (front ++ .step thread input :: mid)).state

/-- Machine 2 adopts the sample Rack, and has read the record and its revision
when the Rack is removed. -/
def revival : List (Event Call Input) :=
  .start (.register (sampleHello 2 "rack-a" secretA)) :: sampleSteps 0 5 secretB ++
  .start (.remove typeRack 1) :: sampleSteps 1 6 secretB

/-- The removal reports success.  Then the adoption goes on, and the secret that
was revoked is back. -/
theorem removal_undone : recordOf namedBucket ⟨typeRack, 1⟩ = some sampleRecord ∧
    (Config.run exec (Call.body sampleSettings) ⟨namedBucket, []⟩
      revival).threads[1]? = some (.remove typeRack 1, .done (.ok none)) ∧
    (recordOf (Config.run exec (Call.body sampleSettings) ⟨namedBucket, []⟩
      (revival ++ sampleSteps 0 6 secretB)).state ⟨typeRack, 2⟩).map
        Record.secretHash = some sampleRecord.secretHash :=
  ⟨by decide +kernel, rfl, by decide +kernel⟩

/-- Take any run of registrations, adoptions, approvals, removals and status
updates, interleaved operation by operation.  If every removal deletes its
record at a moment at which no other record and no other call in progress
carries the secret hash, then every removal that reported success has revoked
the secret. -/
theorem revokes_of_clean {cfg : Settings} {reg : RegBucket} {events : List (Event Call Input)}
    (hcalls : ∀ self, .start (.upsertSelf self) ∉ events)
    (hclean : Config.EveryStep exec (Call.body cfg) (Config.EachOp (Clean cfg)) ⟨reg, []⟩ events)
    {thread : ℕ} {typeID : UInt8} {id : UUID} {reply : Option Rack}
    (hremoved : (Config.run exec (Call.body cfg) ⟨reg, []⟩
      events).threads[thread]? = some (.remove typeID id, .done (.ok reply))) :
    Revokes cfg reg events thread ⟨typeID, id⟩ := by
  obtain ⟨front, input, back, op, rfl, hop, hdeleted⟩ :=
    Config.reaches_of_done exec (Call.body cfg) (requires_remove typeID id)
      (fun program hprogram => by simp at hprogram) hremoved ⟨reply, rfl⟩
  have hsound : Protocol.Sound (fun _ => moving cfg)
      (Config.run exec (Call.body cfg) ⟨reg, []⟩ front) :=
    moving_sound_run fun self hmem => hcalls self (List.mem_append_left _ hmem)
  have hstep := (Config.everyStep_append exec (Call.body cfg) hclean).2.1 op hop
  obtain ⟨call, rest, hthread⟩ := Config.exists_perform_of_nextOp hop
  obtain ⟨rev, rfl⟩ := exists_delete_of_deletesRecord hdeleted
  have hrev := (moves_of_sound hsound hthread input).clear_of_delete.2
  have hat : (Config.run exec (Call.body cfg) ⟨reg, []⟩ front).state.At
      (.entity ⟨typeID, id⟩) rev := by
    by_contra hat
    rw [exec, Bucket.delete_of_not_at hrev hat] at hdeleted
    exact hdeleted
  obtain ⟨⟨rec, _⟩, hstored, rfl⟩ := hat
  refine ⟨front, input, back, rec, _, rfl, hop, hstored, ?_⟩
  intro mid rest hback hfresh
  rw [Config.run_append]
  have hrevoked := Config.run_invariant exec (Call.body cfg)
    (fun world event hmem hrevoked hfresh => revoked_next
      (fun self hevent => hcalls self (by simp [hback, ← hevent, hmem]))
      hfresh hrevoked)
    (revoked_of_delete hsound hthread hstored hstep input)
    (Config.everyStep_of_mem exec (Call.body cfg) (fun _ event hmem => hfresh event hmem) _)
  exact hrevoked.unused

/-- The sample Rack is removed while a stranger registers. -/
def cleanRemoval : List (Event Call Input) :=
  [.start (.register (sampleHello 2 "rack-b" "bootstrap")), .start (.remove typeRack 1)] ++
  sampleSteps 0 5 secretB ++ sampleSteps 1 6 secretB ++ sampleSteps 0 4 secretB

theorem cleanRemoval_revokes :
    Revokes sampleSettings namedBucket cleanRemoval 1 ⟨typeRack, 1⟩ := by
  have hremoved : (Config.run exec (Call.body sampleSettings) ⟨namedBucket, []⟩
      cleanRemoval).threads[1]? = some (.remove typeRack 1, .done (.ok none)) := rfl
  exact revokes_of_clean (by simp [cleanRemoval, sampleSteps]) (by decide +kernel) hremoved

end Fluxrig.Registry
