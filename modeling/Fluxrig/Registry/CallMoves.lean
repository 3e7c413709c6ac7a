import Fluxrig.Registry.Moves
import Fluxrig.Registry.Rules

/-!
# Every operation of every call is a move

Each registry call, cut into its bucket operations and interrupted anywhere by
other calls, performs only operations of `Moves`, and owes nothing once it has
returned.  There is one rule for each operation, one for each helper of the
store, and one for each call.
-/

namespace Fluxrig.Registry

open Fluxrig.Core Core.Protocol

variable {A : Type} {cfg : Settings} {state : RegBucket}

variable {site : Site} {key : Key} {rev : ℕ} {typeID : UInt8} {id : UUID} {name : String}
  {ref : NameRef} {post : Except Err Unit → Debt → RegBucket → Prop} {hello : Hello}
  {now : Time} {call : Call}

/-- A lookup may change what the call owes. -/
lemma holds_lookup {post : Option (Item key.Value) → Debt → RegBucket → Prop}
    (hpost : ∀ current, state.Extends current → ∀ input, ∃ after,
      Moves cfg (.get site key) input current after ∧ post (current.get key) after current) :
    (moving cfg).Holds (get site key) post site.debt state := by
  apply Holds.perform
  intro current hextends input _
  exact hpost current hextends input

lemma holds_get {post : Option (Item key.Value) → Debt → RegBucket → Prop}
    (hpost : ∀ current, state.Extends current → post (current.get key) site.debt current) :
    (moving cfg).Holds (get site key) post site.debt state :=
  holds_read (.get site key) (fun _ _ => rfl) (fun _ _ => .pass trivial rfl)
    (fun current hextends _ => hpost current hextends)

lemma holds_create {value : key.Value} {post : Option ℕ → Debt → RegBucket → Prop}
    (hok : ∀ current input, state.Extends current → current.get key = none →
      ∃ after, Moves cfg (.create site key value) input current after ∧
        post (some (current.rev + 1)) after (current.write key value))
    (hconflict : ∀ current input, state.Extends current →
      (exec (.create site key value) input current).2 = current →
      ∃ after, Moves cfg (.create site key value) input current after ∧ post none after current) :
    (moving cfg).Holds (create site key value) post site.debt state := by
  apply Holds.perform
  intro current hextends input _
  cases hitem : current.get key with
  | none =>
    simp only [exec, Bucket.create_of_none _ hitem]
    exact hok current input hextends hitem
  | some =>
    have hsame : (exec (.create site key value) input current).2 = current := by
      rw [exec, Bucket.create_of_some _ hitem]
    have hcreate := hconflict current input hextends hsame
    simp only [exec, Bucket.create_of_some _ hitem]
    exact hcreate

lemma holds_update {value : key.Value} {post : Option ℕ → Debt → RegBucket → Prop}
    (hok : ∀ current input, state.Extends current → current.At key rev →
      ∃ after, Moves cfg (.update site key value rev) input current after ∧
        post (some (current.rev + 1)) after (current.write key value))
    (hconflict : ∀ current, state.Extends current → post none site.debt current) :
    (moving cfg).Holds (update site key value rev) post site.debt state := by
  apply Holds.perform
  intro current hextends input _
  by_cases hat : current.At key rev
  · simp only [exec, Bucket.update_of_at _ hat]
    exact hok current input hextends hat
  · have hsame : (exec (.update site key value rev) input current).2 = current := by
      rw [exec, Bucket.update_of_not_at _ hat]
    simp only [exec, Bucket.update_of_not_at _ hat]
    exact ⟨site.debt, .pass trivial hsame, hconflict current hextends⟩

lemma holds_delete {post : Bool → Debt → RegBucket → Prop} (hrev : rev ≠ 0)
    (hok : ∀ current input, state.Extends current → current.At key rev →
      ∃ after, Moves cfg (.delete site key rev) input current after ∧
        post true after (current.remove key)) (hconflict : ∀ current, state.Extends current →
      post false site.debt current) :
    (moving cfg).Holds (delete site key rev) post site.debt state := by
  apply Holds.perform
  intro current hextends input _
  by_cases hat : current.At key rev
  · simp only [exec, Bucket.delete_of_at hat]
    exact hok current input hextends hat
  · have hsame : (exec (.delete site key rev) input current).2 = current := by
      rw [exec, Bucket.delete_of_not_at hrev hat]
    simp only [exec, Bucket.delete_of_not_at hrev hat]
    exact ⟨site.debt, .pass hrev hsame, hconflict current hextends⟩

/-- An operation whose outcome the code ignores. -/
lemma holds_ignore (op : Op) {post : op.Reply → Debt → RegBucket → Prop}
    (hmoves : ∀ current input, state.Extends current → Moves cfg op input current .clear)
    (hpost : ∀ reply current, state.Extends current → post reply .clear current) :
    (moving cfg).Holds (.request op) post op.debt state := by
  apply Holds.perform
  intro current hextends input _
  exact ⟨.clear, hmoves current input hextends,
    hpost _ _ (hextends.trans (extends_exec op input current))⟩

lemma holds_repoint (hok : ∀ current, state.Extends current → post (.ok ()) .clear current)
    (herror : ∀ err current, state.Extends current → post (.error err) (.name ref name) current) :
    (moving cfg).Holds (repoint name ref rev) post (.name ref name) state := by
  apply Holds.bind
  apply holds_update
  · intro current input hextends hat
    exact ⟨.clear, .repoint hat, hok _ (hextends.trans (Bucket.extends_write _ _ _))⟩
  · exact fun current hextends => herror .conflict current hextends

/-- `claimName` ends with the key pointing at the claimant, or with the name
still to be settled. -/
lemma holds_claimName (hname : name ≠ "")
    (hok : ∀ current, state.Extends current → post (.ok ()) .clear current)
    (herror : ∀ err current, state.Extends current → post (.error err) (.name ref name) current) :
    (moving cfg).Holds (claimName name ref) post (.name ref name) state := by
  rw [claimName, if_neg hname]
  apply Holds.bind
  apply holds_create
  · intro current input hextends habsent
    exact ⟨.clear, .createName rfl habsent (Or.inl rfl),
      hok _ (hextends.trans (Bucket.extends_write _ _ _))⟩
  intro found _ hfound hsame
  refine ⟨_, .pass trivial hsame, ?_⟩
  apply Holds.bind
  apply holds_lookup
  intro current hcurrent input
  have hextends := hfound.trans hcurrent
  cases hheld : current.get (.name name) with
  | none =>
    exact ⟨.name ref name, .pass trivial rfl, herror .conflict current hextends⟩
  | some held =>
    by_cases hself : held.value = ref
    · refine ⟨.clear, .settle (hself ▸ holderOf_of_get hheld), ?_⟩
      simp only [hself, if_true]
      exact hok current hextends
    · refine ⟨.name ref name, .pass trivial rfl, ?_⟩
      simp only [hself, if_false]
      have hrepoint : ∀ later, current.Extends later →
          (moving cfg).Holds (repoint name ref held.rev) post (.name ref name) later := by
        intro later hlater
        apply holds_repoint
        · exact fun final hfinal =>
            hok final ((hextends.trans hlater).trans hfinal)
        · exact fun err final hfinal =>
            herror err final ((hextends.trans hlater).trans hfinal)
      apply Holds.bind
      refine holds_getRecord (fun _ _ => .pass trivial rfl) ?_ ?_
      · exact fun later hlater _ => hrepoint later hlater
      · intro later holder rev hlater _
        by_cases hcarries : holder.name = name
        · simp only [hcarries, if_true]
          exact herror .nameConflict later (hextends.trans hlater)
        · simp only [hcarries, if_false]
          exact hrepoint later hlater

/-- `moveName` ends with the old identity to be settled, or with the new
one. -/
lemma holds_moveName {source target : NameRef} (hok : ∀ current, state.Extends current →
      post (.ok ()) (.name source name) current)
    (herror : ∀ err current, state.Extends current →
      post (.error err) (.name target name) current) :
    (moving cfg).Holds (moveName name source target) post (.name target name) state := by
  apply Holds.bind
  apply holds_get
  intro current hextends
  cases hheld : current.get (.name name) with
  | none =>
    apply Holds.bind
    apply holds_create
    · intro later input hlater habsent
      exact ⟨.name source name, .createName rfl habsent (Or.inr ⟨source, rfl⟩),
        hok _ ((hextends.trans hlater).trans (Bucket.extends_write _ _ _))⟩
    · exact fun later _ hlater hsame =>
        ⟨_, .pass trivial hsame, herror .conflict later (hextends.trans hlater)⟩
  | some held =>
    by_cases hsource : held.value = source
    · simp only [hsource, ne_eq, not_true_eq_false, if_false]
      apply Holds.bind
      apply holds_update
      · intro later input hlater hat
        have hread := hlater.get_of_at hheld hat
        have hkey : later.get (.name name) = some ⟨source, held.rev⟩ := by
          rw [hread, ← hsource]
        exact ⟨.name source name, .moveKey hkey,
          hok _ ((hextends.trans hlater).trans (Bucket.extends_write _ _ _))⟩
      · exact fun later hlater => herror .conflict later (hextends.trans hlater)
    · simp only [hsource, ne_eq, not_false_eq_true, if_true]
      exact herror .conflict current hextends

lemma holds_releaseName {post : Unit → Debt → RegBucket → Prop}
    (hpost : ∀ current, state.Extends current → post () .clear current) :
    (moving cfg).Holds (releaseName name ref) post .clear state := by
  by_cases hname : name = ""
  · rw [releaseName, if_pos hname]
    exact hpost state (Bucket.Extends.refl state)
  · rw [releaseName, if_neg hname]
    apply Holds.bind
    apply holds_get
    intro current hextends
    cases hheld : current.get (.name name) with
    | none => exact hpost current hextends
    | some held =>
      by_cases href : held.value = ref
      · simp only [href, if_true]
        apply Holds.bind
        apply holds_ignore (.delete (.release ref name) (.name name) held.rev)
        · exact fun later input _ => .release (current.rev_pos hheld).ne'
        · exact fun _ later hlater => hpost later (hextends.trans hlater)
      · simp only [href, if_false]
        exact hpost current hextends

variable (cfg) in
/-- A program that makes only moves, and starts and ends with nothing owed. -/
def Settles (program : Prog A) (state : RegBucket) : Prop :=
  (moving cfg).Holds program (fun _ label _ => label = .clear) .clear state

lemma settles_pure (value : A) : Settles cfg (pure value) state := rfl

lemma settles_retry {op : String} {fn : Prog (Except Err A)}
    (hfn : ∀ current, Settles cfg fn current) :
    Settles cfg (retry cfg op fn) state := by
  apply holds_retry (fun _ => True) _ trivial
  intro current _
  exact (hfn current).weaken fun _ _ _ hlabel => ⟨hlabel, trivial⟩

lemma settles_toRack {rec : Record} {next : Rack → Except Err Rack} :
    Settles cfg (toRack rec >>= fun rack => pure (next rack)) state :=
  holds_toRack (fun _ _ => .pass trivial rfl) (fun _ _ => .pass trivial rfl) fun _ _ _ _ _ => rfl

/-- An adoption that has read its holder: it writes the copy, or gives up. -/
lemma holds_adopt {holder : Record}
    (hmachine : ¬ (hello.machineID = nilID ∨ hello.machineID = holder.machineID)) :
    (moving cfg).Holds (adopt holder hello now)
      (fun _ label _ => label = .clear) (.copy holder) state := by
  rw [adopt, if_neg hmachine]
  apply Holds.bind
  apply Holds.bind
  apply holds_lookup
  intro current _ input
  cases hread : current.get (.entity ⟨holder.typeID, holder.machineID⟩) with
  | none => exact ⟨.clear, .forget trivial rfl, rfl⟩
  | some item =>
    refine ⟨_, .pass trivial rfl, ?_⟩
    apply Holds.bind
    apply holds_create
    swap
    · exact fun _ _ _ hsame =>
        ⟨.clear, .forget trivial hsame, rfl⟩
    intro current input _ habsent
    refine ⟨_, .createCopy habsent rfl, ?_⟩
    apply Holds.bind
    apply holds_moveName
    · intro _ _
      apply Holds.bind
      apply holds_ignore (.delete (.dropOld holder) (.entity holder.ref) item.rev)
      · exact fun _ _ _ => .dropOld (Bucket.rev_pos hread).ne'
      · exact fun _ _ _ => settles_toRack
    · intro err _ _
      apply Holds.bind
      apply holds_ignore (.delete (.undo _ _) _ _)
      · exact fun _ _ _ => .takeBack (Nat.succ_ne_zero _)
      · exact fun _ _ _ => settles_pure _

/-- A registration that was issued a secret: it writes its record, or gives
up. -/
lemma holds_createFresh {issued : String} {eid : UUID} :
    (moving cfg).Holds (createFresh cfg hello now issued eid)
      (fun _ label _ => label = .clear) (.issue issued) state := by
  apply Holds.bind
  apply holds_create
  swap
  · exact fun _ _ _ hsame =>
      ⟨.clear, .forget trivial hsame, rfl⟩
  intro current input _ habsent
  by_cases hname : hello.name = ""
  · refine ⟨.clear, .createFresh habsent rfl (Or.inl ⟨hname, rfl⟩), ?_⟩
    rw [claimName, if_pos hname]
    exact settles_toRack
  · refine ⟨_, .createFresh habsent rfl (Or.inr rfl), ?_⟩
    apply Holds.bind
    apply holds_claimName hname
    · exact fun _ _ => settles_toRack
    · intro err _ _
      apply Holds.bind
      apply holds_ignore (.delete (.undo _ _) _ _)
      · exact fun _ _ _ => .takeBack (Nat.succ_ne_zero _)
      · exact fun _ _ _ => settles_pure _

lemma settles_issueFresh : Settles cfg (issueFresh cfg hello now) state := by
  apply Holds.bind
  apply Holds.perform
  intro _ _ input _
  cases hsecret : input.secret with
  | none =>
    simp only [exec, hsecret]
    exact ⟨.clear, .pass trivial rfl, rfl⟩
  | some issued =>
    simp only [exec, hsecret]
    refine ⟨.issue issued, .draw hsecret, ?_⟩
    apply Holds.bind
    apply Holds.bind
    apply Holds.perform
    intro _ _ input _
    cases hfresh : input.uuid with
    | none =>
      simp only [exec, hfresh]
      exact ⟨.clear, .forget trivial rfl, rfl⟩
    | some =>
      simp only [exec, hfresh]
      exact ⟨.issue issued, .pass trivial rfl, holds_createFresh⟩

lemma settles_registerFresh : Settles cfg (registerFresh cfg hello now) state := by
  rw [registerFresh]
  split
  · exact settles_pure _
  split
  · apply Holds.bind
    refine holds_read (.newUUID _) (fun _ _ => rfl) (fun _ _ => .pass trivial rfl) ?_
    intro _ _ input
    cases hfresh : input.uuid with
    | none =>
      simp only [exec, hfresh]
      exact settles_pure _
    | some =>
      simp only [exec, hfresh]
      exact settles_issueFresh
  · exact settles_issueFresh

/-- The record that a name resolves to may be kept as a copy. -/
lemma holds_resolveName {post : Except Err Record → Debt → RegBucket → Prop}
    (hmissing : ∀ current, state.Extends current → post (.error .notFound) .clear current)
    (hfound : ∀ rec current, state.Extends current →
      post (.ok rec) .clear current ∨ post (.ok rec) (.copy rec) current) :
    (moving cfg).Holds (resolveName name) post .clear state := by
  apply Holds.bind
  apply holds_get
  intro current hextends
  cases current.get (.name name) with
  | none => exact hmissing current hextends
  | some held =>
    apply Holds.bind
    apply Holds.bind
    apply holds_lookup
    intro later hlater input
    cases hitem : later.get (.entity ⟨held.value.typeID, held.value.machineID⟩) with
    | none => exact ⟨.clear, .pass trivial rfl, hmissing later (hextends.trans hlater)⟩
    | some item =>
      by_cases hcarries : item.value.name = name
      · have hpost := hfound item.value later (hextends.trans hlater)
        simp only [Program.pure_eq, Holds, hcarries, ne_eq, not_true_eq_false, if_false]
        rcases hpost with hclear | hcopy
        · exact ⟨.clear, .pass trivial rfl, hclear⟩
        · exact ⟨.copy item.value, .take (recordOf_of_get hitem), hcopy⟩
      · refine ⟨.clear, .pass trivial rfl, ?_⟩
        simp only [Program.pure_eq, Holds, hcarries, ne_eq, not_false_eq_true, if_true]
        exact hmissing later (hextends.trans hlater)

lemma settles_registerNamed : Settles cfg (registerNamed cfg hello now) state := by
  rw [registerNamed]
  split
  · exact settles_registerFresh
  apply Holds.bind
  apply holds_resolveName
  · exact fun _ _ => settles_registerFresh
  intro holder current _
  by_cases hrefused : holder.typeID ≠ hello.typeID ∨
      ¬ secretMatches cfg holder.secretHash hello.secret
  · left
    simp only [hrefused, if_true]
    exact settles_pure _
  · simp only [hrefused, if_false]
    by_cases hmachine : hello.machineID = nilID ∨ hello.machineID = holder.machineID
    · left
      rw [adopt, if_pos hmachine]
      exact settles_pure _
    · right
      exact holds_adopt hmachine

lemma settles_registerEntity : Settles cfg (registerEntity cfg hello) state := by
  apply settles_retry
  intro state
  apply Holds.bind
  refine holds_read .now (fun _ _ => rfl) (fun _ _ => .pass trivial rfl) ?_
  intro _ _ _
  split
  · exact settles_registerNamed
  apply Holds.bind
  refine holds_getRecord (fun _ _ => .pass trivial rfl) ?_ ?_
  · exact fun _ _ _ => settles_registerNamed
  intro current rec rev _ hread
  change Settles cfg (registerKnown _ _ _ _ _) current
  rw [registerKnown]
  split
  · exact settles_pure _
  apply Holds.bind
  apply holds_update
  · intro later input hlater hat
    exact ⟨.clear, .rewrite (hlater.get_of_at hread hat) rfl (Or.inl ⟨rfl, rfl⟩), settles_toRack⟩
  · exact fun _ _ => settles_pure _

lemma settles_approveAs {orig : Record} {source : RegBucket} (hextends : source.Extends state)
    (hread : source.get (.entity ⟨typeRack, id⟩) = some ⟨orig, rev⟩)
    (hname : name = orig.name ∨ name ≠ "") :
    Settles cfg (approveAs orig rev id name) state := by
  apply Holds.bind
  refine holds_read .now (fun _ _ => rfl) (fun _ _ => .pass trivial rfl) ?_
  intro current hcurrent _
  apply Holds.bind
  apply holds_update
  swap
  · exact fun _ _ => settles_pure _
  intro later input hlater hat
  have hstill := ((hextends.trans hcurrent).trans hlater).get_of_at hread hat
  by_cases hsame : name = orig.name
  · refine ⟨.clear, .rewrite hstill rfl (Or.inl ⟨hsame, rfl⟩), ?_⟩
    simp only [hsame, if_true]
    exact settles_toRack
  · refine ⟨_, .rewrite hstill rfl (Or.inr rfl), ?_⟩
    simp only [hsame, if_false]
    apply Holds.bind
    apply holds_claimName (hname.resolve_left hsame)
    · intro _ _
      apply Holds.bind
      apply holds_releaseName
      exact fun _ _ => settles_toRack
    · intro err failed hfailed
      apply Holds.bind
      apply holds_ignore (.update (.undo _ _) _ _ _)
      · intro current _ hcurrent
        apply Moves.restore
        -- The revision taken back is the one this call wrote.
        intro rec hrecord
        have hwritten := (hfailed.trans hcurrent).get_of_at
          (Bucket.get_write _ _ _) ⟨_, hrecord, rfl⟩
        rw [hrecord, Option.some.injEq, Item.mk.injEq] at hwritten
        rw [hwritten.1]
      · exact fun _ _ _ => settles_pure _

lemma settles_approve {newName : String} : Settles cfg (approve cfg id newName) state := by
  apply settles_retry
  intro state
  apply Holds.bind
  refine holds_getRecord (fun _ _ => .pass trivial rfl) ?_ ?_
  · exact fun _ _ _ => settles_pure _
  intro current rec rev _ hread
  by_cases hkeep : newName = "" ∨ newName = rec.name
  · simp only [hkeep, if_true]
    exact settles_approveAs (Bucket.Extends.refl current) hread (Or.inl rfl)
  · simp only [hkeep, if_false]
    apply Holds.bind
    apply holds_resolveName
    · exact fun later hlater =>
        settles_approveAs hlater hread (Or.inr fun hempty => hkeep (Or.inl hempty))
    · intro holder later hlater
      left
      by_cases hself : holder.machineID = id
      · simp only [hself, ne_eq, not_true_eq_false, if_false]
        exact settles_approveAs hlater hread (Or.inr fun hempty => hkeep (Or.inl hempty))
      · simp only [hself, ne_eq, not_false_eq_true, if_true]
        exact settles_pure _

lemma settles_removeEntity : Settles cfg (removeEntity cfg typeID id) state := by
  apply settles_retry
  intro state
  apply Holds.bind
  refine holds_getRecord (fun _ _ => .pass trivial rfl) ?_ ?_
  · exact fun _ _ _ => settles_pure _
  intro current rec rev _ hread
  apply Holds.bind
  apply holds_delete (Bucket.rev_pos hread).ne'
  · intro later input _ hat
    refine ⟨.clear, .remove hat, ?_⟩
    apply Holds.bind
    apply holds_releaseName
    intro _ _
    apply Holds.bind
    refine holds_read (.liveDelete _) (fun _ _ => rfl) (fun _ _ => .pass trivial rfl) ?_
    intro _ _ _
    apply Holds.bind
    refine holds_read (.statsDelete _) (fun _ _ => rfl) (fun _ _ => .pass trivial rfl) ?_
    exact fun _ _ _ => settles_pure _
  · exact fun _ _ => settles_pure _

lemma settles_updateStatus {status : String} :
    Settles cfg (updateStatusEntity cfg typeID id status) state := by
  apply settles_retry
  intro state
  apply Holds.bind
  refine holds_getRecord (fun _ _ => .pass trivial rfl) ?_ ?_
  · exact fun _ _ _ => settles_pure _
  intro current rec rev _ hread
  apply Holds.bind
  refine holds_read .now (fun _ _ => rfl) (fun _ _ => .pass trivial rfl) ?_
  intro later hlater _
  apply Holds.bind
  apply holds_update
  · intro final input hfinal hat
    have hstill := (hlater.trans hfinal).get_of_at hread hat
    exact ⟨.clear, .rewrite hstill rfl (Or.inl ⟨rfl, rfl⟩), settles_pure _⟩
  · exact fun _ _ => settles_pure _

lemma settles_body (hcall : ∀ self, call ≠ .upsertSelf self) :
    Settles cfg (call.body cfg) state := by
  cases call with
  | register =>
    apply Holds.bind
    exact settles_registerEntity
  | approve =>
    apply Holds.bind
    exact settles_approve
  | remove =>
    apply Holds.bind
    exact settles_removeEntity
  | updateStatus =>
    apply Holds.bind
    exact settles_updateStatus
  | upsertSelf self => exact absurd rfl (hcall self)

lemma follows_body (hcall : ∀ self, call ≠ .upsertSelf self) (state : RegBucket) :
    (moving cfg).labelOf (call.body cfg) = .clear ∧ (moving cfg).Follows (call.body cfg) state :=
  follows_of_holds (settles_body hcall)

/-- Every call in an interleaving makes only moves. -/
lemma moving_sound_next {world : World} {event : Event Call Input}
    (hcall : ∀ self, event ≠ .start (.upsertSelf self))
    (hsound : Sound (fun _ => moving cfg) world) :
    Sound (fun _ => moving cfg) (world.next exec (Call.body cfg) event) := by
  apply hsound.next (moving_compatible cfg)
  · intro call hevent
    exact (follows_body (fun self hself => hcall self (hself ▸ hevent)) _).2
  · exact fun _ _ _ _ _ => trivial

lemma moves_of_sound {world : World} {thread : ℕ} {op : Op}
    {rest : op.Reply → Prog (Except Err (Option Rack))}
    (hsound : Sound (fun _ => moving cfg) world)
    (hthread : world.threads[thread]? = some (call, .perform op rest)) (input : Input) :
    Moves cfg op input world.state ((moving cfg).labelOf (rest (exec op input world.state).1)) :=
  (hsound.step (moving_compatible cfg) hthread trivial).1

end Fluxrig.Registry
