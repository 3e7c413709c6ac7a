import Fluxrig.Core.Protocol
import Fluxrig.Registry.View

/-!
# The helpers of the store under any protocol

Whatever the calls in progress promise each other, a helper that only reads
passes on what its call owes, and a retried call is one attempt after another.
-/

namespace Fluxrig.Registry

open Fluxrig.Core Core.Protocol

variable {A Label : Type} {rules : Protocol exec Label} {after : Label} {state : RegBucket}

/-- An operation that only reads: its reply reflects the current bucket. -/
lemma holds_read (op : Op) {post : op.Reply → Label → RegBucket → Prop}
    (hstate : ∀ input reg, (exec op input reg).2 = reg)
    (hmoves : ∀ input current, rules.guarantee op input current after)
    (hpost : ∀ current, rules.rely state current → ∀ input,
      post (exec op input current).1 after current) :
    rules.Holds (.request op) post (rules.label op) state := by
  apply Holds.perform
  intro current hrely input _
  rw [hstate]
  exact ⟨after, hmoves input current, hpost current hrely input⟩

lemma holds_getRecord {site : Site} {typeID : UInt8} {id : UUID}
    {post : Except Err (Record × ℕ) → Label → RegBucket → Prop}
    (hmoves : ∀ input current,
      rules.guarantee (.get site (.entity ⟨typeID, id⟩)) input current after)
    (hmissing : ∀ current, rules.rely state current →
      current.get (.entity ⟨typeID, id⟩) = none → post (.error .notFound) after current)
    (hfound : ∀ current rec rev, rules.rely state current →
      current.get (.entity ⟨typeID, id⟩) = some ⟨rec, rev⟩ →
        post (.ok (rec, rev)) after current) :
    rules.Holds (getRecord site typeID id) post
      (rules.label (.get site (.entity ⟨typeID, id⟩))) state := by
  apply Holds.bind
  refine holds_read (.get site (.entity ⟨typeID, id⟩)) (fun _ _ => rfl) hmoves ?_
  intro current hrely _
  cases hitem : current.get (.entity ⟨typeID, id⟩) with
  | none =>
    simp only [exec, hitem]
    exact hmissing current hrely hitem
  | some item =>
    simp only [exec, hitem]
    exact hfound current item.value item.rev hrely hitem

lemma holds_toRack {rec : Record} {next : Rack → A} {post : A → Label → RegBucket → Prop}
    (hlive : ∀ input current, rules.guarantee (.liveGet rec.ref) input current
      (rules.label (.statsGet rec.ref)))
    (hstats : ∀ input current, rules.guarantee (.statsGet rec.ref) input current after)
    (hpost : ∀ rack current later, rules.rely state current → rules.rely current later →
      post (next rack) after later) :
    rules.Holds (toRack rec >>= fun rack => pure (next rack)) post
      (rules.label (.liveGet rec.ref)) state := by
  apply Holds.bind
  apply Holds.bind
  refine holds_read (.liveGet rec.ref) (fun _ _ => rfl) hlive ?_
  intro current hrely _
  apply Holds.bind
  refine holds_read (.statsGet rec.ref) (fun _ _ => rfl) hstats ?_
  exact fun later hlater _ => hpost _ current later hrely hlater

/-- Each attempt leaves the call where it began, in a bucket as good as before. -/
lemma holds_retry {cfg : Settings} {op : String} {fn : Prog (Except Err A)}
    (fine : RegBucket → Prop) {label : Label}
    (hfn : ∀ current, fine current → rules.Holds fn
      (fun _ after final => after = label ∧ fine final) label current)
    (hfine : fine state) :
    rules.Holds (retry cfg op fn) (fun _ after _ => after = label) label state := by
  rw [retry]
  generalize cfg.writeRetries + 1 = attempts
  induction attempts generalizing state with
  | zero => rfl
  | succ _ ih =>
    apply Holds.bind
    apply (hfn state hfine).weaken
    intro outcome after current hpost
    obtain ⟨rfl, hcurrent⟩ := hpost
    split
    · exact ih hcurrent
    · rfl

end Fluxrig.Registry
