import Fluxrig.Registry.Alone
import Fluxrig.Registry.Milestones

/-!
# Registration is authenticated

A Hello is checked against the record of its machine ID, then against the record
its name resolves to, and last against the bootstrap secret.  Whoever passes none
of these is refused before the first write.  And the plaintext of a secret is
only ever returned by the call that created the record it belongs to.
-/

namespace Fluxrig.Registry

open Fluxrig.Core

/-- `secret` is the secret of `rec`: the registry keeps only its hash. -/
def IsSecretOf (cfg : Settings) (rec : Record) (secret : String) : Prop :=
  cfg.hashSecret secret = rec.secretHash

instance (cfg : Settings) (rec : Record) (secret : String) :
    Decidable (IsSecretOf cfg rec secret) :=
  inferInstanceAs (Decidable (_ = _))

/-- The Hello presents neither the secret of the record under its machine ID,
nor that of the record its name resolves to, nor the bootstrap secret. -/
structure Stranger (cfg : Settings) (reg : RegBucket) (hello : Hello) : Prop where
  notOwner : ∀ rec, recordOf reg hello.ref = some rec → ¬ IsSecretOf cfg rec hello.secret
  notHolder : ∀ rec, resolved reg hello.name = some rec → ¬ IsSecretOf cfg rec hello.secret
  notBootstrap : hello.secret ≠ cfg.bootstrapSecret

section

variable {cfg : Settings} {reg : RegBucket} {hello : Hello} {now : Time}
variable {allowed : Input → Prop}

lemma secretMatches_eq_false {rec : Record} {secret : String}
    (hsecret : ¬ IsSecretOf cfg rec secret) :
    secretMatches cfg rec.secretHash secret = false := by
  have hne : rec.secretHash ≠ cfg.hashSecret secret := Ne.symm hsecret
  simp [secretMatches, secretsEqual, hne]

/-- The call was refused and nothing was written. -/
def Refused (reg : RegBucket) {A : Type} (outcome : Except Err A) (final : RegBucket) : Prop :=
  (∃ err, outcome = .error err) ∧ final = reg

lemma attempt_refused {A : Type} {err : Err} (herr : err ≠ .conflict) :
    Attempt (fun outcome _ final => Refused reg outcome final) {reg} reg
      (.error err : Except Err A) {reg} reg := by
  refine Or.inr ⟨?_, ⟨err, rfl⟩, rfl⟩
  exact fun heq => herr (Except.error.inj heq)

lemma refused_registerFresh (hstranger : Stranger cfg reg hello) :
    (registerFresh cfg hello now).Alone exec allowed
      (Attempt (fun outcome _ final => Refused reg outcome final) {reg} reg)
      {reg} reg := by
  have hbootstrap : secretsEqual cfg.bootstrapSecret hello.secret = false := by
    simp [secretsEqual, hstranger.notBootstrap.symm]
  rw [registerFresh, hbootstrap]
  exact attempt_refused (by simp)

lemma refused_registerNamed (hstranger : Stranger cfg reg hello) :
    (registerNamed cfg hello now).Alone exec allowed
      (Attempt (fun outcome _ final => Refused reg outcome final) {reg} reg)
      {reg} reg := by
  by_cases hname : hello.name = ""
  · rw [registerNamed, if_pos hname]
    exact refused_registerFresh hstranger
  · rw [registerNamed, if_neg hname]
    apply Program.Alone.bind
    apply alone_resolveName (Set.mem_singleton reg)
    cases hresolved : resolved reg hello.name with
    | none =>
      simp only [resolution, hresolved]
      exact refused_registerFresh hstranger
    | some holder =>
      have hmatch := secretMatches_eq_false (hstranger.notHolder holder hresolved)
      simp only [resolution, hresolved, hmatch, Bool.false_eq_true,
        not_false_eq_true, or_true, if_true]
      exact attempt_refused (by simp)

lemma refused_register (hstranger : Stranger cfg reg hello) :
    (registerEntity cfg hello).Alone exec allowed
      (fun outcome _ final => Refused reg outcome final) {reg} reg := by
  apply alone_retry
  apply alone_read .now (Set.mem_singleton reg) (fun _ _ => rfl)
  intro input _
  split
  · exact refused_registerNamed hstranger
  · cases hitem : reg.get (.entity hello.ref) with
    | none =>
      apply alone_getRecord_none (Set.mem_singleton reg) hitem
      exact refused_registerNamed hstranger
    | some item =>
      have hmatch := secretMatches_eq_false
        (hstranger.notOwner item.value (recordOf_of_get hitem))
      apply alone_getRecord_some (Set.mem_singleton reg) hitem
      simp only [registerKnown, hmatch, Bool.false_eq_true, not_false_eq_true, if_true]
      exact attempt_refused (by simp)

end

/-- The call returned `secret`, as that of the machine `id`. -/
def Discloses (secret : String) (id : UUID) (outcome : Except Err Rack) : Prop :=
  ∃ rack, outcome = .ok rack ∧ rack.secret = secret ∧ rack.machineID = id

/-- A record of the machine `id` with this secret was created. -/
def CreatesRecord (cfg : Settings) (secret : String) (id : UUID) : (op : Op) → op.Reply → Prop
  | .create _ (.entity ref) rec, some _ =>
      ref.machineID = id ∧ IsSecretOf cfg rec secret
  | _, _ => False

section

variable {cfg : Settings} {secret : String} {id : UUID}
variable {milestone : (op : Op) → op.Reply → Prop}

lemma not_discloses_error (err : Err) : ¬ Discloses secret id (.error err) := by
  rintro ⟨rack, hrack, _⟩
  cases hrack

/-- A Rack read back from its record comes without a secret. -/
lemma requires_toRack (hsecret : secret ≠ "") (rec : Record) :
    (toRack rec >>= fun rack => pure (.ok rack)).Requires milestone (Discloses secret id) := by
  intro presence
  right
  intro heartbeat
  right
  rintro ⟨rack, hrack, hdisclosed, _⟩
  rw [← Except.ok.inj hrack] at hdisclosed
  exact hsecret hdisclosed.symm

lemma requires_adopt (hsecret : secret ≠ "") (holder : Record) (hello : Hello) (now : Time) :
    (adopt holder hello now).Requires milestone (Discloses secret id) := by
  rw [adopt]
  split
  · exact not_discloses_error _
  apply (Program.requires_never _ (getRecord _ _ _)).bind
  intro read _
  cases read with
  | error err => exact not_discloses_error err
  | ok =>
    intro created
    right
    cases created with
    | none => exact not_discloses_error _
    | some =>
      apply (Program.requires_never _ (moveName _ _ _)).bind
      intro moved _
      cases moved with
      | error err => exact fun deleted => Or.inr (not_discloses_error err)
      | ok => exact fun deleted => Or.inr (requires_toRack hsecret _)

variable (hello : Hello) (now : Time)

lemma requires_createFresh (issued : String) (eid : UUID) :
    (createFresh cfg hello now issued eid).Requires
      (CreatesRecord cfg secret id) (Discloses secret id) := by
  intro created
  cases created with
  | none => exact Or.inr (not_discloses_error _)
  | some =>
    by_cases hissued : hello.machineID = id ∧ issued = secret
    · left
      exact ⟨hissued.1, congrArg cfg.hashSecret hissued.2.symm⟩
    · right
      apply (Program.requires_never _ (claimName _ _)).bind
      intro claimed _
      cases claimed with
      | error err => exact fun deleted => Or.inr (not_discloses_error err)
      | ok =>
        intro presence
        right
        intro heartbeat
        right
        rintro ⟨rack, hrack, hdisclosed, hid⟩
        rw [← Except.ok.inj hrack] at hdisclosed hid
        exact hissued ⟨hid, hdisclosed⟩

lemma requires_issueFresh : (issueFresh cfg hello now).Requires (CreatesRecord cfg secret id)
      (Discloses secret id) := by
  intro issued
  right
  cases issued with
  | none => exact not_discloses_error _
  | some issued =>
    apply (Program.requires_never _ (entityID _ _ _)).bind
    intro minted _
    cases minted with
    | error err => exact not_discloses_error err
    | ok eid => exact requires_createFresh hello now issued eid

lemma requires_registerFresh :
    (registerFresh cfg hello now).Requires (CreatesRecord cfg secret id)
      (Discloses secret id) := by
  rw [registerFresh]
  split
  · exact not_discloses_error _
  split
  · intro minted
    right
    cases minted with
    | none => exact not_discloses_error _
    | some => exact requires_issueFresh _ now
  · exact requires_issueFresh hello now

lemma requires_registerNamed (hsecret : secret ≠ "") (hello : Hello) (now : Time) :
    (registerNamed cfg hello now).Requires (CreatesRecord cfg secret id)
      (Discloses secret id) := by
  rw [registerNamed]
  split
  · exact requires_registerFresh hello now
  apply (Program.requires_never _ (resolveName _)).bind
  intro resolution _
  split
  · split
    · exact not_discloses_error _
    · exact requires_adopt hsecret _ hello now
  · exact requires_registerFresh hello now
  · exact not_discloses_error _

lemma requires_registerOnce (hsecret : secret ≠ "") (hello : Hello) :
    (registerOnce cfg hello).Requires (CreatesRecord cfg secret id) (Discloses secret id) := by
  intro now
  right
  split
  · exact requires_registerNamed hsecret hello now
  apply (Program.requires_never _ (getRecord _ _ _)).bind
  intro known _
  split
  · rw [registerKnown]
    split
    · exact not_discloses_error _
    · intro written
      right
      cases written with
      | none => exact not_discloses_error _
      | some => exact requires_toRack hsecret _
  · exact requires_registerNamed hsecret hello now
  · exact not_discloses_error _

lemma requires_approveAs_disclosure (hsecret : secret ≠ "") (orig : Record) (rev : ℕ)
    (machineID : UUID) (name : String) :
    (approveAs orig rev machineID name).Requires milestone (Discloses secret id) := by
  intro now
  right
  intro written
  right
  cases written with
  | none => exact not_discloses_error _
  | some =>
    split
    · exact requires_toRack hsecret _
    · apply (Program.requires_never _ (claimName _ _)).bind
      intro claimed _
      cases claimed with
      | error err => exact fun undone => Or.inr (not_discloses_error err)
      | ok =>
        apply (Program.requires_never _ (releaseName _ _)).bind
        exact fun _ _ => requires_toRack hsecret _

lemma requires_approveOnce (hsecret : secret ≠ "") (machineID : UUID) (newName : String) :
    (approveOnce machineID newName).Requires milestone (Discloses secret id) := by
  apply (Program.requires_never _ (getRecord _ _ _)).bind
  intro known _
  cases known with
  | error err => exact not_discloses_error err
  | ok known =>
    have happrove : ∀ name, (approveAs known.1 known.2 machineID name).Requires
        milestone (Discloses secret id) :=
      fun name => requires_approveAs_disclosure hsecret _ _ machineID name
    change Program.Requires _ _ (if newName = "" ∨ newName = known.1.name then _
      else _)
    split
    · exact happrove _
    · apply (Program.requires_never _ (resolveName _)).bind
      intro holder _
      split
      · split
        · exact not_discloses_error _
        · exact happrove _
      · exact happrove _

/-- The reply of any call hands a secret out. -/
def CallDiscloses (secret : String) (id : UUID) (outcome : Except Err (Option Rack)) : Prop :=
  ∃ rack, outcome = .ok (some rack) ∧ rack.secret = secret ∧ rack.machineID = id

lemma discloses_of_map (outcome : Except Err Rack)
    (hdiscloses : CallDiscloses secret id (outcome.map some)) :
    Discloses secret id outcome := by
  obtain ⟨rack, hrack, hrest⟩ := hdiscloses
  cases outcome with
  | error => cases hrack
  | ok found =>
    obtain rfl : found = rack := Option.some.inj (Except.ok.inj hrack)
    exact ⟨found, rfl, hrest⟩

lemma not_discloses_none {A : Type} (outcome : Except Err A)
    (hdiscloses : CallDiscloses secret id (outcome.map fun _ => none)) : False := by
  obtain ⟨rack, hrack, _⟩ := hdiscloses
  cases outcome with
  | error | ok => cases hrack

/-- Every call, on every path: no secret without a new record. -/
lemma requires_body (hsecret : secret ≠ "") (call : Call) :
    (call.body cfg).Requires (CreatesRecord cfg secret id) (CallDiscloses secret id) := by
  cases call with
  | register hello =>
    apply requires_map discloses_of_map
    exact requires_retry not_discloses_error (requires_registerOnce hsecret hello)
  | approve machineID newName =>
    apply requires_map discloses_of_map
    exact requires_retry not_discloses_error (requires_approveOnce hsecret machineID newName)
  | remove | updateStatus | upsertSelf =>
    exact requires_map not_discloses_none (Program.requires_never _ _)

end

/-- In this run, the call of `thread` created a record of the machine `id` with
this secret. -/
def CreatedRecord (cfg : Settings) (reg : RegBucket)
    (events : List (Event Call Input)) (thread : ℕ) (secret : String) (id : UUID) :
    Prop :=
  ∃ front input back ref rec, events = front ++ .step thread input :: back ∧
    ref.machineID = id ∧ IsSecretOf cfg rec secret ∧
    recordOf (Config.run exec (Call.body cfg) ⟨reg, []⟩ front).state ref = none ∧
    recordOf (Config.run exec (Call.body cfg) ⟨reg, []⟩
      (front ++ [.step thread input])).state ref = some rec

/-- A successful create found the key absent and wrote the record. -/
lemma recordOf_of_createsRecord {cfg : Settings} {secret : String} {id : UUID}
    {op : Op} {input : Input} {reg : RegBucket}
    (hcreates : CreatesRecord cfg secret id op (exec op input reg).1) :
    ∃ ref rec, ref.machineID = id ∧ IsSecretOf cfg rec secret ∧ recordOf reg ref = none ∧
      recordOf (exec op input reg).2 ref = some rec := by
  cases op with
  | create _ key value =>
    cases key with
    | name => exact hcreates.elim
    | entity ref =>
      cases hitem : reg.get (.entity ref) with
      | some =>
        rw [exec, Bucket.create_of_some _ hitem] at hcreates
        exact hcreates.elim
      | none =>
        rw [exec, Bucket.create_of_none _ hitem] at hcreates ⊢
        refine ⟨ref, value, hcreates.1, hcreates.2, ?_, ?_⟩
        · exact recordOf_eq_none_iff.mpr hitem
        · rw [recordOf_write_entity, if_pos rfl]
  | _ => exact hcreates.elim

/-- A Hello of a stranger is refused and leaves the registry as it is.  And in
every interleaving, a call that returned a plaintext secret had created the
record it is the secret of. -/
theorem registration_authenticated (cfg : Settings) (reg : RegBucket) :
    (∀ hello inputs, Stranger cfg reg hello →
      Refused reg ((registerEntity cfg hello).runAlone exec (reg, inputs)).1
        ((registerEntity cfg hello).runAlone exec (reg, inputs)).2.1) ∧
    ∀ events thread call rack,
      (Config.run exec (Call.body cfg) ⟨reg, []⟩ events).threads[thread]? =
        some (call, .done (.ok (some rack))) →
      rack.secret ≠ "" →
      CreatedRecord cfg reg events thread rack.secret rack.machineID := by
  constructor
  · intro hello inputs hstranger
    have hrefused : (registerEntity cfg hello).Alone exec (fun _ => True) _
        {reg} reg := refused_register hstranger
    exact hrefused.runAlone (Set.mem_singleton reg) (fun step => trivial)
  · intro events thread call rack hdone hsecret
    obtain ⟨front, input, back, op, rfl, hop, hcreates⟩ :=
      Config.reaches_of_done exec (Call.body cfg)
        (requires_body hsecret call) (fun program hprogram => by simp at hprogram)
        hdone ⟨rack, rfl, rfl, rfl⟩
    obtain ⟨owner, rest, hthread⟩ := Config.exists_perform_of_nextOp hop
    obtain ⟨ref, rec, href, hof, habsent, hstored⟩ := recordOf_of_createsRecord hcreates
    refine ⟨front, input, back, ref, rec, rfl, href, hof, habsent, ?_⟩
    rw [Config.run_append, Config.run_cons, Config.run_nil]
    simpa only [Config.next, hthread, Config.advance] using hstored

/-- A new Rack registers next to the sample Rack. -/
def newcomer : List (Event Call Input) :=
  .start (.register (sampleHello 2 "rack-b" "bootstrap")) :: sampleSteps 0 9 secretB

/-- Somebody who knows neither secret tries the name of the sample Rack, and a
new Rack registers. -/
theorem sample_authenticated : Refused namedBucket
      ((registerEntity sampleSettings (sampleHello 2 "rack-a" secretB)).runAlone exec
        (namedBucket, fun _ => sampleInput 1 secretB)).1
      ((registerEntity sampleSettings (sampleHello 2 "rack-a" secretB)).runAlone exec
        (namedBucket, fun _ => sampleInput 1 secretB)).2.1 ∧
    CreatedRecord sampleSettings namedBucket newcomer 0 secretB 2 := by
  obtain ⟨hrefused, hcreated⟩ := registration_authenticated sampleSettings namedBucket
  constructor
  · apply hrefused
    refine ⟨?_, ?_, by decide⟩
    · intro rec hrecord
      have habsent : recordOf namedBucket (sampleHello 2 "rack-a" secretB).ref =
          none := by decide +kernel
      nomatch hrecord.symm.trans habsent
    · intro rec hresolved
      have hholder : resolved namedBucket (sampleHello 2 "rack-a" secretB).name =
          some sampleRecord := by decide +kernel
      rw [← Option.some.inj (hholder.symm.trans hresolved)]
      exact fun hsame => absurd hsame (by decide +kernel)
  · obtain ⟨rack, hdone, hsecret, hid⟩ : ∃ rack,
        (Config.run exec (Call.body sampleSettings) ⟨namedBucket, []⟩
          newcomer).threads[0]? = some (.register (sampleHello 2 "rack-b" "bootstrap"),
            .done (.ok (some rack))) ∧ rack.secret = secretB ∧ rack.machineID = 2 :=
      ⟨_, rfl, rfl, rfl⟩
    have hnew := hcreated newcomer 0 _ rack hdone (by rw [hsecret]; decide)
    rw [hsecret, hid] at hnew
    exact hnew

end Fluxrig.Registry
