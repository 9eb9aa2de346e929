import ConfdbHsr.Daemon.Edits
import ConfdbHsr.Daemon.Scenario

/-!
# Only HSR devices are deleted or read

Every link that the daemon asks the kernel to delete, and every link whose slaves it reads, should
be of kind `hsr`.

* `TouchesHsrOnly`, `NamesAreHsr S`   the property of one handled input, and the condition on what
                     the kernel has under the name that is acted on;
* `touches_hsr_only_iff`   along every run from the empty list the two agree;
* `foreign_device_deleted`   a run that deletes a bridge.

All three paths look the device up by its name and none asks for its kind.
-/

namespace Hsr
open Nl Proc Scan Machine

variable {W : Type}

/-! ## the property -/

/-- a delete request, or the reading of slaves, is for an HSR link -/
def Act.OnHsr : Act → Prop
  | .linkDelete link _ => link.isHsr = true
  | .hsrGetSlave link => link.isHsr = true
  | _ => True

def TouchesHsrOnly (h : Handled Fault W Act HsrModule Input) : Prop :=
  ∀ a ∈ h.out.acts, a.OnHsr

/-! ## the condition -/

/-- the link of that name, if the kernel has one, is an HSR link -/
def NameIsHsr (S : Sys W) (ifName : CStr) (w : W) : Prop :=
  ∀ links link, dumped S w = some links → rtnlLinkGetByName links ifName = some link →
    link.isHsr = true

/-- where `initial_check` gets to the device: with both slaves there, whose masters are looked up,
it is an HSR link -/
def CheckedIsHsr (S : Sys W) (ifName slaveA slaveB : CStr) (w : W) : Prop :=
  ∀ links, dumped S w = some links → (S.calloc (afterDump S w)).1 = true →
    (rtnlLinkGetByName links slaveA).isSome = true →
    (rtnlLinkGetByName links slaveB).isSome = true →
    DumpsAnswered S 2 (S.calloc (afterDump S w)).2 →
    ∀ link, rtnlLinkGetByName links ifName = some link → link.isHsr = true

/-- the link under the name that the input acts on is an HSR link -/
def NamesAreHsr (S : Sys W) (h : Handled Fault W Act HsrModule Input) : Prop :=
  match h.input with
  | .config none _ => True
  | .config (some ifName) none => NameIsHsr S ifName h.world
  | .config (some ifName) (some cdbData) => ∀ slaveA slaveB,
      cdbData.slaveA = some slaveA → cdbData.slaveB = some slaveB →
        ListKept S h.pre true h.world → CheckedIsHsr S ifName slaveA slaveB (afterDump S h.world)
  | .link cache note => ∀ node, target h.pre.waitList (reaction cache note) = some node →
      NameIsHsr S node.hsrName h.world

/-! ## what one function touches -/

variable (S : Sys W)

lemma withDump_onHsr {α : Type} {onError : Int → Op W α} {k : List LinkObj → Op W α} {w : W}
    (herr : ∀ ret, Always Act.OnHsr (onError ret)) :
    ActsAt Act.OnHsr (withDump S onError k) w ↔
      ∀ links, dumped S w = some links → ActsAt Act.OnHsr (k links) (afterDump S w) := by
  obtain ⟨ret, -, heq⟩ := withDump_eq S onError k w
  unfold ActsAt
  rw [heq]
  cases dumped S w with
  | none => exact iff_of_true (herr ret _) nofun
  | some links => simp

lemma requestDelete_onHsr {α : Type} {link : LinkObj} {f : Int → Op W α} {w : W}
    (hf : ∀ ret, Always Act.OnHsr (f ret)) :
    ActsAt Act.OnHsr (requestDelete S link >>= f) w ↔ link.isHsr = true := by
  rw [actsAt_bind_left hf]
  refine actsAt_sys_bind.trans (actsAt_emit_bind.trans ?_)
  exact and_iff_left (always_pure _ _)

theorem deleteHsrInterfaceByName_onHsr (ifName : CStr) (w : W) :
    ActsAt Act.OnHsr (deleteHsrInterfaceByName S ifName) w ↔ NameIsHsr S ifName w := by
  refine (withDump_onHsr S fun ret => always_pure ret).trans (forall_congr' fun links => ?_)
  unfold deleteNamed
  cases rtnlLinkGetByName links ifName with
  | none => exact iff_of_true (fun _ => always_pure _ _) nofun
  | some link =>
    have hdel : ActsAt Act.OnHsr (do
        let ret ← requestDelete S link
        pure (if ret < 0 then ret else 0)) (afterDump S w) ↔ link.isHsr = true :=
      requestDelete_onHsr S fun _ => always_pure _
    constructor
    · intro h link' hdump hlink
      obtain rfl := Option.some.inj hlink
      exact hdel.mp (h hdump)
    · intro h hdump
      exact hdel.mpr (h link hdump rfl)

theorem createHif_onHsr (node : WaitListNode) (w : W) :
    ActsAt Act.OnHsr (createHif S node) w ↔ NameIsHsr S node.hsrName w := by
  have hadd : ∀ (ifName : CStr) (s1 s2 : Option LinkObj),
      Always Act.OnHsr (createHsrInterface S ifName s1 s2 1) :=
    fun _ _ _ => createHsrInterface_always S fun _ _ => trivial
  refine actsAt_emit_bind.trans ((and_iff_right trivial).trans ?_)
  refine (actsAt_bind_left fun _ => always_pure _).trans ?_
  refine (withDump_onHsr S fun _ => always_fail _).trans (forall_congr' fun links => ?_)
  unfold createOrRecreate
  cases rtnlLinkGetByName links node.hsrName with
  | none => exact iff_of_true (fun _ => hadd _ _ _ _) nofun
  | some link =>
    -- the old device is deleted first, whatever becomes of the new one
    have hdel : ActsAt Act.OnHsr (recreateHsrInterface S link
        (rtnlLinkGetByName links node.slave2Name) (rtnlLinkGetByName links node.slave2Name) 1)
          (afterDump S w) ↔ link.isHsr = true := by
      refine (actsAt_bind_left fun ret => ?_).trans ?_
      · exact always_ite (fun _ => always_pure _) fun _ => hadd _ _ _
      · exact requestDelete_onHsr S fun _ => always_pure _
    constructor
    · intro h link' hdump hlink
      obtain rfl := Option.some.inj hlink
      exact hdel.mp (h hdump)
    · intro h hdump
      exact hdel.mpr (h link hdump rfl)

theorem react_onHsr (waitList : List WaitListNode) (r : Reaction) (w : W) :
    ActsAt Act.OnHsr (react S waitList r) w ↔
      ∀ node, target waitList r = some node → NameIsHsr S node.hsrName w :=
  (react_actsAt S waitList r w).trans
    (forall_congr' fun node => imp_congr_right fun _ => createHif_onHsr S node w)

/-! ## a configuration call -/

lemma hsrOnly_get (link : LinkObj) (h : link.isHsr = true) : (Act.hsrGetSlave link).OnHsr := h

lemma mainCheckReconfigure_onHsr (i1 i2 : UInt32) (m1 m2 : Option LinkObj) (link : LinkObj)
    (node : WaitListNode) (w : W) :
    ActsAt Act.OnHsr (mainCheckReconfigure S i1 i2 m1 m2 link node) w ↔ link.isHsr = true := by
  constructor
  · intro h
    -- the first thing it does is to read the slaves of the device
    refine h (.hsrGetSlave link) (mem_acts_bind.mpr (.inl ?_))
    exact mem_acts_bind.mpr (.inl (List.mem_singleton.mpr rfl))
  · intro h
    exact mainCheckReconfigure_always S h (fun _ => h) w

theorem mainCheck_onHsr (waitList : List WaitListNode) (ifName : CStr)
    (slave1 slave2 hsrLink : Option LinkObj) (node : WaitListNode) (w : W) :
    ActsAt Act.OnHsr (mainCheck S waitList ifName slave1 slave2 hsrLink node) w ↔
      (slave1.isSome = true → slave2.isSome = true → DumpsAnswered S 2 w →
        ∀ link, hsrLink = some link → link.isHsr = true) := by
  have hget := fun (s : UInt32) => getMaster_always S s hsrOnly_get
  unfold mainCheck
  cases slave1 with
  | none =>
    refine iff_of_true ?_ nofun
    cases slave2 with
    | none => exact always_pure _ w
    | some s2 => exact always_bind (hget _) (fun _ => always_pure _) w
  | some s1 =>
    cases slave2 with
    | none =>
      refine iff_of_true ?_ nofun
      exact always_bind (hget _) (fun _ => always_pure _) w
    | some s2 =>
      show ActsAt _ (getMaster S s1.getIfindex >>= _) w ↔ _
      by_cases h1 : 0 ≤ (S.rtnlLinkAllocCache w).1.1
      swap
      · refine iff_of_true ?_ fun _ _ hdumps => absurd hdumps.1 h1
        refine (actsAt_bind_fault (e := .wildPut) ?_).mpr (hget _ w)
        rw [getMaster_unset S h1]
      obtain ⟨m1, acts1, hm1⟩ := getMaster_run S h1 s1.getIfindex
      refine (actsAt_bind_right (b := m1) (hget _) (by rw [hm1])).trans ?_
      rw [hm1]
      show ActsAt _ (getMaster S s2.getIfindex >>= _) _ ↔ _
      by_cases h2 : 0 ≤ (S.rtnlLinkAllocCache (S.rtnlLinkAllocCache w).2).1.1
      swap
      · refine iff_of_true ?_ fun _ _ hdumps => absurd hdumps.2.1 h2
        refine (actsAt_bind_fault (e := .wildPut) ?_).mpr (hget _ _)
        rw [getMaster_unset S h2]
      obtain ⟨m2, acts2, hm2⟩ := getMaster_run S h2 s2.getIfindex
      refine (actsAt_bind_right (b := m2) (hget _) (by rw [hm2])).trans ?_
      have hdumps : DumpsAnswered S 2 w := ⟨h1, h2, trivial⟩
      cases hsrLink with
      | none =>
        refine iff_of_true ?_ nofun
        exact mainCheckFresh_always S (fun _ _ => trivial) _
      | some link =>
        have hrest : ∀ p : Int × WaitListNode, Always Act.OnHsr
            (if p.1 < 0 then pure (p.1, waitList) else pure (0, addNodeToWaitList p.2 waitList)
              : Op W (Int × List WaitListNode)) :=
          fun p => always_ite (fun _ => always_pure _) fun _ => always_pure _
        refine (actsAt_bind_left hrest).trans ?_
        rw [mainCheckReconfigure_onHsr]
        simp [hdumps]

theorem initialCheck_onHsr (waitList : List WaitListNode) (ifName slaveA slaveB : CStr) (w : W) :
    ActsAt Act.OnHsr (initialCheck S waitList ifName slaveA slaveB) w ↔
      CheckedIsHsr S ifName slaveA slaveB w := by
  refine (withDump_onHsr S fun _ => always_fail _).trans (forall_congr' fun links => ?_)
  refine imp_congr_right fun _ => actsAt_sys_bind.trans ?_
  cases (S.calloc (afterDump S w)).1 with
  | false => exact iff_of_true (always_pure _ _) nofun
  | true =>
    rw [forall_prop_of_true rfl]
    exact mainCheck_onHsr S _ _ _ _ _ _ _

lemma changeInterfaceList_onHsr (app : HsrModule) (ifName : CStr) (isAdd : Bool) :
    Always Act.OnHsr (changeInterfaceList S app ifName isAdd) :=
  changeInterfaceList_always S fun _ _ => trivial

/-! ## runs -/

/-- **One step** touches HSR links only, exactly if the name it acts on is that of an HSR link. -/
theorem step_onHsr (app : HsrModule) (input : Input) (w : W) :
    ActsAt Act.OnHsr (step S app input) w ↔ NamesAreHsr S ⟨app, w, input, step S app input w⟩ := by
  cases input with
  | link cache note =>
    refine (actsAt_bind_left fun _ => always_pure _).trans ?_
    rw [routeLinkCacheChangeCb_eq]
    exact react_onHsr S app.waitList (reaction cache note) w
  | config key cdbData =>
    refine (actsAt_bind_left fun _ => always_pure _).trans ?_
    cases key with
    | none => exact iff_of_true (always_pure _ w) trivial
    | some ifName =>
      cases cdbData with
      | none =>
        refine (actsAt_bind_left fun ret => ?_).trans (deleteHsrInterfaceByName_onHsr S ifName w)
        refine always_ite (fun _ => always_pure _) fun _ => ?_
        exact always_bind (changeInterfaceList_onHsr S app ifName false) fun _ => always_pure _
      | some cdbData =>
        have hlist := changeInterfaceList_onHsr S app ifName true
        have hreturns := changeInterfaceList_returns_iff S app ifName true w
        show ActsAt _ (changeInterfaceList S app ifName true >>= _) w ↔
          ∀ slaveA slaveB, cdbData.slaveA = some slaveA → cdbData.slaveB = some slaveB →
            ListKept S app true w → CheckedIsHsr S ifName slaveA slaveB (afterDump S w)
        by_cases hkept : ListKept S app true w
        swap
        · refine iff_of_true ?_ fun _ _ _ _ h => absurd h hkept
          cases hval : (changeInterfaceList S app ifName true w).val with
          | error fault => exact (actsAt_bind_fault hval).mpr (hlist w)
          | ok p => exact absurd (hreturns.mp ⟨p, hval⟩) hkept
        obtain ⟨p, hval⟩ := hreturns.mpr hkept
        refine (actsAt_bind_right hlist hval).trans ?_
        rw [changeInterfaceList_world]
        cases cdbData.slaveA with
        | none => exact iff_of_true (always_pure _ _) nofun
        | some a =>
          cases cdbData.slaveB with
          | none => exact iff_of_true (always_pure _ _) nofun
          | some b =>
            refine (actsAt_bind_left fun _ => always_pure _).trans ?_
            rw [initialCheck_onHsr]
            simp [hkept]

/-- **Only HSR devices are deleted or read**, along every run from the empty list, exactly when at
every step the link under the name that is acted on is an HSR link. -/
theorem touches_hsr_only_iff (w : W) (inputs : List Input) :
    Along (step S) HsrModule.init w inputs TouchesHsrOnly ↔
      Along (step S) HsrModule.init w inputs (NamesAreHsr S) := by
  have hout := along_out (step S) HsrModule.init w inputs
  have hiff : ∀ h : Handled Fault W Act HsrModule Input,
      h.out = step S h.pre h.input h.world → (TouchesHsrOnly h ↔ NamesAreHsr S h) := by
    rintro ⟨app, w, input, out⟩ hout
    obtain rfl : out = step S app input w := hout
    exact step_onHsr S app input w
  constructor
  · intro h r hr
    exact (hiff r (hout r hr)).mp (h r hr)
  · intro h r hr
    exact (hiff r (hout r hr)).mpr (h r hr)

/-! ## a run that deletes a bridge

`br0` is a bridge.  When a configuration named `br0` is removed, the bridge is deleted. -/

theorem foreign_device_deleted :
    ¬ ∀ (W : Type) (S : Sys W) (w : W) (inputs : List Input),
      Along (step S) HsrModule.init w inputs TouchesHsrOnly := by
  intro h
  have hrun := h Unit (staticSys [etherLink 5 (cs "br0") (some (cs "bridge")) 0 0]) ()
    [.config (some (cs "br0")) none]
  obtain ⟨hstep, -⟩ := along_cons.mp hrun
  have hbridge := hstep (.linkDelete (etherLink 5 (cs "br0") (some (cs "bridge")) 0 0) 0)
    (List.mem_cons_self)
  exact absurd (show RtnlLink.isHsr _ = true from hbridge) (by decide)

end Hsr
