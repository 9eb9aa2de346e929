import ConfdbHsr.WaitListRuns
import ConfdbHsr.Daemon.Scenario

/-!
# A deleted configuration

After `hsr_handler` has handled the deletion of `N` no node `N` should wait, and no create request
for `N` should be made until `N` is configured again.

* `Forgets S`, `NoLeftover S`   the property of one handled input, and the condition on the state
                  and the kernel before it;
* `deletions_forget_iff`        along every run from the empty list the two agree;
* `deletion_keeps_waiting_node` a run on which a deleted interface keeps waiting.

Where the kernel deletes a link named `N`, the handler does not look at the wait list.
-/

namespace Hsr
open Nl Proc Machine

variable {W : Type}

/-! ## the property -/

/-- the input is a configuration call with data for `ifName` -/
def IsDataFor (ifName : CStr) (input : Input) : Prop :=
  ∃ cdbData, input = .config (some ifName) (some cdbData)

/-- the name a create request was made for -/
def Act.addsFor : Act → Option CStr
  | .linkAdd ifName _ _ => some ifName
  | _ => none

def NoCreateFor (ifName : CStr) (h : Handled Fault W Act HsrModule Input) : Prop :=
  ∀ a ∈ h.out.acts, a.addsFor ≠ some ifName

def NotWaiting (ifName : CStr) (waitList : List WaitListNode) : Prop :=
  ∀ node ∈ waitList, node.hsrName ≠ ifName

/-- no node of that name waits, and until it is configured again no create request is made
for it -/
def Forgotten (S : Sys W) (ifName : CStr) (app : HsrModule) (w : W) : Prop :=
  NotWaiting ifName app.waitList ∧ ∀ inputs, (∀ i ∈ inputs, ¬ IsDataFor ifName i) →
    Along (step S) app w inputs (NoCreateFor ifName)

/-- if the input deletes a configuration, it is forgotten -/
def Forgets (S : Sys W) (h : Handled Fault W Act HsrModule Input) : Prop :=
  ∀ ifName, h.input = .config (some ifName) none →
    ∀ app, h.out.val = .ok app → Forgotten S ifName app h.out.world

/-! ## the condition -/

/-- the kernel has a link of that name, accepts the request to delete it, and shows its links to
`change_interface_list` -/
def DeviceDeleted (S : Sys W) (ifName : CStr) (w : W) : Prop :=
  ∃ links link, dumped S w = some links ∧ rtnlLinkGetByName links ifName = some link ∧
    0 ≤ (S.rtnlLinkDelete link (afterDump S w)).1 ∧
    dumped S (S.rtnlLinkDelete link (afterDump S w)).2 ≠ none

/-- not both: the kernel deletes a link of that name, and a node of that name waits -/
def NoLeftover (S : Sys W) (h : Handled Fault W Act HsrModule Input) : Prop :=
  ∀ ifName, h.input = .config (some ifName) none →
    DeviceDeleted S ifName h.world → NotWaiting ifName h.pre.waitList

/-! ## the deletion -/

lemma deleteHsrInterfaceByName_run (S : Sys W) (ifName : CStr) (w : W) :
    ∃ ret, (deleteHsrInterfaceByName S ifName w).val = .ok ret ∧
      (DeviceDeleted S ifName w ↔
        0 ≤ ret ∧ dumped S (deleteHsrInterfaceByName S ifName w).world ≠ none) := by
  unfold deleteHsrInterfaceByName DeviceDeleted
  obtain ⟨ret, hret, heq⟩ := withDump_eq S pure (deleteNamed S ifName) w
  rw [heq]
  cases hdump : dumped S w with
  | none =>
    have hneg := hret hdump
    refine ⟨ret, rfl, iff_of_false ?_ fun h => absurd h.1 (by omega)⟩
    rintro ⟨links, link, h, -⟩
    cases h
  | some links =>
    dsimp only
    unfold deleteNamed
    cases hlink : rtnlLinkGetByName links ifName with
    | none =>
      refine ⟨-NLE_OBJ_NOTFOUND, rfl, iff_of_false ?_ fun h => absurd h.1 (by decide)⟩
      rintro ⟨links', link, h, h', -⟩
      obtain rfl := Option.some.inj h
      cases hlink.symm.trans h'
    | some link =>
      have hpos : ∀ r : Int, 0 ≤ (if r < 0 then r else 0) ↔ 0 ≤ r := by
        intro r
        split <;> omega
      refine ⟨_, rfl, ?_⟩
      rw [hpos]
      constructor
      · rintro ⟨links', link', h, h', h0⟩
        obtain rfl := Option.some.inj h
        obtain rfl := Option.some.inj (hlink.symm.trans h')
        exact h0
      · intro h
        exact ⟨links, link, rfl, hlink, h⟩

/-- what a deletion does to the wait list, if it returns; where it deletes, it does -/
theorem deletion_waitList (S : Sys W) (app : HsrModule) (ifName : CStr) (w : W) :
    (DeviceDeleted S ifName w →
        ∃ app', (step S app (.config (some ifName) none) w).val = .ok app') ∧
      ∀ app', (step S app (.config (some ifName) none) w).val = .ok app' →
        (DeviceDeleted S ifName w → app'.waitList = app.waitList) ∧
        (¬ DeviceDeleted S ifName w →
          app'.waitList = (deleteWaitListNode app.waitList ifName).1) := by
  obtain ⟨ret, hret, hdel⟩ := deleteHsrInterfaceByName_run S ifName w
  rw [step, hsrHandler, bind_assoc, bind_val_of_ok hret]
  by_cases h : ret < 0
  · have hnot : ¬ DeviceDeleted S ifName w := fun hd => absurd (hdel.mp hd).1 (by omega)
    rw [if_pos h]
    refine ⟨fun hd => absurd hd hnot, fun app' happ => ?_⟩
    obtain rfl := Except.ok.inj happ
    exact ⟨fun hd => absurd hd hnot, fun _ => rfl⟩
  · rw [if_neg h]
    have hkept := changeInterfaceList_returns_iff S app ifName false
      (deleteHsrInterfaceByName S ifName w).world
    have hlist := changeInterfaceList_waitList S app ifName false
      (deleteHsrInterfaceByName S ifName w).world
    rw [bind_assoc]
    cases hval : (changeInterfaceList S app ifName false
        (deleteHsrInterfaceByName S ifName w).world).val with
    | error fault =>
      have hnot : ¬ DeviceDeleted S ifName w := by
        intro hd
        obtain ⟨p, hp⟩ := hkept.mpr ⟨(hdel.mp hd).2, fun h => absurd h Bool.false_ne_true⟩
        cases hval.symm.trans hp
      rw [bind_val_of_error hval]
      refine ⟨fun hd => absurd hd hnot, fun app' happ => ?_⟩
      cases happ
    | ok p =>
      have hdeleted : DeviceDeleted S ifName w :=
        hdel.mpr ⟨by omega, (hkept.mp ⟨p, hval⟩).1⟩
      rw [bind_val_of_ok hval]
      refine ⟨fun _ => ⟨_, rfl⟩, fun app' happ => ?_⟩
      obtain rfl := Except.ok.inj happ
      exact ⟨fun _ => hlist p hval, fun hn => absurd hdeleted hn⟩

/-! ## after the deletion -/

lemma notWaiting_delete {waitList : List WaitListNode} {ifName : CStr} (other : CStr)
    (h : NotWaiting ifName waitList) : NotWaiting ifName (deleteWaitListNode waitList other).1 :=
  fun node hnode => h node (List.mem_of_mem_eraseP hnode)

lemma eventEdit_notWaiting {waitList waitList' : List WaitListNode} {acts : List Act}
    {input : Input} {ifName : CStr} (h : EventEdit waitList waitList' acts input)
    (hother : ∀ cdbData, input ≠ .config (some ifName) cdbData)
    (hn : NotWaiting ifName waitList) : NotWaiting ifName waitList' := by
  cases input with
  | link cache note =>
    intro node hnode
    obtain ⟨a, ha, hab⟩ := Scan.Edited.exists_of_mem h hnode
    rw [hab.hsrName]
    exact hn a ha
  | config key cdbData =>
    cases key with
    | none =>
      rw [show waitList' = waitList from h]
      exact hn
    | some other =>
      rcases h with rfl | rfl | ⟨added, hadded, rfl⟩
      · exact hn
      · exact notWaiting_delete other hn
      · intro node hnode
        rcases List.mem_append.mp hnode with hnode | hnode
        · exact notWaiting_delete other hn node hnode
        · rw [List.mem_singleton.mp hnode, hadded]
          rintro rfl
          exact hother cdbData rfl

lemma step_acts_other (S : Sys W) (app : HsrModule) {input : Input} {ifName : CStr}
    (hn : NotWaiting ifName app.waitList) (hi : ¬ IsDataFor ifName input) :
    Always (fun a => a.addsFor ≠ some ifName) (step S app input) := by
  cases input with
  | link cache note =>
    refine always_bind ?_ fun _ => always_pure _
    rw [routeLinkCacheChangeCb_eq]
    refine react_always S fun node hnode => ?_
    obtain ⟨a, ha, hsame⟩ := target_mem hnode
    refine ⟨nofun, fun link ret h => hn a ha ?_, fun _ _ _ => nofun⟩
    rw [← hsame.hsrName]
    exact Option.some.inj h
  | config key cdbData =>
    refine always_bind ?_ fun _ => always_pure _
    cases key with
    | none => exact always_pure _
    | some other =>
      cases cdbData with
      | none => exact deletion_always S fun _ _ _ => nofun
      | some cdbData =>
        refine hsrHandler_always S ⟨fun link ret h => hi ⟨cdbData, ?_⟩, fun _ _ _ => nofun,
          fun _ _ => nofun, fun _ _ => nofun⟩
        rw [Option.some.inj h]

/-- **One step** that does not configure `ifName` keeps it forgotten. -/
theorem step_notWaiting (S : Sys W) (app : HsrModule) (w : W) {input : Input} {ifName : CStr}
    (hn : NotWaiting ifName app.waitList) (hi : ¬ IsDataFor ifName input) {app' : HsrModule}
    (h : (step S app input w).val = .ok app') : NotWaiting ifName app'.waitList := by
  cases input with
  | link cache note =>
    exact eventEdit_notWaiting (link_well_edited S app cache note w h) nofun hn
  | config key cdbData =>
    by_cases hother : ∀ data, Input.config key cdbData ≠ .config (some ifName) data
    · exact eventEdit_notWaiting (config_well_edited S app key cdbData w h) hother hn
    · -- the configuration is deleted once more
      obtain ⟨data, hdata⟩ := not_forall_not.mp hother
      obtain ⟨rfl, rfl⟩ := Input.config.inj hdata
      cases cdbData with
      | some cdbData => exact absurd ⟨cdbData, rfl⟩ hi
      | none =>
        obtain ⟨hkept, herased⟩ := (deletion_waitList S app ifName w).2 app' h
        by_cases hd : DeviceDeleted S ifName w
        · rw [hkept hd]
          exact hn
        · rw [herased hd]
          exact notWaiting_delete ifName hn

theorem notWaiting_forgotten (S : Sys W) {app : HsrModule} {ifName : CStr} (w : W)
    (hn : NotWaiting ifName app.waitList) : Forgotten S ifName app w := by
  refine ⟨hn, fun inputs hinputs => ?_⟩
  refine along_of_inv (fun (app : HsrModule) _ => NotWaiting ifName app.waitList)
    (C := fun h => ¬ IsDataFor ifName h.input) hn (fun app w input hn hi => ?_)
    (along_inputs hinputs app w)
  exact ⟨step_acts_other S app hn hi w, fun app' h => step_notWaiting S app w hn hi h⟩

/-! ## runs -/

theorem handled_forgets_iff (S : Sys W) {h : Handled Fault W Act HsrModule Input}
    (hout : h.out = step S h.pre h.input h.world) (hd : NamesDistinct h.pre.waitList) :
    Forgets S h ↔ NoLeftover S h := by
  constructor
  · intro hf ifName hi hdeleted
    have hdeletion := deletion_waitList S h.pre ifName h.world
    obtain ⟨app', happ⟩ := hdeletion.1 hdeleted
    rw [← (hdeletion.2 app' happ).1 hdeleted]
    rw [hi] at hout
    exact (hf ifName hi app' (by rw [hout, happ])).1
  · intro hn ifName hi app happ
    rw [hout, hi] at happ
    obtain ⟨hkept, herased⟩ := (deletion_waitList S h.pre ifName h.world).2 app happ
    apply notWaiting_forgotten
    by_cases hdeleted : DeviceDeleted S ifName h.world
    · rw [hkept hdeleted]
      exact hn ifName hi hdeleted
    · rw [herased hdeleted]
      intro node hnode hname
      have hmem := List.mem_map_of_mem (f := WaitListNode.hsrName) hnode
      rw [hname] at hmem
      exact deleteWaitListNode_gone ifName hd hmem

/-- **A deleted configuration is forgotten**, along every run from the empty list, exactly when
no deletion finds both a link that the kernel deletes and a waiting node of that name. -/
theorem deletions_forget_iff (S : Sys W) (w : W) (inputs : List Input) :
    Along (step S) HsrModule.init w inputs (Forgets S) ↔
      Along (step S) HsrModule.init w inputs (NoLeftover S) := by
  have hout := along_out (step S) HsrModule.init w inputs
  have hdistinct := along_distinct S w inputs
  constructor
  · intro h r hr
    exact (handled_forgets_iff S (hout r hr) (hdistinct r hr)).mp (h r hr)
  · intro h r hr
    exact (handled_forgets_iff S (hout r hr) (hdistinct r hr)).mpr (h r hr)

/-! ## a run on which a deleted interface keeps waiting

`hsr0` runs over `eth0` and `eth1` and is configured anew over `eth0` and `eth2`, a port of
`hsr1`: it waits for `eth2` and keeps its device.  Its deletion removes the device only. -/

def reconfiguredTable : List LinkObj :=
  [etherLink 1 (cs "eth0") none 11 0, etherLink 2 (cs "eth1") none 11 0,
    etherLink 3 (cs "eth2") none 12 0, etherLink 4 (cs "eth3") none 12 0,
    hsrDevice 11 (cs "hsr0") 1 2, hsrDevice 12 (cs "hsr1") 3 4]

def reconfiguredApp : HsrModule where
  waitList := [⟨cs "hsr0", cs "eth0", cs "eth2", SLAVE2_BUSY⟩]
  interfaces := [11]
  interfacesSize := 1

theorem deletion_keeps_waiting_node :
    ¬ ∀ (W : Type) (S : Sys W) (w : W) (inputs : List Input),
      Along (step S) HsrModule.init w inputs (Forgets S) := by
  intro h
  have hrun := h Unit (staticSys reconfiguredTable) ()
    [.config (some (cs "hsr0")) (slavesData (cs "eth0") (cs "eth2")),
      .config (some (cs "hsr0")) none]
  obtain ⟨-, hrest⟩ := along_cons.mp hrun
  obtain ⟨hforgets, -⟩ := along_cons.mp (hrest reconfiguredApp rfl)
  exact (hforgets (cs "hsr0") rfl reconfiguredApp rfl).1 _ List.mem_cons_self rfl

end Hsr
