import ConfdbHsr.Daemon.Creation
import ConfdbHsr.Daemon.Flags
import ConfdbHsr.Daemon.Scenario
import Mathlib.Data.List.Find

/-!
# A link appears, or a master releases it

Two events make a waiting node worth a try: a link that it names appears (`new_link`), or a master
that is no HSR device lets go of the link (`link_changed_released`).

* `Eligible linkName node`   the node names the link, its other slave is there and free, and no
                   device of its name is left;
* `Cleared flag linkName a b`   `b` is `a` with one bit cleared, the flag of the slot that names
                   the link;
* `new_link_exact`   `new_link` tries the first eligible node, and clears one flag of the others;
* `released_handled_iff`   when `link_changed_released` does the same.
-/

namespace Hsr
open Nl Proc Scan

/-! ## eligible nodes -/

def Slot.other : Slot → Slot
  | .slave1 => .slave2
  | .slave2 => .slave1

instance {p : Slot → Prop} [DecidablePred p] : Decidable (∃ slot, p slot) :=
  decidable_of_iff (p .slave1 ∨ p .slave2)
    ⟨fun h => h.elim (fun h => ⟨_, h⟩) fun h => ⟨_, h⟩,
      fun ⟨slot, h⟩ => by cases slot <;> simp [h]⟩

/-- the node names the link in the slot, and its other slave is not busy -/
def FreeBeside (linkName : CStr) (node : WaitListNode) (slot : Slot) : Prop :=
  node.slaveName slot = linkName ∧ told (.busy slot.other) node = false

/-- the node names the link, its other slave is neither busy nor missing, and its device does not
still exist -/
def Eligible (linkName : CStr) (node : WaitListNode) : Prop :=
  ∃ slot, FreeBeside linkName node slot ∧ told (.notExists slot.other) node = false ∧
    isClear node HSR_STILL_EXISTS = true

instance (linkName : CStr) (node : WaitListNode) : DecidablePred (FreeBeside linkName node) :=
  fun _ => inferInstanceAs (Decidable (_ ∧ _))

instance (linkName : CStr) : DecidablePred (Eligible linkName) :=
  fun _ => inferInstanceAs (Decidable (∃ _, _))

section
variable {linkName : CStr} {node : WaitListNode}

lemma onSlot_iff (linkName : CStr) (hd : node.Distinct) {p : Slot → Bool} :
    onSlot linkName (p .slave1) (p .slave2) false node = true ↔
      ∃ slot, node.slaveName slot = linkName ∧ p slot = true := by
  have hany : (slotOf linkName node).elim false p = (slotOf linkName node).any p := by
    cases slotOf linkName node with
    | none => rfl
    | some slot => rfl
  rw [onSlot_elim, hany, Option.any_eq_true]
  constructor
  · rintro ⟨slot, hslot, hp⟩
    exact ⟨slot, hd.slotOf_eq.mp hslot, hp⟩
  · rintro ⟨slot, hslot, hp⟩
    exact ⟨slot, hd.slotOf_eq.mpr hslot, hp⟩

lemma told_eq_false {flag : Flag} : told flag node = false ↔ isClear node flag.mask = true := by
  unfold told
  cases isClear node flag.mask <;> decide

theorem newLinkReady_eligible (hd : node.Distinct) :
    newLinkReady linkName node = true ↔ Eligible linkName node := by
  have hready := onSlot_iff linkName hd
    (p := fun slot => isClear node (Flag.busy slot.other).mask &&
      isClear node (Flag.notExists slot.other).mask && isClear node HSR_STILL_EXISTS)
  refine hready.trans (exists_congr fun slot => ?_)
  rw [FreeBeside, told_eq_false, told_eq_false, Bool.and_eq_true, Bool.and_eq_true, and_assoc,
    and_assoc]

theorem releasedReady_iff (hd : node.Distinct) :
    releasedReady linkName node = true ↔ ∃ slot, FreeBeside linkName node slot := by
  have hready := onSlot_iff linkName hd
    (p := fun slot => isClear node (Flag.busy slot.other).mask)
  refine hready.trans (exists_congr fun slot => ?_)
  rw [FreeBeside, told_eq_false]

lemma Eligible.ready (hd : node.Distinct) (h : Eligible linkName node) :
    releasedReady linkName node = true := by
  obtain ⟨slot, hfree, -⟩ := h
  exact (releasedReady_iff hd).mpr ⟨slot, hfree⟩

lemma Eligible.gone (h : Eligible linkName node) : isClear node HSR_STILL_EXISTS = true := by
  obtain ⟨-, -, -, hgone⟩ := h
  exact hgone

end

/-! ## clearing one flag -/

/-- `b` is `a`, but for the flag of the slot that names the link -/
structure Kept (flag : Slot → Flag) (linkName : CStr) (a b : WaitListNode) : Prop
    extends SameNames a b where
  bits : ∀ i, (∀ slot, a.slaveName slot = linkName → (flag slot).bit ≠ i) →
    b.status.getLsbD i = a.status.getLsbD i

/-- `b` is `a` with the flag of the slot that names the link cleared -/
structure Cleared (flag : Slot → Flag) (linkName : CStr) (a b : WaitListNode) : Prop
    extends Kept flag linkName a b where
  cleared : ∀ slot, a.slaveName slot = linkName → told (flag slot) b = false

lemma Kept.refl (flag : Slot → Flag) (linkName : CStr) (a : WaitListNode) :
    Kept flag linkName a a :=
  ⟨SameNames.refl a, fun _ _ => rfl⟩

lemma resetStatusFlags_bit (node : WaitListNode) (flag : Flag) (i : Nat) :
    (resetStatusFlags node flag.mask).status.getLsbD i =
      (node.status.getLsbD i && i != flag.bit) := by
  have hmask : flag.mask = BitVec.twoPow 8 flag.bit := by
    rcases flag with slot | slot <;> cases slot <;> rfl
  rw [resetStatusFlags_status, hmask, BitVec.getLsbD_and, BitVec.getLsbD_not,
    BitVec.getLsbD_twoPow]
  by_cases hi : i < 8
  · by_cases heq : i = flag.bit
    · subst heq
      simp [hi]
    · have hne : flag.bit ≠ i := Ne.symm heq
      simp [hi, heq, hne]
  · have hzero : node.status.getLsbD i = false := BitVec.getLsbD_of_ge _ _ (by omega)
    rw [hzero, Bool.false_and, Bool.false_and]

section
variable {linkName : CStr} {flag : Slot → Flag}

theorem onSlot_cleared {node : WaitListNode} (hd : node.Distinct) :
    Cleared flag linkName node (onSlot linkName (resetStatusFlags node (flag .slave1).mask)
      (resetStatusFlags node (flag .slave2).mask) node node) := by
  rw [onSlot_elim linkName node (fun slot => resetStatusFlags node (flag slot).mask)]
  cases hslot : slotOf linkName node with
  | none =>
    refine ⟨⟨SameNames.refl node, fun _ _ => rfl⟩, fun slot hname => ?_⟩
    rw [hd.slotOf_eq.mpr hname] at hslot
    cases hslot
  | some slot =>
    have hname := hd.slotOf_eq.mp hslot
    refine ⟨⟨sameNames_reset node _, fun i hi => ?_⟩, fun slot' hname' => ?_⟩
    · show (resetStatusFlags node (flag slot).mask).status.getLsbD i = _
      have hne := hi slot hname
      rw [resetStatusFlags_bit, bne_iff_ne.mpr (Ne.symm hne), Bool.and_true]
    · show told (flag slot') (resetStatusFlags node (flag slot).mask) = false
      have hsame := hd.slotOf_eq.mpr hname'
      obtain rfl := Option.some.inj (hslot.symm.trans hsame)
      rw [told_eq, resetStatusFlags_bit, bne_self_eq_false, Bool.and_false]

lemma linkPresent_cleared {node : WaitListNode} (hd : node.Distinct) :
    Cleared .notExists linkName node (linkPresent linkName node) :=
  onSlot_cleared hd

lemma linkFree_cleared {node : WaitListNode} (hd : node.Distinct) :
    Cleared .busy linkName node (linkFree linkName node) :=
  onSlot_cleared hd

lemma forall₂_map {R : WaitListNode → WaitListNode → Prop} {f : WaitListNode → WaitListNode}
    {waitList : List WaitListNode} (h : ∀ a ∈ waitList, R a (f a)) :
    List.Forall₂ R waitList (waitList.map f) :=
  List.forall₂_map_right_iff.mpr (List.forall₂_same.mpr h)

end

/-! ## a link appears -/

variable {W : Type} (S : Sys W)

section
variable {waitList before after : List WaitListNode} {node : WaitListNode} {L : LinkObj}

lemma not_newLinkReady (hd : ∀ node ∈ waitList, node.Distinct)
    (hnone : ∀ node ∈ waitList, ¬ Eligible L.lName node) :
    ∀ node ∈ waitList, newLinkReady L.lName node = false := by
  intro a ha
  rw [← Bool.not_eq_true, newLinkReady_eligible (hd a ha)]
  exact hnone a ha

lemma newLink_idle (hd : ∀ node ∈ waitList, node.Distinct)
    (hnone : ∀ node ∈ waitList, ¬ Eligible L.lName node) :
    newLink S waitList L = pure (waitList.map (linkPresent L.lName)) := by
  have hcut : cut id (newLinkReady L.lName) waitList = none :=
    cut_eq_none.mpr (not_newLinkReady hd hnone)
  rw [newLink_eq, hcut]

lemma newLink_first (hd : ∀ a ∈ before ++ node :: after, a.Distinct)
    (hbefore : ∀ a ∈ before, ¬ Eligible L.lName a) (hnode : Eligible L.lName node) :
    newLink S (before ++ node :: after) L =
      (fun r => (before ++ r ++ after).map (linkPresent L.lName)) <$> createHif S node := by
  have hmiss := not_newLinkReady (fun a ha => hd a (List.mem_append_left _ ha)) hbefore
  have hhit : newLinkReady L.lName node = true :=
    (newLinkReady_eligible (hd node (by simp))).mpr hnode
  have hcut : cut id (newLinkReady L.lName) (before ++ node :: after) =
      some ⟨before.map id, node, after⟩ := cut_append hmiss hhit
  rw [newLink_eq, hcut, List.map_id]

lemma mem_of_mem_rest {a : WaitListNode} (ha : a ∈ before ++ after) :
    a ∈ before ++ node :: after := by
  rcases List.mem_append.mp ha with ha | ha
  · exact List.mem_append_left _ ha
  · exact List.mem_append_right before (List.mem_cons_of_mem node ha)

end

/-- **Appearance of a link.**  `new_link` calls `create_hif` on the first eligible node, and on no
other; it leaves the list without that node if its creation succeeds, in the same order, with one
flag of every node that names the link cleared. -/
theorem new_link_exact (waitList : List WaitListNode) (L : LinkObj)
    (hd : ∀ node ∈ waitList, node.Distinct) (w : W) :
    ((∀ node ∈ waitList, ¬ Eligible L.lName node) →
      attempts (newLink S waitList L w).acts = [] ∧
      ∃ waitList', (newLink S waitList L w).val = .ok waitList' ∧
        List.Forall₂ (Cleared .notExists L.lName) waitList waitList') ∧
    ∀ before node after, waitList = before ++ node :: after →
      (∀ a ∈ before, ¬ Eligible L.lName a) → Eligible L.lName node →
      attempts (newLink S waitList L w).acts = [node] ∧
      match (createCode S node w).val with
      | .error fault => (newLink S waitList L w).val = .error fault
      | .ok ret => ∃ waitList', (newLink S waitList L w).val = .ok waitList' ∧
          List.Forall₂ (Cleared .notExists L.lName)
            (if ret < 0 then waitList else before ++ after) waitList' := by
  constructor
  · intro hnone
    rw [newLink_idle S hd hnone]
    exact ⟨rfl, _, rfl, forall₂_map fun a ha => linkPresent_cleared (hd a ha)⟩
  · rintro before node after rfl hbefore hnode
    rw [newLink_first S hd hbefore hnode]
    have hattempts := (createHif_attempts S node).map
      (fun r => (before ++ r ++ after).map (linkPresent L.lName)) w
    refine ⟨hattempts, ?_⟩
    rw [map_val, createHif_val]
    cases (createCode S node w).val with
    | error fault => rfl
    | ok ret =>
      refine ⟨_, rfl, ?_⟩
      by_cases hret : ret < 0
      · simp only [if_pos hret, List.append_assoc, List.singleton_append]
        exact forall₂_map fun a ha => linkPresent_cleared (hd a ha)
      · simp only [if_neg hret, List.append_nil]
        exact forall₂_map fun a ha => linkPresent_cleared (hd a (mem_of_mem_rest ha))

section
/-- `hsr0` waits for a second port too, `hsr1` for `eth0` only -/
def waitingForEth0 : List WaitListNode :=
  [waiting (cs "hsr0") (cs "eth2") (cs "eth0") (SLAVE1_NOT_EXISTS ||| SLAVE2_NOT_EXISTS),
    waiting (cs "hsr1") (cs "eth0") (cs "eth1") SLAVE1_NOT_EXISTS,
    waiting (cs "hsr2") (cs "eth0") (cs "eth3") SLAVE1_NOT_EXISTS]

/-- the second node is created; the flag of `eth0` is cleared in the others -/
theorem second_node_gets_the_new_link :
    attempts (newLink (staticSys [eth0, eth1]) waitingForEth0 eth0 ()).acts =
        [waiting (cs "hsr1") (cs "eth0") (cs "eth1") SLAVE1_NOT_EXISTS] ∧
      ∃ waitList', (newLink (staticSys [eth0, eth1]) waitingForEth0 eth0 ()).val = .ok waitList' ∧
        List.Forall₂ (Cleared .notExists (cs "eth0"))
          [waiting (cs "hsr0") (cs "eth2") (cs "eth0") (SLAVE1_NOT_EXISTS ||| SLAVE2_NOT_EXISTS),
            waiting (cs "hsr2") (cs "eth0") (cs "eth3") SLAVE1_NOT_EXISTS] waitList' :=
  (new_link_exact (staticSys [eth0, eth1]) waitingForEth0 eth0 (by decide) ()).2
    [waiting (cs "hsr0") (cs "eth2") (cs "eth0") (SLAVE1_NOT_EXISTS ||| SLAVE2_NOT_EXISTS)]
    (waiting (cs "hsr1") (cs "eth0") (cs "eth1") SLAVE1_NOT_EXISTS)
    [waiting (cs "hsr2") (cs "eth0") (cs "eth3") SLAVE1_NOT_EXISTS] rfl (by decide) (by decide)

end

/-! ## a master releases a link -/

/-- an HSR device was created for a node that names the link -/
def CreatedOn (linkName : CStr) (acts : List Act) : Prop :=
  ∃ node, .createHif node ∈ acts ∧ (∃ slot, node.slaveName slot = linkName) ∧
    Succeeds node.hsrName acts

/-- `link_changed_released` does for a released link what is expected of it -/
structure ReleaseHandled (waitList : List WaitListNode) (L : LinkObj) (w : W) : Prop where
  /-- it tries the first eligible node, and no other -/
  tries : attempts (linkChangedReleased S waitList L w).acts =
    (waitList.find? fun node => Eligible L.lName node).toList
  /-- unless a device took the link, the nodes that name it are told that it is free -/
  frees : ∀ waitList', (linkChangedReleased S waitList L w).val = .ok waitList' →
    ¬ CreatedOn L.lName (linkChangedReleased S waitList L w).acts →
      List.Forall₂ (Cleared .busy L.lName) waitList waitList'
  /-- nothing else is written -/
  keeps : ∀ waitList', (linkChangedReleased S waitList L w).val = .ok waitList' →
    ∀ b ∈ waitList', ∃ a ∈ waitList, Kept .busy L.lName a b

/-- the kernel does not refuse the device of the node -/
def Accepts (node : WaitListNode) (w : W) : Prop :=
  ∀ ret, (createCode S node w).val = .ok ret → 0 ≤ ret

/-- no node that names the link has it down as busy -/
def NoneBusy (linkName : CStr) (waitList : List WaitListNode) : Prop :=
  ∀ a ∈ waitList, ∀ slot, a.slaveName slot = linkName → told (.busy slot) a = false

/-- The first node whose other slave is not busy, where the loop stops, is eligible, or it waits
for its own device to go while no node is eligible.  Since the loop has stopped, no flag is
cleared: either the device is created, or there is nothing to clear. -/
def StopsRightly (waitList : List WaitListNode) (L : LinkObj) (w : W) : Prop :=
  ∀ node, (waitList.find? fun node => ∃ slot, FreeBeside L.lName node slot) = some node →
    (Eligible L.lName node ∧ (Accepts S node w ∨ NoneBusy L.lName waitList)) ∨
      (isClear node HSR_STILL_EXISTS = false ∧ (∀ a ∈ waitList, ¬ Eligible L.lName a) ∧
        NoneBusy L.lName waitList)

section
variable {S} {waitList : List WaitListNode} {L : LinkObj} {w : W}

lemma cleared_refl_iff :
    List.Forall₂ (Cleared .busy L.lName) waitList waitList ↔ NoneBusy L.lName waitList := by
  rw [List.forall₂_same]
  constructor
  · intro h a ha slot hname
    exact (h a ha).cleared slot hname
  · intro h a ha
    exact ⟨Kept.refl _ _ a, h a ha⟩

/-- an attempt created a device for a node that names the link iff its code says so -/
lemma createdOn_iff {node : WaitListNode} {slot : Slot} (hname : node.slaveName slot = L.lName)
    {ret : Int} (hret : (createCode S node w).val = .ok ret) :
    CreatedOn L.lName (createHif S node w).acts ↔ 0 ≤ ret := by
  rw [createCode_succeeds_iff S node w ret hret, createHif_acts]
  have hcons : ∀ name, Succeeds name (.createHif node :: (createCode S node w).acts) ↔
      Succeeds name (createCode S node w).acts := by
    intro name
    refine exists_congr fun link => exists_congr fun r => and_congr_left fun _ => ?_
    rw [List.mem_cons]
    exact or_iff_right nofun
  constructor
  · rintro ⟨node', hmem, -, hsucceeds⟩
    rcases List.mem_cons.mp hmem with heq | hmem
    · obtain rfl := Act.createHif.inj heq
      exact (hcons _).mp hsucceeds
    · have hquiet := createHifFromWaitlist_quiet S w _ hmem
      cases hquiet
  · intro hsucceeds
    exact ⟨node, List.mem_cons_self, ⟨slot, hname⟩, (hcons _).mpr hsucceeds⟩

lemma find?_eligible_none : (waitList.find? fun node => Eligible L.lName node) = none ↔
    ∀ a ∈ waitList, ¬ Eligible L.lName a := by
  simp only [List.find?_eq_none, decide_eq_true_iff]

/-- the loop stops at a node whose own device still exists: nothing is done -/
lemma released_waits (hrun : linkChangedReleased S waitList L = pure waitList) :
    ReleaseHandled S waitList L w ↔
      (∀ a ∈ waitList, ¬ Eligible L.lName a) ∧ NoneBusy L.lName waitList := by
  constructor
  · intro h
    have hfind := h.tries
    have hfrees := h.frees waitList
    rw [hrun] at hfind hfrees
    refine ⟨find?_eligible_none.mp (Option.toList_eq_nil_iff.mp hfind.symm), ?_⟩
    refine cleared_refl_iff.mp (hfrees rfl ?_)
    rintro ⟨node, hmem, -⟩
    cases hmem
  · rintro ⟨hnone, hbusy⟩
    refine ⟨?_, fun waitList' hval _ => ?_, fun waitList' hval b hb => ?_⟩
    · rw [hrun, find?_eligible_none.mpr hnone]
      rfl
    · rw [hrun] at hval
      obtain rfl := Except.ok.inj hval
      exact cleared_refl_iff.mpr hbusy
    · rw [hrun] at hval
      obtain rfl := Except.ok.inj hval
      exact ⟨b, hb, Kept.refl _ _ b⟩

lemma released_tries {before after : List WaitListNode} {node : WaitListNode} {slot : Slot}
    (hlist : waitList = before ++ node :: after) (hname : node.slaveName slot = L.lName)
    (hrun : linkChangedReleased S waitList L =
      (fun r => before ++ r ++ after) <$> createHif S node) :
    ReleaseHandled S waitList L w ↔
      (waitList.find? fun node => Eligible L.lName node) = some node ∧
        (Accepts S node w ∨ NoneBusy L.lName waitList) := by
  have hattempts : attempts (linkChangedReleased S waitList L w).acts = [node] := by
    rw [hrun, map_acts]
    exact createHif_attempts S node w
  have hval : ∀ waitList', (linkChangedReleased S waitList L w).val = .ok waitList' ↔
      ∃ ret, (createCode S node w).val = .ok ret ∧
        (if ret < 0 then waitList else before ++ after) = waitList' := by
    intro waitList'
    rw [hrun, map_val, createHif_val]
    cases (createCode S node w).val with
    | error fault => simp [Except.map]
    | ok ret => by_cases hret : ret < 0 <;> simp [Except.map, hret, hlist]
  have hcreated : ∀ ret, (createCode S node w).val = .ok ret →
      (CreatedOn L.lName (linkChangedReleased S waitList L w).acts ↔ 0 ≤ ret) := by
    intro ret hret
    rw [hrun, map_acts]
    exact createdOn_iff hname hret
  have hfrees : (∀ waitList', (linkChangedReleased S waitList L w).val = .ok waitList' →
      ¬ CreatedOn L.lName (linkChangedReleased S waitList L w).acts →
        List.Forall₂ (Cleared .busy L.lName) waitList waitList') ↔
      (Accepts S node w ∨ NoneBusy L.lName waitList) := by
    constructor
    · intro h
      rw [or_iff_not_imp_right]
      intro hbusy ret hret
      by_contra hneg
      have hkeeps := h waitList ((hval waitList).mpr ⟨ret, hret, if_pos (by omega)⟩)
        (mt (hcreated ret hret).mp hneg)
      exact hbusy (cleared_refl_iff.mp hkeeps)
    · rintro h waitList' hok hnot
      obtain ⟨ret, hret, rfl⟩ := (hval waitList').mp hok
      rw [hcreated ret hret] at hnot
      rw [if_pos (by omega)]
      rcases h with h | h
      · exact absurd (h ret hret) hnot
      · exact cleared_refl_iff.mpr h
  constructor
  · intro h
    have hfind := h.tries
    rw [hattempts] at hfind
    exact ⟨Option.toList_eq_singleton_iff.mp hfind.symm, hfrees.mp h.frees⟩
  · rintro ⟨hfind, h⟩
    refine ⟨?_, hfrees.mpr h, fun waitList' hok b hb => ?_⟩
    · rw [hattempts, hfind]
      rfl
    · obtain ⟨ret, hret, rfl⟩ := (hval waitList').mp hok
      refine ⟨b, ?_, Kept.refl _ _ b⟩
      split at hb
      · exact hb
      · rw [hlist]
        exact mem_of_mem_rest hb

variable (hd : ∀ node ∈ waitList, node.Distinct)
include hd

lemma find?_releasedReady : waitList.find? (releasedReady L.lName) =
    waitList.find? fun node => ∃ slot, FreeBeside L.lName node slot := by
  refine List.find?_congr fun a ha => ?_
  rw [Bool.eq_iff_iff, releasedReady_iff (hd a ha), decide_eq_true_iff]

lemma released_unstopped
    (hnone : (waitList.find? fun node => ∃ slot, FreeBeside L.lName node slot) = none) :
    ReleaseHandled S waitList L w := by
  rw [← find?_releasedReady hd] at hnone
  have hrun : linkChangedReleased S waitList L = pure (waitList.map (linkFree L.lName)) := by
    have hcut : cut id (releasedReady L.lName) waitList = none := by
      rw [find?_eq_cut, Option.map_eq_none_iff] at hnone
      exact hnone
    rw [linkChangedReleased_eq, hcut]
  have hfree : ∀ a ∈ waitList, Cleared .busy L.lName a (linkFree L.lName a) :=
    fun a ha => linkFree_cleared (hd a ha)
  refine ⟨?_, fun waitList' hval _ => ?_, fun waitList' hval b hb => ?_⟩
  · have hineligible : ∀ a ∈ waitList, ¬ Eligible L.lName a := by
      intro a ha heligible
      exact List.find?_eq_none.mp hnone a ha (heligible.ready (hd a ha))
    rw [hrun, find?_eligible_none.mpr hineligible]
    rfl
  · rw [hrun] at hval
    obtain rfl := Except.ok.inj hval
    exact forall₂_map hfree
  · rw [hrun] at hval
    obtain rfl := Except.ok.inj hval
    obtain ⟨a, ha, rfl⟩ := List.mem_map.mp hb
    exact ⟨a, ha, (hfree a ha).toKept⟩

end

/-- **Release of a port.**  `link_changed_released` does what is expected of it exactly when its
loop stops rightly. -/
theorem released_handled_iff (waitList : List WaitListNode) (L : LinkObj)
    (hd : ∀ node ∈ waitList, node.Distinct) (w : W) :
    ReleaseHandled S waitList L w ↔ StopsRightly S waitList L w := by
  have hfind := find?_releasedReady (L := L) hd
  unfold StopsRightly
  rw [← hfind, find?_eq_cut]
  cases hcut : cut id (releasedReady L.lName) waitList with
  | none =>
    rw [find?_eq_cut, hcut] at hfind
    exact iff_of_true (released_unstopped hd hfind.symm) nofun
  | some c =>
    obtain ⟨hlist, hhit, hmiss⟩ := cut_id_eq_some hcut
    have hmem : c.node ∈ waitList := by
      rw [hlist]
      simp
    obtain ⟨slot, hname, -⟩ := (releasedReady_iff (hd _ hmem)).mp hhit
    have hrun : linkChangedReleased S waitList L =
        (fun r => c.before ++ r ++ c.after) <$> createUnlessStillExists S c.node := by
      rw [linkChangedReleased_eq, hcut]
    -- before this node no node is eligible
    have hnone : (c.before.find? fun node => Eligible L.lName node) = none := by
      rw [find?_eligible_none]
      intro a ha heligible
      have hready := heligible.ready (hd a (by simp [hlist, ha]))
      rw [hmiss a ha] at hready
      cases hready
    have hfirst : (waitList.find? fun node => Eligible L.lName node) = some c.node ↔
        Eligible L.lName c.node := by
      constructor
      · intro h
        simpa using List.find?_some h
      · intro heligible
        rw [hlist, List.find?_append, hnone, Option.none_or, List.find?_cons,
          decide_eq_true heligible]
    rw [Option.map_some]
    show _ ↔ ∀ node, some c.node = some node → _
    simp only [Option.some.injEq, forall_eq']
    cases hstill : isClear c.node HSR_STILL_EXISTS with
    | true =>
      have htry : createUnlessStillExists S c.node = createHif S c.node := if_pos hstill
      rw [htry] at hrun
      rw [released_tries hlist hname hrun, hfirst]
      simp
    | false =>
      have hwait : createUnlessStillExists S c.node = pure [c.node] :=
        if_neg (by rw [hstill]; exact Bool.false_ne_true)
      have hkeep : linkChangedReleased S waitList L = pure waitList := by
        rw [hrun, hwait, map_pure, List.append_assoc, List.singleton_append, ← hlist]
      have hnot : ¬ Eligible L.lName c.node := by
        intro heligible
        rw [heligible.gone] at hstill
        cases hstill
      rw [released_waits hkeep]
      simp [hnot]

/-- `hsr0` waits for both ports of a bridge; `br0` releases `eth0` after `eth1` -/
theorem port_released_to_hsr0 :
    ReleaseHandled (staticSys [eth0, eth1])
      [waiting (cs "hsr0") (cs "eth0") (cs "eth1") SLAVE1_BUSY] eth0 () := by
  have hiff := released_handled_iff (staticSys [eth0, eth1])
    [waiting (cs "hsr0") (cs "eth0") (cs "eth1") SLAVE1_BUSY] eth0 (by decide) ()
  refine hiff.mpr fun node hnode => .inl ?_
  obtain rfl : waiting (cs "hsr0") (cs "eth0") (cs "eth1") SLAVE1_BUSY = node :=
    Option.some.inj hnode
  refine ⟨by decide, .inl fun ret hret => ?_⟩
  exact le_of_eq (Except.ok.inj hret)

/-- `hsr0` still exists and `hsr1` is ready: the loop stops at `hsr0`, and nothing is tried -/
theorem waiting_device_hides_the_ready_one :
    ¬ ∀ (W : Type) (S : Sys W) (waitList : List WaitListNode) (L : LinkObj) (w : W),
      (∀ node ∈ waitList, node.Distinct) → ReleaseHandled S waitList L w := by
  intro h
  have hhandled := h Unit (staticSys [eth0, eth1])
    [waiting (cs "hsr0") (cs "eth0") (cs "eth2") (SLAVE1_BUSY ||| HSR_STILL_EXISTS),
      waiting (cs "hsr1") (cs "eth0") (cs "eth1") SLAVE1_BUSY] eth0 () (by decide)
  exact absurd hhandled.tries (by decide)

end Hsr
