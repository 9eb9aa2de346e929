import ConfdbHsr.Daemon.Attempts
import ConfdbHsr.Daemon.Scenario

/-!
# When a waiting node is tried, is it ready?

A notification handler should call `create_hif` only on a node none of whose status bits is set,
save those of the slot that holds the link which has just appeared or been released.

* `CreatesSafely`, `GuardsSuffice`   the property of one handled input, and the condition on the
                  state before it under which the hand-written guards give it;
* `creates_safely_iff`   along every run from the empty list the two agree;
* `released_while_other_missing`   a run on which the guard of `link_changed_released` fails.

The guard of `new_link` is complete.  `link_changed_released` does not test whether the other slave
exists, and the second loop of `hsr_link_deleted` does not test `HSR_STILL_EXISTS`.
-/

namespace Hsr
open Nl Proc Scan Machine

/-! ## the property -/

/-- the five bits that a node must not have when it is tried -/
def guardBits : BitVec 8 :=
  SLAVE1_BUSY ||| SLAVE2_BUSY ||| SLAVE1_NOT_EXISTS ||| SLAVE2_NOT_EXISTS ||| HSR_STILL_EXISTS

def slotBits (linkName : CStr) (node : WaitListNode) : BitVec 8 :=
  (if node.slave1Name = linkName then SLAVE1_BUSY ||| SLAVE1_NOT_EXISTS else 0) |||
    (if node.slave2Name = linkName then SLAVE2_BUSY ||| SLAVE2_NOT_EXISTS else 0)

/-- the bits of the slots that hold a link which has just appeared or been released -/
def excusedBits (note : Note LinkObj) (node : WaitListNode) : BitVec 8 :=
  match note with
  | .new L => slotBits L.lName node
  | .change _ L _ => slotBits L.lName node
  | .del _ => 0

def CreateSafe (note : Note LinkObj) (node : WaitListNode) : Prop :=
  node.status &&& guardBits &&& ~~~excusedBits note node = 0

variable {W : Type}

/-- every node that a notification handler tried was safe to try -/
def TriesSafely (acts : List Act) : Input → Prop
  | .config _ _ => True
  | .link _ note => ∀ node ∈ attempts acts, CreateSafe note node

def CreatesSafely (h : Handled Fault W Act HsrModule Input) : Prop :=
  TriesSafely h.out.acts h.input

instance (note : Note LinkObj) (node : WaitListNode) : Decidable (CreateSafe note node) :=
  inferInstanceAs (Decidable (_ = _))

instance (acts : List Act) : DecidablePred (TriesSafely acts)
  | .config _ _ => inferInstanceAs (Decidable True)
  | .link _ note => inferInstanceAs (Decidable (∀ node ∈ attempts acts, CreateSafe note node))

instance : DecidablePred (CreatesSafely (W := W)) := fun h =>
  inferInstanceAs (Decidable (TriesSafely h.out.acts h.input))

/-! ## the condition -/

/-- the other slave of a node that names the link exists, as far as its flags say -/
def otherExists (linkName : CStr) (node : WaitListNode) : Bool :=
  onSlot linkName (isClear node SLAVE2_NOT_EXISTS || node.slave2Name == linkName)
    (isClear node SLAVE1_NOT_EXISTS) true node

/-- the guards that are missing would not have stopped this reaction -/
def GuardsSuffice (waitList : List WaitListNode) : Reaction → Prop
  -- the first node whose other slave is free: its device still exists, or its other slave exists
  | .released L => ∀ node, waitList.find? (releasedReady L.lName) = some node →
      isClear node HSR_STILL_EXISTS = true → otherExists L.lName node = true
  -- a node of the deleted device is ready, or the first ready node has no device
  | .hsrLinkDeleted L =>
      let waitList := waitList.map (clearStillExists L.lName)
      (waitList.find? (ownReady L.lName)).isSome = true ∨
        ∀ node, waitList.find? slavesReady = some node → isClear node HSR_STILL_EXISTS = true
  | _ => True

def GuardsHold (h : Handled Fault W Act HsrModule Input) : Prop :=
  match h.input with
  | .config _ _ => True
  | .link cache note => GuardsSuffice h.pre.waitList (reaction cache note)

/-! ## bits -/

private lemma slot1_bits : ∀ s : BitVec 8,
    s &&& guardBits &&& ~~~(SLAVE1_BUSY ||| SLAVE1_NOT_EXISTS ||| 0) = 0 ↔
      s &&& SLAVE2_BUSY = 0 ∧ s &&& SLAVE2_NOT_EXISTS = 0 ∧ s &&& HSR_STILL_EXISTS = 0 := by
  decide

private lemma slot2_bits : ∀ s : BitVec 8,
    s &&& guardBits &&& ~~~(0 ||| (SLAVE2_BUSY ||| SLAVE2_NOT_EXISTS)) = 0 ↔
      s &&& SLAVE1_BUSY = 0 ∧ s &&& SLAVE1_NOT_EXISTS = 0 ∧ s &&& HSR_STILL_EXISTS = 0 := by
  decide

private lemma both_bits : ∀ s : BitVec 8,
    s &&& guardBits &&& ~~~(SLAVE1_BUSY ||| SLAVE1_NOT_EXISTS |||
      (SLAVE2_BUSY ||| SLAVE2_NOT_EXISTS)) = 0 ↔ s &&& HSR_STILL_EXISTS = 0 := by
  decide

private lemma no_bits : ∀ s : BitVec 8, s &&& guardBits &&& ~~~0 = 0 ↔
    s &&& SLAVE1_BUSY = 0 ∧ s &&& SLAVE2_BUSY = 0 ∧ s &&& SLAVE2_NOT_EXISTS = 0 ∧
      s &&& SLAVE1_NOT_EXISTS = 0 ∧ s &&& HSR_STILL_EXISTS = 0 := by
  decide

lemma isClear_iff {node : WaitListNode} {flags : BitVec 8} :
    isClear node flags = true ↔ node.status &&& flags = 0 := by
  simp [isClear]

/-- a node that names the link may be tried iff its device is gone, and its other slave is free
and exists -/
lemma createSafe_slot {linkName : CStr} {node : WaitListNode}
    (hn : releasedReady linkName node = true) :
    node.status &&& guardBits &&& ~~~slotBits linkName node = 0 ↔
      isClear node HSR_STILL_EXISTS = true ∧ otherExists linkName node = true := by
  unfold releasedReady onSlot at hn
  unfold otherExists onSlot slotBits
  by_cases h1 : node.slave1Name = linkName
  · simp only [h1, beq_self_eq_true, if_true] at hn ⊢
    by_cases h2 : node.slave2Name = linkName
    · simp only [h2, if_true, beq_self_eq_true, Bool.or_true, and_true]
      rw [both_bits, isClear_iff]
    · have h2' : (node.slave2Name == linkName) = false := by simpa using h2
      simp only [h2, if_false, h2', Bool.or_false]
      rw [slot1_bits, isClear_iff, isClear_iff]
      rw [isClear_iff] at hn
      exact ⟨fun h => ⟨h.2.2, h.2.1⟩, fun h => ⟨hn, h.2, h.1⟩⟩
  · have h1' : (node.slave1Name == linkName) = false := by simpa using h1
    by_cases h2 : node.slave2Name = linkName
    · simp only [h2, beq_self_eq_true, h1', if_true, Bool.false_eq_true, if_false] at hn
      simp only [h1, h2, if_false, if_true, beq_self_eq_true, h1', Bool.false_eq_true]
      rw [slot2_bits, isClear_iff, isClear_iff]
      rw [isClear_iff] at hn
      exact ⟨fun h => ⟨h.2.2, h.2.1⟩, fun h => ⟨hn, h.2, h.1⟩⟩
    · have h2' : (node.slave2Name == linkName) = false := by simpa using h2
      simp [h1', h2'] at hn

lemma newLinkReady_iff {linkName : CStr} {node : WaitListNode}
    (h : newLinkReady linkName node = true) :
    releasedReady linkName node = true ∧ isClear node HSR_STILL_EXISTS = true ∧
      otherExists linkName node = true := by
  unfold newLinkReady onSlot at h
  unfold releasedReady otherExists onSlot
  split at h
  · rename_i h1
    simp only [Bool.and_eq_true] at h
    simp [h1, h]
  · rename_i h1
    split at h
    · rename_i h2
      simp only [Bool.and_eq_true] at h
      simp [h1, h2, h]
    · cases h

lemma createSafe_own {node : WaitListNode} (h : slavesReady node = true) (L : LinkObj) :
    CreateSafe (.del L) node ↔ isClear node HSR_STILL_EXISTS = true := by
  unfold slavesReady at h
  simp only [Bool.and_eq_true, isClear_iff] at h
  obtain ⟨⟨⟨h1, h2⟩, h3⟩, h4⟩ := h
  rw [CreateSafe, excusedBits, no_bits, isClear_iff]
  exact ⟨fun h => h.2.2.2.2, fun h => ⟨h1, h2, h3, h4, h⟩⟩

lemma clearStillExists_own (linkName : CStr) (node : WaitListNode)
    (h : (clearStillExists linkName node).hsrName == linkName) :
    isClear (clearStillExists linkName node) HSR_STILL_EXISTS = true := by
  have hbits : ∀ s : BitVec 8, s &&& ~~~HSR_STILL_EXISTS &&& HSR_STILL_EXISTS = 0 := by decide
  unfold clearStillExists at h ⊢
  split
  · exact isClear_iff.mpr (hbits node.status)
  · rename_i hn
    rw [if_neg hn] at h
    exact absurd h hn

/-! ## each reaction -/

/-- `new_link` tests every bit of the other slot -/
theorem newLink_safe {waitList : List WaitListNode} {L : LinkObj} {node : WaitListNode}
    (h : waitList.find? (newLinkReady L.lName) = some node) : CreateSafe (.new L) node := by
  obtain ⟨h1, h2, h3⟩ := newLinkReady_iff (List.find?_some h)
  exact (createSafe_slot h1).mpr ⟨h2, h3⟩

theorem released_safe_iff (waitList : List WaitListNode) (o L : LinkObj) (d : Mask) :
    (∀ node ∈ (releasedTarget L.lName waitList).toList, CreateSafe (.change o L d) node) ↔
      GuardsSuffice waitList (.released L) := by
  show (∀ node ∈ ((waitList.find? (releasedReady L.lName)).filter
      fun node => isClear node HSR_STILL_EXISTS).toList, CreateSafe (.change o L d) node) ↔
    ∀ node, waitList.find? (releasedReady L.lName) = some node →
      isClear node HSR_STILL_EXISTS = true → otherExists L.lName node = true
  cases hf : waitList.find? (releasedReady L.lName) with
  | none => simp
  | some node =>
    have hready := List.find?_some hf
    cases hs : isClear node HSR_STILL_EXISTS with
    | false =>
      simp only [Option.filter_some, hs]
      constructor
      · intro _ node' hnode' h'
        obtain rfl := Option.some.inj hnode'
        rw [hs] at h'
        cases h'
      · intro _ node' hnode'
        cases hnode'
    | true =>
      have hsafe : CreateSafe (.change o L d) node ↔ otherExists L.lName node = true := by
        refine (createSafe_slot hready).trans ?_
        simp [hs]
      simp only [Option.filter_some, hs]
      constructor
      · intro h node' hnode' _
        obtain rfl := Option.some.inj hnode'
        exact hsafe.mp (h node (by simp))
      · intro h node' hnode'
        obtain rfl : node' = node := by simpa using hnode'
        exact hsafe.mpr (h node' rfl hs)

theorem hsrLinkDeleted_safe_iff (waitList : List WaitListNode) (L : LinkObj) :
    (∀ node ∈ (hsrDeletedTarget L.lName waitList).toList, CreateSafe (.del L) node) ↔
      GuardsSuffice waitList (.hsrLinkDeleted L) := by
  let passed := waitList.map (clearStillExists L.lName)
  show (∀ node ∈ ((passed.find? (ownReady L.lName)).or (passed.find? slavesReady)).toList,
      CreateSafe (.del L) node) ↔
    (passed.find? (ownReady L.lName)).isSome = true ∨
      ∀ node, passed.find? slavesReady = some node → isClear node HSR_STILL_EXISTS = true
  cases hown : passed.find? (ownReady L.lName) with
  | some node =>
    -- the first loop cleared the flag of a node of its own name
    refine iff_of_true (fun node' hnode' => ?_) (.inl rfl)
    obtain rfl : node' = node := by simpa using hnode'
    have hready := List.find?_some hown
    simp only [ownReady, Bool.and_eq_true] at hready
    obtain ⟨pre, -, rfl⟩ := List.mem_map.mp (List.mem_of_find?_eq_some hown)
    exact (createSafe_own hready.2 L).mpr (clearStillExists_own _ _ hready.1)
  | none =>
    cases hf : passed.find? slavesReady with
    | none => simp
    | some node =>
      have hsafe := createSafe_own (List.find?_some hf) L
      simp [hsafe]

theorem reaction_safe_iff (waitList : List WaitListNode) (cache : List LinkObj)
    (note : Note LinkObj) :
    (∀ node ∈ (target waitList (reaction cache note)).toList, CreateSafe note node) ↔
      GuardsSuffice waitList (reaction cache note) := by
  cases note with
  | new n =>
    show (∀ node ∈ (target waitList (newReaction cache n)).toList, _) ↔
      GuardsSuffice waitList (newReaction cache n)
    rcases newReaction_cases cache n with h | h | ⟨slave, -, -, h⟩ | ⟨fault, -, h⟩ <;> rw [h]
    · exact iff_of_true (fun node hnode => by cases hnode) trivial
    · refine iff_of_true (fun node hnode => ?_) trivial
      exact newLink_safe (Option.mem_toList.mp hnode)
    · exact iff_of_true (fun node hnode => by cases hnode) trivial
    · exact iff_of_true (fun node hnode => by cases hnode) trivial
  | del o =>
    show (∀ node ∈ (target waitList (delReaction o)).toList, _) ↔
      GuardsSuffice waitList (delReaction o)
    rcases delReaction_cases o with h | h | h | h <;> rw [h]
    · exact iff_of_true (fun node hnode => by cases hnode) trivial
    · exact iff_of_true (fun node hnode => by cases hnode) trivial
    · exact hsrLinkDeleted_safe_iff waitList o
    · exact iff_of_true (fun node hnode => by cases hnode) trivial
  | change o n d =>
    show (∀ node ∈ (target waitList (changeReaction cache o n)).toList, _) ↔
      GuardsSuffice waitList (changeReaction cache o n)
    rcases changeReaction_cases cache o n with h | h | ⟨M, -, h | h | h⟩ <;> rw [h]
    · exact iff_of_true (fun node hnode => by cases hnode) trivial
    · exact iff_of_true (fun node hnode => by cases hnode) trivial
    · exact released_safe_iff waitList o n d
    · exact iff_of_true (fun node hnode => by cases hnode) trivial
    · exact iff_of_true (fun node hnode => by cases hnode) trivial

/-! ## runs -/

theorem handled_safe_iff (S : Sys W) {h : Handled Fault W Act HsrModule Input}
    (hout : h.out = step S h.pre h.input h.world) : CreatesSafely h ↔ GuardsHold h := by
  unfold CreatesSafely GuardsHold
  cases hi : h.input with
  | config key cdbData => exact Iff.rfl
  | link cache note =>
    have hattempts := step_attempts S h.pre h.input h.world
    rw [← hout, hi] at hattempts
    show (∀ node ∈ attempts h.out.acts, CreateSafe note node) ↔ _
    rw [hattempts]
    exact reaction_safe_iff h.pre.waitList cache note

/-- **Creation safety.**  Along every run from the empty wait list, every node that a notification
tries is ready, exactly when at every step the guards that were written suffice. -/
theorem creates_safely_iff (S : Sys W) (w : W) (inputs : List Input) :
    Along (step S) HsrModule.init w inputs CreatesSafely ↔
      Along (step S) HsrModule.init w inputs GuardsHold := by
  have hout := along_out (step S) HsrModule.init w inputs
  constructor
  · intro h r hr
    exact (handled_safe_iff S (hout r hr)).mp (h r hr)
  · intro h r hr
    exact (handled_safe_iff S (hout r hr)).mpr (h r hr)

/-! ## a run on which a guard fails

`eth1` does not exist when `hsr0` is configured over `eth0` and `eth1`; when the bridge `br0`
releases `eth0`, the waiting node is tried although its second slave is recorded as missing. -/

def bridgedPort : LinkObj := etherLink 2 (cs "eth0") none 5 0
def freePort : LinkObj := etherLink 2 (cs "eth0") none 0 0
def bridge : LinkObj := etherLink 5 (cs "br0") (some (cs "bridge")) 0 0

def missingSlaveRun : List Input :=
  [.config (some (cs "hsr0")) (slavesData (cs "eth0") (cs "eth1")),
    .link [bridge, freePort] (.change bridgedPort freePort LINK_ATTR_MASTER)]

theorem released_while_other_missing :
    ¬ ∀ (W : Type) (S : Sys W) (w : W) (inputs : List Input),
      Along (step S) HsrModule.init w inputs CreatesSafely := by
  intro h
  have hrun := h Unit (staticSys [bridgedPort, bridge]) () missingSlaveRun
  exact absurd hrun (by decide)

end Hsr
