import ConfdbHsr.Daemon.Edits
import ConfdbHsr.Libnl.LinkTable

/-!
# The status flags of a waiting node

Four of the status bits of a node are about its slaves: for each slot, whether the slave is busy
and whether it is missing.

* `told`              a flag of a node;
* `Flag.truth`        what a table of links says about it;
* `Reaction.writes`   what a reaction writes into a flag of a node that stays on the list;
* `react_told`        a reaction writes just that, and leaves the other flags alone.
-/

namespace Hsr
open Nl Proc Scan

inductive Slot where
  | slave1 | slave2
  deriving DecidableEq, Repr

instance {p : Slot → Prop} [DecidablePred p] : Decidable (∀ slot, p slot) :=
  decidable_of_iff (p .slave1 ∧ p .slave2) ⟨fun h slot => by cases slot <;> simp [h], fun h => ⟨h _, h _⟩⟩

inductive Flag where
  | busy (slot : Slot)
  | notExists (slot : Slot)
  deriving DecidableEq, Repr

def Flag.mask : Flag → BitVec 8
  | .busy .slave1 => SLAVE1_BUSY
  | .busy .slave2 => SLAVE2_BUSY
  | .notExists .slave1 => SLAVE1_NOT_EXISTS
  | .notExists .slave2 => SLAVE2_NOT_EXISTS

def Flag.bit : Flag → Nat
  | .busy .slave1 => 0
  | .busy .slave2 => 1
  | .notExists .slave1 => 2
  | .notExists .slave2 => 3

/-- whether the flag is set in the node -/
def told (flag : Flag) (node : WaitListNode) : Bool := !isClear node flag.mask

/-! ## bits -/

section
variable (flag : Flag) (node : WaitListNode) (flags : BitVec 8)

lemma told_eq : told flag node = node.status.getLsbD flag.bit := by
  have hmask : flag.mask = 1#8 <<< flag.bit := by
    rcases flag with slot | slot <;> cases slot <;> rfl
  have hbit : flag.bit < 8 := by
    rcases flag with slot | slot <;> cases slot <;> decide
  have hne := and_bit_ne_zero hbit node.status
  rw [← hmask] at hne
  rw [Bool.eq_iff_iff, ← hne, told, isClear]
  simp

lemma told_set : told flag (setStatusFlags node flags) =
    (told flag node || flags.getLsbD flag.bit) := by
  rw [told_eq, told_eq, setStatusFlags_status, BitVec.getLsbD_or]

lemma told_reset : told flag (resetStatusFlags node flags) =
    (told flag node && !flags.getLsbD flag.bit) := by
  have hbit : flag.bit < 8 := by
    rcases flag with slot | slot <;> cases slot <;> decide
  rw [told_eq, told_eq, resetStatusFlags_status, BitVec.getLsbD_and, BitVec.getLsbD_not]
  simp [hbit]

lemma told_newNode (ifName slave1Name slave2Name : CStr) :
    told flag (newNode ifName slave1Name slave2Name) = false := by
  rw [told_eq]
  exact BitVec.getLsbD_zero

lemma stillExists_bit : HSR_STILL_EXISTS.getLsbD flag.bit = false := by
  rcases flag with slot | slot <;> cases slot <;> decide

lemma told_set_stillExists : told flag (setStatusFlags node HSR_STILL_EXISTS) = told flag node := by
  rw [told_set, stillExists_bit, Bool.or_false]

lemma told_clearStillExists (linkName : CStr) :
    told flag (clearStillExists linkName node) = told flag node := by
  unfold clearStillExists
  split
  · rw [told_reset, stillExists_bit, Bool.not_false, Bool.and_true]
  · rfl

end

/-! ## what the links say -/

def WaitListNode.slaveName (node : WaitListNode) : Slot → CStr
  | .slave1 => node.slave1Name
  | .slave2 => node.slave2Name

/-- a link that is seen so is busy for the device: it has a master other than this one -/
def busyFor (hsrName : CStr) : Sight → Bool
  | .held master => master != some hsrName
  | _ => false

/-- what the links say about the slave of the slot: for `notExists`, that no link has its name;
for `busy`, that the link has a master other than the device of the node -/
def Flag.truth (links : List LinkObj) (node : WaitListNode) : Flag → Bool
  | .notExists slot => sight links (node.slaveName slot) == .missing
  | .busy slot => busyFor node.hsrName (sight links (node.slaveName slot))

lemma truth_notExists (links : List LinkObj) (node : WaitListNode) (slot : Slot) :
    (Flag.notExists slot).truth links node =
      (deviceNamed links (node.slaveName slot)).isNone := by
  show (sight links (node.slaveName slot) == .missing) = _
  unfold sight
  cases deviceNamed links (node.slaveName slot) with
  | none => rfl
  | some link =>
    show (sightOf links link == .missing) = false
    unfold sightOf
    split <;> rfl

lemma truth_busy (links : List LinkObj) (node : WaitListNode) (slot : Slot) :
    (Flag.busy slot).truth links node =
      (deviceNamed links (node.slaveName slot)).any
        fun link => busyFor node.hsrName (sightOf links link) := by
  show busyFor node.hsrName (sight links (node.slaveName slot)) = _
  unfold sight
  cases deviceNamed links (node.slaveName slot) <;> rfl

lemma SameNames.slaveName {a b : WaitListNode} (h : SameNames a b) (slot : Slot) :
    b.slaveName slot = a.slaveName slot := by
  cases slot with
  | slave1 => exact h.slave1Name
  | slave2 => exact h.slave2Name

lemma SameNames.truth {a b : WaitListNode} (h : SameNames a b) (links : List LinkObj)
    (flag : Flag) : flag.truth links b = flag.truth links a := by
  cases flag with
  | busy slot => rw [Flag.truth, Flag.truth, h.slaveName, h.hsrName]
  | notExists slot => rw [Flag.truth, Flag.truth, h.slaveName]

/-! ## what a reaction writes -/

/-- the slot that the handlers take the link for -/
def slotOf (linkName : CStr) (node : WaitListNode) : Option Slot :=
  onSlot linkName (some .slave1) (some .slave2) none node

/-- the value, if the link is taken for the slot -/
def writeIn (linkName : CStr) (node : WaitListNode) (slot : Slot) (value : Bool) : Option Bool :=
  if slotOf linkName node = some slot then some value else none

/-- what a reaction writes into a flag of a node that stays on the list -/
def Reaction.writes (waitList : List WaitListNode) (node : WaitListNode) :
    Reaction → Flag → Option Bool
  | .newLink L, .notExists slot => writeIn L.lName node slot false
  | .linkDeleted L, .notExists slot => writeIn L.lName node slot true
  | .linkDeleted L, .busy slot => writeIn L.lName node slot false
  | .gotBusy L, .busy slot => writeIn L.lName node slot true
  | .releasedHsrNot L _, .busy slot => writeIn L.lName node slot false
  -- nothing is written where the other slave of a node is free
  | .released L, .busy slot =>
    if waitList.any (releasedReady L.lName) then none else writeIn L.lName node slot false
  | _, _ => none

section
variable {linkName : CStr} {node : WaitListNode} {slot : Slot}

/-- the case distinction of the handlers, by the slot of the link -/
lemma onSlot_elim {α : Type} (linkName : CStr) (node : WaitListNode) (f : Slot → α) (z : α) :
    onSlot linkName (f .slave1) (f .slave2) z node = (slotOf linkName node).elim z f := by
  unfold slotOf onSlot
  split
  · rfl
  · split
    · rfl
    · rfl

lemma slaveName_slotOf (h : slotOf linkName node = some slot) : node.slaveName slot = linkName := by
  unfold slotOf onSlot at h
  split at h
  · rename_i h1
    obtain rfl := Option.some.inj h
    exact beq_iff_eq.mp h1
  · split at h
    · rename_i h2
      obtain rfl := Option.some.inj h
      exact beq_iff_eq.mp h2
    · cases h

lemma WaitListNode.Distinct.slotOf_eq (hd : node.Distinct) :
    slotOf linkName node = some slot ↔ node.slaveName slot = linkName := by
  constructor
  · exact slaveName_slotOf
  · intro h
    unfold slotOf onSlot
    cases slot with
    | slave1 =>
      have h1 : node.slave1Name = linkName := h
      simp [h1]
    | slave2 =>
      have h2 : node.slave2Name = linkName := h
      have h1 : node.slave1Name ≠ linkName := fun h1 => hd (h1.trans h2.symm)
      simp [h1, h2]

lemma writeIn_none {value : Bool} (h : node.slaveName slot ≠ linkName) :
    writeIn linkName node slot value = none :=
  if_neg fun hslot => h (slaveName_slotOf hslot)

lemma writeIn_some {value : Bool} (hd : node.Distinct) (h : node.slaveName slot = linkName) :
    writeIn linkName node slot value = some value :=
  if_pos (hd.slotOf_eq.mpr h)

end

section
variable (linkName : CStr) (node : WaitListNode) (slot : Slot)

/-- an edit of the slot that holds the link, seen in a flag of a slot -/
lemma told_onSlot (flag : Flag) (x y : WaitListNode) : told flag (onSlot linkName x y node node) =
    match slotOf linkName node with
    | some .slave1 => told flag x
    | some .slave2 => told flag y
    | none => told flag node := by
  unfold slotOf onSlot
  split
  · rfl
  · split <;> rfl

lemma told_linkPresent : told (.busy slot) (linkPresent linkName node) = told (.busy slot) node ∧
    told (.notExists slot) (linkPresent linkName node) =
      (writeIn linkName node slot false).getD (told (.notExists slot) node) := by
  unfold linkPresent writeIn
  rw [told_onSlot, told_onSlot]
  rcases slotOf linkName node with _ | _ | _ <;> cases slot <;>
    simp [told_reset, Flag.bit, SLAVE1_NOT_EXISTS, SLAVE2_NOT_EXISTS]

lemma told_linkGone : told (.busy slot) (linkGone linkName node) =
      (writeIn linkName node slot false).getD (told (.busy slot) node) ∧
    told (.notExists slot) (linkGone linkName node) =
      (writeIn linkName node slot true).getD (told (.notExists slot) node) := by
  unfold linkGone writeIn
  rw [told_onSlot, told_onSlot]
  rcases slotOf linkName node with _ | _ | _ <;> cases slot <;>
    simp [told_reset, told_set, Flag.bit, SLAVE1_NOT_EXISTS, SLAVE2_NOT_EXISTS, SLAVE1_BUSY,
      SLAVE2_BUSY]

lemma told_linkFree : told (.busy slot) (linkFree linkName node) =
      (writeIn linkName node slot false).getD (told (.busy slot) node) ∧
    told (.notExists slot) (linkFree linkName node) = told (.notExists slot) node := by
  unfold linkFree writeIn
  rw [told_onSlot, told_onSlot]
  rcases slotOf linkName node with _ | _ | _ <;> cases slot <;>
    simp [told_reset, Flag.bit, SLAVE1_BUSY, SLAVE2_BUSY]

lemma told_linkBusy : told (.busy slot) (linkBusy linkName node) =
      (writeIn linkName node slot true).getD (told (.busy slot) node) ∧
    told (.notExists slot) (linkBusy linkName node) = told (.notExists slot) node := by
  unfold linkBusy writeIn
  rw [told_onSlot, told_onSlot]
  rcases slotOf linkName node with _ | _ | _ <;> cases slot <;>
    simp [told_set, Flag.bit, SLAVE1_BUSY, SLAVE2_BUSY]

end

lemma SameNames.slotOf {a b : WaitListNode} (h : SameNames a b) (linkName : CStr) :
    slotOf linkName b = slotOf linkName a := by
  unfold Hsr.slotOf onSlot
  rw [h.slave1Name, h.slave2Name]

/-- the flags of the node are as before, but for what the reaction writes -/
structure Retold (waitList : List WaitListNode) (r : Reaction) (a b : WaitListNode) : Prop
    extends SameNames a b where
  flags : ∀ flag, told flag b = (r.writes waitList a flag).getD (told flag a)

lemma Retold.of_slots {waitList : List WaitListNode} {r : Reaction} {a b : WaitListNode}
    (hnames : SameNames a b)
    (hslots : ∀ slot,
      told (.busy slot) b = (r.writes waitList a (.busy slot)).getD (told (.busy slot) a) ∧
      told (.notExists slot) b =
        (r.writes waitList a (.notExists slot)).getD (told (.notExists slot) a)) :
    Retold waitList r a b := by
  refine ⟨hnames, fun flag => ?_⟩
  cases flag with
  | busy slot => exact (hslots slot).1
  | notExists slot => exact (hslots slot).2

/-- an edit of every node -/
def RetellsAll (waitList : List WaitListNode) (r : Reaction) (waitList' : List WaitListNode) :
    Prop :=
  ∀ b ∈ waitList', ∃ a ∈ waitList, Retold waitList r a b

lemma retells_map {waitList : List WaitListNode} {r : Reaction} {f : WaitListNode → WaitListNode}
    (hf : ∀ a, Retold waitList r a (f a)) {l : List WaitListNode} (hl : ∀ a ∈ l, a ∈ waitList) :
    RetellsAll waitList r (l.map f) := by
  intro b hb
  obtain ⟨a, ha, rfl⟩ := List.mem_map.mp hb
  exact ⟨a, hl a ha, hf a⟩

lemma mem_of_cut {edit : WaitListNode → WaitListNode} {hit : WaitListNode → Bool}
    {waitList x : List WaitListNode} {c : Cut WaitListNode} (hc : cut edit hit waitList = some c)
    (hx : x = [c.node] ∨ x = []) {b : WaitListNode} (hb : b ∈ c.before ++ x ++ c.after) :
    ∃ a ∈ waitList, b = edit a ∨ b = a := by
  obtain ⟨pre, a, rfl, hbefore, hnode, -, -⟩ := cut_eq_some hc
  rw [hbefore, List.append_assoc, List.mem_append, List.mem_append] at hb
  rcases hb with hb | hb | hb
  · obtain ⟨a', ha', rfl⟩ := List.mem_map.mp hb
    exact ⟨a', List.mem_append_left _ ha', .inl rfl⟩
  · rcases hx with rfl | rfl
    · obtain rfl := List.mem_singleton.mp hb
      exact ⟨a, by simp, .inl hnode⟩
    · cases hb
  · exact ⟨b, by simp [hb], .inr rfl⟩

lemma any_eq_cut (hit : WaitListNode → Bool) (waitList : List WaitListNode) :
    waitList.any hit = (cut id hit waitList).isSome := by
  rw [Bool.eq_iff_iff, List.any_eq_true, ← List.find?_isSome, find?_eq_cut, Option.isSome_map]

variable {W : Type} (S : Sys W)

lemma createHif_leaves (node : WaitListNode) :
    Yields (fun x => x = [node] ∨ x = []) (createHif S node) := by
  refine (createHif_edits S node).mono fun res acts h x hx => ?_
  exact (h x hx).imp id And.left

/-! ## one handler at a time -/

section
variable (waitList : List WaitListNode) (L : LinkObj)

lemma newLink_told : Yields (RetellsAll waitList (.newLink L)) (newLink S waitList L) := by
  have hpresent : ∀ a, Retold waitList (.newLink L) a (linkPresent L.lName a) := fun a =>
    Retold.of_slots (sameNames_linkPresent L.lName a) (told_linkPresent L.lName a)
  rw [newLink_eq]
  cases hc : cut id (newLinkReady L.lName) waitList with
  | none => exact yields_pure (retells_map hpresent fun _ ha => ha)
  | some c =>
    refine yields_map ((createHif_leaves S c.node).mono fun x hx => ?_)
    refine retells_map hpresent fun b hb => ?_
    obtain ⟨a, ha, hab⟩ := mem_of_cut hc hx hb
    rwa [show b = a from hab.elim id id]

lemma linkDeleted_told :
    Yields (RetellsAll waitList (.linkDeleted L)) (linkDeleted waitList L : Op W _) := by
  have hgone : ∀ a, Retold waitList (.linkDeleted L) a (linkGone L.lName a) := fun a =>
    Retold.of_slots (sameNames_linkGone L.lName a) (told_linkGone L.lName a)
  rw [linkDeleted_eq]
  exact yields_pure (retells_map hgone fun _ ha => ha)

lemma linkChangedGotBusy_told :
    Yields (RetellsAll waitList (.gotBusy L)) (linkChangedGotBusy waitList (some L) : Op W _) := by
  have hbusy : ∀ a, Retold waitList (.gotBusy L) a (linkBusy L.lName a) := fun a =>
    Retold.of_slots (sameNames_linkBusy L.lName a) (told_linkBusy L.lName a)
  rw [linkChangedGotBusy_eq]
  exact yields_pure (retells_map hbusy fun _ ha => ha)

lemma linkReleasedHsrNot_told (M : LinkObj) :
    Yields (RetellsAll waitList (.releasedHsrNot L M)) (linkReleasedHsrNot waitList L M : Op W _) := by
  rw [linkReleasedHsrNot_eq]
  refine yields_pure (retells_map (fun a => ?_) fun _ ha => ha)
  have hmark : ∃ node, (if a.hsrName == M.lName then setStatusFlags a HSR_STILL_EXISTS else a) =
      node ∧ SameNames a node ∧ ∀ flag, told flag node = told flag a := by
    split
    · exact ⟨_, rfl, sameNames_set a _, fun flag => told_set_stillExists flag a⟩
    · exact ⟨_, rfl, SameNames.refl a, fun _ => rfl⟩
  obtain ⟨node, hnode, hsame, hflags⟩ := hmark
  rw [hnode]
  refine Retold.of_slots (hsame.trans (sameNames_linkFree L.lName node)) fun slot => ?_
  obtain ⟨hbusy, hnotExists⟩ := told_linkFree L.lName node slot
  constructor
  · rw [hbusy, hflags, writeIn, hsame.slotOf]
    rfl
  · rw [hnotExists, hflags]
    rfl

/-- the scan stops at a node with a free slave, and has then written nothing -/
lemma linkChangedReleased_told :
    Yields (RetellsAll waitList (.released L)) (linkChangedReleased S waitList L) := by
  have hany := any_eq_cut (releasedReady L.lName) waitList
  rw [linkChangedReleased_eq]
  cases hc : cut id (releasedReady L.lName) waitList with
  | none =>
    rw [hc] at hany
    refine yields_pure (retells_map (fun a => ?_) fun _ ha => ha)
    refine Retold.of_slots (sameNames_linkFree L.lName a) fun slot => ?_
    rw [Reaction.writes, hany]
    exact told_linkFree L.lName a slot
  | some c =>
    rw [hc] at hany
    have hkeep : ∀ x, x = [c.node] ∨ x = [] →
        RetellsAll waitList (.released L) (c.before ++ x ++ c.after) := by
      intro x hx b hb
      obtain ⟨a, ha, hab⟩ := mem_of_cut hc hx hb
      obtain rfl : b = a := hab.elim id id
      refine ⟨b, ha, Retold.of_slots (SameNames.refl b) fun slot => ?_⟩
      rw [Reaction.writes, hany]
      exact ⟨rfl, rfl⟩
    refine yields_map ?_
    unfold createUnlessStillExists
    split
    · exact (createHif_leaves S c.node).mono hkeep
    · exact yields_pure (hkeep _ (.inl rfl))

lemma hsrLinkDeleted_told :
    Yields (RetellsAll waitList (.hsrLinkDeleted L)) (hsrLinkDeleted S waitList L) := by
  have hclear : ∀ a, Retold waitList (.hsrLinkDeleted L) a (clearStillExists L.lName a) :=
    fun a => ⟨sameNames_clearStillExists L.lName a,
      fun flag => told_clearStillExists flag a L.lName⟩
  have hself : ∀ a, Retold waitList (.hsrLinkDeleted L) a a :=
    fun a => ⟨SameNames.refl a, fun flag => rfl⟩
  rw [hsrLinkDeleted_eq]
  cases hc : cut (clearStillExists L.lName) (ownReady L.lName) waitList with
  | some c =>
    refine yields_map ((createHif_leaves S c.node).mono fun x hx b hb => ?_)
    obtain ⟨a, ha, rfl | rfl⟩ := mem_of_cut hc hx hb
    · exact ⟨a, ha, hclear a⟩
    · exact ⟨b, ha, hself b⟩
  | none =>
    dsimp only
    cases hc' : cut id slavesReady (waitList.map (clearStillExists L.lName)) with
    | none => exact yields_pure (retells_map hclear fun _ ha => ha)
    | some c =>
      refine yields_map ((createHif_leaves S c.node).mono fun x hx b hb => ?_)
      obtain ⟨a, ha, hab⟩ := mem_of_cut hc' hx hb
      obtain rfl : b = a := hab.elim id id
      obtain ⟨a', ha', rfl⟩ := List.mem_map.mp ha
      exact ⟨a', ha', hclear a'⟩

end

/-- **A reaction writes into the flags of a waiting node what `Reaction.writes` says.** -/
theorem react_told (waitList : List WaitListNode) (r : Reaction) :
    Yields (RetellsAll waitList r) (react S waitList r) := by
  cases r with
  | idle => exact yields_pure fun b hb => ⟨b, hb, SameNames.refl b, fun flag => rfl⟩
  | newLink L => exact newLink_told S waitList L
  | linkDeleted L => exact linkDeleted_told waitList L
  | gotBusy L => exact linkChangedGotBusy_told waitList L
  | releasedHsrNot L M => exact linkReleasedHsrNot_told waitList L M
  | released L => exact linkChangedReleased_told S waitList L
  | hsrLinkDeleted L => exact hsrLinkDeleted_told S waitList L
  | crash fault => exact spec_fail fun _ h => nomatch h

end Hsr
