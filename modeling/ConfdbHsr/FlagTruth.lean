import ConfdbHsr.Daemon.Dispatch
import ConfdbHsr.Daemon.Scenario
import ConfdbHsr.Daemon.Snapshot

/-!
# Do the status flags tell the truth?

* `TellsTruth`     once all messages are handled, the flags of every waiting node are true;
* `PlainConfig`, `PlainNote`   the configurations and messages that the daemon reads right;
* `notes_sound`    what a plain message writes into a flag is true, and what it leaves stays true;
* `flags_truthful` along every run whose steps are all plain the flags tell the truth;
* `bridged_port_taken_for_free`   a run on which they do not: `get_master` sees HSR masters only.

A flag may run ahead of the link cache, because a configuration call looks at the kernel itself.
The invariant is therefore that each flag is true in some view: in the cache, or in the links as
they are after one of the pending messages.
-/

namespace Hsr
open Nl Proc Scan Machine

variable {ω : Type}

/-! ## the property -/

def FlagsTrue (waitList : List WaitListNode) (links : List LinkObj) : Prop :=
  ∀ node ∈ waitList, ∀ flag, told flag node = flag.truth links node

/-- in a state in which every message has been handled, the flags are true -/
def QuietlyTrue (d : LinkDaemon) (k : Kernel ω) : Prop :=
  k.queue = [] → FlagsTrue d.app.waitList k.links

def TellsTruth (h : Handled Fault (Kernel ω) Act LinkDaemon (LinkInput ω)) : Prop :=
  QuietlyTrue h.pre h.world ∧ ∀ d, h.out.val = .ok d → QuietlyTrue d h.out.world

/-! ## the condition -/

/-- a slave is read right only if it is an Ethernet link and no HSR device -/
def PlainSlave (link : LinkObj) : Prop := link.isEther = true ∧ link.isHsr = false

section
variable (links links' : List LinkObj) (later : List (List LinkObj)) (waitList : List WaitListNode)
  (node : WaitListNode) (slot : Slot)

/-- the slave is busy in a later view -/
def BusyLater : Prop := ∃ view ∈ later, (Flag.busy slot).truth view node = true

/-- a change of the slave that is read right: it keeps its master, it gets one that is not the
device of the node, it is released, or it goes from one such master to another -/
def PlainChange (o L : LinkObj) : Prop :=
  o.lMaster = L.lMaster ∨
  (o.lMaster = 0 ∧ PlainSlave o ∧ busyFor node.hsrName (sightOf links' L) = true) ∨
  (L.lMaster = 0 ∧ PlainSlave o ∧
    -- the flag stays as it is where `link_changed_released` stops at a node
    ∀ M ∈ rtnlLinkGet links' o.lMaster, M.isHsr = false →
      waitList.any (releasedReady L.lName) = true → told (.busy slot) node = true →
      BusyLater later node slot) ∨
  (o.lMaster ≠ 0 ∧ L.lMaster ≠ 0 ∧ busyFor node.hsrName (sightOf links o) = true ∧
    busyFor node.hsrName (sightOf links' L) = true)

/-- the names that the flags of a node are about -/
def flagNames : List CStr := [node.hsrName, node.slave1Name, node.slave2Name]

/-- a callback that is read right, as far as the slave of the node is concerned -/
def PlainNote : Note LinkObj → Prop
  -- the master of a link that appears is not looked at; of an HSR device one port is
  | .new L => L.isDevice = true →
      (L.lName = node.slaveName slot →
        PlainSlave L ∧ busyFor node.hsrName (sightOf links' L) = false) ∧
      (L.isEther = true → L.isHsr = true → ∀ slave ∈ rtnlLinkGet links' L.lLink,
        slave.lName = node.slaveName slot → BusyLater later node slot)
  | .del o => o.isDevice = true → o.lName = node.slaveName slot → PlainSlave o
  -- names are not compared
  | .change o L _ => o.isDevice = true →
      (∀ name ∈ flagNames node, o.lName = name ↔ L.lName = name) ∧
      (L.lName = node.slaveName slot → PlainChange links links' later waitList node slot o L)

end

instance (link : LinkObj) : Decidable (PlainSlave link) := inferInstanceAs (Decidable (_ ∧ _))

instance (later : List (List LinkObj)) (node : WaitListNode) (slot : Slot) :
    Decidable (BusyLater later node slot) :=
  inferInstanceAs (Decidable (∃ view ∈ later, _))

instance (links links' : List LinkObj) (later : List (List LinkObj)) (waitList : List WaitListNode)
    (node : WaitListNode) (slot : Slot) (o L : LinkObj) :
    Decidable (PlainChange links links' later waitList node slot o L) :=
  inferInstanceAs (Decidable (_ ∨ _ ∨ _ ∨ _))

instance (links links' : List LinkObj) (later : List (List LinkObj)) (waitList : List WaitListNode)
    (node : WaitListNode) (slot : Slot) :
    DecidablePred (PlainNote links links' later waitList node slot)
  | .new _ => inferInstanceAs (Decidable (_ → _ ∧ _))
  | .del _ => inferInstanceAs (Decidable (_ → _ → _))
  | .change _ _ _ => inferInstanceAs (Decidable (_ → _ ∧ _))

/-- the handling of a message that is read right; `later` are the views after it -/
def PlainMsg (d : LinkDaemon) (later : List (List LinkObj)) (msg : LinkMsg) : Prop :=
  ∀ note ∈ msg.notes d.cache, ∀ node ∈ d.app.waitList, ∀ slot,
    PlainNote d.cache (msg.apply d.cache) later d.app.waitList node slot note

/-- the step is about a configuration or a message that is read right -/
def Plain (h : Handled Fault (Kernel ω) Act LinkDaemon (LinkInput ω)) : Prop :=
  match h.input with
  | .config (some ifName) (some ⟨some slaveA, some slaveB⟩) =>
    PlainConfig h.world.links ifName slaveA slaveB
  | .handle => ∀ msg ∈ h.world.queue.head?,
      PlainMsg h.pre (views (msg.apply h.pre.cache) h.out.world.queue) msg
  | _ => True

/-- the kernel keeps its table well formed -/
def KernelLawful (h : Handled Fault (Kernel ω) Act LinkDaemon (LinkInput ω)) : Prop :=
  match h.input with
  | .kernel msgs _ => Lawful h.world.links msgs
  | _ => True

instance (d : LinkDaemon) (later : List (List LinkObj)) (msg : LinkMsg) :
    Decidable (PlainMsg d later msg) :=
  inferInstanceAs (Decidable (∀ note ∈ msg.notes d.cache, ∀ node ∈ d.app.waitList, ∀ slot,
    PlainNote d.cache (msg.apply d.cache) later d.app.waitList node slot note))

instance : DecidablePred (@Plain ω)
  | ⟨_, k, .config (some ifName) (some ⟨some slaveA, some slaveB⟩), _⟩ =>
    inferInstanceAs (Decidable (PlainConfig k.links ifName slaveA slaveB))
  | ⟨d, k, .handle, out⟩ => inferInstanceAs (Decidable (∀ msg ∈ k.queue.head?,
      PlainMsg d (views (msg.apply d.cache) out.world.queue) msg))
  | ⟨_, _, .kernel _ _, _⟩ => .isTrue trivial
  | ⟨_, _, .config none _, _⟩ => .isTrue trivial
  | ⟨_, _, .config (some _) none, _⟩ => .isTrue trivial
  | ⟨_, _, .config (some _) (some ⟨none, _⟩), _⟩ => .isTrue trivial
  | ⟨_, _, .config (some _) (some ⟨some _, none⟩), _⟩ => .isTrue trivial

instance : DecidablePred (@KernelLawful ω)
  | ⟨_, k, .kernel msgs _, _⟩ => inferInstanceAs (Decidable (Lawful k.links msgs))
  | ⟨_, _, .config _ _, _⟩ => .isTrue trivial
  | ⟨_, _, .handle, _⟩ => .isTrue trivial

/-! ## one message -/

def Flag.slot : Flag → Slot
  | .busy slot => slot
  | .notExists slot => slot

/-- what is written into a flag is true in a later view; where nothing is written, the truth has
not changed or the flag has run ahead of it -/
def Sound (links links' : List LinkObj) (later : List (List LinkObj)) (node : WaitListNode)
    (flag : Flag) : Option Bool → Prop
  | some value => ∃ view ∈ later, flag.truth view node = value
  | none => flag.truth links' node = flag.truth links node ∨
      ∃ view ∈ later, flag.truth view node = told flag node

lemma slaveName_mem (node : WaitListNode) (slot : Slot) :
    node.slaveName slot ∈ flagNames node := by
  cases slot <;> simp [flagNames, WaitListNode.slaveName]

lemma busyFor_alike {node : WaitListNode} {seen seen' : Sight}
    (h : seen.Alike (flagNames node) seen') :
    busyFor node.hsrName seen' = busyFor node.hsrName seen := by
  cases seen with
  | missing =>
    cases seen' with
    | missing => rfl
    | free => exact h.elim
    | held => exact h.elim
  | free =>
    cases seen' with
    | missing => exact h.elim
    | free => rfl
    | held => exact h.elim
  | held master =>
    cases seen' with
    | missing => exact h.elim
    | free => exact h.elim
    | held master' =>
      have hiff : master = some node.hsrName ↔ master' = some node.hsrName :=
        h node.hsrName List.mem_cons_self
      rw [Bool.eq_iff_iff, busyFor, busyFor, bne_iff_ne, bne_iff_ne]
      exact not_congr hiff.symm

lemma truth_of_sight {links links' : List LinkObj} {node : WaitListNode} {flag : Flag}
    (h : (sight links (node.slaveName flag.slot)).Alike (flagNames node)
      (sight links' (node.slaveName flag.slot))) :
    flag.truth links' node = flag.truth links node := by
  cases flag with
  | busy slot => exact busyFor_alike h
  | notExists slot =>
    rw [Flag.truth, Flag.truth, Bool.eq_iff_iff, beq_iff_eq, beq_iff_eq]
    exact h.missing_iff.symm

lemma sightOf_ne_missing (links : List LinkObj) (link : LinkObj) :
    (sightOf links link == .missing) = false := by
  unfold sightOf
  split <;> rfl

/-- the link whose slots a reaction writes into -/
def Reaction.writesTo : Reaction → Option LinkObj
  | .newLink L | .linkDeleted L | .gotBusy L | .released L | .releasedHsrNot L _ => some L
  | .idle | .hsrLinkDeleted _ | .crash _ => none

section
variable {waitList : List WaitListNode} {node : WaitListNode} {flag : Flag} {r : Reaction}

lemma writes_aside (h : ∀ L, r.writesTo = some L → L.lName ≠ node.slaveName flag.slot) :
    r.writes waitList node flag = none := by
  have hwrite : ∀ L value, r.writesTo = some L → writeIn L.lName node flag.slot value = none :=
    fun L value hL => writeIn_none (h L hL).symm
  cases r with
  | idle => cases flag <;> rfl
  | hsrLinkDeleted L => cases flag <;> rfl
  | crash fault => cases flag <;> rfl
  | newLink L =>
    cases flag with
    | busy slot => rfl
    | notExists slot => exact hwrite L false rfl
  | linkDeleted L =>
    cases flag with
    | busy slot => exact hwrite L false rfl
    | notExists slot => exact hwrite L true rfl
  | gotBusy L =>
    cases flag with
    | busy slot => exact hwrite L true rfl
    | notExists slot => rfl
  | releasedHsrNot L M =>
    cases flag with
    | busy slot => exact hwrite L false rfl
    | notExists slot => rfl
  | released L =>
    cases flag with
    | busy slot =>
      have hnone : writeIn L.lName node slot false = none := hwrite L false rfl
      show (if waitList.any (releasedReady L.lName) then none else _) = none
      rw [hnone, ite_self]
    | notExists slot => rfl

lemma writes_none (h : r.writesTo = none) : r.writes waitList node flag = none := by
  refine writes_aside fun L hL => ?_
  rw [h] at hL
  cases hL

lemma writes_other {L : LinkObj} (h : r.writesTo = some L)
    (hname : L.lName ≠ node.slaveName flag.slot) : r.writes waitList node flag = none := by
  refine writes_aside fun L' hL' => ?_
  obtain rfl := Option.some.inj (h.symm.trans hL')
  exact hname

end

section
variable {links links' : List LinkObj} {later : List (List LinkObj)}
  {waitList : List WaitListNode} {node : WaitListNode}

lemma sound_untouched {notes : List (Note LinkObj)} (heff : Effect links links' notes)
    (h : WellFormed links) (h' : WellFormed links')
    (hkeep : ∀ note ∈ notes, note.Keeps (flagNames node))
    {flag : Flag} (htouch : ∀ note ∈ notes, ¬ note.Touches (node.slaveName flag.slot)) :
    Sound links links' later node flag none :=
  .inl (truth_of_sight (sight_untouched heff h h' hkeep (slaveName_mem node flag.slot) htouch))

section
variable (hd : node.slave1Name ≠ node.slave2Name) {flag : Flag} {linkName : CStr} {value : Bool}

include hd in
lemma sound_write (hname : linkName = node.slaveName flag.slot)
    (htruth : ∃ view ∈ later, flag.truth view node = value) :
    Sound links links' later node flag (writeIn linkName node flag.slot value) := by
  rw [writeIn_some hd hname.symm]
  exact htruth

include hd

lemma sound_appears {L : LinkObj} (h : WellFormed links) (h' : WellFormed (links ++ [L]))
    (hc : ∀ fault, newReaction (links ++ [L]) L ≠ .crash fault)
    (hlater : links ++ [L] ∈ later)
    (hplain : PlainNote links (links ++ [L]) later waitList node flag.slot (.new L)) :
    Sound links (links ++ [L]) later node flag
      ((newReaction (links ++ [L]) L).writes waitList node flag) := by
  have hkeep : ∀ note ∈ [Note.new L], note.Keeps (flagNames node) := by simp [Note.Keeps]
  have hskip : ¬ (L.isDevice = true ∧ L.lName = node.slaveName flag.slot) →
      Sound links (links ++ [L]) later node flag none := by
    intro htouch
    refine sound_untouched (.appears L) h h' hkeep fun note hnote => ?_
    rw [List.mem_singleton.mp hnote]
    exact htouch
  cases hdev : L.isDevice with
  | false =>
    -- a bridge port has no kind, so an Ethernet one crashes the daemon
    have hkind := (h'.port L (by simp) hdev).1
    rcases newReaction_eq hc with ⟨-, hr⟩ | ⟨-, hne, -⟩
    · rw [hr, writes_none rfl]
      exact hskip (by simp [hdev])
    · exact absurd hkind hne
  | true =>
    obtain ⟨hslave, hhsr⟩ := hplain hdev
    by_cases hname : L.lName = node.slaveName flag.slot
    · obtain ⟨⟨hether, hnot⟩, hfree⟩ := hslave hname
      obtain ⟨hbefore, hafter⟩ := sight_appears h' hdev
      rw [hname] at hbefore hafter
      rcases newReaction_eq hc with ⟨hne, -⟩ | ⟨-, -, ⟨-, hr⟩ | ⟨hyes, -⟩⟩
      · rw [hether] at hne
        cases hne
      · rw [hr]
        cases flag with
        | notExists slot =>
          refine sound_write hd hname ⟨_, hlater, ?_⟩
          exact (congrArg (· == Sight.missing) hafter).trans (sightOf_ne_missing _ L)
        | busy slot =>
          refine .inl ?_
          have hfreeAfter := (congrArg (busyFor node.hsrName) hafter).trans hfree
          exact hfreeAfter.trans (congrArg (busyFor node.hsrName) hbefore).symm
      · rw [hnot] at hyes
        cases hyes
    · have hskipped := hskip fun htouch => hname htouch.2
      rcases newReaction_eq hc with ⟨-, hr⟩ | ⟨hether, -, ⟨-, hr⟩ | ⟨hyes, slave, hl, hr⟩⟩
      · rw [hr, writes_none rfl]
        exact hskipped
      · rw [hr, writes_other rfl hname]
        exact hskipped
      · rw [hr]
        by_cases hslot : slave.lName = node.slaveName flag.slot
        · cases flag with
          | notExists slot => exact hskipped
          | busy slot => exact sound_write hd hslot (hhsr hether hyes slave hl hslot)
        · rw [writes_other rfl hslot]
          exact hskipped

lemma sound_vanishes {pre post : List LinkObj} {o : LinkObj} (h : WellFormed (pre ++ o :: post))
    (h' : WellFormed (pre ++ post)) (hc : ∀ fault, delReaction o ≠ .crash fault)
    (hlater : pre ++ post ∈ later)
    (hplain : PlainNote (pre ++ o :: post) (pre ++ post) later waitList node flag.slot (.del o)) :
    Sound (pre ++ o :: post) (pre ++ post) later node flag
      ((delReaction o).writes waitList node flag) := by
  have hkeep : ∀ note ∈ [Note.del o], note.Keeps (flagNames node) := by simp [Note.Keeps]
  have hskip : ¬ (o.isDevice = true ∧ o.lName = node.slaveName flag.slot) →
      Sound (pre ++ o :: post) (pre ++ post) later node flag none := by
    intro htouch
    refine sound_untouched (.vanishes rfl) h h' hkeep fun note hnote => ?_
    rw [List.mem_singleton.mp hnote]
    exact htouch
  cases hdev : o.isDevice with
  | false =>
    have hkind := (h.port o (by simp) hdev).1
    rcases delReaction_eq hc with ⟨-, hr⟩ | ⟨-, hne, -⟩
    · rw [hr, writes_none rfl]
      exact hskip (by simp [hdev])
    · exact absurd hkind hne
  | true =>
    by_cases hname : o.lName = node.slaveName flag.slot
    · obtain ⟨hether, hnot⟩ := hplain hdev hname
      have hafter := sight_vanishes h hdev
      rw [hname] at hafter
      rcases delReaction_eq hc with ⟨hne, -⟩ | ⟨-, -, ⟨-, hr⟩ | ⟨hyes, -⟩⟩
      · rw [hether] at hne
        cases hne
      · rw [hr]
        cases flag with
        | notExists slot =>
          exact sound_write hd hname ⟨_, hlater, congrArg (· == Sight.missing) hafter⟩
        | busy slot =>
          exact sound_write hd hname ⟨_, hlater, congrArg (busyFor node.hsrName) hafter⟩
      · rw [hnot] at hyes
        cases hyes
    · have hskipped := hskip fun htouch => hname htouch.2
      rcases delReaction_eq hc with ⟨-, hr⟩ | ⟨-, -, ⟨-, hr⟩ | ⟨-, hr⟩⟩
      · rw [hr, writes_none rfl]
        exact hskipped
      · rw [hr, writes_other rfl hname]
        exact hskipped
      · rw [hr, writes_none rfl]
        exact hskipped

/-- the flag of a slave that changes its master -/
lemma sound_busy_changes {slot : Slot} {o L : LinkObj} (hren : o.lName = L.lName)
    (hname : L.lName = node.slaveName slot) (hcases : ChangeCases links' o L)
    (hlater : links' ∈ later)
    (hbefore : (Flag.busy slot).truth links node = busyFor node.hsrName (sightOf links o))
    (hafter : (Flag.busy slot).truth links' node = busyFor node.hsrName (sightOf links' L))
    (hkept : o.lMaster = L.lMaster →
      busyFor node.hsrName (sightOf links' L) = busyFor node.hsrName (sightOf links o))
    (hchange : PlainChange links links' later waitList node slot o L) :
    Sound links links' later node (.busy slot)
      ((changeReaction links' o L).writes waitList node (.busy slot)) := by
  have hfree : L.lMaster = 0 → (Flag.busy slot).truth links' node = false := by
    intro hzero
    rw [hafter, sightOf, if_pos hzero]
    rfl
  have hsameMaster : o.lMaster = L.lMaster → Sound links links' later node (.busy slot) none := by
    intro heq
    refine .inl ?_
    rw [hafter, hbefore, hkept heq]
  rcases hcases with ⟨hr, hidle⟩ | ⟨-, -, hom, hLm, hr⟩ | ⟨-, -, hom, hLm, M, hM, hrelease⟩
  · -- nothing is done
    rw [hr]
    rcases hchange with heq | ⟨hom, ⟨hether, hnot⟩, hbusy⟩ | ⟨hLm, ⟨hether, hnot⟩, -⟩ | ⟨-, -, hb, hb'⟩
    · exact hsameMaster heq
    · rcases hidle with hne | hyes | hiff
      · rw [hether] at hne
        cases hne
      · rw [hnot] at hyes
        cases hyes
      · exact hsameMaster (hom.trans (hiff.mp hom).symm)
    · rcases hidle with hne | hyes | hiff
      · rw [hether] at hne
        cases hne
      · rw [hnot] at hyes
        cases hyes
      · exact hsameMaster ((hiff.mpr hLm).trans hLm.symm)
    · refine .inl ?_
      rw [hafter, hbefore, hb, hb']
  · -- the slave got a master
    rw [hr]
    refine sound_write hd (hren.trans hname) ⟨links', hlater, ?_⟩
    rcases hchange with heq | ⟨-, -, hbusy⟩ | ⟨hzero, -⟩ | ⟨hne, -⟩
    · exact absurd (heq.symm.trans hom) hLm
    · rw [hafter, hbusy]
    · exact absurd hzero hLm
    · exact absurd hom hne
  · rcases hrelease with ⟨hnot, hr⟩ | ⟨-, hr⟩
    · -- a master other than an HSR device released the slave
      rw [hr]
      show Sound _ _ _ _ _ (if waitList.any (releasedReady L.lName) then none else _)
      split
      · rename_i hany
        have hretaken : told (.busy slot) node = true → BusyLater later node slot := by
          rcases hchange with heq | ⟨hzero, -⟩ | ⟨-, -, hretaken⟩ | ⟨-, hne, -⟩
          · exact absurd (heq.trans hLm) hom
          · exact absurd hzero hom
          · exact hretaken M hM hnot hany
          · exact absurd hLm hne
        refine .inr ?_
        cases htold : told (.busy slot) node with
        | false => exact ⟨links', hlater, hfree hLm⟩
        | true => exact hretaken htold
      · exact sound_write hd hname ⟨links', hlater, hfree hLm⟩
    · -- an HSR device did
      rw [hr]
      exact sound_write hd hname ⟨links', hlater, hfree hLm⟩

lemma sound_changes {pre post : List LinkObj} {o L : LinkObj} (diff : Mask) (hsame : SameLink o L)
    (h : WellFormed (pre ++ o :: post)) (h' : WellFormed (pre ++ post ++ [L]))
    (hc : ∀ fault, changeReaction (pre ++ post ++ [L]) o L ≠ .crash fault)
    (hlater : pre ++ post ++ [L] ∈ later)
    (hplain : PlainNote (pre ++ o :: post) (pre ++ post ++ [L]) later waitList node flag.slot
      (.change o L diff)) :
    Sound (pre ++ o :: post) (pre ++ post ++ [L]) later node flag
      ((changeReaction (pre ++ post ++ [L]) o L).writes waitList node flag) := by
  have heff : Effect (pre ++ o :: post) (pre ++ post ++ [L]) [.change o L diff] :=
    .changes L diff rfl hsame
  have hkeep : ∀ note ∈ [Note.change o L diff], note.Keeps (flagNames node) := by
    intro note hnote
    rw [List.mem_singleton.mp hnote]
    exact fun ho => (hplain ho).1
  have hskip : ¬ (o.isDevice = true ∧ o.lName = node.slaveName flag.slot) →
      Sound (pre ++ o :: post) (pre ++ post ++ [L]) later node flag none := by
    intro htouch
    refine sound_untouched heff h h' hkeep fun note hnote => ?_
    rw [List.mem_singleton.mp hnote]
    exact htouch
  have hcases := changeReaction_eq hsame h h' hc
  cases hdev : o.isDevice with
  | false =>
    -- a bridge port stays with a bridge
    have hom := (h.port o (by simp) hdev).2.1
    have hLm := (h'.port L (by simp) (hsame.isDevice_eq h h' ▸ hdev)).2.1
    rcases hcases with ⟨hr, -⟩ | ⟨-, -, hzero, -⟩ | ⟨-, -, -, hzero, -⟩
    · rw [hr, writes_none rfl]
      exact hskip (by simp [hdev])
    · exact absurd hzero hom
    · exact absurd hzero hLm
  | true =>
    obtain ⟨hren, hchange⟩ := hplain hdev
    have hslave := hren _ (slaveName_mem node flag.slot)
    by_cases hname : L.lName = node.slaveName flag.slot
    · have hsame' : o.lName = L.lName := (hslave.mpr hname).trans hname.symm
      obtain ⟨hbefore, hafter⟩ := sight_changes hsame h h' hdev
      rw [hsame', hname] at hbefore
      rw [hname] at hafter
      cases flag with
      | notExists slot =>
        have hstays : Sound (pre ++ o :: post) (pre ++ post ++ [L]) later node (.notExists slot)
            none := by
          refine .inl ?_
          have hfalse := (congrArg (· == Sight.missing) hbefore).trans (sightOf_ne_missing _ o)
          have hfalse' := (congrArg (· == Sight.missing) hafter).trans (sightOf_ne_missing _ L)
          exact hfalse'.trans hfalse.symm
        rcases hcases with ⟨hr, -⟩ | ⟨-, -, -, -, hr⟩ | ⟨-, -, -, -, M, -, ⟨-, hr⟩ | ⟨-, hr⟩⟩
        · rw [hr]
          exact hstays
        · rw [hr]
          exact hstays
        · rw [hr]
          exact hstays
        · rw [hr]
          exact hstays
      | busy slot =>
        have hkept : o.lMaster = L.lMaster →
            busyFor node.hsrName (sightOf (pre ++ post ++ [L]) L) =
              busyFor node.hsrName (sightOf (pre ++ o :: post) o) := fun heq =>
          busyFor_alike (sightOf_effect heff h h' hkeep (by simp) (by simp) heq.symm)
        exact sound_busy_changes hd hsame' hname hcases hlater
          (congrArg (busyFor node.hsrName) hbefore) (congrArg (busyFor node.hsrName) hafter) hkept
          (hchange hname)
    · have hname' : o.lName ≠ node.slaveName flag.slot := fun ho => hname (hslave.mp ho)
      have hskipped := hskip fun htouch => hname' htouch.2
      rcases hcases with ⟨hr, -⟩ | ⟨-, -, -, -, hr⟩ | ⟨-, -, -, -, M, -, ⟨-, hr⟩ | ⟨-, hr⟩⟩
      · rw [hr, writes_none rfl]
        exact hskipped
      · rw [hr, writes_other rfl hname']
        exact hskipped
      · rw [hr, writes_other rfl hname]
        exact hskipped
      · rw [hr, writes_other rfl hname]
        exact hskipped

/-- **What a plain message writes into a flag is true, and what it leaves stays true.** -/
theorem notes_sound {notes : List (Note LinkObj)} (heff : Effect links links' notes)
    (h : WellFormed links) (h' : WellFormed links')
    (hc : ∀ fault, notesReaction links' notes ≠ .crash fault) (hlater : links' ∈ later)
    (hplain : ∀ note ∈ notes, ∀ slot, PlainNote links links' later waitList node slot note)
    (flag : Flag) :
    Sound links links' later node flag
      ((notesReaction links' notes).writes waitList node flag) := by
  cases heff with
  | same =>
    rw [notesReaction, writes_none rfl]
    exact .inl rfl
  | refreshed L hlinks hsame hno =>
    rw [notesReaction, writes_none rfl]
    exact sound_untouched (.refreshed L hlinks hsame hno) h h' (by simp) (by simp)
  | appears L =>
    exact sound_appears hd h h' hc hlater (hplain _ List.mem_cons_self flag.slot)
  | vanishes hlinks =>
    subst hlinks
    exact sound_vanishes hd h h' hc hlater (hplain _ List.mem_cons_self flag.slot)
  | changes L diff hlinks hsame =>
    subst hlinks
    exact sound_changes hd diff hsame h h' hc hlater (hplain _ List.mem_cons_self flag.slot)

end
end

lemma Sound.retold {links links' : List LinkObj} {tail later : List (List LinkObj)}
    {node : WaitListNode} {flag : Flag} {w : Option Bool} (h : Sound links links' later node flag w)
    (hlater : links' ∈ later) (htail : ∀ view ∈ tail, view ∈ later)
    (hold : ∃ view ∈ links :: tail, flag.truth view node = told flag node) :
    ∃ view ∈ later, flag.truth view node = w.getD (told flag node) := by
  cases w with
  | some value => exact h
  | none =>
    rcases h with h | h
    · obtain ⟨view, hview, htruth⟩ := hold
      rcases List.mem_cons.mp hview with rfl | hview
      · exact ⟨links', hlater, h.trans htruth⟩
      · exact ⟨view, htail view hview, htruth⟩
    · exact h

/-! ## runs -/

/-- every flag of a waiting node is true in some view -/
structure Truthful (d : LinkDaemon) (k : Kernel ω) : Prop where
  synced : Synced d.cache k
  distinct : ∀ node ∈ d.app.waitList, node.slave1Name ≠ node.slave2Name
  seen : ∀ node ∈ d.app.waitList, ∀ flag,
    ∃ view ∈ views d.cache k.queue, flag.truth view node = told flag node

section
variable {d d' : LinkDaemon} {k k' : Kernel ω}

lemma Truthful.quiet (h : Truthful d k) : QuietlyTrue d k := by
  intro hqueue node hnode flag
  obtain ⟨view, hview, htruth⟩ := h.seen node hnode flag
  rw [h.synced.views_quiet hqueue] at hview
  rw [List.mem_singleton.mp hview] at htruth
  exact htruth.symm

lemma Truthful.announced (h : Truthful d k) (hk : Announced k k') : Truthful d k' where
  synced := h.synced.announced hk
  distinct := h.distinct
  seen node hnode flag := by
    obtain ⟨view, hview, htruth⟩ := h.seen node hnode flag
    exact ⟨view, hk.views view hview, htruth⟩

lemma Truthful.config (h : Truthful d k) (hk : Announced k k') (hcache : d'.cache = d.cache)
    {key : Option CStr} {cdbData : Option HsrData}
    (hlist : ConfigLeaves k.links d.app.waitList key cdbData d'.app.waitList)
    (hplain : ∀ ifName slaveA slaveB, key = some ifName →
      cdbData = some ⟨some slaveA, some slaveB⟩ → PlainConfig k.links ifName slaveA slaveB) :
    Truthful d' k' := by
  have hk' := h.announced hk
  have hnode : ∀ node ∈ d'.app.waitList, node ∈ d.app.waitList ∨
      (node.slave1Name ≠ node.slave2Name ∧ ∀ flag, flag.truth k.links node = told flag node) := by
    intro node hnode
    generalize d'.app.waitList = waitList' at hlist hnode
    cases hlist with
    | keeps => exact .inl hnode
    | removes => exact .inl (List.mem_of_mem_eraseP hnode)
    | queues ifName slaveA slaveB =>
      rcases List.mem_append.mp hnode with hnode | hnode
      · exact .inl (List.mem_of_mem_eraseP hnode)
      · obtain rfl := List.mem_singleton.mp hnode
        have hplain' := hplain ifName slaveA slaveB rfl rfl
        exact .inr ⟨hplain'.distinct, fun flag =>
          (snapshot_truth (h.synced.lawful _ h.synced.last) hplain' flag).symm⟩
  constructor
  · rw [hcache]
    exact hk'.synced
  · intro node hmem
    rcases hnode node hmem with hmem | ⟨hne, -⟩
    · exact h.distinct node hmem
    · exact hne
  · intro node hmem flag
    rw [hcache]
    rcases hnode node hmem with hmem | ⟨-, htruth⟩
    · exact hk'.seen node hmem flag
    · exact ⟨k.links, hk.views _ h.synced.last, htruth flag⟩

lemma Truthful.handle (h : Truthful d k) {msg : LinkMsg} {q : List LinkMsg}
    (hqueue : k.queue = msg :: q) (hk : Announced { k with queue := q } k')
    (hcache : d'.cache = msg.apply d.cache)
    (hlist : RetellsAll d.app.waitList (msgReaction d.cache msg) d'.app.waitList)
    (hc : ∀ fault, msgReaction d.cache msg ≠ .crash fault)
    (hplain : PlainMsg d (views (msg.apply d.cache) k'.queue) msg) : Truthful d' k' := by
  have hreceived := h.synced.receive hqueue
  have hsynced := hreceived.announced hk
  have hwf := h.synced.lawful _ (head_mem_views d.cache k.queue)
  have hwf' := hreceived.lawful _ (head_mem_views (msg.apply d.cache) q)
  constructor
  · rw [hcache]
    exact hsynced
  · intro b hb
    obtain ⟨a, ha, hab⟩ := hlist b hb
    rw [hab.slave1Name, hab.slave2Name]
    exact h.distinct a ha
  · intro b hb flag
    obtain ⟨a, ha, hab⟩ := hlist b hb
    have hsound := notes_sound (h.distinct a ha) (msg.effect d.cache) hwf hwf' hc
      (head_mem_views (msg.apply d.cache) k'.queue) (fun note hnote => hplain note hnote a ha) flag
    obtain ⟨view, hview, htruth⟩ := h.seen a ha flag
    rw [hqueue] at hview
    obtain ⟨view', hview', htruth'⟩ := hsound.retold (head_mem_views _ _) hk.views
      ⟨view, hview, htruth⟩
    rw [hcache]
    refine ⟨view', hview', ?_⟩
    rw [hab.toSameNames.truth, htruth', hab.flags flag]
    rfl

lemma react_noCrash {W : Type} (S : Sys W) (waitList : List WaitListNode) (r : Reaction) :
    Yields (fun _ => ∀ fault, r ≠ .crash fault) (react S waitList r) := by
  intro w l hl
  rintro fault rfl
  cases hl

lemma step_truthful {S : Sys (Kernel ω)} (hS : Consistent S) (h : Truthful d k)
    (input : LinkInput ω) (hlaw : KernelLawful ⟨d, k, input, linkStep S d input k⟩)
    (hplain : Plain ⟨d, k, input, linkStep S d input k⟩)
    (hd' : (linkStep S d input k).val = .ok d') : Truthful d' (linkStep S d input k).world := by
  cases input with
  | kernel msgs rest =>
    obtain rfl := Except.ok.inj hd'
    exact h.announced ⟨msgs, rest, rfl, fun _ => hlaw⟩
  | config key cdbData =>
    obtain ⟨hcache, hk, hlist⟩ := configInput_leaves hS d key cdbData
      (hsrHandler_leaves hS d.app key cdbData) k rfl d' hd'
    refine h.config hk hcache hlist fun ifName slaveA slaveB hkey hdata => ?_
    subst hkey hdata
    exact hplain
  | handle =>
    cases hqueue : k.queue with
    | nil =>
      rw [handle_nil S d hqueue] at hd' ⊢
      obtain rfl := Except.ok.inj hd'
      exact h
    | cons msg q =>
      have hplain' := hplain msg (by rw [hqueue]; rfl)
      dsimp only at hplain'
      rw [handle_cons S d hqueue] at hd' hplain' ⊢
      have hreact := (react_told S d.app.waitList (msgReaction d.cache msg)).and
        (react_noCrash S d.app.waitList (msgReaction d.cache msg))
      obtain ⟨hcache, hk, hlist, hc⟩ := linkInput_leaves hS d msg hreact _ rfl d' hd'
      exact h.handle hqueue hk hcache hlist hc hplain'

end

/-- **The flags tell the truth.**  Let the daemon start over the links of a kernel whose table is
well formed and stays so.  Along every run whose steps are all plain the flags of every waiting node
are true in every state in which all messages have been handled. -/
theorem flags_truthful {S : Sys (Kernel ω)} (hS : Consistent S) (k : Kernel ω)
    (hwf : WellFormed k.links) (hqueue : k.queue = []) (inputs : List (LinkInput ω))
    (hlaw : Along (linkStep S) ⟨HsrModule.init, k.links⟩ k inputs KernelLawful)
    (hplain : Along (linkStep S) ⟨HsrModule.init, k.links⟩ k inputs Plain) :
    Along (linkStep S) ⟨HsrModule.init, k.links⟩ k inputs TellsTruth := by
  have hinit : Truthful ⟨HsrModule.init, k.links⟩ k := ⟨Synced.init hwf hqueue, nofun, nofun⟩
  refine along_of_inv Truthful hinit (fun d k input hinv hstep => ?_) (hlaw.and hplain)
  have hnext : ∀ d', (linkStep S d input k).val = .ok d' →
      Truthful d' (linkStep S d input k).world :=
    fun d' hd' => step_truthful hS hinv input hstep.1 hstep.2 hd'
  exact ⟨⟨hinv.quiet, fun d' hd' => (hnext d' hd').quiet⟩, hnext⟩

/-! ## runs on fixed inputs -/

/-- a kernel that refuses every request -/
def refusingSys : Sys (Kernel Unit) where
  nlConnect k := (0, k)
  rtnlLinkAllocCache k := ((0, devices k.links), k)
  rtnlLinkAdd _ k := (-1, k)
  rtnlLinkDelete _ k := (-1, k)
  calloc k := (true, k)
  cdbEditStatus _ _ _ k := (0, k)
  addrText addr := (addr.map NlAddr.aAddr).getD []
  asserts := true

lemma refusingSys_consistent : Consistent refusingSys where
  connect _ := rfl
  dump _ := rfl
  calloc _ := rfl
  add _ k := Announced.refl k
  delete _ k := Announced.refl k

def br0 : LinkObj := bridgeLink 5 (cs "br0")
def veth0 : LinkObj := etherLink 2 (cs "eth0") (some (cs "veth")) 0 0
def veth0InBr0 : LinkObj := portLink 2 (cs "eth0") (some (cs "veth")) 5

/-- `eth1` does not exist; `br0` takes `eth0` while the node waits -/
def takenRun : List (LinkInput Unit) :=
  [.config (some (cs "hsr0")) (slavesData (cs "eth0") (cs "eth1")),
    .kernel [⟨.new, veth0InBr0, 0⟩] (), .handle]

theorem taken_slave_told_busy :
    Along (linkStep refusingSys) ⟨HsrModule.init, [br0, veth0]⟩ ⟨[br0, veth0], [], ()⟩ takenRun
      TellsTruth :=
  flags_truthful refusingSys_consistent ⟨[br0, veth0], [], ()⟩ (by decide) rfl takenRun (by decide)
    (by decide)

/-- `hsr0` is configured over `eth0`, a port of the bridge `br0`, and `eth1`, which does not exist:
`get_master` finds no master of `eth0`, so the node waits without `SLAVE1_BUSY` -/
theorem bridged_port_taken_for_free :
    ¬ ∀ (ω : Type) (S : Sys (Kernel ω)), Consistent S → ∀ k : Kernel ω, WellFormed k.links →
      k.queue = [] → ∀ inputs : List (LinkInput ω),
        Along (linkStep S) ⟨HsrModule.init, k.links⟩ k inputs KernelLawful →
        Along (linkStep S) ⟨HsrModule.init, k.links⟩ k inputs TellsTruth := by
  intro h
  have hrun := h Unit refusingSys refusingSys_consistent ⟨[br0, veth0InBr0], [], ()⟩ (by decide) rfl
    [.config (some (cs "hsr0")) (slavesData (cs "eth0") (cs "eth1"))] (by decide)
  obtain ⟨htruth, -⟩ := along_cons.mp hrun
  have hflags := htruth.2 _ rfl rfl
  have hnode := hflags ⟨cs "hsr0", cs "eth0", cs "eth1", SLAVE2_NOT_EXISTS⟩ (by decide)
    (.busy .slave1)
  revert hnode
  decide

end Hsr
