import ConfdbHsr.CheckTable
import ConfdbHsr.Daemon.Dispatch
import ConfdbHsr.Daemon.LinkEvents

/-!
# Applying a configuration again

A configuration call for a device that exists over the two slaves deletes the device and queues a
node.  The kernel announces the release of each slave and then the deletion, and the node gets its
device back at the last of these messages.

* `DeviceOver`     an HSR device over two Ethernet links, as the kernel shows it;
* `Releases`, `Deletes`   the messages of a deletion;
* `release_reaction`, `deletion_reaction`   what each of them makes the daemon do;
* `reapplied_once` in the end one create request was sent, for the node of the call.

In between the bit `HSR_STILL_EXISTS` is of no concern to the other nodes: a release by an HSR
device tries no node, and the deletion tries the one of the deleted device first.
-/

namespace Hsr
open Nl Proc Scan

variable {ω : Type}

/-! ## the device and its ports -/

/-- the only entry of its index -/
structure Sole (links : List LinkObj) (link : LinkObj) : Prop where
  mem : link ∈ links
  dev : link.isDevice = true
  only : ∀ o ∈ links, o.lIndex = link.lIndex → o = link

/-- an Ethernet link that is no HSR device, with this master -/
structure PortLink (links : List LinkObj) (device link : LinkObj) : Prop extends
    Sole links link where
  ether : link.isEther = true
  plain : link.isHsr = false
  master : link.lMaster = device.lIndex

/-- an HSR device over two links, in one order or the other -/
structure DeviceOver (links : List LinkObj) (device a b : LinkObj) : Prop extends
    Sole links device where
  ether : device.isEther = true
  hsr : device.isHsr = true
  fits : device.lName.length < IFNAMSIZ
  first : PortLink links device a
  second : PortLink links device b
  ne : a ≠ b
  ports : (device.hsrSlave1 = a.lIndex ∧ device.hsrSlave2 = b.lIndex) ∨
    (device.hsrSlave1 = b.lIndex ∧ device.hsrSlave2 = a.lIndex)

/-- the link loses its master -/
structure Releases (msg : LinkMsg) (link : LinkObj) : Prop where
  act : msg.act = .new
  same : SameLink link msg.obj
  name : msg.obj.lName = link.lName
  kind : msg.obj.lInfoKind = link.lInfoKind
  free : msg.obj.lMaster = 0

/-- the link is deleted -/
structure Deletes (msg : LinkMsg) (link : LinkObj) : Prop where
  act : msg.act = .del
  same : SameLink link msg.obj

/-- one message releases one of the links and one the other -/
def ReleasesBoth (msg msg' : LinkMsg) (a b : LinkObj) : Prop :=
  (Releases msg a ∧ Releases msg' b) ∨ (Releases msg b ∧ Releases msg' a)

/-! ## the cache under the messages -/

section
variable {links : List LinkObj} {msg : LinkMsg} {link device : LinkObj}

lemma mem_apply_iff {o : LinkObj} (hne : o.lIndex ≠ msg.obj.lIndex) :
    o ∈ msg.apply links ↔ o ∈ links := by
  have hkeep : ¬ (linkOps msg.other).objectIdentical o msg.obj = true := by
    rw [linkOps_identical]
    exact fun h => hne h.1
  have hremove : o ∈ (linkOps msg.other).cacheRemove links msg.obj ↔ o ∈ links :=
    List.mem_eraseP_of_neg hkeep
  have hobj : o ≠ msg.obj := fun h => hne (congrArg (fun link => link.lIndex) h)
  have hmove : ∀ rest : List LinkObj, o ∈ rest ++ [msg.obj] ↔ o ∈ rest := by
    intro rest
    rw [List.mem_append, List.mem_singleton]
    exact or_iff_left hobj
  unfold LinkMsg.apply ObjectOps.cacheInclude
  cases msg.act with
  | new =>
    cases (linkOps msg.other).cacheSearch links msg.obj with
    | none => exact hmove links
    | some old => exact (hmove _).trans hremove
  | del =>
    cases (linkOps msg.other).cacheSearch links msg.obj with
    | none => exact Iff.rfl
    | some old => exact hremove
  | _ => exact Iff.rfl

lemma Sole.apply (h : Sole links link) (hne : link.lIndex ≠ msg.obj.lIndex) :
    Sole (msg.apply links) link := by
  refine ⟨(mem_apply_iff hne).mpr h.mem, h.dev, fun o ho hindex => ?_⟩
  have hother : o.lIndex ≠ msg.obj.lIndex := hindex ▸ hne
  exact h.only o ((mem_apply_iff hother).mp ho) hindex

lemma PortLink.apply (h : PortLink links device link) (hne : link.lIndex ≠ msg.obj.lIndex) :
    PortLink (msg.apply links) device link :=
  ⟨h.toSole.apply hne, h.ether, h.plain, h.master⟩

lemma Sole.index_ne {link' : LinkObj} (h : Sole links link) (h' : Sole links link')
    (hne : link ≠ link') : link.lIndex ≠ link'.lIndex :=
  fun hindex => hne (h'.only link h.mem hindex)

lemma Sole.search (h : Sole links link) (hsame : SameLink link msg.obj) :
    (linkOps msg.other).cacheSearch links msg.obj = some link := by
  have hid := (linkOps_identical msg.other link msg.obj).mpr hsame
  cases hfind : (linkOps msg.other).cacheSearch links msg.obj with
  | none => exact absurd hid (List.find?_eq_none.mp hfind link h.mem)
  | some old =>
    have hhit : (linkOps msg.other).objectIdentical old msg.obj = true :=
      List.find?_some (p := fun obj => (linkOps msg.other).objectIdentical obj msg.obj) hfind
    have hold := (linkOps_identical msg.other old msg.obj).mp hhit
    rw [h.only old (List.mem_of_find?_eq_some hfind) (hold.1.trans hsame.1.symm)]

lemma Sole.get (h : Sole links link) : rtnlLinkGet links link.lIndex = some link := by
  obtain ⟨found, hfind⟩ := rtnlLinkGet_some h.mem
  have hindex : found.lIndex = link.lIndex := by simpa using List.find?_some hfind
  rw [hfind, h.only found (List.mem_of_find?_eq_some hfind) hindex]

lemma Releases.mem_apply (hmsg : Releases msg link) (h : Sole links link) :
    msg.obj ∈ devices (msg.apply links) := by
  have hdevice : msg.obj.isDevice = true := by
    have hfamily := hmsg.same.2
    have hlink := h.dev
    unfold LinkObj.isDevice at hlink ⊢
    rwa [← hfamily, hmsg.kind]
  refine mem_devices.mpr ⟨?_, hdevice⟩
  unfold LinkMsg.apply ObjectOps.cacheInclude
  rw [hmsg.act, h.search hmsg.same]
  exact List.mem_append_right _ (List.mem_singleton_self msg.obj)

/-- the release of a port by an HSR device is told to the wait list -/
theorem release_reaction (hmsg : Releases msg link) (h : PortLink links device link)
    (hdevice : Sole links device) (hhsr : device.isHsr = true)
    (hwf : WellFormed links) (hwf' : WellFormed (msg.apply links)) :
    msgReaction links msg = .releasedHsrNot msg.obj device := by
  have hdiff : (linkOps msg.other).objectDiff64 link msg.obj ≠ 0 := by
    intro hzero
    obtain ⟨-, -, hmaster⟩ := linkOps_noDiff msg.other link msg.obj hzero
    have hne : link.lMaster ≠ 0 := h.master ▸ hwf.index_ne device hdevice.mem
    have hsame := hmaster (hwf.master link h.mem hne).1
    exact hne (hsame.trans hmsg.free)
  have hnotes : msg.notes links =
      [.change link msg.obj ((linkOps msg.other).objectDiff64 link msg.obj)] := by
    unfold LinkMsg.notes ObjectOps.cacheInclude
    rw [hmsg.act, h.search hmsg.same]
    exact if_pos hdiff
  have hapart : device.lIndex ≠ msg.obj.lIndex := by
    rw [← hmsg.same.1]
    refine hdevice.index_ne h.toSole fun heq => ?_
    rw [heq, h.plain] at hhsr
    cases hhsr
  have hold : rtnlLinkGet (msg.apply links) link.lMaster = some device := by
    rw [h.master]
    exact (hdevice.apply hapart).get
  have hnew : rtnlLinkGet (msg.apply links) msg.obj.lMaster = none := by
    rw [hmsg.free]
    exact rtnlLinkGet_zero hwf'
  have hkind : device.lInfoKind = some (cs "hsr") := by simpa [RtnlLink.isHsr] using hhsr
  rw [msgReaction, hnotes]
  show changeReaction (msg.apply links) link msg.obj = _
  unfold changeReaction
  rw [h.ether, h.plain, hold, hnew]
  show byKind device _ _ = _
  rw [byKind, hkind]
  rfl

/-- the deletion of an HSR device is told to the wait list -/
theorem deletion_reaction (hmsg : Deletes msg device) (h : Sole links device)
    (hether : device.isEther = true) (hhsr : device.isHsr = true) :
    msgReaction links msg = .hsrLinkDeleted device := by
  have hnotes : msg.notes links = [.del device] := by
    unfold LinkMsg.notes ObjectOps.cacheInclude
    rw [hmsg.act, h.search hmsg.same]
  have hkind : device.lInfoKind = some (cs "hsr") := by simpa [RtnlLink.isHsr] using hhsr
  rw [msgReaction, hnotes]
  show delReaction device = _
  unfold delReaction
  rw [hether, if_pos rfl, byKind, hkind]
  rfl

lemma Deletes.name_gone (hmsg : Deletes msg device) (h : Sole links device)
    (hwf : WellFormed links) {o : LinkObj} (ho : o ∈ devices (msg.apply links)) :
    o.lName ≠ device.lName := by
  obtain ⟨front, back, hlinks, hremove, -⟩ := cacheSearch_split (h.search hmsg.same)
  have happly : msg.apply links = front ++ back := by
    unfold LinkMsg.apply ObjectOps.cacheInclude
    rw [hmsg.act, h.search hmsg.same]
    exact hremove
  rw [happly] at ho
  rw [hlinks] at hwf
  exact (hwf.apart h.dev ho).1

end

/-! ## the call -/

/-- a deletion was requested and not refused -/
def Deleted (acts : List Act) : Prop := ∃ link ret, .linkDelete link ret ∈ acts ∧ 0 ≤ ret

lemma deleted_append {l l' : List Act} (h : requests l = []) (hdel : Deleted (l ++ l')) :
    Deleted l' := by
  obtain ⟨link, ret, hmem, hret⟩ := hdel
  rcases List.mem_append.mp hmem with hmem | hmem
  · have hnone := List.filterMap_eq_nil_iff.mp h _ hmem
    cases hnone
  · exact ⟨link, ret, hmem, hret⟩

lemma not_deleted_nil : ¬ Deleted [] := by
  rintro ⟨link, ret, hmem, -⟩
  cases hmem

section
variable {S : Sys (Kernel ω)} {k : Kernel ω} {device a b : LinkObj}

/-- over its own two slaves the device is deleted, and the node is left as it is -/
lemma reconfigure_deletes (m1 m2 : Option LinkObj) (hover : DeviceOver k.links device a b)
    (node : WaitListNode) :
    SpecFrom (· = k) (mainCheckReconfigure S a.lIndex b.lIndex m1 m2 device node) fun r l =>
      Deleted l → r = .ok (0, node) := by
  refine specFrom_bind_val (getSlave1_in hover.hsr) fun l hl => ?_
  refine specFrom_bind_val (getSlave2_in hover.hsr) fun l' hl' => ?_
  have hports : ((a.lIndex == device.hsrSlave1 && b.lIndex == device.hsrSlave2) ||
      (b.lIndex == device.hsrSlave1 && a.lIndex == device.hsrSlave2)) = true := by
    rcases hover.ports with ⟨h1, h2⟩ | ⟨h1, h2⟩
    · simp [h1, h2]
    · simp [h1, h2]
  rw [if_pos hports]
  intro w _ hdel
  have hrun := deleteHsrInterface_run S device w
  have hdel' := deleted_append hl' (deleted_append hl hdel)
  rw [bind_apply, hrun] at hdel' ⊢
  obtain ⟨link, ret, hmem, hret⟩ := hdel'
  obtain ⟨-, rfl⟩ := Act.linkDelete.inj (List.mem_singleton.mp hmem)
  have hnot : ¬ Refused (S.rtnlLinkDelete device w).1 := fun h => absurd h.1 (by omega)
  simp only [if_neg hnot, thenRun_ok]
  rfl

variable (hS : Consistent S) (hwf : WellFormed k.links) (hover : DeviceOver k.links device a b)
include hS hwf hover

/-- **The call.**  Once its deletion succeeds, the node of the call waits with no flag set. -/
theorem call_queues (waitList : List WaitListNode) :
    SpecFrom (· = k) (initialCheck S waitList device.lName a.lName b.lName) fun r l =>
      Deleted l → r = .ok (0, (deleteWaitListNode waitList device.lName).1 ++
        [newNode device.lName a.lName b.lName]) := by
  have hfind : ∀ {link : LinkObj}, Sole k.links link →
      rtnlLinkGetByName (devices k.links) link.lName = some link :=
    fun h => (deviceNamed_iff hwf).mpr ⟨mem_devices.mpr ⟨h.mem, h.dev⟩, rfl⟩
  have hshows : ShowsTable S (devices k.links) (· = k) := by
    rintro w rfl
    rw [hS.dump]
    exact ⟨rfl, le_rfl, rfl⟩
  refine specFrom_sys_bind (Q := fun _ => True) ?_ fun ret _ => ?_
  · rintro w rfl
    exact ⟨hS.connect w, trivial⟩
  refine specFrom_ite (fun _ => specFrom_fail fun h => absurd h not_deleted_nil) fun _ => ?_
  refine specFrom_sys_bind (Q := fun dump => 0 ≤ dump.1 ∧ dump.2 = devices k.links) hshows ?_
  rintro ⟨ret, links⟩ ⟨-, rfl⟩
  refine specFrom_ite (fun _ => specFrom_fail fun h => absurd h not_deleted_nil) fun _ => ?_
  refine specFrom_sys_bind (Q := fun _ => True) ?_ fun allocated _ => ?_
  · rintro w rfl
    exact ⟨hS.calloc w, trivial⟩
  refine specFrom_ite (fun _ => specFrom_pure fun h => absurd h not_deleted_nil) fun _ => ?_
  rw [hfind hover.first.toSole, hfind hover.second.toSole, hfind hover.toSole]
  refine specFrom_bind_ok (getMaster_in hshows _) fun m1 l ⟨_, hl⟩ => ?_
  refine specFrom_bind_ok (getMaster_in hshows _) fun m2 l' ⟨_, hl'⟩ => ?_
  refine specFrom_then (reconfigure_deletes m1 m2 hover _) ?_ ?_
  · intro fault l'' h hdel
    cases h (deleted_append hl' (deleted_append hl hdel))
  · rintro ⟨ret, node⟩ l'' h w hdel
    have hkeep : Deleted l'' := by
      have hrest := deleted_append hl' (deleted_append hl hdel)
      dsimp only at hrest
      split at hrest
      · simpa using hrest
      · simpa using hrest
    obtain ⟨rfl, rfl⟩ := Prod.mk.inj (Except.ok.inj (h hkeep))
    rfl

end

/-! ## the wait list under the messages -/

/-- what the release of a link by a device makes of a node -/
def releasedBy (linkName masterName : CStr) (node : WaitListNode) : WaitListNode :=
  linkFree linkName
    (if node.hsrName == masterName then setStatusFlags node HSR_STILL_EXISTS else node)

/-- no flag of a slave is set -/
def Untold (node : WaitListNode) : Prop := ∀ flag, told flag node = false

section
variable {linkName masterName : CStr} {node : WaitListNode}

lemma sameNames_releasedBy : SameNames node (releasedBy linkName masterName node) := by
  have hset : SameNames node
      (if node.hsrName == masterName then setStatusFlags node HSR_STILL_EXISTS else node) := by
    split
    · exact sameNames_set node _
    · exact SameNames.refl node
  exact hset.trans (sameNames_linkFree _ _)

lemma untold_newNode (ifName slave1Name slave2Name : CStr) :
    Untold (newNode ifName slave1Name slave2Name) :=
  fun flag => told_newNode flag ifName slave1Name slave2Name

lemma Untold.reset (h : Untold node) (flags : BitVec 8) : Untold (resetStatusFlags node flags) := by
  intro flag
  rw [told_reset, h flag, Bool.false_and]

lemma Untold.releasedBy (h : Untold node) : Untold (releasedBy linkName masterName node) := by
  have hset : Untold
      (if node.hsrName == masterName then setStatusFlags node HSR_STILL_EXISTS else node) := by
    split
    · intro flag
      rw [told_set_stillExists, h flag]
    · exact h
  exact onSlot_ind linkName _ (hset.reset _) (hset.reset _) hset

lemma Untold.clearStillExists (h : Untold node) : Untold (clearStillExists linkName node) := by
  intro flag
  rw [told_clearStillExists, h flag]

lemma Untold.slavesReady (h : Untold node) : slavesReady node = true := by
  have hclear : ∀ flag : Flag, isClear node flag.mask = true := by
    intro flag
    have htold := h flag
    unfold told at htold
    simpa using htold
  have h1 : isClear node SLAVE1_BUSY = true := hclear (.busy .slave1)
  have h2 : isClear node SLAVE2_BUSY = true := hclear (.busy .slave2)
  have h3 : isClear node SLAVE2_NOT_EXISTS = true := hclear (.notExists .slave2)
  have h4 : isClear node SLAVE1_NOT_EXISTS = true := hclear (.notExists .slave1)
  rw [Hsr.slavesReady, h1, h2, h3, h4]
  rfl

end

/-! ## the messages -/

/-- the next `n` messages are handled -/
def handleNext (S : Sys (Kernel ω)) (n : Nat) (d : LinkDaemon) : Op (Kernel ω) LinkDaemon :=
  (List.replicate n LinkInput.handle).foldlM (linkStep S) d

/-- a link without a master -/
def Free (links : List LinkObj) (ifindex : UInt32) : Prop :=
  ∃ link ∈ devices links, link.lIndex = ifindex ∧ link.lMaster = 0

/-- the kernel accepts a create request for a name that is not taken, over free ports -/
structure AcceptsOnFree (S : Sys (Kernel ω)) (ifName : CStr) : Prop where
  connect : ∀ k, 0 ≤ (S.nlConnect k).1
  add : ∀ link k, link.lName = ifName → (∀ o ∈ devices k.links, o.lName ≠ ifName) →
    Free k.links link.hsrSlave1 → Free k.links link.hsrSlave2 → 0 ≤ (S.rtnlLinkAdd link k).1

/-- the daemon after the release of a link by a device -/
def LinkDaemon.release (d : LinkDaemon) (msg : LinkMsg) (device : LinkObj) : LinkDaemon where
  app := { d.app with waitList := d.app.waitList.map (releasedBy msg.obj.lName device.lName) }
  cache := msg.apply d.cache

section
variable {S : Sys (Kernel ω)} {d : LinkDaemon} {k : Kernel ω} {msg : LinkMsg} {q : List LinkMsg}
  {device : LinkObj}

lemma handle_release (hqueue : k.queue = msg :: q)
    (hreact : msgReaction d.cache msg = .releasedHsrNot msg.obj device) :
    linkStep S d .handle k = ⟨.ok (d.release msg device), { k with queue := q }, []⟩ := by
  rw [handle_cons S d hqueue, linkInput_eq, hreact, react, linkReleasedHsrNot_eq]
  rfl

/-- the deletion tries the node of the device, which is the last one -/
lemma handle_deletion {others : List WaitListNode} {node : WaitListNode}
    (hqueue : k.queue = msg :: q) (hreact : msgReaction d.cache msg = .hsrLinkDeleted device)
    (hlist : d.app.waitList = others ++ [node])
    (hothers : ∀ other ∈ others, other.hsrName ≠ device.lName)
    (hname : node.hsrName = device.lName) (hready : Untold node) :
    linkStep S d .handle k = ((fun r => (⟨{ d.app with waitList := others ++ r },
      msg.apply d.cache⟩ : LinkDaemon)) <$> createHif S (clearStillExists device.lName node))
      { k with queue := q } := by
  have hmiss : ∀ other ∈ others,
      ownReady device.lName (clearStillExists device.lName other) = false := by
    intro other hother
    have hne : ((clearStillExists device.lName other).hsrName == device.lName) = false := by
      rw [(sameNames_clearStillExists _ other).hsrName]
      exact beq_eq_false_iff_ne.mpr (hothers other hother)
    rw [ownReady, hne, Bool.false_and]
  have hhit : ownReady device.lName (clearStillExists device.lName node) = true := by
    have heq : ((clearStillExists device.lName node).hsrName == device.lName) = true := by
      rw [(sameNames_clearStillExists _ node).hsrName]
      exact beq_iff_eq.mpr hname
    rw [ownReady, heq, hready.clearStillExists.slavesReady]
    rfl
  have hkeep : others.map (clearStillExists device.lName) = others := by
    refine (List.map_congr_left fun other hother => ?_).trans (List.map_id others)
    exact if_neg fun heq => hothers other hother (beq_iff_eq.mp heq)
  rw [handle_cons S d hqueue, linkInput_eq, hreact, react, hsrLinkDeleted_eq, hlist,
    cut_append hmiss hhit, hkeep, ← comp_map]
  simp [Function.comp_def]

lemma createHif_accepted (hS : Consistent S) (hwf : WellFormed k.links) {node : WaitListNode}
    {a b : LinkObj} (haccepts : AcceptsOnFree S node.hsrName)
    (hfits : node.hsrName.length < IFNAMSIZ)
    (hgone : ∀ o ∈ devices k.links, o.lName ≠ node.hsrName)
    (ha : a ∈ devices k.links ∧ a.lName = node.slave1Name) (hafree : a.lMaster = 0)
    (hb : b ∈ devices k.links ∧ b.lName = node.slave2Name) (hbfree : b.lMaster = 0) :
    ∃ ret, (createHif S node k).val = .ok [] ∧ (createHif S node k).acts =
      [.createHif node, .linkAdd node.hsrName (hsrRequest node.hsrName a.lIndex b.lIndex 1) ret] := by
  have hdump : dumped S k = some (devices k.links) := by
    rw [dumped, if_neg (Int.not_lt.mpr (haccepts.connect k)), hS.connect, hS.dump]
    rfl
  have hworld : afterDump S k = k := by
    rw [afterDump, if_neg (Int.not_lt.mpr (haccepts.connect k)), hS.connect, hS.dump]
  have hcode := createCode_absent hdump ((deviceNamed_iff hwf).mpr ha)
    ((deviceNamed_iff hwf).mpr hb) (deviceNamed_none_iff.mpr hgone)
  have hret : 0 ≤ (S.rtnlLinkAdd (hsrRequest node.hsrName a.lIndex b.lIndex 1) k).1 :=
    haccepts.add _ k (hsrRequest_name_iff.mpr hfits) hgone ⟨a, ha.1, rfl, hafree⟩
      ⟨b, hb.1, rfl, hbfree⟩
  rw [hworld, createHsrInterface_run] at hcode
  simp only [if_neg (Int.not_lt.mpr hret)] at hcode
  refine ⟨(S.rtnlLinkAdd (hsrRequest node.hsrName a.lIndex b.lIndex 1) k).1, ?_, ?_⟩
  · rw [createHif_val, hcode]
    rfl
  · rw [createHif_acts, hcode]

end

/-! ## from the call to the last message -/

/-- what the three messages make the daemon do, and the links they leave -/
structure Dismantles (links : List LinkObj) (device a b : LinkObj) (msg1 msg2 msg3 : LinkMsg) :
    Prop where
  first : msgReaction links msg1 = .releasedHsrNot msg1.obj device
  second : msgReaction (msg1.apply links) msg2 = .releasedHsrNot msg2.obj device
  third : msgReaction (msg2.apply (msg1.apply links)) msg3 = .hsrLinkDeleted device
  gone : ∀ o ∈ devices (after links [msg1, msg2, msg3]), o.lName ≠ device.lName
  freeA : ∃ o ∈ devices (after links [msg1, msg2, msg3]), o.lName = a.lName ∧
    o.lIndex = a.lIndex ∧ o.lMaster = 0
  freeB : ∃ o ∈ devices (after links [msg1, msg2, msg3]), o.lName = b.lName ∧
    o.lIndex = b.lIndex ∧ o.lMaster = 0

section
variable {links : List LinkObj} {device a b x y : LinkObj} {msg1 msg2 msg3 : LinkMsg}

lemma PortLink.ne_device (h : PortLink links device x) (hhsr : device.isHsr = true) :
    x ≠ device := by
  rintro rfl
  rw [h.plain] at hhsr
  cases hhsr

/-- the ports may be released in any order -/
lemma dismantles (hlaw : Lawful links [msg1, msg2, msg3]) (hd : Sole links device)
    (hether : device.isEther = true) (hhsr : device.isHsr = true) (hx : PortLink links device x)
    (hy : PortLink links device y) (hxy : x ≠ y) (h1 : Releases msg1 x) (h2 : Releases msg2 y)
    (h3 : Deletes msg3 device) : Dismantles links device x y msg1 msg2 msg3 := by
  have hwf : ∀ view ∈ views links [msg1, msg2, msg3], WellFormed view := hlaw
  have hwf0 := hwf links (by simp [views])
  have hwf1 := hwf (msg1.apply links) (by simp [views])
  have hwf2 := hwf (msg2.apply (msg1.apply links)) (by simp [views])
  -- the three links have three indexes
  have hyx : y.lIndex ≠ msg1.obj.lIndex := by
    rw [← h1.same.1]
    exact hy.toSole.index_ne hx.toSole hxy.symm
  have hdx : device.lIndex ≠ msg1.obj.lIndex := by
    rw [← h1.same.1]
    exact hd.index_ne hx.toSole (hx.ne_device hhsr).symm
  have hdy : device.lIndex ≠ msg2.obj.lIndex := by
    rw [← h2.same.1]
    exact hd.index_ne hy.toSole (hy.ne_device hhsr).symm
  have hd1 := hd.apply hdx
  have hd2 := hd1.apply hdy
  have hy1 := hy.apply hyx
  have hx1 := h1.mem_apply hx.toSole
  have hy2 := h2.mem_apply hy1.toSole
  have hstays : ∀ {view : List LinkObj} {msg : LinkMsg} {o : LinkObj},
      o.lIndex ≠ msg.obj.lIndex → o ∈ devices view → o ∈ devices (msg.apply view) := by
    intro view msg o hne ho
    obtain ⟨hmem, hdev⟩ := mem_devices.mp ho
    exact mem_devices.mpr ⟨(mem_apply_iff hne).mpr hmem, hdev⟩
  have hx12 : msg1.obj.lIndex ≠ msg2.obj.lIndex := by
    rw [← h2.same.1]
    exact hyx.symm
  have hx3 : msg1.obj.lIndex ≠ msg3.obj.lIndex := by
    rw [← h3.same.1]
    exact hdx.symm
  have hy3 : msg2.obj.lIndex ≠ msg3.obj.lIndex := by
    rw [← h3.same.1]
    exact hdy.symm
  constructor
  · exact release_reaction h1 hx hd hhsr hwf0 hwf1
  · exact release_reaction h2 hy1 hd1 hhsr hwf1 hwf2
  · exact deletion_reaction h3 hd2 hether hhsr
  · intro o ho
    exact h3.name_gone hd2 hwf2 ho
  · exact ⟨msg1.obj, hstays hx3 (hstays hx12 hx1), h1.name, h1.same.1.symm, h1.free⟩
  · exact ⟨msg2.obj, hstays hy3 hy2, h2.name, h2.same.1.symm, h2.free⟩

lemma DeviceOver.dismantles (h : DeviceOver links device a b)
    (hlaw : Lawful links [msg1, msg2, msg3]) (hrel : ReleasesBoth msg1 msg2 a b)
    (hdel : Deletes msg3 device) : Dismantles links device a b msg1 msg2 msg3 := by
  rcases hrel with ⟨h1, h2⟩ | ⟨h1, h2⟩
  · exact Hsr.dismantles hlaw h.toSole h.ether h.hsr h.first h.second h.ne h1 h2 hdel
  · have hswap := Hsr.dismantles hlaw h.toSole h.ether h.hsr h.second h.first h.ne.symm h1 h2 hdel
    exact ⟨hswap.first, hswap.second, hswap.third, hswap.gone, hswap.freeB, hswap.freeA⟩

end

/-- one device was created, for the node of the configuration -/
structure CreatedOnce (device a b : LinkObj) (acts : List Act) (waitList : List WaitListNode) :
    Prop where
  request : ∃ link, requests acts = [.add link] ∧ link.lName = device.lName ∧
    link.hsrSlave1 = a.lIndex ∧ link.hsrSlave2 = b.lIndex
  attempt : ∃ node, attempts acts = [node] ∧ node.hsrName = device.lName ∧
    node.slave1Name = a.lName ∧ node.slave2Name = b.lName
  gone : ∀ node ∈ waitList, node.hsrName ≠ device.lName

section
variable {S : Sys (Kernel ω)} {d d' : LinkDaemon} {k k' : Kernel ω}

lemma handleNext_quiet {n : Nat} (h : linkStep S d .handle k = ⟨.ok d', k', []⟩) :
    handleNext S (n + 1) d k = handleNext S n d' k' := by
  show thenRun (linkStep S d .handle k) (handleNext S n) = _
  rw [h, thenRun_ok]
  rfl

lemma handleNext_one : (handleNext S 1 d k).val = (linkStep S d .handle k).val ∧
    (handleNext S 1 d k).acts = (linkStep S d .handle k).acts := by
  have hrun : handleNext S 1 d k = thenRun (linkStep S d .handle k) pure := rfl
  rw [hrun]
  rcases linkStep S d .handle k with ⟨fault | d', k', l⟩
  · exact ⟨rfl, rfl⟩
  · exact ⟨rfl, List.append_nil l⟩

/-- Two releases and the deletion: the last node of the list, which has the name of the device and
no flag set, is tried, and the others stay. -/
lemma dismantled_run {others : List WaitListNode} {node : WaitListNode} {device : LinkObj}
    {msg1 msg2 msg3 : LinkMsg} (hqueue : k.queue = [msg1, msg2, msg3])
    (h1 : msgReaction d.cache msg1 = .releasedHsrNot msg1.obj device)
    (h2 : msgReaction (msg1.apply d.cache) msg2 = .releasedHsrNot msg2.obj device)
    (h3 : msgReaction (msg2.apply (msg1.apply d.cache)) msg3 = .hsrLinkDeleted device)
    (hlist : d.app.waitList = others ++ [node]) (hname : node.hsrName = device.lName)
    (hothers : ∀ other ∈ others, other.hsrName ≠ device.lName) (hready : Untold node) :
    ∃ node' others' d', SameNames node node' ∧
      (∀ other ∈ others', other.hsrName ≠ device.lName) ∧
      (∀ r, (d' r : LinkDaemon).app.waitList = others' ++ r) ∧
      (handleNext S 3 d k).val = (createHif S node' { k with queue := [] }).val.map d' ∧
      (handleNext S 3 d k).acts = (createHif S node' { k with queue := [] }).acts := by
  let release := fun node => releasedBy msg2.obj.lName device.lName
    (releasedBy msg1.obj.lName device.lName node)
  have hsame : ∀ node, SameNames node (release node) := fun node =>
    sameNames_releasedBy.trans sameNames_releasedBy
  -- the two releases
  have hrun1 := handleNext_quiet (n := 2) (handle_release (S := S) hqueue h1)
  have hrun2 := handleNext_quiet (n := 1) (handle_release (S := S) (d := d.release msg1 device)
    (k := { k with queue := [msg2, msg3] }) rfl h2)
  obtain ⟨hval, hacts⟩ := handleNext_one (S := S)
    (d := (d.release msg1 device).release msg2 device) (k := { k with queue := [msg3] })
  -- the deletion
  have hlist' : ((d.release msg1 device).release msg2 device).app.waitList =
      others.map release ++ [release node] := by
    show (d.app.waitList.map _).map _ = _
    rw [hlist, List.map_map, List.map_append]
    rfl
  have hothers' : ∀ other ∈ others.map release, other.hsrName ≠ device.lName := by
    intro other hmem
    obtain ⟨o, ho, rfl⟩ := List.mem_map.mp hmem
    rw [(hsame o).hsrName]
    exact hothers o ho
  have hdeletion := handle_deletion (S := S) (k := { k with queue := [msg3] }) rfl h3 hlist'
    hothers' ((hsame node).hsrName.trans hname) hready.releasedBy.releasedBy
  rw [hdeletion, map_val] at hval
  rw [hdeletion, map_acts] at hacts
  rw [hrun1, hrun2]
  exact ⟨_, _, _, (hsame node).trans (sameNames_clearStillExists device.lName _), hothers',
    fun _ => rfl, hval, hacts⟩

end

/-- **Applying a configuration again converges.**  A call for a device that exists over the two
slaves, and the messages that its deletion leads to, end in one create request: it is sent for the
node of the call, which is the only one that is tried and is done afterwards. -/
theorem reapplied_once (S : Sys (Kernel ω)) (hS : Consistent S) (k : Kernel ω) (d : LinkDaemon)
    (device a b : LinkObj) (msg1 msg2 msg3 : LinkMsg) (hwf : WellFormed k.links)
    (hidle : k.queue = []) (hcache : d.cache = k.links)
    (hover : DeviceOver k.links device a b)
    (hnames : (d.app.waitList.map WaitListNode.hsrName).Nodup)
    (hdeleted : Deleted (initialCheck S d.app.waitList device.lName a.lName b.lName k).acts)
    (hqueue : (initialCheck S d.app.waitList device.lName a.lName b.lName k).world.queue =
      [msg1, msg2, msg3])
    (hrel : ReleasesBoth msg1 msg2 a b) (hdel : Deletes msg3 device)
    (haccepts : AcceptsOnFree S device.lName) :
    ∃ waitList, (initialCheck S d.app.waitList device.lName a.lName b.lName k).val =
        .ok (0, waitList) ∧
      let run := handleNext S 3 ⟨{ d.app with waitList := waitList }, d.cache⟩
        (initialCheck S d.app.waitList device.lName a.lName b.lName k).world
      ∃ d', run.val = .ok d' ∧ CreatedOnce device a b run.acts d'.app.waitList := by
  -- the call
  have hval := call_queues hS hwf hover d.app.waitList k rfl hdeleted
  obtain ⟨msgs, rest, hworld, hlawful⟩ :=
    initialCheck_stays (hS.closed k) d.app.waitList device.lName a.lName b.lName k
      (Announced.refl k) _ hval
  refine ⟨_, hval, ?_⟩
  rw [hworld] at hqueue ⊢
  have hmsgs : msgs = [msg1, msg2, msg3] := by
    rw [← hqueue]
    show msgs = k.queue ++ msgs
    rw [hidle, List.nil_append]
  subst hmsgs
  obtain ⟨h1, h2, h3, hgone, ⟨a', ha', haname, haindex, hafree⟩, b', hb', hbname, hbindex, hbfree⟩ :=
    hover.dismantles (hlawful hwf) hrel hdel
  have hwf' : WellFormed (after k.links [msg1, msg2, msg3]) := hlawful hwf _ (last_mem_views _ _)
  have hothers := deleteWaitListNode_gone device.lName hnames
  generalize (deleteWaitListNode d.app.waitList device.lName).1 = others at hothers ⊢
  rw [← hcache] at h1 h2 h3
  have hrest : ∀ other ∈ others, other.hsrName ≠ device.lName := fun other hmem hname =>
    hothers (hname ▸ List.mem_map_of_mem hmem)
  -- the messages
  obtain ⟨node, others', next, hnode, hothers', hnext, hrun, hacts⟩ := dismantled_run (S := S)
    (d := ⟨{ d.app with waitList := others ++ [newNode device.lName a.lName b.lName] }, d.cache⟩)
    hqueue h1 h2 h3 rfl rfl hrest (untold_newNode _ _ _)
  -- the creation
  have hname : device.lName = node.hsrName := hnode.hsrName.symm
  rw [hname] at haccepts hgone
  obtain ⟨ret, hcreated, hlog⟩ := createHif_accepted (S := S)
    (k := { k.announce [msg1, msg2, msg3] rest with queue := [] }) hS hwf' haccepts
    (hname ▸ hover.fits) hgone ⟨ha', haname.trans hnode.slave1Name.symm⟩ hafree
    ⟨hb', hbname.trans hnode.slave2Name.symm⟩ hbfree
  rw [hcreated] at hrun
  rw [hlog] at hacts
  refine ⟨_, hrun, ?_⟩
  dsimp only
  rw [hacts, hnext, List.append_nil]
  refine ⟨⟨_, rfl, ?_, haindex, hbindex⟩, ⟨node, rfl, hnode.hsrName, hnode.slave1Name,
    hnode.slave2Name⟩, hothers'⟩
  rw [← hname]
  exact hsrRequest_name_iff.mpr hover.fits

/-! ## a run on fixed inputs -/

def hsr0 : LinkObj := hsrDevice 5 (cs "hsr0") 3 2
def eth0OfHsr0 : LinkObj := portLink 2 (cs "eth0") none 5
def eth1OfHsr0 : LinkObj := portLink 3 (cs "eth1") none 5

/-- `hsr0` goes, and leaves its ports -/
def hsr0Deleted : List LinkMsg := [⟨.new, eth1, 0⟩, ⟨.new, eth0, 0⟩, ⟨.del, hsr0, 0⟩]

/-- a kernel that accepts every create request, and deletes `hsr0` where it can -/
def deletingSys : Sys (Kernel Unit) where
  nlConnect k := (0, k)
  rtnlLinkAllocCache k := ((0, devices k.links), k)
  rtnlLinkAdd _ k := (0, k)
  rtnlLinkDelete _ k :=
    if Lawful k.links hsr0Deleted then (0, k.announce hsr0Deleted ()) else (-1, k)
  calloc k := (true, k)
  cdbEditStatus _ _ _ k := (0, k)
  addrText addr := (addr.map NlAddr.aAddr).getD []
  asserts := true

lemma deletingSys_consistent : Consistent deletingSys where
  connect _ := rfl
  dump _ := rfl
  calloc _ := rfl
  add _ k := Announced.refl k
  delete _ k := by
    show Announced k (if Lawful k.links hsr0Deleted then _ else (-1, k)).2
    split
    · rename_i hlawful
      exact ⟨hsr0Deleted, (), rfl, fun _ => hlawful⟩
    · exact Announced.refl k

def hsr0Kernel : Kernel Unit := ⟨[eth0OfHsr0, eth1OfHsr0, hsr0], [], ()⟩

/-- `hsr1` waits for `eth0` and could be created as soon as it is free -/
def hsr1Waits : LinkDaemon :=
  ⟨{ HsrModule.init with
    waitList := [waiting (cs "hsr1") (cs "eth0") (cs "eth2") SLAVE1_BUSY] }, hsr0Kernel.links⟩

lemma hsr0_over : DeviceOver hsr0Kernel.links hsr0 eth0OfHsr0 eth1OfHsr0 where
  mem := by decide
  dev := by decide
  only := by decide
  ether := rfl
  hsr := by decide
  fits := by decide
  first := ⟨⟨by decide, by decide, by decide⟩, rfl, rfl, rfl⟩
  second := ⟨⟨by decide, by decide, by decide⟩, rfl, rfl, rfl⟩
  ne := by decide
  ports := by decide

theorem hsr0_gets_its_ports_back :
    ∃ waitList, (initialCheck deletingSys hsr1Waits.app.waitList (cs "hsr0") (cs "eth0") (cs "eth1")
        hsr0Kernel).val = .ok (0, waitList) ∧
      let run := handleNext deletingSys 3 ⟨{ hsr1Waits.app with waitList := waitList },
        hsr1Waits.cache⟩ (initialCheck deletingSys hsr1Waits.app.waitList (cs "hsr0") (cs "eth0")
        (cs "eth1") hsr0Kernel).world
      ∃ d', run.val = .ok d' ∧ CreatedOnce hsr0 eth0OfHsr0 eth1OfHsr0 run.acts d'.app.waitList :=
  reapplied_once deletingSys deletingSys_consistent hsr0Kernel hsr1Waits hsr0 eth0OfHsr0 eth1OfHsr0
    ⟨.new, eth1, 0⟩ ⟨.new, eth0, 0⟩ ⟨.del, hsr0, 0⟩ (by decide) rfl rfl hsr0_over (by decide)
    ⟨hsr0, 0, by decide, le_rfl⟩ rfl
    (.inr ⟨⟨rfl, ⟨rfl, rfl⟩, rfl, rfl, rfl⟩, ⟨rfl, ⟨rfl, rfl⟩, rfl, rfl, rfl⟩⟩)
    ⟨rfl, ⟨rfl, rfl⟩⟩ ⟨fun _ => le_rfl, fun _ _ _ _ _ _ => le_rfl⟩

end Hsr
