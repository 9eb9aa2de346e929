import ConfdbHsr.CheckTable
import ConfdbHsr.FlagTruth

/-!
# Is a node left waiting that could be created?

A waiting node is tried only by the handler of a notification, and each handler tries one node.

* `Ready`            the device of a node could be created;
* `NoneStranded`     no node is ready, unless an earlier one stands in its way;
* `KernelAnswers`    what a kernel answers to a create request;
* `Tries`            the step leaves no node behind that it makes ready;
* `createHif_sends`, `createHif_takes`   a ready node is asked for, and a created one takes what it
                     shares with others;
* `none_stranded`    along every run of such steps no node is left behind;
* `queued_behind_another_one`   a run on which one is: its configuration arrives while another node
                     waits.

The links that the daemon has seen lag behind those of the kernel, and an attempt is made on the
latter.  The invariant is therefore that a node that no earlier one stands in the way of is not
ready in some view: in the cache, or in the links as they are after one of the pending messages.
-/

namespace Hsr
open Nl Proc Scan Machine

variable {ω : Type}

/-! ## the property -/

/-- both slaves exist and have no master, and no device has the name of the node -/
structure Ready (links : List LinkObj) (node : WaitListNode) : Prop where
  free : ∀ slot, sight links (node.slaveName slot) = .free
  unused : sight links node.hsrName = .missing

/-- two nodes of one name, or with a slave in common -/
def Shares (a b : WaitListNode) : Prop :=
  a.hsrName = b.hsrName ∨ ∃ slot slot', a.slaveName slot = b.slaveName slot'

/-- a ready node has an earlier one that shares something with it -/
def NoneStranded (links : List LinkObj) (waitList : List WaitListNode) : Prop :=
  ∀ node, First Shares waitList node → ¬ Ready links node

/-- in a state in which every message has been handled, no node is left behind -/
def QuietlyTried (d : LinkDaemon) (k : Kernel ω) : Prop :=
  k.queue = [] → NoneStranded k.links d.app.waitList

def LeavesNoneStranded (h : Handled Fault (Kernel ω) Act LinkDaemon (LinkInput ω)) : Prop :=
  QuietlyTried h.pre h.world ∧ ∀ d, h.out.val = .ok d → QuietlyTried d h.out.world

instance (links : List LinkObj) (node : WaitListNode) : Decidable (Ready links node) :=
  decidable_of_iff ((∀ slot, sight links (node.slaveName slot) = .free) ∧
    sight links node.hsrName = .missing) ⟨fun h => ⟨h.1, h.2⟩, fun h => ⟨h.free, h.unused⟩⟩

instance : DecidableRel Shares := fun a b =>
  decidable_of_iff (a.hsrName = b.hsrName ∨ ¬ ∀ slot slot', a.slaveName slot ≠ b.slaveName slot')
    (or_congr_right (by simp))

/-! ## the kernel's answers -/

/-- the ports of the request exist, are different and free, and its name is not used -/
structure Creatable (links : List LinkObj) (link : RtnlLink) : Prop where
  port1 : ∃ port ∈ devices links, port.lIndex = link.hsrSlave1 ∧ port.lMaster = 0
  port2 : ∃ port ∈ devices links, port.lIndex = link.hsrSlave2 ∧ port.lMaster = 0
  ne : link.hsrSlave1 ≠ link.hsrSlave2
  unused : sight links link.lName = .missing

/-- the device of the request is there, and has two ports -/
structure Taken (links links' : List LinkObj) (link : RtnlLink) : Prop where
  ne : link.hsrSlave1 ≠ link.hsrSlave2
  used : sight links' link.lName ≠ .missing
  ports : ∀ port ∈ devices links, port.lIndex = link.hsrSlave1 ∨ port.lIndex = link.hsrSlave2 →
    sight links' port.lName ≠ .free

/-- a create request is accepted if it can be carried out, and what is accepted is carried out -/
def Answered (links links' : List LinkObj) : Act → Prop
  | .linkAdd _ link ret => (Creatable links link → 0 ≤ ret) ∧ (0 ≤ ret → Taken links links' link)
  | _ => True

/-- the kernel answers the create requests of the step -/
def KernelAnswers (h : Handled Fault (Kernel ω) Act LinkDaemon (LinkInput ω)) : Prop :=
  ∀ act ∈ h.out.acts, Answered h.world.links h.out.world.links act

instance (links : List LinkObj) (link : RtnlLink) : Decidable (Creatable links link) :=
  decidable_of_iff ((∃ port ∈ devices links, port.lIndex = link.hsrSlave1 ∧ port.lMaster = 0) ∧
    (∃ port ∈ devices links, port.lIndex = link.hsrSlave2 ∧ port.lMaster = 0) ∧
    link.hsrSlave1 ≠ link.hsrSlave2 ∧ sight links link.lName = .missing)
    ⟨fun h => ⟨h.1, h.2.1, h.2.2.1, h.2.2.2⟩, fun h => ⟨h.port1, h.port2, h.ne, h.unused⟩⟩

instance (links links' : List LinkObj) (link : RtnlLink) : Decidable (Taken links links' link) :=
  decidable_of_iff (link.hsrSlave1 ≠ link.hsrSlave2 ∧ sight links' link.lName ≠ .missing ∧
    ∀ port ∈ devices links, port.lIndex = link.hsrSlave1 ∨ port.lIndex = link.hsrSlave2 →
      sight links' port.lName ≠ .free)
    ⟨fun h => ⟨h.1, h.2.1, h.2.2⟩, fun h => ⟨h.ne, h.used, h.ports⟩⟩

instance (links links' : List LinkObj) : DecidablePred (Answered links links')
  | .linkAdd _ link ret => inferInstanceAs (Decidable ((Creatable links link → 0 ≤ ret) ∧
      (0 ≤ ret → Taken links links' link)))
  | .createHif _ => .isTrue trivial
  | .linkDelete _ _ => .isTrue trivial
  | .hsrGetSlave _ => .isTrue trivial
  | .interfacesStore _ _ => .isTrue trivial
  | .cdbEdit _ _ _ => .isTrue trivial
  | .nodeNote _ => .isTrue trivial

instance : DecidablePred (@KernelAnswers ω) := fun h =>
  inferInstanceAs (Decidable (∀ act ∈ h.out.acts, Answered h.world.links h.out.world.links act))

/-! ## the condition -/

section
variable (S : Sys (Kernel ω)) (d : LinkDaemon) (k : Kernel ω)

/-- no ready node loses the one that stood in its way to a configuration call for the name -/
def UncoversNone (ifName : CStr) : Prop :=
  let rest := (deleteWaitListNode d.app.waitList ifName).1
  ∀ node ∈ rest, First Shares rest node → First Shares d.app.waitList node ∨
    ∃ view ∈ views d.cache k.queue, ¬ Ready view node

/-- nothing else waits, and `get_master` finds no master of a slave -/
def CreatedAtOnce (table : List LinkObj) (rest : List WaitListNode) (node : WaitListNode) : Prop :=
  rest = [] ∧ ∀ slot, ∀ link ∈ rtnlLinkGetByName table (node.slaveName slot),
    claimed table link.lIndex = false

/-- a ready node of a configuration is created at once, or one that shares something with it is
waiting -/
def QueuesNoneReady (node : WaitListNode) : Prop :=
  let rest := (deleteWaitListNode d.app.waitList node.hsrName).1
  Ready k.links node → CreatedAtOnce (devices k.links) rest node ∨ ∃ e ∈ rest, Shares e node

/-- the name of a node that is tried fits in a request; and if the message makes a node ready, that
one is tried, or a ready one that takes something from it -/
def TriesReady (msg : LinkMsg) (queue : List LinkMsg) : Prop :=
  (∀ t ∈ target d.app.waitList (msgReaction d.cache msg), t.hsrName.length < IFNAMSIZ) ∧
  ∀ node ∈ d.app.waitList, First Shares d.app.waitList node → ¬ Ready d.cache node →
    (∀ view ∈ views (msg.apply d.cache) queue, Ready view node) →
    ∃ t ∈ target d.app.waitList (msgReaction d.cache msg), Shares t node ∧ t.Distinct ∧
      Ready k.links t ∧ 0 ≤ (S.nlConnect { k with queue := queue }).1

/-- the step leaves no node behind that it makes ready -/
def Tries (h : Handled Fault (Kernel ω) Act LinkDaemon (LinkInput ω)) : Prop :=
  match h.input with
  | .config (some ifName) none => UncoversNone h.pre h.world ifName
  | .config (some ifName) (some ⟨some slaveA, some slaveB⟩) =>
    UncoversNone h.pre h.world ifName ∧
      QueuesNoneReady h.pre h.world (newNode ifName slaveA slaveB)
  | .handle => ∀ msg ∈ h.world.queue.head?, TriesReady S h.pre h.world msg h.world.queue.tail
  | _ => True

instance (ifName : CStr) : Decidable (UncoversNone d k ifName) :=
  inferInstanceAs (Decidable (∀ node ∈ (deleteWaitListNode d.app.waitList ifName).1,
    First Shares (deleteWaitListNode d.app.waitList ifName).1 node →
      First Shares d.app.waitList node ∨ ∃ view ∈ views d.cache k.queue, ¬ Ready view node))

instance (table : List LinkObj) (rest : List WaitListNode) (node : WaitListNode) :
    Decidable (CreatedAtOnce table rest node) :=
  inferInstanceAs (Decidable (rest = [] ∧ ∀ slot,
    ∀ link ∈ rtnlLinkGetByName table (node.slaveName slot), claimed table link.lIndex = false))

instance (node : WaitListNode) : Decidable (QueuesNoneReady d k node) :=
  inferInstanceAs (Decidable (Ready k.links node →
    CreatedAtOnce (devices k.links) (deleteWaitListNode d.app.waitList node.hsrName).1 node ∨
      ∃ e ∈ (deleteWaitListNode d.app.waitList node.hsrName).1, Shares e node))

instance (msg : LinkMsg) (queue : List LinkMsg) : Decidable (TriesReady S d k msg queue) :=
  inferInstanceAs (Decidable (_ ∧ ∀ node ∈ d.app.waitList, First Shares d.app.waitList node →
    ¬ Ready d.cache node → (∀ view ∈ views (msg.apply d.cache) queue, Ready view node) →
      ∃ t ∈ target d.app.waitList (msgReaction d.cache msg), Shares t node ∧ t.Distinct ∧
        Ready k.links t ∧ 0 ≤ (S.nlConnect { k with queue := queue }).1))

instance : DecidablePred (Tries S)
  | ⟨d, k, .config (some ifName) none, _⟩ =>
    inferInstanceAs (Decidable (UncoversNone d k ifName))
  | ⟨d, k, .config (some ifName) (some ⟨some slaveA, some slaveB⟩), _⟩ =>
    inferInstanceAs (Decidable (UncoversNone d k ifName ∧
      QueuesNoneReady d k (newNode ifName slaveA slaveB)))
  | ⟨d, k, .handle, _⟩ =>
    inferInstanceAs (Decidable (∀ msg ∈ k.queue.head?, TriesReady S d k msg k.queue.tail))
  | ⟨_, _, .kernel _ _, _⟩ => .isTrue trivial
  | ⟨_, _, .config none _, _⟩ => .isTrue trivial
  | ⟨_, _, .config (some _) (some ⟨none, _⟩), _⟩ => .isTrue trivial
  | ⟨_, _, .config (some _) (some ⟨some _, none⟩), _⟩ => .isTrue trivial

end

/-! ## nodes of the same names -/

section
variable {a a' b b' : WaitListNode}

lemma SameNames.ready_iff (h : SameNames a b) {links : List LinkObj} :
    Ready links b ↔ Ready links a := by
  constructor
  · intro hready
    refine ⟨fun slot => ?_, ?_⟩
    · rw [← h.slaveName]
      exact hready.free slot
    · rw [← h.hsrName]
      exact hready.unused
  · intro hready
    refine ⟨fun slot => ?_, ?_⟩
    · rw [h.slaveName]
      exact hready.free slot
    · rw [h.hsrName]
      exact hready.unused

lemma SameNames.shares (h : SameNames a a') (h' : SameNames b b') (hab : Shares a b) :
    Shares a' b' := by
  unfold Shares
  rw [h.hsrName, h'.hsrName]
  refine hab.imp id fun ⟨slot, slot', hslot⟩ => ⟨slot, slot', ?_⟩
  rw [h.slaveName, h'.slaveName, hslot]

end

/-! ## an attempt -/

lemma sight_free_iff {links : List LinkObj} {name : CStr} :
    sight links name = .free ↔ ∃ link, deviceNamed links name = some link ∧ link.lMaster = 0 := by
  unfold sight
  cases deviceNamed links name with
  | none => simp
  | some link =>
    show sightOf links link = .free ↔ _
    unfold sightOf
    split
    · rename_i hzero
      exact iff_of_true rfl ⟨link, rfl, hzero⟩
    · rename_i hne
      refine iff_of_false nofun ?_
      rintro ⟨link', hlink, hzero⟩
      obtain rfl := Option.some.inj hlink
      exact hne hzero

section
variable {S : Sys (Kernel ω)} (hS : Consistent S) {k : Kernel ω} {node : WaitListNode}
include hS

lemma dumped_of_connect (hconnect : 0 ≤ (S.nlConnect k).1) :
    dumped S k = some (devices k.links) ∧ afterDump S k = k := by
  have hnot : ¬ (S.nlConnect k).1 < 0 := Int.not_lt.mpr hconnect
  constructor
  · rw [dumped, if_neg hnot, hS.connect, hS.dump]
    rfl
  · rw [afterDump, if_neg hnot, hS.connect, hS.dump]

omit hS in
lemma createHsrInterface_request {P : Act → Prop} {ifName : CStr} {slave1 slave2 : Option LinkObj}
    {version : UInt8} (hadd : ∀ a ∈ slave1, ∀ b ∈ slave2, ∀ ret,
      P (.linkAdd ifName (hsrRequest ifName a.lIndex b.lIndex version) ret)) :
    Always P (createHsrInterface S ifName slave1 slave2 version) := by
  cases slave1 with
  | none => exact always_fail _
  | some a =>
    cases slave2 with
    | none => exact always_fail _
    | some b =>
      intro w act hact
      rw [createHsrInterface_run] at hact
      rw [List.mem_singleton.mp hact]
      exact hadd a rfl b rfl _

/-- a create request is for the two slaves of the node, or for one port twice -/
def RequestOf (links : List LinkObj) (node : WaitListNode) : Act → Prop
  | .linkAdd _ link _ => link.hsrSlave1 = link.hsrSlave2 ∨
      ∃ a b, deviceNamed links node.slave1Name = some a ∧
        deviceNamed links node.slave2Name = some b ∧
        link = hsrRequest node.hsrName a.lIndex b.lIndex 1
  | _ => True

lemma createHif_requests : ActsAt (RequestOf k.links node) (createHif S node) k := by
  have hrequests : Always (RequestOf k.links node)
      (createOrRecreate S node.hsrName node.slave1Name node.slave2Name (devices k.links)) := by
    unfold createOrRecreate
    dsimp only
    split
    · refine createHsrInterface_request fun a ha b hb ret => .inr ⟨a, b, ha, hb, rfl⟩
    · refine always_bind (deleteHsrInterface_always S fun _ => trivial) fun ret => ?_
      refine always_ite (fun _ => always_pure _) fun _ => ?_
      refine createHsrInterface_request fun a ha b hb ret => .inl ?_
      rw [ha] at hb
      obtain rfl := Option.some.inj hb
      rfl
  intro act hact
  rw [createHif_acts] at hact
  rcases List.mem_cons.mp hact with rfl | hact
  · trivial
  · obtain ⟨ret, -, hrun⟩ := withDump_eq S (fun _ => putUnset)
      (createOrRecreate S node.hsrName node.slave1Name node.slave2Name) k
    rw [createCode, createHifFromWaitlist, hrun] at hact
    by_cases hconnect : 0 ≤ (S.nlConnect k).1
    · obtain ⟨hdump, hworld⟩ := dumped_of_connect hS hconnect
      rw [hdump, hworld] at hact
      exact hrequests k act hact
    · have hdump : dumped S k = none := by
        rw [dumped, if_pos (by omega)]
      rw [hdump] at hact
      cases hact

theorem createHif_sends (hwf : WellFormed k.links) (hdistinct : node.Distinct)
    (hfits : node.hsrName.length < IFNAMSIZ) (hconnect : 0 ≤ (S.nlConnect k).1) (hready : Ready k.links node) :
    ∃ link ret, .linkAdd node.hsrName link ret ∈ (createHif S node k).acts ∧
      Creatable k.links link := by
  obtain ⟨hdump, hworld⟩ := dumped_of_connect hS hconnect
  obtain ⟨a, ha, hafree⟩ := sight_free_iff.mp (hready.free .slave1)
  obtain ⟨b, hb, hbfree⟩ := sight_free_iff.mp (hready.free .slave2)
  obtain ⟨hamem, haname⟩ := (deviceNamed_iff hwf).mp ha
  obtain ⟨hbmem, hbname⟩ := (deviceNamed_iff hwf).mp hb
  have hnone : deviceNamed k.links node.hsrName = none :=
    deviceNamed_none_iff.mpr (sight_missing_iff.mp hready.unused)
  have hrun := createCode_absent hdump ha hb hnone
  rw [hworld, createHsrInterface_run] at hrun
  refine ⟨hsrRequest node.hsrName a.lIndex b.lIndex 1,
    (S.rtnlLinkAdd (hsrRequest node.hsrName a.lIndex b.lIndex 1) k).1, ?_,
    ⟨a, hamem, rfl, hafree⟩, ⟨b, hbmem, rfl, hbfree⟩, ?_, ?_⟩
  · rw [createHif_acts, hrun]
    exact List.mem_cons_of_mem _ List.mem_cons_self
  · intro hindex
    have hab := hwf.index_inj hamem hbmem hindex
    rw [← hab] at hbname
    exact hdistinct (haname.symm.trans hbname)
  · rw [hsrRequest_name_iff.mpr hfits]
    exact hready.unused

theorem createHif_takes (hwf : WellFormed k.links) (hfits : node.hsrName.length < IFNAMSIZ)
    {links' : List LinkObj} {ifName : CStr} {link : RtnlLink} {ret : Int}
    (hmem : .linkAdd ifName link ret ∈ (createHif S node k).acts)
    (htaken : Taken k.links links' link) {other : WaitListNode} (hshares : Shares node other) :
    ¬ Ready links' other := by
  intro hready
  rcases createHif_requests hS _ hmem with hsame | ⟨a, b, ha, hb, rfl⟩
  · -- no device has one port twice
    exact htaken.ne hsame
  · obtain ⟨hamem, haname⟩ := (deviceNamed_iff hwf).mp ha
    obtain ⟨hbmem, hbname⟩ := (deviceNamed_iff hwf).mp hb
    rcases hshares with hname | ⟨slot, slot', hslave⟩
    · have hused := htaken.used
      rw [hsrRequest_name_iff.mpr hfits, hname] at hused
      exact hused hready.unused
    · have hfree := hready.free slot'
      rw [← hslave] at hfree
      cases slot with
      | slave1 => exact htaken.ports a hamem (.inl rfl) (haname ▸ hfree)
      | slave2 => exact htaken.ports b hbmem (.inr rfl) (hbname ▸ hfree)

end

/-! ## a configuration call -/

section
variable {S : Sys (Kernel ω)} (hS : Consistent S) {k : Kernel ω}
include hS

lemma hsrHandler_initialCheck {app : HsrModule} {ifName slaveA slaveB : CStr}
    {Q : List WaitListNode → Prop}
    (hQ : Leaves (· = k) (initialCheck S app.waitList ifName slaveA slaveB) fun p _ => Q p.2) :
    Leaves (· = k) (hsrHandler S app (some ifName) (some ⟨some slaveA, some slaveB⟩)) fun p _ =>
      Q p.2.waitList := by
  refine leaves_bind _ (changeInterfaceList_leaves hS app ifName true) fun p => ?_
  refine leaves_given fun hp => ?_
  refine leaves_bind _ ?_ fun q => leaves_pure fun _ hq => hq
  rw [hp]
  exact hQ

lemma hsrHandler_incomplete {app : HsrModule} {ifName : CStr} {data : HsrData}
    (hdata : data.slaveA = none ∨ data.slaveB = none) :
    Leaves (· = k) (hsrHandler S app (some ifName) (some data)) fun p _ =>
      p.2.waitList = app.waitList := by
  refine leaves_bind _ (changeInterfaceList_leaves hS app ifName true) fun p => ?_
  refine leaves_given fun hp => ?_
  obtain ⟨slaveA, slaveB⟩ := data
  cases slaveA with
  | none => exact leaves_pure fun _ _ => hp
  | some slaveA =>
    cases slaveB with
    | none => exact leaves_pure fun _ _ => hp
    | some slaveB => exact absurd hdata (by simp)

lemma initialCheck_creates (hwf : WellFormed k.links) {waitList : List WaitListNode}
    {ifName slaveA slaveB : CStr} (hready : Ready k.links (newNode ifName slaveA slaveB))
    (honce : CreatedAtOnce (devices k.links) (deleteWaitListNode waitList ifName).1
      (newNode ifName slaveA slaveB)) :
    Leaves (· = k) (initialCheck S waitList ifName slaveA slaveB) fun p _ =>
      p.2 = waitList ∨ p.2 = (deleteWaitListNode waitList ifName).1 := by
  obtain ⟨a, ha, -⟩ := sight_free_iff.mp (hready.free .slave1)
  obtain ⟨b, hb, -⟩ := sight_free_iff.mp (hready.free .slave2)
  have hnone : rtnlLinkGetByName (devices k.links) ifName = none :=
    deviceNamed_none_iff.mpr (sight_missing_iff.mp hready.unused)
  have hfreeA := honce.2 .slave1 a ha
  have hfreeB := honce.2 .slave2 b hb
  refine withDump_leaves hS (fun _ => leaves_fail _) ?_
  refine leaves_sys_bind (fun _ w => w = k) (fun w hw => ?_) fun allocated => ?_
  · subst hw
    exact hS.calloc w
  refine leaves_ite (fun _ => leaves_pure fun _ _ => .inr rfl) fun _ => ?_
  show Leaves _ (mainCheck S _ ifName (deviceNamed k.links slaveA) (deviceNamed k.links slaveB)
    (rtnlLinkGetByName (devices k.links) ifName) _) _
  have ha' : deviceNamed k.links slaveA = some a := ha
  have hb' : deviceNamed k.links slaveB = some b := hb
  rw [ha', hb', hnone]
  refine leaves_bind _ (getMaster_leaves hS _) fun m1 => leaves_given fun h1 => ?_
  refine leaves_bind _ (getMaster_leaves hS _) fun m2 => leaves_given fun h2 => ?_
  obtain rfl : m1 = none := Option.isNone_iff_eq_none.mp (by simpa using h1.trans hfreeA)
  obtain rfl : m2 = none := Option.isNone_iff_eq_none.mp (by simpa using h2.trans hfreeB)
  show Leaves _ (mainCheckFresh S (deleteWaitListNode waitList ifName).1 ifName none none a b _) _
  rw [honce.1]
  refine Yields.leaves (yields_then fun ret => ?_)
  exact yields_ite (fun _ => yields_pure (.inr rfl)) fun _ => yields_pure (.inr rfl)

end

/-! ## runs -/

/-- no node that nothing stands in the way of is ready in all views -/
structure Watched (d : LinkDaemon) (k : Kernel ω) : Prop where
  synced : Synced d.cache k
  unready : ∀ node, First Shares d.app.waitList node →
    ∃ view ∈ views d.cache k.queue, ¬ Ready view node

section
variable {d d' : LinkDaemon} {k k' : Kernel ω}

lemma Watched.quiet (h : Watched d k) : QuietlyTried d k := by
  intro hqueue node hfirst
  obtain ⟨view, hview, hnot⟩ := h.unready node hfirst
  rw [h.synced.views_quiet hqueue] at hview
  rwa [← List.mem_singleton.mp hview]

/-- the nodes of a list that a configuration call leaves: each was first before, or it is not ready
in some view, unless an earlier one stands in its way -/
def Accounted (d : LinkDaemon) (k : Kernel ω) (waitList : List WaitListNode) : Prop :=
  ∀ node, First Shares waitList node → First Shares d.app.waitList node ∨
    ∃ view ∈ views d.cache k.queue, ¬ Ready view node

lemma Accounted.keeps : Accounted d k d.app.waitList := fun _ hfirst => .inl hfirst

lemma Accounted.removes {ifName : CStr} (h : UncoversNone d k ifName) :
    Accounted d k (deleteWaitListNode d.app.waitList ifName).1 :=
  fun node hfirst => h node hfirst.mem hfirst

lemma Accounted.queues (hsynced : Synced d.cache k) {ifName : CStr} (h : UncoversNone d k ifName)
    {node : WaitListNode} (hnode : Ready k.links node →
      ∃ e ∈ (deleteWaitListNode d.app.waitList ifName).1, Shares e node) :
    Accounted d k ((deleteWaitListNode d.app.waitList ifName).1 ++ [node]) := by
  intro n hfirst
  rcases hfirst.last with hfirst | ⟨rfl, hnone⟩
  · exact Accounted.removes h n hfirst
  · refine .inr ⟨k.links, hsynced.last, fun hready => ?_⟩
    obtain ⟨e, he, hshares⟩ := hnode hready
    exact hnone e he hshares

/-- **A configuration call that tries or covers its node leaves all nodes accounted for.** -/
theorem hsrHandler_accounted {S : Sys (Kernel ω)} (hS : Consistent S) (hsynced : Synced d.cache k)
    (key : Option CStr) (cdbData : Option HsrData)
    (htries : Tries S ⟨d, k, .config key cdbData, linkStep S d (.config key cdbData) k⟩) :
    Leaves (· = k) (hsrHandler S d.app key cdbData) fun p _ => Accounted d k p.2.waitList := by
  have hleaves := hsrHandler_leaves hS d.app key cdbData (k := k)
  rcases key with _ | ifName
  · exact leaves_pure fun _ _ => Accounted.keeps
  rcases cdbData with _ | ⟨_ | slaveA, _ | slaveB⟩
  · refine hleaves.mono (fun _ h => h) fun p _ hlist => ?_
    generalize p.2.waitList = waitList' at hlist
    cases hlist with
    | keeps => exact Accounted.keeps
    | removes => exact Accounted.removes htries
  · refine (hsrHandler_incomplete hS (.inl rfl)).mono (fun _ h => h) fun p _ hlist => ?_
    rw [hlist]
    exact Accounted.keeps
  · refine (hsrHandler_incomplete hS (.inl rfl)).mono (fun _ h => h) fun p _ hlist => ?_
    rw [hlist]
    exact Accounted.keeps
  · refine (hsrHandler_incomplete hS (.inr rfl)).mono (fun _ h => h) fun p _ hlist => ?_
    rw [hlist]
    exact Accounted.keeps
  · obtain ⟨huncovers, hqueues⟩ := htries
    have hsame : SameNames (newNode ifName slaveA slaveB)
        (queuedNode k.links ifName slaveA slaveB) := sameNames_set _ _
    by_cases honce : Ready k.links (newNode ifName slaveA slaveB) ∧
        CreatedAtOnce (devices k.links) (deleteWaitListNode d.app.waitList ifName).1
          (newNode ifName slaveA slaveB)
    · have hwf := hsynced.lawful _ hsynced.last
      refine hsrHandler_initialCheck hS ?_
      refine (initialCheck_creates hS hwf honce.1 honce.2).mono (fun _ h => h) fun p _ hlist => ?_
      rcases hlist with hlist | hlist
      · rw [hlist]
        exact Accounted.keeps
      · rw [hlist]
        exact Accounted.removes huncovers
    · refine hleaves.mono (fun _ h => h) fun p _ hlist => ?_
      generalize p.2.waitList = waitList' at hlist
      cases hlist with
      | keeps => exact Accounted.keeps
      | removes => exact Accounted.removes huncovers
      | queues =>
        refine Accounted.queues hsynced huncovers fun hready => ?_
        rw [hsame.ready_iff] at hready
        rcases hqueues hready with hnow | ⟨e, he, hshares⟩
        · exact absurd ⟨hready, hnow⟩ honce
        · exact ⟨e, he, (SameNames.refl e).shares hsame hshares⟩

lemma Watched.accounted (h : Watched d k) (hk : Announced k k') (hcache : d'.cache = d.cache)
    (hlist : Accounted d k d'.app.waitList) : Watched d' k' := by
  refine ⟨?_, fun node hnode => ?_⟩
  · rw [hcache]
    exact h.synced.announced hk
  · have hview : ∃ view ∈ views d.cache k.queue, ¬ Ready view node :=
      (hlist node hnode).elim (h.unready node) id
    obtain ⟨view, hview, hnot⟩ := hview
    rw [hcache]
    exact ⟨view, hk.views view hview, hnot⟩

/-! ## a message -/

lemma mem_react_acts {S : Sys (Kernel ω)} {waitList : List WaitListNode} {r : Reaction}
    {act : Act} : act ∈ (react S waitList r k).acts ↔
      ∃ t ∈ target waitList r, act ∈ (createHif S t k).acts := by
  have hother := react_actsAt (P := fun a => a ≠ act) S waitList r k
  constructor
  · intro hmem
    by_contra hnone
    refine hother.mpr (fun t ht a ha hact => hnone ⟨t, ht, ?_⟩) act hmem rfl
    rwa [← hact]
  · rintro ⟨t, ht, hmem⟩
    by_contra hnot
    refine hother.mp (fun a ha hact => hnot ?_) t ht act hmem rfl
    rwa [← hact]

/-- what was first in an edited list is first in the list before, or it shares something with the
node that was taken out -/
lemma first_of_edited {r : Reaction} {gone : WaitListNode → Prop} {l l' : List WaitListNode}
    (h : Edited (Keeps r) gone l l') {node : WaitListNode} (hfirst : First Shares l' node) :
    ∃ a, SameNames a node ∧ (First Shares l a ∨ ∃ t, gone t ∧ Shares t a) := by
  have hold : ∀ {m : List WaitListNode}, List.Forall₂ (Keeps r) m l' →
      ∃ a, First Shares m a ∧ SameNames a node := by
    intro m hm
    have hsame : List.Forall₂ SameNames m l' := hm.imp fun a b hk => hk.toSameNames
    exact hfirst.of_forall₂ hsame fun hb ha hba => hb.shares ha hba
  rcases h with h | ⟨pre, t, post, rfl, hgone, h⟩
  · obtain ⟨a, ha, hsame⟩ := hold h
    exact ⟨a, hsame, .inl ha⟩
  · obtain ⟨a, ha, hsame⟩ := hold h
    exact ⟨a, hsame, ha.insert.imp id fun hta => ⟨t, hgone, hta⟩⟩

section
variable {S : Sys (Kernel ω)} (hS : Consistent S) {waitList : List WaitListNode} {r : Reaction}
  {links' : List LinkObj} (hwf : WellFormed k.links)
  (hfits : ∀ t ∈ target waitList r, t.hsrName.length < IFNAMSIZ)
  (hanswers : ∀ act ∈ (react S waitList r k).acts, Answered k.links links' act)
include hS hwf hfits hanswers

lemma created_takes {t : WaitListNode} (ht : target waitList r = some t)
    {link : RtnlLink} {ret : Int} (hmem : .linkAdd t.hsrName link ret ∈ (react S waitList r k).acts)
    (hret : 0 ≤ ret) {node : WaitListNode} (hshares : Shares t node) : ¬ Ready links' node := by
  obtain ⟨t', ht', hact⟩ := mem_react_acts.mp hmem
  obtain rfl : t = t' := Option.some.inj (ht.symm.trans ht')
  exact createHif_takes hS hwf (hfits t ht) hact ((hanswers _ hmem).2 hret) hshares

lemma target_takes (hconnect : 0 ≤ (S.nlConnect k).1) {t : WaitListNode}
    (ht : target waitList r = some t) (hdistinct : t.Distinct) (hready : Ready k.links t)
    {node : WaitListNode} (hshares : Shares t node) : ¬ Ready links' node := by
  obtain ⟨link, ret, hact, hcreatable⟩ :=
    createHif_sends hS hwf hdistinct (hfits t ht) hconnect hready
  have hmem := mem_react_acts.mpr ⟨t, ht, hact⟩
  exact created_takes hS hwf hfits hanswers ht hmem ((hanswers _ hmem).1 hcreatable) hshares

lemma gone_takes {t : WaitListNode} (hgone : Created (react S waitList r k).acts t)
    {node : WaitListNode} (hshares : Shares t node) : ¬ Ready links' node := by
  obtain ⟨t', hattempts, hsame, link, ret, hmem, hret⟩ := hgone
  have htried := react_attempts S waitList r k
  have ht : target waitList r = some t' :=
    Option.toList_eq_singleton_iff.mp (htried.symm.trans hattempts)
  exact created_takes hS hwf hfits hanswers ht hmem hret
    (hsame.shares (SameNames.refl node) hshares)

end

lemma Watched.handle {S : Sys (Kernel ω)} (hS : Consistent S) (h : Watched d k) {msg : LinkMsg}
    {q : List LinkMsg} (hqueue : k.queue = msg :: q)
    (hanswers : ∀ act ∈ (linkInput S d msg { k with queue := q }).acts,
      Answered k.links (linkInput S d msg { k with queue := q }).world.links act)
    (htries : TriesReady S d k msg q)
    (hd' : (linkInput S d msg { k with queue := q }).val = .ok d') :
    Watched d' (linkInput S d msg { k with queue := q }).world := by
  have hreceived := h.synced.receive hqueue
  have hwf := hreceived.lawful _ hreceived.last
  obtain ⟨hcache, hk, -⟩ := linkInput_leaves hS d msg (Q := fun _ => True)
    (fun _ _ _ => trivial) _ rfl d' hd'
  have hsynced : Synced d'.cache (linkInput S d msg { k with queue := q }).world := by
    rw [hcache]
    exact hreceived.announced hk
  generalize hworld : (linkInput S d msg { k with queue := q }).world = k' at *
  rw [linkInput_eq, map_acts] at hanswers
  rw [linkInput_eq, map_val] at hd'
  have hedits := react_edits S d.app.waitList (msgReaction d.cache msg) { k with queue := q }
  cases hval : (react S d.app.waitList (msgReaction d.cache msg) { k with queue := q }).val with
  | error fault =>
    rw [hval] at hd'
    cases hd'
  | ok waitList =>
    rw [hval] at hd'
    obtain rfl := Except.ok.inj hd'
    have hedited := hedits waitList hval
    obtain ⟨hfits, htries⟩ := htries
    refine ⟨hsynced, fun node hfirst => ?_⟩
    -- a node that is not ready in the links of the kernel
    have hlast : ¬ Ready k'.links node → ∃ view ∈ views (msg.apply d.cache) k'.queue,
        ¬ Ready view node := fun hnot => ⟨k'.links, hsynced.last, hnot⟩
    obtain ⟨a, hsame, hfirst | ⟨t, hgone, hshares⟩⟩ := first_of_edited hedited hfirst
    · by_cases hall : ∀ view ∈ views (msg.apply d.cache) q, Ready view a
      · -- the message makes it ready
        obtain ⟨view, hview, hnot⟩ := h.unready a hfirst
        rw [hqueue, views_cons] at hview
        have hbefore : ¬ Ready d.cache a := by
          rcases List.mem_cons.mp hview with rfl | hview
          · exact hnot
          · exact absurd (hall view hview) hnot
        obtain ⟨t, ht, hshares, hdistinct, hready, hconnect⟩ :=
          htries a hfirst.mem hfirst hbefore hall
        apply hlast
        rw [hsame.ready_iff]
        exact target_takes hS hwf hfits hanswers hconnect ht hdistinct hready hshares
      · push Not at hall
        obtain ⟨view, hview, hnot⟩ := hall
        refine ⟨view, hk.views view hview, ?_⟩
        rwa [hsame.ready_iff]
    · apply hlast
      rw [hsame.ready_iff]
      exact gone_takes hS hwf hfits hanswers hgone hshares

lemma step_watched {S : Sys (Kernel ω)} (hS : Consistent S) (h : Watched d k) (input : LinkInput ω)
    (hlaw : KernelLawful ⟨d, k, input, linkStep S d input k⟩)
    (hanswers : KernelAnswers ⟨d, k, input, linkStep S d input k⟩)
    (htries : Tries S ⟨d, k, input, linkStep S d input k⟩)
    (hd' : (linkStep S d input k).val = .ok d') : Watched d' (linkStep S d input k).world := by
  cases input with
  | kernel msgs rest =>
    obtain rfl := Except.ok.inj hd'
    exact h.accounted ⟨msgs, rest, rfl, fun _ => hlaw⟩ rfl Accounted.keeps
  | config key cdbData =>
    obtain ⟨hcache, hk, hlist⟩ := configInput_leaves hS d key cdbData
      (hsrHandler_accounted hS h.synced key cdbData htries) k rfl d' hd'
    exact h.accounted hk hcache hlist
  | handle =>
    cases hqueue : k.queue with
    | nil =>
      rw [handle_nil S d hqueue] at hd' ⊢
      obtain rfl := Except.ok.inj hd'
      exact h
    | cons msg q =>
      have htries' := htries msg (by rw [hqueue]; rfl)
      unfold KernelAnswers at hanswers
      dsimp only at htries' hanswers
      rw [hqueue] at htries'
      rw [handle_cons S d hqueue] at hd' hanswers ⊢
      exact h.handle hS hqueue hanswers htries' hd'

end

/-- **No node is left behind.**  Let the daemon start over the links of a kernel whose table is well
formed and stays so, and that answers the create requests.  Along every run whose steps leave no
node behind that they make ready, in every state in which all messages have been handled no node
waits that could be created, unless an earlier one shares something with it. -/
theorem none_stranded {S : Sys (Kernel ω)} (hS : Consistent S) (k : Kernel ω)
    (hwf : WellFormed k.links) (hqueue : k.queue = []) (inputs : List (LinkInput ω))
    (hlaw : Along (linkStep S) ⟨HsrModule.init, k.links⟩ k inputs KernelLawful)
    (hanswers : Along (linkStep S) ⟨HsrModule.init, k.links⟩ k inputs KernelAnswers)
    (htries : Along (linkStep S) ⟨HsrModule.init, k.links⟩ k inputs (Tries S)) :
    Along (linkStep S) ⟨HsrModule.init, k.links⟩ k inputs LeavesNoneStranded := by
  have hinit : Watched ⟨HsrModule.init, k.links⟩ k :=
    ⟨Synced.init hwf hqueue, fun _ hfirst => hfirst.elim⟩
  refine along_of_inv Watched hinit (fun d k input hinv hstep => ?_)
    ((hlaw.and hanswers).and htries)
  have hnext : ∀ d', (linkStep S d input k).val = .ok d' →
      Watched d' (linkStep S d input k).world :=
    fun d' hd' => step_watched hS hinv input hstep.1.1 hstep.1.2 hstep.2 hd'
  exact ⟨⟨hinv.quiet, fun d' hd' => (hnext d' hd').quiet⟩, hnext⟩

/-! ## runs on fixed inputs -/

def veth1 : LinkObj := etherLink 3 (cs "eth1") (some (cs "veth")) 0 0

/-- `hsr0` comes up over `eth0` and `eth1` -/
def hsr0Created : List LinkMsg :=
  [⟨.new, { hsrDevice 5 (cs "hsr0") 2 3 with lLink := 2 }, 0⟩,
    ⟨.new, portLink 2 (cs "eth0") (some (cs "veth")) 5, 0⟩,
    ⟨.new, portLink 3 (cs "eth1") (some (cs "veth")) 5, 0⟩]

/-- a kernel that creates `hsr0` where it can, and nothing else -/
def creatingSys : Sys (Kernel Unit) where
  nlConnect k := (0, k)
  rtnlLinkAllocCache k := ((0, devices k.links), k)
  rtnlLinkAdd link k :=
    if Creatable k.links link ∧ Lawful k.links hsr0Created then (0, k.announce hsr0Created ())
    else (-1, k)
  rtnlLinkDelete _ k := (-1, k)
  calloc k := (true, k)
  cdbEditStatus _ _ _ k := (0, k)
  addrText addr := (addr.map NlAddr.aAddr).getD []
  asserts := true

lemma creatingSys_consistent : Consistent creatingSys where
  connect _ := rfl
  dump _ := rfl
  calloc _ := rfl
  add link k := by
    show Announced k (if Creatable k.links link ∧ Lawful k.links hsr0Created then _ else (-1, k)).2
    split
    · rename_i h
      exact ⟨hsr0Created, (), rfl, fun _ => h.2⟩
    · exact Announced.refl k
  delete _ k := Announced.refl k

/-- `eth1` does not exist when `hsr0` is configured over `eth0` and `eth1`, and appears later -/
def appearingRun : List (LinkInput Unit) :=
  [.config (some (cs "hsr0")) (slavesData (cs "eth0") (cs "eth1")),
    .kernel [⟨.new, veth1, 0⟩] (), .handle, .handle, .handle, .handle]

theorem appearing_slave_completes_node :
    Along (linkStep creatingSys) ⟨HsrModule.init, [veth0]⟩ ⟨[veth0], [], ()⟩ appearingRun
      LeavesNoneStranded :=
  none_stranded creatingSys_consistent ⟨[veth0], [], ()⟩ (by decide) rfl appearingRun (by decide)
    (by decide) (by decide)

/-- `hsr1` waits for two links that do not exist when `hsr0` is configured over free ones: it is
queued, and no message that is pending or to come has to try it -/
theorem queued_behind_another_one :
    ¬ ∀ (ω : Type) (S : Sys (Kernel ω)), Consistent S → ∀ k : Kernel ω, WellFormed k.links →
      k.queue = [] → ∀ inputs : List (LinkInput ω),
        Along (linkStep S) ⟨HsrModule.init, k.links⟩ k inputs KernelLawful →
        Along (linkStep S) ⟨HsrModule.init, k.links⟩ k inputs KernelAnswers →
        Along (linkStep S) ⟨HsrModule.init, k.links⟩ k inputs LeavesNoneStranded := by
  intro h
  have hrun := h Unit creatingSys creatingSys_consistent ⟨[veth0, veth1], [], ()⟩ (by decide) rfl
    [.config (some (cs "hsr1")) (slavesData (cs "eth8") (cs "eth9")),
      .config (some (cs "hsr0")) (slavesData (cs "eth0") (cs "eth1"))] (by decide) (by decide)
  obtain ⟨-, hrest⟩ := along_cons.mp hrun
  obtain ⟨htried, -⟩ := along_cons.mp (hrest _ rfl)
  have hnone := htried.2 _ rfl rfl
  refine hnone (waiting (cs "hsr0") (cs "eth0") (cs "eth1") 0) ?_ (by decide)
  decide

end Hsr
