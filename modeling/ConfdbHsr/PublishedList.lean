import ConfdbHsr.Daemon.Dump
import ConfdbHsr.Daemon.Edits
import ConfdbHsr.Daemon.Scenario
import ConfdbHsr.NodeCache
import Mathlib.Logic.Function.Basic

/-!
# The published list of nodes

The CDB should list, under the name of each interface, the nodes that the managed cache holds.

* `NodeDaemon`, `nodeStep`   the daemon with its cache of nodes and the entries in the CDB;
* `Publishes`     the entries are those of the nodes of the cache;
* `EntriesFollow`   the condition on a notification and the state before it;
* `published_list_iff`   when the two agree, after start-up and all along a run.

The callback edits the CDB only while `interfaces_size` is positive, and the nodes that are found
at start-up are never handed to it.  An entry does not tell a node from another of the same address
behind an interface of the same name, as one of a device that was created again.
-/

namespace Hsr
open Nl Proc Machine

/-! ## the daemon and the CDB -/

/-- an entry of a node list: the name of the interface and the text of the address -/
abbrev Entry := CStr × CStr

def CdbOp.edit (entry : Entry) : CdbOp → SetEdit Entry
  | .merge => .insert entry
  | .remove => .erase entry

/-- the edit of the entries that an act makes -/
def entryEdit : Act → Option (SetEdit Entry)
  | .cdbEdit op ifName mac => some (op.edit (ifName, mac))
  | _ => none

/-- the module, the managed cache of nodes, the name that each interface was last looked up by, and
the entries in the CDB -/
structure NodeDaemon where
  app : HsrModule
  cache : List HsrNode
  names : UInt32 → CStr
  published : Finset Entry

/-- an input of the machine, or a notification about nodes -/
inductive NodeInput where
  | daemon (input : Input)
  | nodes (n : NodeNotification)

/-- the entries after the acts; an edit of the CDB always succeeds -/
def editEntries (published : Finset Entry) (acts : List Act) : Finset Entry :=
  SetEdit.run published (acts.filterMap entryEdit)

section
variable {W : Type} (S : Sys W)

/-- the name of an interface in the links of the kernel -/
def nameOf (w : W) (ifindex : UInt32) : CStr :=
  ((dumped S w).bind fun links => rtnlLinkI2name links ifindex 128).getD []

/-- the names after a notification: the interface of its nodes is looked up -/
def learn (names : UInt32 → CStr) (n : NodeNotification) (w : W) : UInt32 → CStr :=
  if n.addrs = [] then names else Function.update names n.ifindex (nameOf S w n.ifindex)

def nodeStep (d : NodeDaemon) : NodeInput → Op W NodeDaemon
  | .daemon input =>
    mapLog (step S d.app input) fun app acts =>
      { d with app := app, published := editEntries d.published acts }
  | .nodes n => do
    let names ← sys fun w => (learn S d.names n w, w)
    mapLog (eventInput (hnodeCacheChangeCb S d.app) d.cache n.msg) fun (_, cache) acts =>
      { d with cache := cache, names := names, published := editEntries d.published acts }

/-- the daemon after `app_create`, with the entries that the CDB holds then -/
def started (tables : UInt32 → NodeTable) (cdb : Finset Entry) : Op W (Option NodeDaemon) := do
  let names ← sys fun w => (nameOf S w, w)
  mapLog (appCreate S tables) fun created acts =>
    created.map fun (app, cache) => ⟨app, cache, names, editEntries cdb acts⟩

/-! ## the property and the condition -/

/-- the entries are those of the nodes of the cache -/
def Publishes (d : NodeDaemon) : Prop :=
  ∀ entry, entry ∈ d.published ↔
    ∃ node ∈ d.cache, entry = (d.names node.hnIfindex, hnodeGetMacAddressA S node)

/-- if an input is handled, its result is published -/
def StaysPublished (h : Handled Fault W Act NodeDaemon NodeInput) : Prop :=
  ∀ d, h.out.val = .ok d → Publishes S d

/-- the entry of a pair -/
def entryOf (names : UInt32 → CStr) (pair : NodePair) : Entry :=
  (names pair.1, S.addrText (some (nlAddrOfAttr ⟨1, pair.2⟩)))

/-- the pairs that a notification is about -/
def notedPairs (n : NodeNotification) : List NodePair :=
  n.addrs.map fun nla => (n.ifindex, nla.payload)

/-- the notification brings the pair, or takes it away -/
def PairMoves (cache : List HsrNode) (n : NodeNotification) (pair : NodePair) : Prop :=
  pair ∈ notedPairs n ∧ (pair ∈ cache.map nodePair ↔ n.cmd = .nodeDown)

/-- the pair was in the cache and stays there -/
def PairRemains (cache : List HsrNode) (n : NodeNotification) (pair : NodePair) : Prop :=
  pair ∈ cache.map nodePair ∧ ¬ (n.cmd = .nodeDown ∧ pair ∈ notedPairs n)

/-- the entry of the pair is also that of one that stays -/
def EntryRemains (d : NodeDaemon) (n : NodeNotification) (w : W) (pair : NodePair) : Prop :=
  ∃ other, PairRemains d.cache n other ∧
    entryOf S (learn S d.names n w) other = entryOf S (learn S d.names n w) pair

/-- While an interface is tracked, the entry of a pair that leaves is not that of one that stays;
while none is, that of every pair that comes or leaves is. -/
def EntriesFollow (h : Handled Fault W Act NodeDaemon NodeInput) : Prop :=
  ∀ n, h.input = .nodes n → ∀ pair, PairMoves h.pre.cache n pair →
    if 0 < h.pre.app.interfacesSize then n.cmd = .nodeDown → ¬ EntryRemains S h.pre n h.world pair
    else EntryRemains S h.pre n h.world pair

/-- the pairs that the kernel reports at start-up -/
def startPairs (tables : UInt32 → NodeTable) (w : W) : List NodePair :=
  dumpedPairs tables (hsrInterfaces ((dumped S w).getD []))

/-! ## the assumptions -/

/-- In the worlds of `P` the kernel answers, and its dumps give the interface that name. -/
structure Resolves (P : W → Prop) (ifindex : UInt32) (ifName : CStr) : Prop where
  connect : ∀ w, P w → P (S.nlConnect w).2 ∧ 0 ≤ (S.nlConnect w).1
  dump : ∀ w, P w → P (S.rtnlLinkAllocCache w).2 ∧ 0 ≤ (S.rtnlLinkAllocCache w).1.1 ∧
    rtnlLinkI2name (S.rtnlLinkAllocCache w).1.2 ifindex 128 = some ifName
  edit : ∀ op ifName mac w, P w → P (S.cdbEditStatus op ifName mac w).2

/-- What is assumed where nodes of an interface are notified: while they are handled, the interface
resolves to its name, by which its nodes in the cache are known. -/
structure Named (d : NodeDaemon) (n : NodeNotification) (w : W) : Prop where
  resolves : ∃ P, P w ∧ Resolves S P n.ifindex (nameOf S w n.ifindex)
  keeps : ∀ node ∈ d.cache, node.hnIfindex = n.ifindex → d.names n.ifindex = nameOf S w n.ifindex

def Expected (h : Handled Fault W Act NodeDaemon NodeInput) : Prop :=
  ∀ n, h.input = .nodes n → n.addrs ≠ [] → Named S h.pre n h.world

/-! ## the callback -/

variable {S} {P : W → Prop} {ifindex : UInt32} {ifName : CStr}

lemma editNode_entry (hres : Resolves S P ifindex ifName) (op : CdbOp) (onError : Int → Int)
    (node : HsrNode) {linkCache : List LinkObj}
    (hname : rtnlLinkI2name linkCache node.hnIfindex 128 = some ifName) :
    SpecIn P (editNode S op onError node linkCache) fun r l =>
      (∃ ret, r = .ok ret) ∧ l.filterMap entryEdit = [op.edit (ifName, hnodeGetMacAddressA S node)] := by
  rw [editNode, hname]
  simp only [cdbEditStatus, bind_assoc]
  refine specIn_sys_bind (fun w hw => ⟨hres.edit op _ _ w hw, trivial⟩) fun ret (_ : True) => ?_
  exact specIn_emit_bind (specIn_pure ⟨⟨_, rfl⟩, rfl⟩)

lemma editDumped_entry (hres : Resolves S P ifindex ifName) (op : CdbOp) (onError : Int → Int)
    {node : HsrNode} (hnode : node.hnIfindex = ifindex) :
    SpecIn P (withDump S (fun _ => putUnset) (editNode S op onError node)) fun r l =>
      (∃ ret, r = .ok ret) ∧
        l.filterMap entryEdit = [op.edit (ifName, hnodeGetMacAddressA S node)] := by
  refine specIn_sys_bind hres.connect fun ret hret => ?_
  rw [if_neg (Int.not_lt.mpr hret)]
  refine specIn_sys_bind (Q := fun a => 0 ≤ a.1 ∧
    rtnlLinkI2name a.2 ifindex 128 = some ifName) hres.dump ?_
  rintro ⟨ret, links⟩ ⟨hret, hname⟩
  rw [← hnode] at hname
  show SpecIn P (if ret < 0 then _ else _) _
  rw [if_neg (Int.not_lt.mpr hret)]
  exact editNode_entry hres op onError node hname

lemma entryOf_nodePair (names : UInt32 → CStr) {node : HsrNode} (h : FromNodeList node) :
    (names node.hnIfindex, hnodeGetMacAddressA S node) = entryOf S names (nodePair node) := by
  obtain ⟨cmdId, ifindex, nla, rfl⟩ := h
  rfl

variable (hres : Resolves S P ifindex ifName) {names : UInt32 → CStr}
  (hnames : names ifindex = ifName) (app : HsrModule)
include hres hnames

lemma publish_entry {note : Note HsrNode} {e : SetEdit NodePair}
    (hnote : note.Reports FromNodeList nodePair e) (he : e.elem.1 = ifindex) :
    SpecIn P (publish S app note) fun r l => r = .ok ⟨⟩ ∧ l.filterMap entryEdit =
      if 0 < app.interfacesSize then [e.map (entryOf S names)] else [] := by
  have hedit : ∀ op onError node, FromNodeList node → (nodePair node).1 = ifindex → SpecIn P (do
      let _ ← withDump S (fun _ => putUnset) (editNode S op onError node)
      pure ⟨⟩ : Op W PUnit) fun r l => r = .ok ⟨⟩ ∧
        (Act.nodeNote note :: l).filterMap entryEdit = [op.edit (entryOf S names (nodePair node))] := by
    intro op onError node hfrom hindex
    refine specIn_bind (editDumped_entry hres op onError hindex) (fun _ _ h => nomatch h.1) ?_
    rintro ret l ⟨-, hl⟩
    refine specIn_pure ⟨rfl, ?_⟩
    have hname : names node.hnIfindex = ifName := (congrArg names hindex).trans hnames
    rw [List.append_nil, ← entryOf_nodePair names hfrom, hname, ← hl]
    rfl
  refine specIn_emit_bind (specIn_ite (fun hopen => ?_) fun hclosed => ?_)
  · simp only [if_pos hopen]
    cases note with
    | new nObj =>
      obtain ⟨hfrom, rfl⟩ := hnote
      exact hedit .merge _ nObj hfrom he
    | del oObj =>
      obtain ⟨hfrom, rfl⟩ := hnote
      exact hedit .remove _ oObj hfrom he
    | change oObj nObj diff => exact hnote.elim
  · simp only [if_neg hclosed]
    exact specIn_pure ⟨rfl, rfl⟩

lemma forM_publish_entry {notes : List (Note HsrNode)} {es : List (SetEdit NodePair)}
    (h : List.Forall₂ (Note.Reports FromNodeList nodePair) notes es)
    (hes : ∀ e ∈ es, e.elem.1 = ifindex) :
    SpecIn P (forM notes (publish S app)) fun r l => r = .ok ⟨⟩ ∧ l.filterMap entryEdit =
      if 0 < app.interfacesSize then es.map (SetEdit.map (entryOf S names)) else [] := by
  induction h with
  | nil => exact specIn_pure ⟨rfl, by simp⟩
  | @cons note e notes es hnote _ ih =>
    have hfirst := publish_entry hres hnames app hnote (hes e List.mem_cons_self)
    have hrest := ih fun e' he' => hes e' (List.mem_cons_of_mem e he')
    rw [List.forM_cons]
    refine specIn_bind_val hfirst fun l hl => ?_
    refine hrest.mono fun r l' ⟨hr, hl'⟩ => ⟨hr, ?_⟩
    rw [List.filterMap_append, hl, hl']
    split
    · rfl
    · rfl

omit hres hnames

/-! ## one step -/

lemma elem_ifindex {n : NodeNotification} {e : SetEdit NodePair} (h : e ∈ n.edits) :
    e.elem.1 = n.ifindex := by
  obtain ⟨nla, -, rfl⟩ := List.mem_map.mp h
  cases n.cmd with
  | setNodeList => rfl
  | nodeDown => rfl

theorem nodeStep_nodes {d : NodeDaemon} {s : Finset NodePair} (hholds : HoldsNodes d.cache s)
    {n : NodeNotification} {w : W} (hn : n.addrs ≠ [] → Named S d n w) :
    ∃ d', (nodeStep S d (.nodes n) w).val = .ok d' ∧ HoldsNodes d'.cache (SetEdit.run s n.edits) ∧
      d'.names = learn S d.names n w ∧
      d'.published = if 0 < d.app.interfacesSize then SetEdit.run d.published
          ((SetEdit.effective s n.edits).map (SetEdit.map (entryOf S (learn S d.names n w))))
        else d.published := by
  obtain ⟨notes, cache, heq, hcache, hnotes⟩ :=
    eventInput_tracks (hnodeCacheChangeCb_leaves S d.app) n hholds
  obtain ⟨l, hrun, hl⟩ : ∃ l, (∃ w', forM notes (publish S d.app) w = ⟨.ok ⟨⟩, w', l⟩) ∧
      l.filterMap entryEdit = if 0 < d.app.interfacesSize then
        (SetEdit.effective s n.edits).map (SetEdit.map (entryOf S (learn S d.names n w))) else [] := by
    by_cases haddrs : n.addrs = []
    · have hedits : n.edits = [] := by
        rw [NodeNotification.edits, haddrs]
        rfl
      rw [hedits] at hnotes ⊢
      cases hnotes
      exact ⟨[], ⟨w, rfl⟩, by simp [SetEdit.effective]⟩
    · obtain ⟨P, hw, hres⟩ := (hn haddrs).resolves
      have hlearn : learn S d.names n w n.ifindex = nameOf S w n.ifindex := by
        rw [learn, if_neg haddrs, Function.update_self]
      have hin : ∀ e ∈ SetEdit.effective s n.edits, e.elem.1 = n.ifindex := fun e he =>
        elem_ifindex ((SetEdit.effective_sublist s n.edits).subset he)
      obtain ⟨-, hval, hl⟩ := forM_publish_entry hres hlearn d.app hnotes hin w hw
      rcases hout : forM notes (publish S d.app) w with ⟨val, w', l⟩
      rw [hout] at hval hl
      obtain rfl : val = .ok ⟨⟩ := hval
      exact ⟨l, ⟨w', rfl⟩, hl⟩
  obtain ⟨w', hrun⟩ := hrun
  have hevent : eventInput (hnodeCacheChangeCb S d.app) d.cache n.msg w = ⟨.ok (0, cache), w', l⟩ := by
    rw [heq, bind_apply, hrun, thenRun_ok]
    simp
  refine ⟨{ d with
    cache := cache
    names := learn S d.names n w
    published := editEntries d.published l }, ?_, hcache, rfl, ?_⟩
  · rw [nodeStep, sys_bind_val, mapLog_ok_iff]
    refine ⟨(0, cache), by rw [hevent], ?_⟩
    rw [hevent]
  · show editEntries d.published l = _
    rw [editEntries, hl]
    split
    · rfl
    · rfl

lemma step_entries (app : HsrModule) (input : Input) :
    Always (fun a => entryEdit a = none) (step S app input) := by
  cases input with
  | link cache note =>
    refine always_bind ?_ fun _ => always_pure _
    rw [routeLinkCacheChangeCb_eq]
    exact react_always S fun node _ => ⟨rfl, fun _ _ => rfl, fun _ _ _ => rfl⟩
  | config key cdbData =>
    refine always_bind ?_ fun _ => always_pure _
    cases key with
    | none => exact always_pure _
    | some ifName =>
      exact hsrHandler_always S ⟨fun _ _ => rfl, fun _ _ _ => rfl, fun _ _ => rfl, fun _ _ => rfl⟩

lemma nodeStep_daemon {d d' : NodeDaemon} {input : Input} {w : W}
    (h : (nodeStep S d (.daemon input) w).val = .ok d') :
    d'.cache = d.cache ∧ d'.names = d.names ∧ d'.published = d.published := by
  obtain ⟨app, -, rfl⟩ := mapLog_ok_iff.mp h
  have hnone := List.filterMap_eq_nil_iff.mpr (step_entries (S := S) d.app input w)
  refine ⟨rfl, rfl, ?_⟩
  show editEntries d.published _ = d.published
  rw [editEntries, hnone, SetEdit.run_nil]

/-! ## the invariant -/

lemma publishes_iff {d : NodeDaemon} {s : Finset NodePair} (hholds : HoldsNodes d.cache s) :
    Publishes S d ↔ d.published = s.image (entryOf S d.names) := by
  have hentries : ∀ entry, (∃ node ∈ d.cache, entry = (d.names node.hnIfindex,
      hnodeGetMacAddressA S node)) ↔ entry ∈ s.image (entryOf S d.names) := by
    intro entry
    rw [Finset.mem_image]
    constructor
    · rintro ⟨node, hnode, rfl⟩
      have hmem := (hholds.mem _).mp (List.mem_map_of_mem hnode)
      exact ⟨nodePair node, hmem, (entryOf_nodePair d.names (hholds.good node hnode)).symm⟩
    · rintro ⟨pair, hpair, rfl⟩
      obtain ⟨node, hnode, rfl⟩ := List.mem_map.mp ((hholds.mem pair).mpr hpair)
      exact ⟨node, hnode, (entryOf_nodePair d.names (hholds.good node hnode)).symm⟩
  rw [Publishes, Finset.ext_iff]
  exact forall_congr' fun entry => by rw [hentries]

lemma image_learn {d : NodeDaemon} {s : Finset NodePair} (hholds : HoldsNodes d.cache s)
    {n : NodeNotification} {w : W} (hn : n.addrs ≠ [] → Named S d n w) :
    s.image (entryOf S (learn S d.names n w)) = s.image (entryOf S d.names) := by
  refine Finset.image_congr fun pair hpair => ?_
  obtain ⟨node, hnode, rfl⟩ := List.mem_map.mp ((hholds.mem pair).mpr hpair)
  have hname : learn S d.names n w node.hnIfindex = d.names node.hnIfindex := by
    rw [learn]
    split
    · rfl
    · rename_i haddrs
      by_cases hindex : node.hnIfindex = n.ifindex
      · rw [hindex, Function.update_self, (hn haddrs).keeps node hnode hindex]
      · exact Function.update_of_ne hindex _ _
  exact congrArg (fun ifName => (ifName, _)) hname

lemma edits_set {n : NodeNotification} (h : n.cmd = .setNodeList) :
    n.edits = (notedPairs n).map .insert := by
  rw [NodeNotification.edits, notedPairs, List.map_map, h]
  rfl

lemma edits_down {n : NodeNotification} (h : n.cmd = .nodeDown) :
    n.edits = (notedPairs n).map .erase := by
  rw [NodeNotification.edits, notedPairs, List.map_map, h]
  rfl

lemma entryRemains_iff {d : NodeDaemon} {n : NodeNotification} {w : W} {t : Finset NodePair}
    (ht : ∀ pair, PairRemains d.cache n pair ↔ pair ∈ t) (pair : NodePair) :
    EntryRemains S d n w pair ↔
      entryOf S (learn S d.names n w) pair ∈ t.image (entryOf S (learn S d.names n w)) := by
  rw [EntryRemains, Finset.mem_image]
  exact exists_congr fun other => by rw [ht]

/-- **One notification.**  The edits that the callback makes turn the entries of the nodes of the
cache into those of the nodes that it holds afterwards. -/
theorem entries_iff {d : NodeDaemon} {s : Finset NodePair} (hholds : HoldsNodes d.cache s)
    (n : NodeNotification) (w : W) :
    (if 0 < d.app.interfacesSize then SetEdit.run (s.image (entryOf S (learn S d.names n w)))
        ((SetEdit.effective s n.edits).map (SetEdit.map (entryOf S (learn S d.names n w))))
      else s.image (entryOf S (learn S d.names n w))) =
        (SetEdit.run s n.edits).image (entryOf S (learn S d.names n w)) ↔
      ∀ pair, PairMoves d.cache n pair →
        if 0 < d.app.interfacesSize then n.cmd = .nodeDown → ¬ EntryRemains S d n w pair
        else EntryRemains S d n w pair := by
  cases hcmd : n.cmd with
  | setNodeList =>
    have hmoves : ∀ pair, PairMoves d.cache n pair ↔ pair ∈ (notedPairs n).toFinset \ s := by
      intro pair
      simp [PairMoves, hcmd, hholds.mem]
    have hremains : ∀ pair, PairRemains d.cache n pair ↔ pair ∈ s := by
      intro pair
      simp [PairRemains, hcmd, hholds.mem]
    simp only [hmoves, entryRemains_iff hremains]
    rw [edits_set hcmd, SetEdit.image_run_insert, SetEdit.run_insert]
    by_cases hopen : 0 < d.app.interfacesSize
    · simp [hopen]
    · simp only [if_neg hopen]
      rw [eq_comm, SetEdit.image_union_eq_iff]
  | nodeDown =>
    have hmoves : ∀ pair, PairMoves d.cache n pair ↔ pair ∈ (notedPairs n).toFinset ∩ s := by
      intro pair
      simp [PairMoves, hcmd, hholds.mem]
    have hremains : ∀ pair, PairRemains d.cache n pair ↔ pair ∈ s \ (notedPairs n).toFinset := by
      intro pair
      simp [PairRemains, hcmd, hholds.mem]
    simp only [hmoves, entryRemains_iff hremains]
    rw [edits_down hcmd, SetEdit.run_erase]
    by_cases hopen : 0 < d.app.interfacesSize
    · simp only [if_pos hopen, true_imp_iff]
      exact SetEdit.image_run_erase_iff _ _ _
    · simp only [if_neg hopen]
      rw [eq_comm, SetEdit.image_sdiff_eq_iff]

lemma nodeStep_holds {d d' : NodeDaemon} {i : NodeInput} {w : W}
    (hd : ∃ s, HoldsNodes d.cache s) (hi : Expected S ⟨d, w, i, nodeStep S d i w⟩)
    (h : (nodeStep S d i w).val = .ok d') : ∃ s, HoldsNodes d'.cache s := by
  obtain ⟨s, hholds⟩ := hd
  cases i with
  | daemon input =>
    rw [(nodeStep_daemon h).1]
    exact ⟨s, hholds⟩
  | nodes n =>
    obtain ⟨d'', hval, hcache, -⟩ := nodeStep_nodes hholds (hi n rfl)
    obtain rfl := Except.ok.inj (hval.symm.trans h)
    exact ⟨_, hcache⟩

/-- **One step.**  From a state that publishes its cache, a step does so too iff it meets the
condition. -/
theorem nodeStep_publishes_iff {d : NodeDaemon} {i : NodeInput} {w : W}
    (hd : ∃ s, HoldsNodes d.cache s) (hi : Expected S ⟨d, w, i, nodeStep S d i w⟩)
    (hbefore : Publishes S d) :
    StaysPublished S ⟨d, w, i, nodeStep S d i w⟩ ↔
      EntriesFollow S ⟨d, w, i, nodeStep S d i w⟩ := by
  obtain ⟨s, hholds⟩ := hd
  have hpublished := (publishes_iff hholds).mp hbefore
  cases i with
  | daemon input =>
    refine iff_of_true (fun d' hd' => ?_) nofun
    obtain ⟨hcache, hnames, hentries⟩ := nodeStep_daemon hd'
    rw [← hcache] at hholds
    rw [publishes_iff hholds, hentries, hnames, hpublished]
  | nodes n =>
    have hn : n.addrs ≠ [] → Named S d n w := hi n rfl
    obtain ⟨d', hval, hcache, hnames, hentries⟩ := nodeStep_nodes hholds hn
    have hstays : StaysPublished S ⟨d, w, .nodes n, nodeStep S d (.nodes n) w⟩ ↔
        d'.published = (SetEdit.run s n.edits).image (entryOf S (learn S d.names n w)) := by
      rw [← hnames, ← publishes_iff hcache]
      constructor
      · intro h
        exact h d' hval
      · intro h d'' hd''
        obtain rfl := Except.ok.inj (hval.symm.trans hd'')
        exact h
    have hfollow : EntriesFollow S ⟨d, w, .nodes n, nodeStep S d (.nodes n) w⟩ ↔
        ∀ pair, PairMoves d.cache n pair →
          if 0 < d.app.interfacesSize then n.cmd = .nodeDown → ¬ EntryRemains S d n w pair
          else EntryRemains S d n w pair := by
      constructor
      · intro h
        exact h n rfl
      · intro h m hm
        obtain rfl := NodeInput.nodes.inj hm
        exact h
    rw [hpublished, ← image_learn hholds hn] at hentries
    rw [hstays, hfollow, hentries]
    exact entries_iff hholds n w

/-! ## runs -/

lemma hnodeAllocCache_eq (tables : UInt32 → NodeTable) (w : W) :
    hnodeAllocCache S tables w = match dumped S w with
      | none => ⟨.error .wildPut, afterDump S w, []⟩
      | some links => ⟨.ok (0, (hsrInterfaces links).flatMap fun ifindex =>
          reported (tables ifindex) ifindex), afterDump S w, []⟩ := by
  obtain ⟨ret, -, heq⟩ := withDump_eq S (fun _ => putUnset) (fun linkCache =>
    dumpInterfaces (W := W) tables (hsrInterfaces linkCache) []) w
  rw [hnodeAllocCache, heq]
  cases dumped S w with
  | none => rfl
  | some links =>
    simp only [dumpInterfaces_eq]
    rfl

/-- after a start-up that succeeds, the cache holds the nodes that the kernel reports, by the names
that it gives their interfaces; the CDB is as it was -/
lemma started_holds {tables : UInt32 → NodeTable} {cdb : Finset Entry} {w : W} {d : NodeDaemon}
    (h : (started S tables cdb w).val = .ok (some d)) :
    HoldsNodes d.cache (startPairs S tables w).toFinset ∧ d.names = nameOf S w ∧
      d.published = cdb := by
  obtain ⟨created, hcreated, hd⟩ : ∃ created, (appCreate S tables w).val = .ok created ∧
      (created.map fun (app, cache) => (⟨app, cache, nameOf S w,
        editEntries cdb (appCreate S tables w).acts⟩ : NodeDaemon)) = some d := by
    rw [started, sys_bind_val] at h
    exact mapLog_ok_iff.mp h
  have hrun : appCreate S tables w = _ := bind_apply (hnodeAllocCache S tables) _ w
  rw [hnodeAllocCache_eq] at hrun
  cases hlinks : dumped S w with
  | none =>
    rw [hrun, hlinks] at hcreated
    cases hcreated
  | some links =>
    rw [hlinks] at hrun
    rw [hrun] at hcreated hd
    obtain rfl := Except.ok.inj hcreated
    obtain rfl := Option.some.inj hd
    refine ⟨?_, rfl, rfl⟩
    rw [startPairs, hlinks]
    exact holds_dumps tables (hsrInterfacesLoop_nodup links List.nodup_nil)

/-- **The published list mirrors the cache**, after start-up and after every step of every run,
exactly when the CDB holds the entries of the nodes that the kernel reports at start-up before
they are asked for, and the entries follow every notification. -/
theorem published_list_iff (tables : UInt32 → NodeTable) (cdb : Finset Entry) {w : W}
    {d : NodeDaemon} (hd : (started S tables cdb w).val = .ok (some d)) {inputs : List NodeInput}
    (hrun : Along (nodeStep S) d (started S tables cdb w).world inputs (Expected S)) :
    (Publishes S d ∧
        Along (nodeStep S) d (started S tables cdb w).world inputs (StaysPublished S)) ↔
      (cdb = ((startPairs S tables w).map (entryOf S (nameOf S w))).toFinset ∧
        Along (nodeStep S) d (started S tables cdb w).world inputs (EntriesFollow S)) := by
  obtain ⟨hholds, hnames, hcdb⟩ := started_holds hd
  have hfirst : Publishes S d ↔
      cdb = ((startPairs S tables w).map (entryOf S (nameOf S w))).toFinset := by
    have himage : (startPairs S tables w).toFinset.image (entryOf S (nameOf S w)) =
        ((startPairs S tables w).map (entryOf S (nameOf S w))).toFinset := by
      ext entry
      simp
    rw [publishes_iff hholds, hcdb, hnames, himage]
  rw [← hfirst]
  refine and_congr_right fun hbefore => ⟨fun hstays => ?_, fun hfollow => ?_⟩
  · refine along_of_inv (fun d _ => (∃ s, HoldsNodes d.cache s) ∧ Publishes S d)
      (C := fun h => Expected S h ∧ StaysPublished S h) ⟨⟨_, hholds⟩, hbefore⟩
      (fun d w i hd hi => ?_) fun h hh => ⟨hrun h hh, hstays h hh⟩
    have hiff := nodeStep_publishes_iff hd.1 hi.1 hd.2
    exact ⟨hiff.mp hi.2, fun d' h => ⟨nodeStep_holds hd.1 hi.1 h, hi.2 d' h⟩⟩
  · refine along_of_inv (fun d _ => (∃ s, HoldsNodes d.cache s) ∧ Publishes S d)
      (C := fun h => Expected S h ∧ EntriesFollow S h) ⟨⟨_, hholds⟩, hbefore⟩
      (fun d w i hd hi => ?_) fun h hh => ⟨hrun h hh, hfollow h hh⟩
    have hiff := nodeStep_publishes_iff hd.1 hi.1 hd.2
    have hstays := hiff.mpr hi.2
    exact ⟨hstays, fun d' h => ⟨nodeStep_holds hd.1 hi.1 h, hstays d' h⟩⟩

end

/-! ## one interface and one node

The kernel has the HSR device `hsr0` over `eth0` and `eth1`. -/

def oneInterface : Sys Unit :=
  staticSys [etherLink 1 (cs "eth0") none 3 0, etherLink 2 (cs "eth1") none 3 0,
    hsrDevice 3 (cs "hsr0") 1 2]

lemma oneInterface_resolves : Resolves oneInterface (fun _ => True) 3 (cs "hsr0") where
  connect := fun _ _ => ⟨trivial, Int.le_refl 0⟩
  dump := fun _ _ => ⟨trivial, Int.le_refl 0, rfl⟩
  edit := fun _ _ _ _ _ => trivial

lemma aboutNode_named {d : NodeDaemon} (hnames : d.names 3 = cs "hsr0") (cmd : NodeCmd) :
    Named oneInterface d (aboutNode cmd) () where
  resolves := ⟨fun _ => True, trivial, by cases cmd <;> exact oneInterface_resolves⟩
  keeps := by
    intro _ _ _
    cases cmd <;> exact hnames

/-- a node that appears and disappears while `hsr0` is configured is published -/
theorem tracked_node_published :
    Along (nodeStep oneInterface) ⟨HsrModule.init, [], nameOf oneInterface (), ∅⟩ ()
      [.daemon (.config (some (cs "hsr0")) (slavesData (cs "eth0") (cs "eth1"))),
        .nodes (aboutNode .setNodeList), .nodes (aboutNode .nodeDown)]
      (StaysPublished oneInterface) := by
  refine ((published_list_iff (fun _ => ⟨[], List.nodup_nil⟩) ∅ (w := ())
    (d := ⟨HsrModule.init, [], nameOf oneInterface (), ∅⟩) rfl ?_).mpr ⟨rfl, ?_⟩).2
  · refine along_cons.mpr ⟨nofun, fun d hd => along_cons.mpr ⟨?_, fun d' hd' =>
      along_cons.mpr ⟨?_, fun _ _ => along_nil _ _⟩⟩⟩
    · rintro n hn -
      obtain rfl := NodeInput.nodes.inj hn
      obtain rfl := Except.ok.inj hd
      exact aboutNode_named rfl .setNodeList
    · rintro n hn -
      obtain rfl := NodeInput.nodes.inj hn
      obtain rfl := Except.ok.inj hd
      obtain rfl := Except.ok.inj hd'
      exact aboutNode_named rfl .nodeDown
  · -- the interface is tracked after the first input, and the node is the only one
    refine along_cons.mpr ⟨nofun, fun d hd => along_cons.mpr ⟨fun n hn => ?_, fun d' hd' =>
      along_cons.mpr ⟨fun n hn => ?_, fun _ _ => along_nil _ _⟩⟩⟩
    · obtain rfl := NodeInput.nodes.inj hn
      obtain rfl := Except.ok.inj hd
      exact fun _ _ => nofun
    · obtain rfl := NodeInput.nodes.inj hn
      obtain rfl := Except.ok.inj hd
      obtain rfl := Except.ok.inj hd'
      rintro pair - - ⟨other, ⟨hother, hstays⟩, -⟩
      exact hstays ⟨rfl, hother⟩

theorem start_node_unpublished :
    ¬ ∀ (W : Type) (S : Sys W) (tables : UInt32 → NodeTable) (w : W) (d : NodeDaemon)
      (inputs : List NodeInput), (started S tables ∅ w).val = .ok (some d) →
      Along (nodeStep S) d (started S tables ∅ w).world inputs (Expected S) →
      Publishes S d ∧
        Along (nodeStep S) d (started S tables ∅ w).world inputs (StaysPublished S) := by
  intro h
  have hpublishes := (h Unit oneInterface
    (fun _ => ⟨[(3, ⟨[2, 0, 0, 0, 0, 7], rfl⟩)], List.nodup_singleton _⟩) ()
    ⟨HsrModule.init, [listNode HSR_C_SET_NODE_LIST 3 ⟨1, [2, 0, 0, 0, 0, 7]⟩],
      nameOf oneInterface (), ∅⟩ [] rfl (along_nil _ _)).1
  have hmem := (hpublishes (cs "hsr0", [2, 0, 0, 0, 0, 7])).mpr ⟨_, List.mem_cons_self, rfl⟩
  cases hmem

end Hsr
