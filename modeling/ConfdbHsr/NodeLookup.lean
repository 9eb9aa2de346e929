import ConfdbHsr.Lib.KeyedFind
import ConfdbHsr.Daemon.Acts
import ConfdbHsr.Daemon.NodeList
import ConfdbHsr.Daemon.Scenario
import Mathlib.Data.List.Nodup

/-!
# Looking up a node by interface and address

`hnode_get_by_addr_ifindex` takes the index of the interface as a byte.

* `hnodeGetByAddrIfindex`       the lookup;
* `addInterfaceNodesToCache`    its caller, which adds to the managed cache what it does not find;
* `LookupRight`                 the lookup finds a node of the interface and address if there is one;
* `lookupRight_iff`             exactly when it does;
* `node_lookup_iff`             and exactly when its caller keeps the managed cache free of
                                duplicates.
-/

namespace Hsr
open Nl Proc

variable {W : Type} (S : Sys W)

/-! ## the source -/

/-- `hnode_get_ifindex`, an `int` by its bits -/
def hnodeGetIfindex (node : HsrNode) : UInt32 := node.hnIfindex

def hnodeGetByAddrIfindex (cache : List HsrNode) (ifindex : UInt8) (addr : CStr) :
    Option HsrNode :=
  cache.find? fun node =>
    addr == hnodeGetMacAddressA S node && ifindex.toUInt32 == hnodeGetIfindex node

/-- the loop of `add_interface_nodes_to_cache` over the nodes of an interface -/
def addInterfaceNodes (mngrHnodeCache : List HsrNode) :
    List HsrNode → Op W (Int × List HsrNode)
  | [] => pure (0, mngrHnodeCache)
  | node :: rest => do
    let snode := hnodeGetByAddrIfindex S mngrHnodeCache (hnodeGetIfindex node).toUInt8
      (hnodeGetMacAddressA S node)
    let ret ← addNodeToList S node
    if ret < 0 then pure (ret, mngrHnodeCache)
    else
      addInterfaceNodes
        (if snode = none then ObjectOps.cacheAdd mngrHnodeCache (nlObjectClone node)
          else mngrHnodeCache) rest

/-- `add_interface_nodes_to_cache`; `hnodes` is what `hnode_alloc_cache_for_interface` returns for
an interface, and the cache that it leaves; when it fails it leaves `hnode_cache_fi` unset -/
def addInterfaceNodesToCache (mngrHnodeCache : List HsrNode) (ifName : CStr)
    (hnodes : UInt32 → Int × List HsrNode) : Op W (Int × List HsrNode) :=
  withDump S (fun _ => putUnset) fun linkCache => do
    let hsrLink ← deref .nullGetIfindex (rtnlLinkGetByName linkCache ifName)
    let (ret, hnodeCacheFi) := hnodes hsrLink.getIfindex
    if ret < 0 then putUnset
    else addInterfaceNodes S mngrHnodeCache hnodeCacheFi

/-! ## the lookup -/

/-- the interface of a node and the text of its address -/
def nodeKey (node : HsrNode) : UInt32 × CStr := (node.hnIfindex, hnodeGetMacAddressA S node)

/-- the lookup of a node of the interface `i` with the address text `s` returns such a node of the
cache, and none only if there is none -/
def LookupRight (cache : List HsrNode) (i : UInt32) (s : CStr) : Prop :=
  match hnodeGetByAddrIfindex S cache i.toUInt8 s with
  | some node => node ∈ cache ∧ nodeKey S node = (i, s)
  | none => ∀ node ∈ cache, nodeKey S node ≠ (i, s)

/-- the low byte of an index -/
def lowByte (i : UInt32) : UInt32 := i.toUInt8.toUInt32

lemma lowByte_eq_iff (i : UInt32) : lowByte i = i ↔ i < 256 := by
  have hlow : (lowByte i).toNat = i.toNat % 256 := by
    rw [lowByte, UInt8.toNat_toUInt32, UInt32.toNat_toUInt8]
  rw [← UInt32.toNat_inj, hlow, UInt32.lt_iff_toNat_lt]
  show i.toNat % 256 = i.toNat ↔ i.toNat < 256
  omega

/-- the lookup compares with the low byte of the index -/
lemma lookup_eq_find (cache : List HsrNode) (i : UInt32) (s : CStr) :
    hnodeGetByAddrIfindex S cache i.toUInt8 s =
      cache.find? fun node => nodeKey S node == (lowByte i, s) := by
  rw [hnodeGetByAddrIfindex]
  congr 1
  funext node
  rw [Bool.eq_iff_iff]
  simp only [nodeKey, lowByte, hnodeGetIfindex, Bool.and_eq_true, beq_iff_eq, Prod.mk.injEq]
  constructor
  · rintro ⟨haddr, hindex⟩
    exact ⟨hindex.symm, haddr.symm⟩
  · rintro ⟨hindex, haddr⟩
    exact ⟨haddr.symm, hindex.symm⟩

lemma lookup_none_iff (cache : List HsrNode) (i : UInt32) (s : CStr) :
    hnodeGetByAddrIfindex S cache i.toUInt8 s = none ↔
      ∀ node ∈ cache, nodeKey S node ≠ (lowByte i, s) := by
  rw [lookup_eq_find]
  exact KeyedFind.find_none_iff

/-- **The lookup is right for an index of one byte**, and otherwise only where the cache has no
node of the address under the index or under its low byte. -/
theorem lookupRight_iff (cache : List HsrNode) (i : UInt32) (s : CStr) :
    LookupRight S cache i s ↔ i < 256 ∨
      ∀ node ∈ cache, nodeKey S node ≠ (i, s) ∧ nodeKey S node ≠ (lowByte i, s) := by
  rw [LookupRight]
  cases hfind : hnodeGetByAddrIfindex S cache i.toUInt8 s with
  | none =>
    have hlow := (lookup_none_iff S cache i s).mp hfind
    constructor
    · intro h
      exact .inr fun node hnode => ⟨h node hnode, hlow node hnode⟩
    · rintro (hi | h)
      · rw [(lowByte_eq_iff i).mpr hi] at hlow
        exact hlow
      · exact fun node hnode => (h node hnode).1
  | some node =>
    rw [lookup_eq_find] at hfind
    have hnode := List.mem_of_find?_eq_some hfind
    have hkey : nodeKey S node = (lowByte i, s) := by simpa using List.find?_some hfind
    constructor
    · rintro ⟨-, hi⟩
      have hlow : lowByte i = i := (Prod.mk.inj (hkey.symm.trans hi)).1
      exact .inl ((lowByte_eq_iff i).mp hlow)
    · rintro (hi | h)
      · rw [(lowByte_eq_iff i).mpr hi] at hkey
        exact ⟨hnode, hkey⟩
      · exact absurd hkey (h node hnode).2

/-! ## its caller -/

/-- no two nodes with the same interface and address text -/
def NoDuplicates (cache : List HsrNode) : Prop := (cache.map (nodeKey S)).Nodup

/-- nodes of one interface, with distinct addresses -/
structure NodesOf (i : UInt32) (nodes : List HsrNode) : Prop where
  index : ∀ node ∈ nodes, node.hnIfindex = i
  nodup : (nodes.map (hnodeGetMacAddressA S)).Nodup

/-- the nodes that the lookup in a cache does not find -/
def missed (cache : List HsrNode) (i : UInt32) (nodes : List HsrNode) : List HsrNode :=
  nodes.filter fun node =>
    (hnodeGetByAddrIfindex S cache i.toUInt8 (hnodeGetMacAddressA S node)).isNone

section
variable {S}
variable {i : UInt32} {cache nodes : List HsrNode}

lemma NodesOf.tail {node : HsrNode} (h : NodesOf S i (node :: nodes)) : NodesOf S i nodes :=
  ⟨fun n hn => h.index n (List.mem_cons_of_mem node hn), (List.nodup_cons.mp h.nodup).2⟩

lemma NodesOf.initial {done : List HsrNode} (h : NodesOf S i nodes) (hdone : done <+: nodes) :
    NodesOf S i done :=
  ⟨fun n hn => h.index n (hdone.subset hn), h.nodup.sublist (hdone.sublist.map _)⟩

/-- a node of the interface that is added does not change what is found for another address -/
lemma missed_snoc {node : HsrNode} (h : NodesOf S i (node :: nodes)) :
    missed S (cache ++ [node]) i nodes = missed S cache i nodes := by
  apply List.filter_congr
  intro n hn
  have haddr : hnodeGetMacAddressA S node ≠ hnodeGetMacAddressA S n := by
    intro heq
    refine (List.nodup_cons.mp h.nodup).1 ?_
    rw [heq]
    exact List.mem_map_of_mem hn
  have hkey : nodeKey S node ≠ (lowByte i, hnodeGetMacAddressA S n) :=
    fun hkey => haddr (Prod.mk.inj hkey).2
  rw [Bool.eq_iff_iff, Option.isNone_iff_eq_none, Option.isNone_iff_eq_none, lookup_none_iff,
    lookup_none_iff, List.forall_mem_append, List.forall_mem_singleton]
  exact and_iff_left hkey

/-- what the loop leaves: the nodes that it came to, as far as the lookup missed them, behind the
cache; it comes to all of them unless one could not be published -/
theorem addInterfaceNodes_yields (h : NodesOf S i nodes) :
    Yields (fun r => ∃ done, done <+: nodes ∧ (0 ≤ r.1 → done = nodes) ∧
      r.2 = cache ++ missed S cache i done) (addInterfaceNodes S cache nodes) := by
  induction nodes generalizing cache with
  | nil => exact yields_pure ⟨[], List.prefix_rfl, fun _ => rfl, by simp [missed]⟩
  | cons node nodes ih =>
    rw [addInterfaceNodes]
    refine yields_then fun ret => yields_ite (fun hret => yields_pure ?_) fun _ => ?_
    · exact ⟨[], List.nil_prefix, fun h => absurd hret (by omega), by simp [missed]⟩
    · have hindex : hnodeGetIfindex node = i := h.index node List.mem_cons_self
      rw [hindex, nlObjectClone_eq, ObjectOps.cacheAdd]
      split
      · rename_i hnone
        refine (ih h.tail).mono ?_
        rintro r ⟨done, hdone, hall, hcache⟩
        have hprefix : node :: done <+: node :: nodes := List.cons_prefix_cons.mpr ⟨rfl, hdone⟩
        refine ⟨node :: done, hprefix, fun hr => ?_, ?_⟩
        · rw [hall hr]
        · rw [hcache, missed_snoc (h.initial hprefix), missed, missed, List.filter_cons, hnone]
          simp
      · rename_i hsome
        refine (ih h.tail).mono ?_
        rintro r ⟨done, hdone, hall, hcache⟩
        refine ⟨node :: done, List.cons_prefix_cons.mpr ⟨rfl, hdone⟩, fun hr => ?_, ?_⟩
        · rw [hall hr]
        · rw [hcache, missed, missed, List.filter_cons, if_neg]
          rw [Option.isNone_iff_eq_none]
          exact hsome

/-- **Nodes are added twice iff the cache has them under their index and not under its low
byte.** -/
theorem noDuplicates_missed_iff (hcache : NoDuplicates S cache) (h : NodesOf S i nodes) :
    NoDuplicates S (cache ++ missed S cache i nodes) ↔ i < 256 ∨
      ∀ node ∈ nodes, nodeKey S node ∈ cache.map (nodeKey S) →
        (lowByte i, hnodeGetMacAddressA S node) ∈ cache.map (nodeKey S) := by
  have hmissed : ∀ node, node ∈ missed S cache i nodes ↔ node ∈ nodes ∧
      (lowByte i, hnodeGetMacAddressA S node) ∉ cache.map (nodeKey S) := by
    intro node
    rw [missed, List.mem_filter, Option.isNone_iff_eq_none, lookup_none_iff, List.mem_map]
    simp
  have hkeys : ((missed S cache i nodes).map (nodeKey S)).Nodup := by
    have haddrs : ((missed S cache i nodes).map (hnodeGetMacAddressA S)).Nodup :=
      h.nodup.sublist (List.filter_sublist.map _)
    refine List.Nodup.of_map Prod.snd ?_
    rwa [List.map_map]
  have hkey : ∀ node ∈ nodes, nodeKey S node = (i, hnodeGetMacAddressA S node) := by
    intro node hnode
    rw [nodeKey, h.index node hnode]
  rw [NoDuplicates, List.map_append, List.nodup_append]
  constructor
  · rintro ⟨-, -, hdisj⟩
    refine .inr fun node hnode hmem => ?_
    by_contra hlow
    have hin : nodeKey S node ∈ (missed S cache i nodes).map (nodeKey S) :=
      List.mem_map_of_mem ((hmissed node).mpr ⟨hnode, hlow⟩)
    exact hdisj _ hmem _ hin rfl
  · intro hcond
    refine ⟨hcache, hkeys, ?_⟩
    rintro key hold key' hnew rfl
    obtain ⟨node, hnode, rfl⟩ := List.mem_map.mp hnew
    obtain ⟨hnode, hlow⟩ := (hmissed node).mp hnode
    rcases hcond with hi | hcond
    · rw [(lowByte_eq_iff i).mpr hi, ← hkey node hnode] at hlow
      exact hlow hold
    · exact hlow (hcond node hnode hold)

end

/-- **The lookup is right, and its caller adds no duplicates, exactly for an index of one byte or
where the low byte of the index makes no difference.**  The nodes that the caller has processed,
`done`, are all nodes of the interface unless one could not be published. -/
theorem node_lookup_iff :
    (∀ (cache : List HsrNode) (i : UInt32) (s : CStr), LookupRight S cache i s ↔ i < 256 ∨
      ∀ node ∈ cache, nodeKey S node ≠ (i, s) ∧ nodeKey S node ≠ (lowByte i, s)) ∧
    ∀ (cache : List HsrNode) (ifName : CStr) (hnodes : UInt32 → Int × List HsrNode) (w : W)
      (links : List LinkObj) (link : LinkObj) (ret : Int) (cache' : List HsrNode),
      dumped S w = some links → rtnlLinkGetByName links ifName = some link →
      NoDuplicates S cache → NodesOf S link.lIndex (hnodes link.lIndex).2 →
      (addInterfaceNodesToCache S cache ifName hnodes w).val = .ok (ret, cache') →
      ∃ done, done <+: (hnodes link.lIndex).2 ∧ (0 ≤ ret → done = (hnodes link.lIndex).2) ∧
        (NoDuplicates S cache' ↔ link.lIndex < 256 ∨
          ∀ node ∈ done, nodeKey S node ∈ cache.map (nodeKey S) →
            (lowByte link.lIndex, hnodeGetMacAddressA S node) ∈ cache.map (nodeKey S)) := by
  refine ⟨lookupRight_iff S, ?_⟩
  intro cache ifName hnodes w links link ret cache' hdump hlink hcache hnodesOf hrun
  obtain ⟨code, -, hopen⟩ := withDump_eq S (fun _ => putUnset) (fun linkCache => do
    let hsrLink ← deref .nullGetIfindex (rtnlLinkGetByName linkCache ifName)
    let (ret, hnodeCacheFi) := hnodes hsrLink.getIfindex
    if ret < 0 then putUnset
    else addInterfaceNodes S cache hnodeCacheFi) w
  rw [addInterfaceNodesToCache, hopen, hdump] at hrun
  dsimp only at hrun
  rw [hlink, deref_some, pure_bind] at hrun
  have hindex : link.getIfindex = link.lIndex := rfl
  rw [hindex] at hrun
  split at hrun
  · cases hrun
  · obtain ⟨done, hprefix, hall, hresult⟩ :=
      addInterfaceNodes_yields hnodesOf _ (ret, cache') hrun
    refine ⟨done, hprefix, hall, ?_⟩
    dsimp only at hresult
    rw [hresult]
    exact noDuplicates_missed_iff hcache (hnodesOf.initial hprefix)

/-- a node of an interface, as a node list reports it -/
def lookupNode (ifindex : UInt32) : HsrNode :=
  listNode HSR_C_SET_NODE_LIST ifindex ⟨1, [2, 0, 0, 0, 0, 1]⟩

/-- the device with the index 5 -/
theorem node_lookup_hsr0 :
    LookupRight (staticSys [hsrDevice 5 (cs "hsr0") 2 3]) [lookupNode 5] 5 [2, 0, 0, 0, 0, 1] ∧
      ∃ done, done <+: [lookupNode 5] ∧ (0 ≤ (0 : Int) → done = [lookupNode 5]) ∧
        (NoDuplicates (staticSys [hsrDevice 5 (cs "hsr0") 2 3]) [lookupNode 5] ↔
          (5 : UInt32) < 256 ∨
            ∀ node ∈ done, nodeKey (staticSys [hsrDevice 5 (cs "hsr0") 2 3]) node ∈
                [lookupNode 5].map (nodeKey (staticSys [hsrDevice 5 (cs "hsr0") 2 3])) →
              (lowByte 5, hnodeGetMacAddressA (staticSys [hsrDevice 5 (cs "hsr0") 2 3]) node) ∈
                [lookupNode 5].map (nodeKey (staticSys [hsrDevice 5 (cs "hsr0") 2 3]))) := by
  constructor
  · exact ((node_lookup_iff (staticSys [hsrDevice 5 (cs "hsr0") 2 3])).1 _ _ _).mpr
      (.inl (by decide))
  · refine (node_lookup_iff (staticSys [hsrDevice 5 (cs "hsr0") 2 3])).2 [lookupNode 5]
      (cs "hsr0") (fun _ => (0, [lookupNode 5])) () [hsrDevice 5 (cs "hsr0") 2 3]
      (hsrDevice 5 (cs "hsr0") 2 3) 0 [lookupNode 5] rfl rfl ?_ ?_ rfl
    · exact List.nodup_singleton _
    · exact ⟨by decide, List.nodup_singleton _⟩

/-- the device with the index 300: its node is not found, and is added a second time -/
theorem node_lookup_wide :
    ¬ LookupRight (staticSys [hsrDevice 300 (cs "hsr0") 2 3]) [lookupNode 300] 300
        [2, 0, 0, 0, 0, 1] ∧
      (addInterfaceNodesToCache (staticSys [hsrDevice 300 (cs "hsr0") 2 3]) [lookupNode 300]
        (cs "hsr0") (fun _ => (0, [lookupNode 300])) ()).val =
          .ok (0, [lookupNode 300, lookupNode 300]) := by
  constructor
  · intro h
    exact h (lookupNode 300) List.mem_cons_self rfl
  · rfl

end Hsr
