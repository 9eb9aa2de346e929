import ConfdbHsr.Daemon.StartUp

/-!
# What the dumps at start-up report

* `nodeMsg_edits`       the edits that a message of the kernel stands for;
* `dumpInterface_eq`    a dump adds the nodes that the kernel knows of the interface;
* `holds_dumps`         the dumps of all interfaces leave one node for each of their pairs.
-/

namespace Hsr
open Nl Proc

/-! ## pairs -/

lemma EthPair.pair_inj {p q : EthPair} (h : p.pair = q.pair) : p = q := by
  obtain ⟨i, m⟩ := p
  obtain ⟨j, n⟩ := q
  obtain ⟨hindex, hmac⟩ := Prod.mk.inj h
  exact Prod.ext hindex (Subtype.ext hmac)

lemma mem_pairs {nodes : List EthPair} {p : EthPair} :
    p.pair ∈ nodes.map EthPair.pair ↔ p ∈ nodes := by
  constructor
  · intro h
    obtain ⟨q, hq, heq⟩ := List.mem_map.mp h
    rw [← EthPair.pair_inj heq]
    exact hq
  · exact List.mem_map_of_mem

/-! ## the messages of the kernel -/

section
variable (cmd : NodeCmd) (ifindex : UInt32) (macs : List Mac)

lemma nodeMsg_addrs : (nodeMsg cmd ifindex macs).addrs = macs.map addrAttr := by
  have hattrs : (nodeMsg cmd ifindex macs).attrs = ifindexAttr ifindex :: macs.map addrAttr := rfl
  have hif : ¬ (decide ((ifindexAttr ifindex).nlaType.toNat = HSR_A_NODE_ADDR) = true) := by
    show ¬ (decide ((2 : UInt16).toNat = HSR_A_NODE_ADDR) = true)
    decide
  rw [NodeNotification.addrs, hattrs, List.filter_cons, if_neg hif, List.filter_eq_self]
  intro nla hnla
  obtain ⟨mac, -, rfl⟩ := List.mem_map.mp hnla
  rfl

lemma nodeMsg_ifindex : (nodeMsg cmd ifindex macs).ifindex = ifindex := by
  have hskip : ∀ (l : List Mac) (o : Option Nlattr),
      (l.map addrAttr).foldl (fun last nla => if nla.type = HSR_A_IFINDEX then some nla else last) o
        = o := by
    intro l
    induction l with
    | nil => exact fun _ => rfl
    | cons mac l ih =>
      intro o
      have hne : ¬ (addrAttr mac).type = HSR_A_IFINDEX := by
        rw [addrAttr_type]
        decide
      rw [List.map_cons, List.foldl_cons, if_neg hne, ih]
  have hlast : lastOfType (nodeMsg cmd ifindex macs).attrs HSR_A_IFINDEX =
      some (ifindexAttr ifindex) := by
    rw [nodeMsg, lastOfType, List.foldl_cons, if_pos (ifindexAttr_type ifindex), hskip]
  rw [NodeNotification.ifindex, hlast]
  exact u32Of_bytes ifindex

lemma nodeMsg_edits :
    (nodeMsg cmd ifindex macs).edits = macs.map fun mac => cmd.edit (ifindex, mac.val) := by
  rw [NodeNotification.edits, nodeMsg_addrs, nodeMsg_ifindex, List.map_map]
  rfl

end

/-! ## a dump -/

section
variable {W : Type}

lemma handNodes_pickup (cmdId : UInt8) (ifindex : UInt32) (addrs : List Nlattr)
    (cache : List HsrNode) :
    handNodes (pickupCb (W := W)) cmdId ifindex addrs cache =
      pure (0, cache ++ addrs.map (listNode cmdId ifindex)) := by
  induction addrs generalizing cache with
  | nil => simp [handNodes]
  | cons nla addrs ih =>
    rw [handNodes, pickupCb, pure_bind]
    show handNodes pickupCb cmdId ifindex addrs (cache ++ [listNode cmdId ifindex nla]) = _
    rw [ih]
    simp

/-- the nodes that a dump of an interface adds -/
def reported (table : NodeTable) (ifindex : UInt32) : List HsrNode :=
  (table.nodes.filter fun p => p.1 = ifindex).map fun p =>
    listNode HSR_C_SET_NODE_LIST ifindex (addrAttr p.2)

lemma foldl_cacheAdd (nodes result : List HsrNode) :
    nodes.foldl (fun result obj => ObjectOps.cacheAdd result (nlObjectClone obj)) result =
      result ++ nodes := by
  induction nodes generalizing result with
  | nil => simp
  | cons node nodes ih =>
    rw [List.foldl_cons, ih, ObjectOps.cacheAdd, nlObjectClone_eq]
    simp

theorem dumpInterface_eq (table : NodeTable) (ifindex : UInt32) (result : List HsrNode) :
    dumpInterface (W := W) table ifindex result = pure (0, result ++ reported table ifindex) := by
  have hparse : cmdMsgParser .badAttr false pickupCb (answer table ifindex).cmd.cId
      (answer table ifindex).stream [] =
      (pure (0, reported table ifindex) : Op W (Int × List HsrNode)) := by
    rw [cmdMsgParser_notification, handNodes_pickup, answer, nodeMsg_addrs, nodeMsg_ifindex]
    simp only [List.nil_append, List.map_map]
    rfl
  have hcache : nlCacheParse .badAttr false pickupCb (answer table ifindex).msg.cmd
      (answer table ifindex).msg.stream [] =
      (pure (0, reported table ifindex) : Op W (Int × List HsrNode)) := by
    rw [nlCacheParse]
    show (cmdMsgParser .badAttr false pickupCb (answer table ifindex).cmd.cId
      (answer table ifindex).stream [] >>= _) = _
    rw [hparse]
    rfl
  simp only [dumpInterface]
  rw [hcache, pure_bind]
  simp only
  rw [if_neg (by decide), foldl_cacheAdd]

end

lemma reported_pairs (table : NodeTable) (ifindex : UInt32) :
    (reported table ifindex).map nodePair =
      (table.nodes.filter fun p => p.1 = ifindex).map EthPair.pair := by
  rw [reported, List.map_map]
  refine List.map_congr_left fun p hp => ?_
  have hindex : p.1 = ifindex := by simpa using (List.mem_filter.mp hp).2
  show (ifindex, p.2.val) = p.pair
  rw [← hindex]
  rfl

lemma mem_reported (table : NodeTable) (ifindex : UInt32) (pair : NodePair) :
    pair ∈ (reported table ifindex).map nodePair ↔
      pair.1 = ifindex ∧ pair ∈ table.nodes.map EthPair.pair := by
  rw [reported_pairs]
  constructor
  · intro h
    obtain ⟨p, hp, rfl⟩ := List.mem_map.mp h
    obtain ⟨hmem, hindex⟩ := List.mem_filter.mp hp
    exact ⟨of_decide_eq_true hindex, List.mem_map_of_mem hmem⟩
  · rintro ⟨hindex, h⟩
    obtain ⟨p, hp, rfl⟩ := List.mem_map.mp h
    exact List.mem_map_of_mem (List.mem_filter.mpr ⟨hp, decide_eq_true hindex⟩)

lemma reported_nodup (table : NodeTable) (ifindex : UInt32) :
    ((reported table ifindex).map nodePair).Nodup := by
  rw [reported_pairs]
  exact (table.nodup.filter _).map fun _ _ => EthPair.pair_inj

lemma hsrInterfacesLoop_nodup (linkCache : List LinkObj) {added : List UInt32}
    (h : added.Nodup) : (hsrInterfacesLoop added linkCache).Nodup := by
  induction linkCache generalizing added with
  | nil => exact h
  | cons link links ih =>
    rw [hsrInterfacesLoop]
    split
    · exact ih h
    · split
      · exact ih h
      · rename_i hnew
        exact ih (h.append (List.nodup_singleton _) (by simpa using hnew))

/-! ## all interfaces -/

/-- the pairs that the dumps of the interfaces report -/
def dumpedPairs (tables : UInt32 → NodeTable) (ifaces : List UInt32) : List NodePair :=
  ifaces.flatMap fun ifindex =>
    ((tables ifindex).nodes.filter fun p => p.1 = ifindex).map EthPair.pair

variable (tables : UInt32 → NodeTable)

theorem dumpInterfaces_eq {W : Type} (ifaces : List UInt32) (result : List HsrNode) :
    dumpInterfaces (W := W) tables ifaces result =
      pure (0, result ++ ifaces.flatMap fun ifindex => reported (tables ifindex) ifindex) := by
  induction ifaces generalizing result with
  | nil => simp [dumpInterfaces]
  | cons ifindex ifaces ih =>
    rw [dumpInterfaces, dumpInterface_eq, pure_bind]
    show dumpInterfaces tables ifaces (result ++ reported (tables ifindex) ifindex) = _
    rw [ih, List.flatMap_cons, List.append_assoc]

lemma dumpedPairs_nodup {ifaces : List UInt32} (h : ifaces.Nodup) :
    (dumpedPairs tables ifaces).Nodup := by
  refine List.nodup_flatMap.mpr ⟨fun ifindex _ => ?_, h.imp ?_⟩
  · rw [← reported_pairs]
    exact reported_nodup _ _
  · intro i j hne pair hi hj
    have hindex : ∀ k, pair ∈ ((tables k).nodes.filter fun p => p.1 = k).map EthPair.pair →
        pair.1 = k := by
      intro k hk
      rw [← reported_pairs, mem_reported] at hk
      exact hk.1
    exact hne ((hindex i hi).symm.trans (hindex j hj))

theorem holds_dumps {ifaces : List UInt32} (h : ifaces.Nodup) :
    HoldsNodes (ifaces.flatMap fun ifindex => reported (tables ifindex) ifindex)
      (dumpedPairs tables ifaces).toFinset := by
  have hpairs : (ifaces.flatMap fun ifindex => reported (tables ifindex) ifindex).map nodePair =
      dumpedPairs tables ifaces := by
    rw [List.map_flatMap, dumpedPairs]
    simp only [reported_pairs]
  constructor
  · intro node hnode
    obtain ⟨ifindex, -, hmem⟩ := List.mem_flatMap.mp hnode
    obtain ⟨p, -, rfl⟩ := List.mem_map.mp hmem
    exact ⟨_, _, _, rfl⟩
  · rw [hpairs]
    exact dumpedPairs_nodup tables h
  · intro pair
    rw [hpairs, List.mem_toFinset]

end Hsr
