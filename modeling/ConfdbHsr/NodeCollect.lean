import ConfdbHsr.Daemon.NodeCaches

/-!
# `hnode_alloc_cache` collects the nodes of all HSR interfaces

* `Answered`                  an exchange with the kernel succeeds and reports these nodes;
* `answered_notifications`    as it does when the answer is well-formed node lists;
* `Collected`                 each interface is asked for once, and the cache holds clones of the
                              nodes that were reported, interface after interface;
* `hnode_alloc_cache_collects`   it does, for any links.
-/

namespace Hsr.NodeCaches
open Nl Proc

/-- the exchange for one interface succeeds: its messages are parsed into `nodes`, and nothing but
an acknowledgement follows -/
structure Answered (reply : Reply) (nodes : List HsrNode) : Prop where
  once : reply.interrupted = []
  parsed : pickupMsgs reply.answer.msgs [] = .ok (0, nodes)
  code : 0 ≤ reply.answer.code
  ack : reply.ack.msgs = []

/-! ## answers -/

/-- the nodes that a well-formed message reports -/
def notified (n : NodeNotification) : List HsrNode := n.addrs.map (listNode n.cmd.cId n.ifindex)

lemma updateMsgParser_notification (n : NodeNotification) (cache : List HsrNode) :
    updateMsgParser n.msg cache = .ok (0, cache ++ notified n) := by
  have hparse : cmdMsgParser .badAttr false pickupCb n.cmd.cId n.stream cache =
      (pure (0, cache ++ notified n) : Op Unit (Int × List HsrNode)) := by
    rw [cmdMsgParser_notification, handNodes_pickup]
    rfl
  have hcache : nlCacheParse .badAttr false pickupCb n.msg.cmd n.msg.stream cache =
      (pure (0, cache ++ notified n) : Op Unit (Int × List HsrNode)) := by
    rw [nlCacheParse]
    show (cmdMsgParser .badAttr false pickupCb n.cmd.cId n.stream cache >>= _) = _
    rw [hparse]
    rfl
  rw [updateMsgParser, hcache]
  rfl

/-- **Well-formed node lists are picked up**: each address becomes a node. -/
theorem pickupMsgs_notifications (ns : List NodeNotification) (cache : List HsrNode) :
    pickupMsgs (ns.map NodeNotification.msg) cache = .ok (0, cache ++ ns.flatMap notified) := by
  induction ns generalizing cache with
  | nil =>
    rw [List.flatMap_nil, List.append_nil]
    rfl
  | cons n ns ih =>
    rw [List.map_cons, pickupMsgs, updateMsgParser_notification]
    show pickupMsgs (ns.map NodeNotification.msg) (cache ++ notified n) = _
    rw [ih, List.flatMap_cons, List.append_assoc]

/-- an answer of well-formed messages, with its acknowledgement -/
def nodeLists (ns : List NodeNotification) : Reply where
  interrupted := []
  answer := ⟨ns.map NodeNotification.msg, 0⟩
  ack := ⟨[], 0⟩
  ends := by simp [NLE_DUMP_INTR]

lemma answered_notifications (ns : List NodeNotification) :
    Answered (nodeLists ns) (ns.flatMap notified) where
  once := rfl
  parsed := pickupMsgs_notifications ns []
  code := Int.le_refl 0
  ack := rfl

/-! ## clones -/

lemma attrDiff_self (attrs attr m : Mask) : attrDiff attrs attr m m false = 0 := by
  rw [attrDiff, if_neg]
  rintro ⟨-, h | ⟨-, h⟩⟩
  · rw [BitVec.xor_self, BitVec.zero_and] at h
    exact h rfl
  · cases h

lemma nlAddrCmp_self (addr : Option NlAddr) : nlAddrCmp addr addr = false := by
  cases addr with
  | none => rfl
  | some addr => simp [nlAddrCmp, NlAddr.differs]

lemma hnodeCompare_self (node : HsrNode) (attrs : Mask) : hnodeCompare node node attrs = 0 := by
  simp [hnodeCompare, nlAddrCmp_self, attrDiff_self]

lemma clone_same (node : HsrNode) :
    hsrNodeOps.objectDiff64 (nlObjectClone node) node = 0 ∧
      (nlObjectClone node).ceMask = node.ceMask := by
  rw [nlObjectClone_eq]
  exact ⟨hnodeCompare_self node _, rfl⟩

/-! ## the interfaces of a list of links -/

/-- the interfaces that the loop has yet to ask for -/
def newIfindexes (added : List UInt32) (linkCache : List LinkObj) : List UInt32 :=
  (((linkCache.filter fun link => link.isHsr).map fun link => link.getIfindex).filter
    fun ifindex => ifindex ∉ added).eraseDups

lemma newIfindexes_none (linkCache : List LinkObj) :
    newIfindexes [] linkCache = hsrIfindexes linkCache := by
  rw [newIfindexes, hsrIfindexes, List.filter_eq_self.mpr]
  intro ifindex _
  simp

section
variable {added : List UInt32} {link : LinkObj} (links : List LinkObj)

lemma newIfindexes_other (h : link.isHsr = false) :
    newIfindexes added (link :: links) = newIfindexes added links := by
  rw [newIfindexes, List.filter_cons_of_neg (by rw [h]; decide), newIfindexes]

lemma newIfindexes_known (h : link.isHsr = true) (hadded : link.getIfindex ∈ added) :
    newIfindexes added (link :: links) = newIfindexes added links := by
  rw [newIfindexes, List.filter_cons, if_pos h, List.map_cons,
    List.filter_cons_of_neg (by simpa using hadded), newIfindexes]

lemma newIfindexes_new (h : link.isHsr = true) (hadded : link.getIfindex ∉ added) :
    newIfindexes added (link :: links) =
      link.getIfindex :: newIfindexes (added ++ [link.getIfindex]) links := by
  rw [newIfindexes, List.filter_cons, if_pos h, List.map_cons,
    List.filter_cons_of_pos (by simpa using hadded), List.eraseDups_cons, List.filter_filter,
    newIfindexes]
  congr 2
  refine List.filter_congr fun ifindex _ => ?_
  have hbeq : (ifindex == link.getIfindex) = decide (ifindex = link.getIfindex) := rfl
  rw [hbeq, Bool.and_comm]
  simp

end

lemma nodup_eraseDups {α : Type} [DecidableEq α] (xs : List α) : xs.eraseDups.Nodup := by
  generalize hn : xs.length = n
  induction n using Nat.strongRecOn generalizing xs with
  | ind n ih =>
    cases xs with
    | nil => exact List.nodup_nil
    | cons x xs =>
      have hlen : (xs.filter fun y => !y == x).length < n := by
        have hle := List.length_filter_le (fun y => !y == x) xs
        rw [List.length_cons] at hn
        omega
      rw [List.eraseDups_cons]
      refine List.nodup_cons.mpr ⟨?_, ih _ hlen _ rfl⟩
      rw [List.mem_eraseDups]
      simp

/-! ## collecting -/

section
variable {kernel : UInt32 → Reply} {nodes : UInt32 → List HsrNode}

/-- a cache that is filled for an interface has the nodes that are reported for it -/
lemma nlCacheAllocAndFill_answered {vars : HnodeVars}
    (h : Answered (kernel vars.addInterfaceIfindex) (nodes vars.addInterfaceIfindex)) :
    nlCacheAllocAndFill kernel vars =
      ⟨.ok (.ok (nodes vars.addInterfaceIfindex)), vars, [⟨vars.addInterfaceIfindex⟩]⟩ := by
  have hcode := Int.not_lt.mpr h.code
  have hpickup : nlCachePickup (kernel vars.addInterfaceIfindex).answer [] vars =
      ⟨.ok ((kernel vars.addInterfaceIfindex).answer.code, nodes vars.addInterfaceIfindex), vars,
        []⟩ := by
    rw [nlCachePickup, h.parsed]
    rfl
  have hrequest : hnodeRequestUpdate vars = ⟨.ok 0, vars, [⟨vars.addInterfaceIfindex⟩]⟩ := rfl
  have hreply : replyOf kernel vars = ⟨.ok (kernel vars.addInterfaceIfindex), vars, []⟩ := rfl
  have hrefill : nlCacheRefill kernel vars = ⟨.ok ((kernel vars.addInterfaceIfindex).answer.code,
      nodes vars.addInterfaceIfindex), vars, [⟨vars.addInterfaceIfindex⟩]⟩ := by
    refine bind_run hreply ?_
    rw [h.once, refillLoop]
    exact bind_run hrequest hpickup
  refine bind_run hrefill ?_
  dsimp only
  rw [if_neg hcode]
  rfl

lemma nlCachePickup_ack {ack : Answer} (h : ack.msgs = []) (cache : List HsrNode)
    (vars : HnodeVars) : nlCachePickup ack cache vars = ⟨.ok (ack.code, cache), vars, []⟩ := by
  rw [nlCachePickup, h]
  rfl

/-- **The loop** asks for each interface that is not in the table, and adds its nodes. -/
theorem allocLoop_eq (links : List LinkObj) (added : List UInt32) (result : List HsrNode)
    (vars : HnodeVars)
    (hok : ∀ ifindex ∈ newIfindexes added links, Answered (kernel ifindex) (nodes ifindex)) :
    ∃ vars', allocLoop kernel links 0 added result vars =
      ⟨.ok (0, result ++ (newIfindexes added links).flatMap nodes), vars',
        (newIfindexes added links).map GetNodeList.mk⟩ := by
  induction links generalizing added result vars with
  | nil =>
    refine ⟨vars, ?_⟩
    rw [allocLoop]
    show (⟨.ok (0, result), vars, []⟩ : Out _ _ _ _) = ⟨.ok (0, result ++ []), vars, []⟩
    rw [List.append_nil]
  | cons link links ih =>
    rw [allocLoop]
    cases hkind : link.isHsr with
    | false =>
      rw [newIfindexes_other links hkind] at hok ⊢
      exact ih added result vars hok
    | true =>
      by_cases hadded : link.getIfindex ∈ added
      · rw [newIfindexes_known links hkind hadded] at hok ⊢
        rw [if_pos hadded]
        exact ih added result vars hok
      · rw [newIfindexes_new links hkind hadded] at hok ⊢
        have hfirst := hok link.getIfindex List.mem_cons_self
        have hrest := fun ifindex h => hok ifindex (List.mem_cons_of_mem link.getIfindex h)
        obtain ⟨vars', hloop⟩ := ih (added ++ [link.getIfindex]) (result ++ nodes link.getIfindex)
          ⟨link.getIfindex⟩ hrest
        have hfill := @nlCacheAllocAndFill_answered kernel nodes ⟨link.getIfindex⟩ hfirst
        have hack := nlCachePickup_ack hfirst.ack (nodes link.getIfindex) ⟨link.getIfindex⟩
        have hset : setAddInterfaceIfindex link.getIfindex vars =
            ⟨.ok ⟨⟩, ⟨link.getIfindex⟩, []⟩ := rfl
        have hreply : replyOf kernel ⟨link.getIfindex⟩ =
            ⟨.ok (kernel link.getIfindex), ⟨link.getIfindex⟩, []⟩ := rfl
        have hasked : getAddInterfaceIfindex ⟨link.getIfindex⟩ =
            ⟨.ok link.getIfindex, ⟨link.getIfindex⟩, []⟩ := rfl
        rw [List.flatMap_cons, ← List.append_assoc]
        refine ⟨vars', ?_⟩
        rw [if_neg hadded]
        refine bind_run hset (bind_run hfill (bind_run hreply (bind_run hack (bind_run hasked ?_))))
        rw [foldl_cacheAdd]
        exact hloop

/-- each interface of an HSR link was asked for once, in the order of the links; the code is not
negative, and the cache holds clones of the nodes that were reported, which differ from them in no
attribute -/
structure Collected (linkCache : List LinkObj) (nodes : UInt32 → List HsrNode)
    (out : Out Fault HnodeVars GetNodeList (Int × List HsrNode)) : Prop where
  result : ∃ ret, 0 ≤ ret ∧
    out.val = .ok (ret, ((hsrIfindexes linkCache).flatMap nodes).map nlObjectClone)
  requests : out.acts = (hsrIfindexes linkCache).map GetNodeList.mk
  once : (hsrIfindexes linkCache).Nodup
  clones : ∀ node ∈ (hsrIfindexes linkCache).flatMap nodes,
    hsrNodeOps.objectDiff64 (nlObjectClone node) node = 0 ∧
      (nlObjectClone node).ceMask = node.ceMask

/-- **`hnode_alloc_cache` collects the nodes of all HSR interfaces**, for any links and any answers
of the kernel, if the exchanges succeed. -/
theorem hnode_alloc_cache_collects (linkCache : List LinkObj)
    (hok : ∀ ifindex ∈ hsrIfindexes linkCache, Answered (kernel ifindex) (nodes ifindex))
    (vars : HnodeVars) : Collected linkCache nodes (hnodeAllocCache kernel linkCache vars) := by
  have hset : setAddInterfaceIfindex 0xFFFFFFFF vars = ⟨.ok ⟨⟩, ⟨0xFFFFFFFF⟩, []⟩ := rfl
  rw [← newIfindexes_none] at hok
  obtain ⟨vars', hloop⟩ := allocLoop_eq linkCache [] [] ⟨0xFFFFFFFF⟩ hok
  rw [newIfindexes_none, List.nil_append] at hloop
  have hrun : hnodeAllocCache kernel linkCache vars =
      ⟨.ok (0, (hsrIfindexes linkCache).flatMap nodes), vars',
        (hsrIfindexes linkCache).map GetNodeList.mk⟩ := bind_run hset hloop
  have hclones : ((hsrIfindexes linkCache).flatMap nodes).map nlObjectClone =
      (hsrIfindexes linkCache).flatMap nodes := by
    have hid : nlObjectClone = id := funext nlObjectClone_eq
    rw [hid, List.map_id]
  rw [hrun]
  exact ⟨⟨0, Int.le_refl 0, by rw [hclones]⟩, rfl, nodup_eraseDups _, fun node _ => clone_same node⟩

end

/-- a link with an index -/
def linkOf (kind : CStr) (ifindex : UInt32) : LinkObj where
  toRtnlLink := { rtnlLinkAlloc with
    ceMask := linkBase
    lIndex := ifindex
    lInfoKind := some kind }
  hasBase := BitVec.and_self

/-- a node list for an interface, with one address -/
def oneAddress (ifindex : UInt32) : NodeNotification :=
  nodeMsg .setNodeList ifindex [⟨[2, 0, 0, 0, 0, 1], rfl⟩]

/-- links of kind `hsr`, one of them twice, and a bridge -/
def threeHsrLinks : List LinkObj :=
  [linkOf (cs "hsr") 7, linkOf (cs "bridge") 4, linkOf (cs "hsr") 9, linkOf (cs "hsr") 7]

/-- two interfaces are asked for -/
theorem collects_two_interfaces :
    hsrIfindexes threeHsrLinks = [7, 9] ∧
      Collected threeHsrLinks (fun ifindex => [oneAddress ifindex].flatMap notified)
        (hnodeAllocCache (fun ifindex => nodeLists [oneAddress ifindex]) threeHsrLinks ⟨0⟩) :=
  ⟨by decide, hnode_alloc_cache_collects threeHsrLinks
    (fun ifindex _ => answered_notifications [oneAddress ifindex]) ⟨0⟩⟩

end Hsr.NodeCaches
