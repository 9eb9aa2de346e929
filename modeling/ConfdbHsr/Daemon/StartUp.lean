import ConfdbHsr.Daemon.NodeList
import ConfdbHsr.Libnl.Link

/-!
# The start-up of the managed cache of nodes

`app_create` fills the cache of nodes (`hnode_alloc_cache` dumps one HSR interface after the
other), then hands it to the cache manager, which joins the multicast groups and, for the generic
manager, does not refill it; from then on the daemon reads notifications.  The kernel goes on
meanwhile: nodes appear and disappear between any two steps of the daemon.

* `NodeTable`        the nodes that the kernel knows;
* `answer`, `announce`   its answer to a request, and its notification of a change;
* `dumpInterface`    one round of the loop of `hnode_alloc_cache`;
* `appCreate`        the loop, and what `app_create` makes of it;
* `startStep`        one step of the kernel or of the daemon.
-/

namespace Hsr
open Nl Proc

/-! ## the kernel -/

def ETH_ALEN : Nat := 6

/-- the Ethernet address of a node -/
abbrev Mac := {mac : List UInt8 // mac.length = ETH_ALEN}

/-- a node of an interface -/
abbrev EthPair := UInt32 × Mac

def EthPair.pair (p : EthPair) : NodePair := (p.1, p.2.val)

/-- the nodes that the kernel knows, in its order -/
structure NodeTable where
  nodes : List EthPair
  nodup : nodes.Nodup

/-- a node that the kernel knows disappears, any other appears -/
def NodeTable.toggle (table : NodeTable) (p : EthPair) : NodeTable :=
  if h : p ∈ table.nodes then ⟨table.nodes.erase p, table.nodup.erase p⟩
  else ⟨table.nodes ++ [p], table.nodup.append (List.nodup_singleton p) (by simpa using h)⟩

def ifindexAttr (ifindex : UInt32) : Nlattr := ⟨2, u32Bytes ifindex⟩

def addrAttr (mac : Mac) : Nlattr := ⟨1, mac.val⟩

lemma ifindexAttr_type (ifindex : UInt32) : (ifindexAttr ifindex).type = HSR_A_IFINDEX := by
  show ((2 : UInt16) &&& NLA_TYPE_MASK).toNat = 2
  decide

lemma addrAttr_type (mac : Mac) : (addrAttr mac).type = HSR_A_NODE_ADDR := by
  show ((1 : UInt16) &&& NLA_TYPE_MASK).toNat = 1
  decide

lemma ifindexAttr_valid (ifindex : UInt32) :
    validateNla (ifindexAttr ifindex) HSR_A_MAX hnodePolicy = 0 := by
  have hlen : (ifindexAttr ifindex).len = 4 := rfl
  have hpolicy : hnodePolicy HSR_A_IFINDEX = ⟨.u32, 0, 0⟩ := by decide
  rw [validateNla, ifindexAttr_type, hlen, hpolicy]
  simp [NlaKind.minlen, HSR_A_IFINDEX, HSR_A_MAX]

lemma addrAttr_valid (mac : Mac) : validateNla (addrAttr mac) HSR_A_MAX hnodePolicy = 0 := by
  have hpolicy : hnodePolicy HSR_A_NODE_ADDR = ⟨.unspec, 0, 0⟩ := by decide
  rw [validateNla, addrAttr_type, hpolicy]
  simp [NlaKind.minlen, HSR_A_NODE_ADDR, HSR_A_MAX]

/-- a message of the kernel about nodes of one interface -/
def nodeMsg (cmd : NodeCmd) (ifindex : UInt32) (macs : List Mac) : NodeNotification where
  cmd := cmd
  attrs := ifindexAttr ifindex :: macs.map addrAttr
  fits := by
    intro nla hnla
    rcases List.mem_cons.mp hnla with rfl | hnla
    · show 8 < 2 ^ 16
      decide
    · obtain ⟨mac, -, rfl⟩ := List.mem_map.mp hnla
      have hlen := mac.property
      show NLA_HDRLEN + mac.val.length < 2 ^ 16
      rw [hlen]
      decide
  valid := by
    intro nla hnla
    rcases List.mem_cons.mp hnla with rfl | hnla
    · rw [ifindexAttr_valid]
    · obtain ⟨mac, -, rfl⟩ := List.mem_map.mp hnla
      rw [addrAttr_valid]
  hasIfindex := ⟨ifindexAttr ifindex, List.mem_cons_self, ifindexAttr_type ifindex⟩

/-- the answer to a request for the nodes of an interface -/
def answer (table : NodeTable) (ifindex : UInt32) : NodeNotification :=
  nodeMsg .setNodeList ifindex ((table.nodes.filter fun p => p.1 = ifindex).map Prod.snd)

/-- the notification that a node appears or disappears -/
def announce (table : NodeTable) (p : EthPair) : NodeNotification :=
  nodeMsg (if p ∈ table.nodes then .nodeDown else .setNodeList) p.1 [p.2]

/-! ## the daemon -/

/-- the interfaces that `hnode_alloc_cache` asks for -/
def hsrInterfacesLoop (added : List UInt32) : List LinkObj → List UInt32
  | [] => added
  | link :: links =>
    if !link.isHsr then hsrInterfacesLoop added links
    else if link.getIfindex ∈ added then hsrInterfacesLoop added links
    else hsrInterfacesLoop (added ++ [link.getIfindex]) links

def hsrInterfaces (linkCache : List LinkObj) : List UInt32 := hsrInterfacesLoop [] linkCache

variable {W : Type} (S : Sys W)

/-- `pickup_cb` -/
def pickupCb (cache : List HsrNode) (obj : HsrNode) : Op W (Int × List HsrNode) :=
  pure (0, ObjectOps.cacheAdd cache obj)

/-- one round of the loop of `hnode_alloc_cache`: the answer is picked up into a cache of its own,
whose nodes are cloned into the result -/
def dumpInterface (table : NodeTable) (ifindex : UInt32) (result : List HsrNode) :
    Op W (Int × List HsrNode) := do
  let reply := (answer table ifindex).msg
  let (ret, tempResult) ← nlCacheParse .badAttr false pickupCb reply.cmd reply.stream []
  if ret < 0 then pure (ret, result)
  else
    pure (0, tempResult.foldl (fun result obj => ObjectOps.cacheAdd result (nlObjectClone obj))
      result)

/-- the loop of `hnode_alloc_cache`; `tables` are the nodes of the kernel at the time of each dump -/
def dumpInterfaces (tables : UInt32 → NodeTable) :
    List UInt32 → List HsrNode → Op W (Int × List HsrNode)
  | [], result => pure (0, result)
  | ifindex :: rest, result => do
    let (ret, result) ← dumpInterface (tables ifindex) ifindex result
    if ret < 0 then pure (ret, result) else dumpInterfaces tables rest result

def hnodeAllocCache (tables : UInt32 → NodeTable) : Op W (Int × List HsrNode) :=
  withDump S (fun _ => putUnset) fun linkCache =>
    dumpInterfaces tables (hsrInterfaces linkCache) []

/-- what `app_create` sets up, if it can fill the cache of nodes: the module and the managed
cache -/
def appCreate (tables : UInt32 → NodeTable) : Op W (Option (HsrModule × List HsrNode)) := do
  let (ret, hnodeCache) ← hnodeAllocCache S tables
  if ret < 0 then pure none else pure (some (HsrModule.init, hnodeCache))

/-! ## both together -/

/-- the kernel's table and the messages in the daemon's socket; the interfaces still to be dumped,
whether the groups are joined, and the cache -/
structure StartUp where
  kernel : NodeTable
  queue : List NodeNotification
  todo : List UInt32
  joined : Bool
  cache : List HsrNode

def startUp (linkCache : List LinkObj) (kernel : NodeTable) : StartUp :=
  ⟨kernel, [], hsrInterfaces linkCache, false, []⟩

/-- a node appears or disappears, or the daemon takes its next step -/
inductive StartEvent where
  | node (p : EthPair)
  | daemon

def startStep (app : HsrModule) (s : StartUp) : StartEvent → Op W StartUp
  | .node p =>
    pure { s with
      kernel := s.kernel.toggle p
      queue := if s.joined then s.queue ++ [announce s.kernel p] else s.queue }
  | .daemon =>
    match s.todo with
    | ifindex :: todo => do
      let (_, cache) ← dumpInterface s.kernel ifindex s.cache
      pure { s with todo := todo, cache := cache }
    | [] =>
      if !s.joined then pure { s with joined := true }
      else
        match s.queue with
        | [] => pure s
        | n :: queue => do
          let (_, cache) ← eventInput (hnodeCacheChangeCb S app) s.cache n.msg
          pure { s with queue := queue, cache := cache }

def startRun (app : HsrModule) (s : StartUp) (events : List StartEvent) : Op W StartUp :=
  events.foldlM (startStep S app) s

end Hsr
