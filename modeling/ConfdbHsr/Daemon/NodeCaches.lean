import ConfdbHsr.Daemon.Dump

/-!
# How caches of nodes are filled (`lib/genl/hsr_node.c`, `lib/cache.c`)

A request for a list of nodes carries the interface that stands in the variable
`add_interface_ifindex`, whichever cache it is made for.

* `Reply`              what the kernel sends for the requests of one fill;
* `hnodeRequestUpdate` `hnode_request_update`, the request;
* `nlCacheRefill`      `nl_cache_refill`: requests until one is not interrupted;
* `hnodeAllocCache`    `hnode_alloc_cache`, one fill for each HSR interface;
* `hnodeAllocCacheForInterface`   `hnode_alloc_cache_for_interface`;
* `hsrIfindexes`       the interfaces of the HSR links;
* `nlCacheRefill_spec`   every request of a fill is about the interface in the variable.
-/

namespace Hsr.NodeCaches
open Nl Proc

def NLE_EXIST : Int := 6
def NLE_DUMP_INTR : Int := 33

/-- the variable `add_interface_ifindex` of `hsr_node.c` -/
structure HnodeVars where
  addInterfaceIfindex : UInt32
  deriving DecidableEq, Repr

/-- a request `HSR_C_GET_NODE_LIST` with its attribute `HSR_A_IFINDEX` -/
structure GetNodeList where
  hsrAIfindex : UInt32
  deriving DecidableEq, Repr

abbrev NodeOp := Proc Fault HnodeVars GetNodeList

/-- what comes back for one request: the messages, and the result of `nl_recvmsgs` when all of them
were parsed -/
structure Answer where
  msgs : List HsrMsg
  code : Int

/-- the answers to the requests of one fill, and what a pick-up behind it reads: the messages of
the dumps that were interrupted, and an answer that was not -/
structure Reply where
  interrupted : List (List HsrMsg)
  answer : Answer
  ack : Answer
  ends : answer.code ≠ -NLE_DUMP_INTR

/-! ## picking up -/

/-- a message of the answer is parsed, and its nodes are added to the cache; the parser looks at
nothing else -/
def updateMsgParser (msg : HsrMsg) (cache : List HsrNode) : Except Fault (Int × List HsrNode) :=
  (nlCacheParse .badAttr false pickupCb msg.cmd msg.stream cache : Op Unit (Int × List HsrNode)) () |>.val

/-- `nl_recvmsgs` with `update_msg_parser`: an error of the parser ends it, unless it is
`NLE_EXIST` -/
def pickupMsgs : List HsrMsg → List HsrNode → Except Fault (Int × List HsrNode)
  | [], cache => .ok (0, cache)
  | msg :: msgs, cache => do
    let (err, cache) ← updateMsgParser msg cache
    if err < 0 ∧ err ≠ -NLE_EXIST then .ok (err, cache) else pickupMsgs msgs cache

/-- a computation that looks at nothing -/
def lift {α : Type} : Except Fault α → NodeOp α
  | .ok a => pure a
  | .error e => fail e

/-- `nl_cache_pickup` -/
def nlCachePickup (answer : Answer) (cache : List HsrNode) : NodeOp (Int × List HsrNode) := do
  let (err, cache) ← lift (pickupMsgs answer.msgs cache)
  pure (if err < 0 then err else answer.code, cache)

/-! ## filling -/

def getAddInterfaceIfindex : NodeOp UInt32 := sys fun vars => (vars.addInterfaceIfindex, vars)

def setAddInterfaceIfindex (ifindex : UInt32) : NodeOp PUnit := sys fun _ => (⟨⟩, ⟨ifindex⟩)

/-- `hnode_request_update`; the cache is not looked at -/
def hnodeRequestUpdate : NodeOp Int := do
  let ifindex ← getAddInterfaceIfindex
  emit ⟨ifindex⟩
  pure 0

/-- the loop of `nl_cache_refill` -/
def refillLoop (answer : Answer) : List (List HsrMsg) → List HsrNode → NodeOp (Int × List HsrNode)
  | [], cache => do
    let err ← hnodeRequestUpdate
    if err < 0 then pure (err, cache) else nlCachePickup answer cache
  | msgs :: interrupted, cache => do
    let err ← hnodeRequestUpdate
    if err < 0 then pure (err, cache)
    else
      let (err, cache) ← nlCachePickup ⟨msgs, -NLE_DUMP_INTR⟩ cache
      if err = -NLE_DUMP_INTR then refillLoop answer interrupted cache else pure (err, cache)

/-- the reply of the kernel is about the interface that it is asked for -/
def replyOf (kernel : UInt32 → Reply) : NodeOp Reply := do
  let ifindex ← getAddInterfaceIfindex
  pure (kernel ifindex)

/-- `nl_cache_refill` of a cache of nodes; the cache is cleared first -/
def nlCacheRefill (kernel : UInt32 → Reply) : NodeOp (Int × List HsrNode) := do
  let reply ← replyOf kernel
  refillLoop reply.answer reply.interrupted []

/-- `nl_cache_alloc_and_fill`; a cache that was not filled is freed -/
def nlCacheAllocAndFill (kernel : UInt32 → Reply) : NodeOp (Except Int (List HsrNode)) := do
  let (err, cache) ← nlCacheRefill kernel
  pure (if err < 0 then .error err else .ok cache)

/-- the loop of `hnode_alloc_cache` over the dumped links -/
def allocLoop (kernel : UInt32 → Reply) :
    List LinkObj → Int → List UInt32 → List HsrNode → NodeOp (Int × List HsrNode)
  | [], ret, _, result => pure (ret, result)
  | link :: links, ret, added, result =>
    if !link.isHsr then allocLoop kernel links ret added result
    else if link.getIfindex ∈ added then allocLoop kernel links ret added result
    else do
      setAddInterfaceIfindex link.getIfindex
      let filled ← nlCacheAllocAndFill kernel
      match filled with
      | .error ret => pure (ret, result)
      | .ok tempResult =>
        let reply ← replyOf kernel
        let (_, tempResult) ← nlCachePickup reply.ack tempResult
        let asked ← getAddInterfaceIfindex
        let result := tempResult.foldl
          (fun result obj => ObjectOps.cacheAdd result (nlObjectClone obj)) result
        allocLoop kernel links 0 (added ++ [asked]) result

/-- `hnode_alloc_cache`, when the links were dumped; the result and the cache -/
def hnodeAllocCache (kernel : UInt32 → Reply) (linkCache : List LinkObj) :
    NodeOp (Int × List HsrNode) := do
  setAddInterfaceIfindex 0xFFFFFFFF
  allocLoop kernel linkCache 0 [] []

def hnodeAllocCacheForInterface (kernel : UInt32 → Reply) (ifindex : Int32) :
    NodeOp (Except Int (List HsrNode)) :=
  if ifindex < 1 then pure (.error (-1))
  else do
    setAddInterfaceIfindex ifindex.toUInt32
    nlCacheAllocAndFill kernel

/-- the interfaces of the HSR links, each once, in the order of the links -/
def hsrIfindexes (linkCache : List LinkObj) : List UInt32 :=
  ((linkCache.filter fun link => link.isHsr).map fun link => link.getIfindex).eraseDups

/-! ## what a fill asks for -/

section
variable (vars : HnodeVars)

/-- the variable is `vars` -/
def At (w : HnodeVars) : Prop := w = vars

lemma hnodeRequestUpdate_spec : SpecIn (At vars) hnodeRequestUpdate fun r l =>
    r = .ok 0 ∧ l = [⟨vars.addInterfaceIfindex⟩] := by
  rintro w rfl
  exact ⟨rfl, rfl, rfl⟩

lemma replyOf_spec (kernel : UInt32 → Reply) : SpecIn (At vars) (replyOf kernel) fun r l =>
    r = .ok (kernel vars.addInterfaceIfindex) ∧ l = [] := by
  rintro w rfl
  exact ⟨rfl, rfl, rfl⟩

lemma nlCachePickup_spec (answer : Answer) (cache : List HsrNode) :
    SpecIn (At vars) (nlCachePickup answer cache) fun _ l => l = [] := by
  rintro w rfl
  rw [nlCachePickup, bind_apply]
  cases pickupMsgs answer.msgs cache with
  | error e => exact ⟨rfl, rfl⟩
  | ok r => exact ⟨rfl, rfl⟩

/-- requests, at least one, all about the interface in the variable -/
def AsksFor (l : List GetNodeList) : Prop :=
  ∃ n, l = List.replicate (n + 1) ⟨vars.addInterfaceIfindex⟩

lemma refillLoop_spec (answer : Answer) (interrupted : List (List HsrMsg)) (cache : List HsrNode) :
    SpecIn (At vars) (refillLoop answer interrupted cache) fun _ l => AsksFor vars l := by
  induction interrupted generalizing cache with
  | nil =>
    refine specIn_bind_val (hnodeRequestUpdate_spec vars) fun l hl => ?_
    rw [if_neg (by decide), hl]
    refine (nlCachePickup_spec vars answer cache).mono fun r l hl => ⟨0, ?_⟩
    rw [hl]
    rfl
  | cons msgs interrupted ih =>
    refine specIn_bind_val (hnodeRequestUpdate_spec vars) fun l hl => ?_
    rw [if_neg (by decide), hl]
    refine specIn_bind (nlCachePickup_spec vars _ cache) (fun e l hl => ⟨0, ?_⟩) fun a l hl => ?_
    · rw [hl]
      rfl
    · rw [hl]
      refine specIn_ite (fun _ => (ih a.2).mono fun r l hl => ?_) fun _ => specIn_pure ⟨0, rfl⟩
      obtain ⟨n, rfl⟩ := hl
      exact ⟨n + 1, rfl⟩

/-- **A fill asks for the interface in the variable**, whichever cache it fills. -/
theorem nlCacheRefill_spec (kernel : UInt32 → Reply) :
    SpecIn (At vars) (nlCacheRefill kernel) fun _ l => AsksFor vars l := by
  refine specIn_bind_val (replyOf_spec vars kernel) fun l hl => ?_
  rw [hl]
  exact refillLoop_spec vars _ _ _

lemma mem_asksFor {l : List GetNodeList} (h : AsksFor vars l) (ifindex : UInt32) :
    ⟨ifindex⟩ ∈ l ↔ ifindex = vars.addInterfaceIfindex := by
  obtain ⟨n, rfl⟩ := h
  rw [List.mem_replicate]
  simp

end

end Hsr.NodeCaches
