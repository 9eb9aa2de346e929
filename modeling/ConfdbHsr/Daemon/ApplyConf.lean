import ConfdbHsr.Daemon.State

/-!
# Applying a configuration (`apply_conf.c`)

The functions that look at the kernel's link table and create, delete or queue an HSR interface.
-/

namespace Hsr
open Nl Proc

variable {W : Type} (S : Sys W)

/-- the opening of every operation: connect, and dump the link table of the kernel -/
def withDump {α : Type} (onError : Int → Op W α) (k : List LinkObj → Op W α) : Op W α := do
  let ret ← sys S.nlConnect
  if ret < 0 then onError ret
  else
    let (ret, linkCache) ← sys S.rtnlLinkAllocCache
    if ret < 0 then onError ret else k linkCache

/-- `nl_cache_put(link_cache)` on the error path of an operation, where the variable is not set yet -/
def putUnset {α : Type} : Op W α := fail .wildPut

def createHsrInterface (ifName : CStr) (slave1 slave2 : Option LinkObj) (version : UInt8) :
    Op W Int := do
  let link := (rtnlLinkHsrAlloc.setName ifName).hsrSetVersion version
  let s1 ← deref .nullGetIfindex slave1
  let link := link.hsrSetSlave1 s1.getIfindex
  let s2 ← deref .nullGetIfindex slave2
  let link := link.hsrSetSlave2 s2.getIfindex
  let ret ← sys (S.rtnlLinkAdd link)
  emit (.linkAdd ifName link ret)
  pure (if ret < 0 then ret else 0)

/-- `rtnl_link_delete` -/
def requestDelete (link : LinkObj) : Op W Int := do
  let ret ← sys (S.rtnlLinkDelete link)
  emit (.linkDelete link ret)
  pure ret

/-- `delete_hsr_interface_by_name` on the dumped links -/
def deleteNamed (ifName : CStr) (linkCache : List LinkObj) : Op W Int :=
  match rtnlLinkGetByName linkCache ifName with
  | none => pure (-NLE_OBJ_NOTFOUND)
  | some hsrLink => do
    let ret ← requestDelete S hsrLink
    pure (if ret < 0 then ret else 0)

def deleteHsrInterfaceByName (ifName : CStr) : Op W Int :=
  withDump S pure (deleteNamed S ifName)

def deleteHsrInterface (hsrLink : LinkObj) : Op W Int := do
  let ret ← requestDelete S hsrLink
  -- a link that is gone already is only logged
  pure (if ret < 0 ∧ ret ≠ -NLE_OBJ_NOTFOUND then ret else 0)

def recreateHsrInterface (oldHsrLink : LinkObj) (slave1 slave2 : Option LinkObj)
    (version : UInt8) : Op W Int := do
  let ret ← deleteHsrInterface S oldHsrLink
  if ret < 0 then pure ret
  else createHsrInterface S oldHsrLink.lName slave1 slave2 version

/-- `create_hif_from_waitlist` on the dumped links -/
def createOrRecreate (ifName slave1Name slave2Name : CStr) (linkCache : List LinkObj) :
    Op W Int :=
  let slave1Link := rtnlLinkGetByName linkCache slave1Name
  let slave2Link := rtnlLinkGetByName linkCache slave2Name
  match rtnlLinkGetByName linkCache ifName with
  | none => createHsrInterface S ifName slave1Link slave2Link 1
  -- the source passes the second slave for both
  | some hsrLink => recreateHsrInterface S hsrLink slave2Link slave2Link 1

def createHifFromWaitlist (ifName slave1Name slave2Name : CStr) : Op W Int :=
  withDump S (fun _ => putUnset) (createOrRecreate S ifName slave1Name slave2Name)

/-- `rtnl_link_hsr_get_slave1` -/
def rtnlLinkHsrGetSlave1 (link : LinkObj) : Op W UInt32 := do
  emit (.hsrGetSlave link)
  if !link.isHsr && S.asserts then fail .appBug else pure link.hsrSlave1

/-- `rtnl_link_hsr_get_slave2` -/
def rtnlLinkHsrGetSlave2 (link : LinkObj) : Op W UInt32 := do
  emit (.hsrGetSlave link)
  if !link.isHsr && S.asserts then fail .appBug else pure link.hsrSlave2

/-- the loop of `get_master` over the dumped links -/
def getMasterLoop (slave : UInt32) : List LinkObj → Op W (Option LinkObj)
  | [] => pure none
  | link :: links =>
    if !link.isHsr then getMasterLoop slave links
    else do
      let linkSlave1 ← rtnlLinkHsrGetSlave1 S link
      let linkSlave2 ← rtnlLinkHsrGetSlave2 S link
      if slave == linkSlave1 || slave == linkSlave2 then pure (some link)
      else getMasterLoop slave links

/-- `get_master`: the pointer `*master` after the call -/
def getMaster (slave : UInt32) : Op W (Option LinkObj) := do
  let (ret, linkCache) ← sys S.rtnlLinkAllocCache
  if ret < 0 then putUnset
  else getMasterLoop S slave linkCache

/-- the branch of `main_check` for two existing slaves and an existing device: what becomes of the
device and of the node -/
def mainCheckReconfigure (slave1Ifindex slave2Ifindex : UInt32)
    (slave1Master slave2Master : Option LinkObj) (hsrLink : LinkObj) (node : WaitListNode) :
    Op W (Int × WaitListNode) := do
  let sl1 ← rtnlLinkHsrGetSlave1 S hsrLink
  let sl2 ← rtnlLinkHsrGetSlave2 S hsrLink
  if (slave1Ifindex == sl1 && slave2Ifindex == sl2) ||
      (slave2Ifindex == sl1 && slave1Ifindex == sl2) then do
    let ret ← deleteHsrInterface S hsrLink
    pure (ret, node)
  else if slave1Ifindex == sl1 || slave1Ifindex == sl2 then
    if slave2Master.isNone then do
      let ret ← deleteHsrInterface S hsrLink
      pure (ret, node)
    else pure (0, setStatusFlags node SLAVE2_BUSY)
  else if slave2Ifindex == sl1 || slave2Ifindex == sl2 then
    if slave1Master.isNone then do
      let ret ← deleteHsrInterface S hsrLink
      pure (ret, node)
    else pure (0, setStatusFlags node SLAVE1_BUSY)
  else if slave1Master.isNone && slave2Master.isNone then do
    let ret ← deleteHsrInterface S hsrLink
    pure (ret, node)
  else if slave1Master.isSome && slave2Master.isSome then
    pure (0, setStatusFlags node (SLAVE1_BUSY ||| SLAVE2_BUSY))
  -- exactly one slave is a port of another device: no flag is set
  else pure (0, node)

/-- the branch of `main_check` for two existing slaves and no device -/
def mainCheckFresh (waitList : List WaitListNode) (ifName : CStr)
    (slave1Master slave2Master : Option LinkObj) (slave1 slave2 : LinkObj)
    (node : WaitListNode) : Op W (Int × List WaitListNode) :=
  if slave1Master.isNone && slave2Master.isNone then
    if waitList.isEmpty then do
      let ret ← createHsrInterface S ifName (some slave1) (some slave2) 1
      if ret < 0 then pure (ret, waitList) else pure (0, waitList)
    else pure (0, addNodeToWaitList node waitList)
  else if slave1Master.isSome && slave2Master.isSome then
    pure (0, addNodeToWaitList (setStatusFlags node (SLAVE1_BUSY ||| SLAVE2_BUSY)) waitList)
  else if slave1Master.isSome && slave2Master.isNone then
    pure (0, addNodeToWaitList (setStatusFlags node SLAVE1_BUSY) waitList)
  else
    pure (0, addNodeToWaitList (setStatusFlags node SLAVE2_BUSY) waitList)

/-- `main_check`: the returned code and the wait list after the call -/
def mainCheck (waitList : List WaitListNode) (ifName : CStr)
    (slave1Link slave2Link hsrLink : Option LinkObj) (node : WaitListNode) :
    Op W (Int × List WaitListNode) :=
  match slave1Link, slave2Link with
  | none, none =>
    let node := setStatusFlags node (SLAVE1_NOT_EXISTS ||| SLAVE2_NOT_EXISTS)
    pure (0, addNodeToWaitList node waitList)
  | none, some slave2 => do
    let node := setStatusFlags node SLAVE1_NOT_EXISTS
    let slave2Master ← getMaster S slave2.getIfindex
    let node := if slave2Master.isSome then setStatusFlags node SLAVE2_BUSY else node
    pure (0, addNodeToWaitList node waitList)
  | some slave1, none => do
    let node := setStatusFlags node SLAVE2_NOT_EXISTS
    let slave1Master ← getMaster S slave1.getIfindex
    let node := if slave1Master.isSome then setStatusFlags node SLAVE1_BUSY else node
    pure (0, addNodeToWaitList node waitList)
  | some slave1, some slave2 => do
    let slave1Master ← getMaster S slave1.getIfindex
    let slave2Master ← getMaster S slave2.getIfindex
    match hsrLink with
    | some hsrLink => do
      let (ret, node) ← mainCheckReconfigure S slave1.getIfindex slave2.getIfindex
        slave1Master slave2Master hsrLink node
      -- an error leaves the node off the list
      if ret < 0 then pure (ret, waitList)
      else pure (0, addNodeToWaitList node waitList)
    | none =>
      mainCheckFresh S waitList ifName slave1Master slave2Master slave1 slave2 node

/-- `initial_check` on the dumped links -/
def checkLinks (waitList : List WaitListNode) (ifName slave1Name slave2Name : CStr)
    (linkCache : List LinkObj) : Op W (Int × List WaitListNode) := do
  let slave1Link := rtnlLinkGetByName linkCache slave1Name
  let slave2Link := rtnlLinkGetByName linkCache slave2Name
  let hsrLink := rtnlLinkGetByName linkCache ifName
  let (waitList, _) := deleteWaitListNode waitList ifName
  let allocated ← sys S.calloc
  let node := newNode ifName slave1Name slave2Name
  if !allocated then pure (-1, waitList)
  else mainCheck S waitList ifName slave1Link slave2Link hsrLink node

/-- `initial_check`: the returned code and the wait list after the call -/
def initialCheck (waitList : List WaitListNode) (ifName slave1Name slave2Name : CStr) :
    Op W (Int × List WaitListNode) :=
  withDump S (fun _ => putUnset)
    (checkLinks S waitList ifName slave1Name slave2Name)

end Hsr
