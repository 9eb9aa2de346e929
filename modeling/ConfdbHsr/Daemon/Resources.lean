import ConfdbHsr.Daemon.NodeList
import ConfdbHsr.Daemon.Handlers
import ConfdbHsr.Lib.Ledger
import ConfdbHsr.Libnl.Socket

/-!
# What the daemon holds

The handlers once more, with the sockets, descriptors and caches they allocate and give back.
Every operation allocates a socket, which is never freed, and connects it; a process that holds
`limit` descriptors gets no other one.

* `Held`        the account: sockets, open descriptors, link caches;
* `CachePtr`    the variable `link_cache` when `nl_cache_put` is applied to it;
* `ROp W`       an operation with its account;
* `handle`, `Held.handle`   the daemon as a machine, without and with its account.

Allocations of sockets and caches succeed, and links are not counted.
-/

namespace Hsr
open Nl Proc Scan Ledger

structure Held where
  socks : Int
  fds : Int
  caches : Int
  deriving DecidableEq, Repr

inductive CachePtr where
  | unset | null | set
  deriving DecidableEq, Repr

abbrev ROp (W : Type) := Proc Fault (W × Held) Act

namespace Held

variable {W : Type} (limit : Int) (S : Sys W)

def EMFILE : Int := 24

/-! ## sockets and caches -/

def nlSocketAlloc : ROp W Unit := charge fun held => { held with socks := held.socks + 1 }

/-- `nl_connect`: when it fails it leaves no descriptor open -/
def nlConnect : ROp W Int := sys fun (w, held) =>
  if limit ≤ held.fds then (-nlSyserr2nlerr EMFILE, w, held)
  else
    let (ret, w) := S.nlConnect w
    (ret, w, if ret < 0 then held else { held with fds := held.fds + 1 })

/-- `rtnl_link_alloc_cache`: when it fails it frees the cache and does not set the pointer -/
def rtnlLinkAllocCache : ROp W (Int × List LinkObj) := sys fun (w, held) =>
  let ((ret, linkCache), w) := S.rtnlLinkAllocCache w
  ((ret, linkCache), w, if ret < 0 then held else { held with caches := held.caches + 1 })

def nlCachePut : CachePtr → ROp W Unit
  | .unset => fail .wildPut
  | .null => pure ()
  | .set => charge fun held => { held with caches := held.caches - 1 }

/-- `nl_close`; a socket that is not connected has no descriptor to close -/
def nlClose : (connected : Bool) → ROp W Unit
  | true => charge fun held => { held with fds := held.fds - 1 }
  | false => pure ()

/-! ## applying a configuration -/

/-- the opening of every operation; `linkCache` is the pointer before the dump -/
def withDump {α : Type} (linkCache : CachePtr) (onError : Int → α) (k : List LinkObj → ROp W α) :
    ROp W α := do
  nlSocketAlloc
  let ret ← nlConnect limit S
  if ret < 0 then do
    nlCachePut linkCache
    nlClose false
    pure (onError ret)
  else
    let (ret, links) ← rtnlLinkAllocCache S
    if ret < 0 then do
      nlCachePut linkCache
      nlClose true
      pure (onError ret)
    else k links

/-- an operation on the dumped links that at its end puts the cache and closes the socket -/
def withLinks {α : Type} (linkCache : CachePtr) (onError : Int → α) (k : List LinkObj → ROp W α) :
    ROp W α :=
  withDump limit S linkCache onError fun links => do
    let a ← k links
    nlCachePut .set
    nlClose true
    pure a

def deleteHsrInterfaceByName (ifName : CStr) : ROp W Int :=
  withLinks limit S .null id fun links => lift (deleteNamed S ifName links)

def createHifFromWaitlist (ifName slave1Name slave2Name : CStr) : ROp W Int :=
  withLinks limit S .unset id fun links =>
    lift (createOrRecreate S ifName slave1Name slave2Name links)

/-- a found master is returned without putting the cache -/
def getMaster (slave : UInt32) : ROp W (Option LinkObj) := do
  let (ret, linkCache) ← rtnlLinkAllocCache S
  if ret < 0 then do
    nlCachePut .unset
    pure none
  else
    let master ← lift (getMasterLoop S slave linkCache)
    if master.isSome then pure master
    else do
      nlCachePut .set
      pure none

def mainCheck (waitList : List WaitListNode) (ifName : CStr)
    (slave1Link slave2Link hsrLink : Option LinkObj) (node : WaitListNode) :
    ROp W (Int × List WaitListNode) :=
  match slave1Link, slave2Link with
  | none, none =>
    let node := setStatusFlags node (SLAVE1_NOT_EXISTS ||| SLAVE2_NOT_EXISTS)
    pure (0, addNodeToWaitList node waitList)
  | none, some slave2 => do
    let node := setStatusFlags node SLAVE1_NOT_EXISTS
    let slave2Master ← getMaster S slave2.getIfindex
    let node := if slave2Master.isSome then setStatusFlags node SLAVE2_BUSY else node
    pure (0, addNodeToWaitList node waitList)
  | some slave1, none => do
    let node := setStatusFlags node SLAVE2_NOT_EXISTS
    let slave1Master ← getMaster S slave1.getIfindex
    let node := if slave1Master.isSome then setStatusFlags node SLAVE1_BUSY else node
    pure (0, addNodeToWaitList node waitList)
  | some slave1, some slave2 => do
    let slave1Master ← getMaster S slave1.getIfindex
    let slave2Master ← getMaster S slave2.getIfindex
    lift <| match hsrLink with
    | some hsrLink => do
      let (ret, node) ← mainCheckReconfigure S slave1.getIfindex slave2.getIfindex
        slave1Master slave2Master hsrLink node
      if ret < 0 then pure (ret, waitList)
      else pure (0, addNodeToWaitList node waitList)
    | none =>
      mainCheckFresh S waitList ifName slave1Master slave2Master slave1 slave2 node

def checkLinks (waitList : List WaitListNode) (ifName slave1Name slave2Name : CStr)
    (linkCache : List LinkObj) : ROp W (Int × List WaitListNode) := do
  let slave1Link := rtnlLinkGetByName linkCache slave1Name
  let slave2Link := rtnlLinkGetByName linkCache slave2Name
  let hsrLink := rtnlLinkGetByName linkCache ifName
  let (waitList, _) := deleteWaitListNode waitList ifName
  let allocated ← lift (sys S.calloc)
  let node := newNode ifName slave1Name slave2Name
  if !allocated then pure (-1, waitList)
  else mainCheck S waitList ifName slave1Link slave2Link hsrLink node

def initialCheck (waitList : List WaitListNode) (ifName slave1Name slave2Name : CStr) :
    ROp W (Int × List WaitListNode) :=
  withLinks limit S .unset (fun ret => (ret, waitList))
    (checkLinks S waitList ifName slave1Name slave2Name)

/-- `change_interface_list` returns without putting the cache and closing the socket; only an
error does both -/
def changeInterfaceList (app : HsrModule) (interfaceName : CStr) (isAdd : Bool) :
    ROp W (Int × HsrModule) :=
  withDump limit S .unset (fun _ => (-1, app)) fun links =>
    lift (trackInterface app interfaceName isAdd links)

/-! ## the handlers -/

def hsrHandler (app : HsrModule) (key : Option CStr) (cdbData : Option HsrData) :
    ROp W (Int × HsrModule) :=
  match key with
  | none => pure (-1, app)
  | some interfaceName =>
    match cdbData with
    | some cdbData => do
      let (_, app) ← changeInterfaceList limit S app interfaceName true
      match cdbData.slaveA, cdbData.slaveB with
      | some slaveA, some slaveB => do
        let (ret, waitList) ← initialCheck limit S app.waitList interfaceName slaveA slaveB
        pure (if ret < 0 then ret else 0, { app with waitList := waitList })
      | _, _ => pure (-1, app)
    | none => do
      let ret ← deleteHsrInterfaceByName limit S interfaceName
      if ret < 0 then
        let (waitList, _) := deleteWaitListNode app.waitList interfaceName
        pure (0, { app with waitList := waitList })
      else do
        let (_, app) ← changeInterfaceList limit S app interfaceName false
        pure (0, app)

def createHif (node : WaitListNode) : ROp W (List WaitListNode) := do
  emit (.createHif node)
  let ret ← createHifFromWaitlist limit S node.hsrName node.slave1Name node.slave2Name
  pure (if ret < 0 then [node] else [])

def newLink (waitList : List WaitListNode) (nLink : LinkObj) : ROp W (List WaitListNode) := do
  let linkName ← lift (deref .nullGetName nLink.getName)
  let (waitList, _met) ← scan id (newLinkReady linkName) (createHif limit S) waitList
  pure (waitList.map (linkPresent linkName))

def createUnlessStillExists (node : WaitListNode) : ROp W (List WaitListNode) :=
  if isClear node HSR_STILL_EXISTS then createHif limit S node else pure [node]

def linkChangedReleased (waitList : List WaitListNode) (oLink : LinkObj) :
    ROp W (List WaitListNode) := do
  let linkName ← lift (deref .nullGetName oLink.getName)
  let (waitList, met) ←
    scan id (releasedReady linkName) (createUnlessStillExists limit S) waitList
  if met then pure waitList
  else pure (waitList.map (linkFree linkName))

def hsrLinkDeleted (waitList : List WaitListNode) (hsrLink : LinkObj) :
    ROp W (List WaitListNode) := do
  let linkName ← lift (deref .nullGetName hsrLink.getName)
  let (waitList, met) ← scan (clearStillExists linkName)
    (fun node => node.hsrName == linkName && slavesReady node) (createHif limit S) waitList
  if met then pure waitList
  else do
    let (waitList, _met) ← scan id slavesReady (createHif limit S) waitList
    pure waitList

def linkChangedHandler (waitList : List WaitListNode) (cache : List LinkObj)
    (oLink nLink : LinkObj) : ROp W (List WaitListNode) :=
  let linkInfoKind := oLink.lInfoKind.getD []
  let oLinkMaster := rtnlLinkGet cache oLink.lMaster
  let nLinkMaster := rtnlLinkGet cache nLink.lMaster
  if oLink.isEther then
    if linkInfoKind != cs "hsr" then
      match oLinkMaster, nLinkMaster with
      | none, some _ => lift (linkChangedGotBusy waitList (some oLink))
      | some oLinkMaster, none => do
        let isHsr ← lift (strEq oLinkMaster.lInfoKind (cs "hsr"))
        if !isHsr then linkChangedReleased limit S waitList nLink
        else lift (linkReleasedHsrNot waitList nLink oLinkMaster)
      | _, _ => pure waitList
    else pure waitList
  else pure waitList

def linkDeletedHandler (waitList : List WaitListNode) (oLink : LinkObj) :
    ROp W (List WaitListNode) :=
  if oLink.isEther then do
    let isHsr ← lift (strEq oLink.lInfoKind (cs "hsr"))
    if !isHsr then lift (linkDeleted waitList oLink)
    else hsrLinkDeleted limit S waitList oLink
  else pure waitList

def linkNewHandler (waitList : List WaitListNode) (cache : List LinkObj) (nLink : LinkObj) :
    ROp W (List WaitListNode) :=
  if nLink.isEther then do
    let isHsr ← lift (strEq nLink.lInfoKind (cs "hsr"))
    if !isHsr then newLink limit S waitList nLink
    else lift (linkChangedGotBusy waitList (rtnlLinkGet cache nLink.lLink))
  else pure waitList

def routeLinkCacheChangeCb (waitList : List WaitListNode) (cache : List LinkObj) :
    Note LinkObj → ROp W (List WaitListNode)
  | .new nLink => linkNewHandler limit S waitList cache nLink
  | .del oLink => linkDeletedHandler limit S waitList oLink
  | .change oLink nLink _ => linkChangedHandler limit S waitList cache oLink nLink

def addNodeToList (node : HsrNode) : ROp W Int :=
  withLinks limit S .unset id fun links => lift (editNode S .merge (fun _ => -1) node links)

def deleteNodeFromList (node : HsrNode) : ROp W Int :=
  withLinks limit S .unset id fun links =>
    lift (editNode S .remove (fun ret => ret) node links)

def hnodeCacheChangeCb (app : HsrModule) (mngrHnodeCache : List HsrNode) (note : Note HsrNode) :
    ROp W (List HsrNode) := do
  emit (.nodeNote note)
  if app.interfacesSize > 0 then
    match note with
    | .new nObj => do
      let _ ← addNodeToList limit S nObj
      pure mngrHnodeCache
    | .del oObj => do
      let _ ← deleteNodeFromList limit S oObj
      pure mngrHnodeCache
    | .change oObj _ _ => pure (ObjectOps.cacheAdd mngrHnodeCache oObj)
  else pure mngrHnodeCache

end Held

/-! ## the machine -/

/-- what the daemon handles: an input of its machine, or a change of the managed cache of nodes -/
inductive Event where
  | input (i : Input)
  | node (mngrHnodeCache : List HsrNode) (note : Note HsrNode)

/-- the configuration of an interface is set -/
def Event.sets : Event → Nat
  | .input (.config (some _) (some _)) => 1
  | _ => 0

/-- the configuration of an interface is taken away -/
def Event.dels : Event → Nat
  | .input (.config (some _) none) => 1
  | _ => 0

variable {W : Type} (S : Sys W)

/-- an event, without the account -/
def handle (app : HsrModule) : Event → Op W HsrModule
  | .input i => step S app i
  | .node mngrHnodeCache note => do
    let _ ← hnodeCacheChangeCb S app mngrHnodeCache note
    pure app

def handleAll (app : HsrModule) (events : List Event) : Op W HsrModule :=
  events.foldlM (handle S) app

namespace Held

/-- an event, with the account -/
def handle (limit : Int) (app : HsrModule) : Event → ROp W HsrModule
  | .input (.config key cdbData) => do
    let (_, app) ← hsrHandler limit S app key cdbData
    pure app
  | .input (.link cache note) => do
    let waitList ← routeLinkCacheChangeCb limit S app.waitList cache note
    pure { app with waitList := waitList }
  | .node mngrHnodeCache note => do
    let _ ← hnodeCacheChangeCb limit S app mngrHnodeCache note
    pure app

def handleAll (limit : Int) (app : HsrModule) (events : List Event) : ROp W HsrModule :=
  events.foldlM (handle S limit) app

end Held

end Hsr
