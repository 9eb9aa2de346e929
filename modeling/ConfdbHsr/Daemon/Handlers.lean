import ConfdbHsr.Lib.Run
import ConfdbHsr.Daemon.WaitList

/-!
# The handlers (`handlers.c`, `hsr_module.c`)

* `changeInterfaceList`        the list of tracked interfaces;
* `hsrHandler`                 a configuration call;
* `routeLinkCacheChangeCb`     a link notification, dispatched to the three link handlers;
* `Input`, `step`              the daemon as a machine that handles one input after the other.
-/

namespace Hsr
open Nl Proc

variable {W : Type} (S : Sys W)

/-! ## the tracked interfaces -/

def findInterface (app : HsrModule) (ifId : UInt32) : Bool :=
  (List.range app.interfacesSize.toNat).any fun i => app.interfaces[i]?.getD 0 == ifId

/-- `realloc` of an array of `uint32_t` to `n` elements; a negative `n` is a size no allocator
grants -/
def reallocArray (a : List UInt32) (n : Int) : List UInt32 :=
  if n < 0 then [] else a.take n.toNat ++ List.replicate (n.toNat - a.length) 0

/-- a store to `interfaces` -/
def storeInterface (app : HsrModule) (idx : Int) (ifId : UInt32) : Op W HsrModule := do
  emit (.interfacesStore idx app.interfaces.length)
  if 0 ≤ idx ∧ idx < app.interfaces.length then
    pure { app with interfaces := app.interfaces.set idx.toNat ifId }
  else fail .wildStore

def addInterface (app : HsrModule) (ifId : UInt32) : Op W HsrModule := do
  let size := app.interfacesSize + 1
  let app := { app with interfacesSize := size, interfaces := reallocArray app.interfaces size }
  storeInterface app (size - 1) ifId

/-- the array is given its old size again, then the counter is decremented -/
def deleteInterface (app : HsrModule) : HsrModule :=
  { app with
    interfaces := reallocArray app.interfaces app.interfacesSize
    interfacesSize := app.interfacesSize - 1 }

/-- `change_interface_list` on the dumped links -/
def trackInterface (app : HsrModule) (interfaceName : CStr) (isAdd : Bool)
    (linkCache : List LinkObj) : Op W (Int × HsrModule) :=
  -- the index is unsigned: the source's test for a negative one never holds
  let ifId := rtnlLinkName2i linkCache interfaceName
  if findInterface app ifId then pure (0, app)
  else if isAdd then do
    let app ← addInterface app ifId
    pure (0, app)
  else pure (0, deleteInterface app)

def changeInterfaceList (app : HsrModule) (interfaceName : CStr) (isAdd : Bool) :
    Op W (Int × HsrModule) :=
  withDump S (fun _ => putUnset) (trackInterface app interfaceName isAdd)

/-! ## a configuration call -/

/-- the configuration of an interface: the members that are strings -/
structure HsrData where
  slaveA : Option CStr
  slaveB : Option CStr
  deriving DecidableEq, Repr

def hsrHandler (app : HsrModule) (key : Option CStr) (cdbData : Option HsrData) :
    Op W (Int × HsrModule) :=
  match key with
  | none => pure (-1, app)
  | some interfaceName =>
    match cdbData with
    | some cdbData => do
      let (_, app) ← changeInterfaceList S app interfaceName true
      match cdbData.slaveA, cdbData.slaveB with
      | some slaveA, some slaveB => do
        let (ret, waitList) ← initialCheck S app.waitList interfaceName slaveA slaveB
        pure (if ret < 0 then ret else 0, { app with waitList := waitList })
      | _, _ => pure (-1, app)
    | none => do
      let ret ← deleteHsrInterfaceByName S interfaceName
      if ret < 0 then
        let (waitList, _) := deleteWaitListNode app.waitList interfaceName
        pure (0, { app with waitList := waitList })
      else do
        let (_, app) ← changeInterfaceList S app interfaceName false
        pure (0, app)

/-! ## link notifications -/

def linkChangedHandler (waitList : List WaitListNode) (cache : List LinkObj)
    (oLink nLink : LinkObj) : Op W (List WaitListNode) :=
  let linkInfoKind := oLink.lInfoKind.getD []
  let oLinkMaster := rtnlLinkGet cache oLink.lMaster
  let nLinkMaster := rtnlLinkGet cache nLink.lMaster
  if oLink.isEther then
    if linkInfoKind != cs "hsr" then
      match oLinkMaster, nLinkMaster with
      | none, some _ => linkChangedGotBusy waitList (some oLink)
      | some oLinkMaster, none => do
        let isHsr ← strEq oLinkMaster.lInfoKind (cs "hsr")
        if !isHsr then linkChangedReleased S waitList nLink
        else linkReleasedHsrNot waitList nLink oLinkMaster
      | _, _ => pure waitList
    else pure waitList
  else pure waitList

def linkDeletedHandler (waitList : List WaitListNode) (oLink : LinkObj) :
    Op W (List WaitListNode) :=
  if oLink.isEther then do
    let isHsr ← strEq oLink.lInfoKind (cs "hsr")
    if !isHsr then linkDeleted waitList oLink
    else hsrLinkDeleted S waitList oLink
  else pure waitList

def linkNewHandler (waitList : List WaitListNode) (cache : List LinkObj) (nLink : LinkObj) :
    Op W (List WaitListNode) :=
  if nLink.isEther then do
    let isHsr ← strEq nLink.lInfoKind (cs "hsr")
    if !isHsr then newLink S waitList nLink
    else linkChangedGotBusy waitList (rtnlLinkGet cache nLink.lLink)
  else pure waitList

/-- `route_link_cache_change_cb`; `cache` is the managed link cache, which holds the notified
change already -/
def routeLinkCacheChangeCb (waitList : List WaitListNode) (cache : List LinkObj) :
    Note LinkObj → Op W (List WaitListNode)
  | .new nLink => linkNewHandler S waitList cache nLink
  | .del oLink => linkDeletedHandler S waitList oLink
  | .change oLink nLink _ => linkChangedHandler S waitList cache oLink nLink

/-! ## the machine -/

/-- an input of the daemon: a configuration call, or a link notification with the content of the
managed link cache -/
inductive Input where
  | config (key : Option CStr) (cdbData : Option HsrData)
  | link (cache : List LinkObj) (note : Note LinkObj)
  deriving DecidableEq, Repr

def step (app : HsrModule) : Input → Op W HsrModule
  | .config key cdbData => do
    let (_, app) ← hsrHandler S app key cdbData
    pure app
  | .link cache note => do
    let waitList ← routeLinkCacheChangeCb S app.waitList cache note
    pure { app with waitList := waitList }

end Hsr
