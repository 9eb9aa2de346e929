import ConfdbHsr.Lib.Scan
import ConfdbHsr.Daemon.ApplyConf

/-!
# The wait list (`wait_list.c`)

The functions that react to a link notification.  Each walks the list; a walk that stops at the
first node it tries to create is a `Scan.scan`, a walk over all nodes a `List.map`.
-/

namespace Hsr
open Nl Proc Scan

variable {W : Type} (S : Sys W)

/-- `create_hif`: what stays of the node on the list -/
def createHif (node : WaitListNode) : Op W (List WaitListNode) := do
  emit (.createHif node)
  let ret ← createHifFromWaitlist S node.hsrName node.slave1Name node.slave2Name
  pure (if ret < 0 then [node] else [])

/-- run `slave1` on a node that names the link in its first slot, else `slave2` on one that
names it in its second -/
def onSlot {α : Type} (linkName : CStr) (slave1 slave2 : α) (other : α) (node : WaitListNode) : α :=
  if node.slave1Name == linkName then slave1
  else if node.slave2Name == linkName then slave2
  else other

/-- the guard of `new_link` -/
def newLinkReady (linkName : CStr) (node : WaitListNode) : Bool :=
  onSlot linkName
    (isClear node SLAVE2_BUSY && isClear node SLAVE2_NOT_EXISTS && isClear node HSR_STILL_EXISTS)
    (isClear node SLAVE1_BUSY && isClear node SLAVE1_NOT_EXISTS && isClear node HSR_STILL_EXISTS)
    false node

/-- the last loop of `new_link` -/
def linkPresent (linkName : CStr) (node : WaitListNode) : WaitListNode :=
  onSlot linkName (resetStatusFlags node SLAVE1_NOT_EXISTS)
    (resetStatusFlags node SLAVE2_NOT_EXISTS) node node

def newLink (waitList : List WaitListNode) (nLink : LinkObj) : Op W (List WaitListNode) := do
  let linkName ← deref .nullGetName nLink.getName
  let (waitList, _met) ← scan id (newLinkReady linkName) (createHif S) waitList
  pure (waitList.map (linkPresent linkName))

def linkGone (linkName : CStr) (node : WaitListNode) : WaitListNode :=
  onSlot linkName
    (resetStatusFlags (setStatusFlags node SLAVE1_NOT_EXISTS) SLAVE1_BUSY)
    (resetStatusFlags (setStatusFlags node SLAVE2_NOT_EXISTS) SLAVE2_BUSY) node node

def linkDeleted (waitList : List WaitListNode) (oLink : LinkObj) : Op W (List WaitListNode) := do
  let linkName ← deref .nullGetName oLink.getName
  pure (waitList.map (linkGone linkName))

/-- the guard of `link_changed_released` -/
def releasedReady (linkName : CStr) (node : WaitListNode) : Bool :=
  onSlot linkName (isClear node SLAVE2_BUSY) (isClear node SLAVE1_BUSY) false node

/-- the attempt of `link_changed_released` -/
def createUnlessStillExists (node : WaitListNode) : Op W (List WaitListNode) :=
  if isClear node HSR_STILL_EXISTS then createHif S node else pure [node]

/-- the last loop of `link_changed_released`, and of `link_released_hsr_not` -/
def linkFree (linkName : CStr) (node : WaitListNode) : WaitListNode :=
  onSlot linkName (resetStatusFlags node SLAVE1_BUSY) (resetStatusFlags node SLAVE2_BUSY) node node

def linkChangedReleased (waitList : List WaitListNode) (oLink : LinkObj) :
    Op W (List WaitListNode) := do
  let linkName ← deref .nullGetName oLink.getName
  let (waitList, met) ←
    scan id (releasedReady linkName) (createUnlessStillExists S) waitList
  if met then pure waitList
  else pure (waitList.map (linkFree linkName))

def linkBusy (linkName : CStr) (node : WaitListNode) : WaitListNode :=
  onSlot linkName (setStatusFlags node SLAVE1_BUSY) (setStatusFlags node SLAVE2_BUSY) node node

/-- the link may be absent: `link_new_handler` passes what it found in the cache -/
def linkChangedGotBusy (waitList : List WaitListNode) (oLink : Option LinkObj) :
    Op W (List WaitListNode) := do
  let oLink ← deref .nullGetName oLink
  let linkName ← deref .nullGetName oLink.getName
  pure (waitList.map (linkBusy linkName))

def linkReleasedHsrNot (waitList : List WaitListNode) (link linkMaster : LinkObj) :
    Op W (List WaitListNode) := do
  let linkName ← deref .nullGetName link.getName
  let masterLinkName ← deref .nullGetName linkMaster.getName
  pure (waitList.map fun node =>
    let node :=
      if node.hsrName == masterLinkName then setStatusFlags node HSR_STILL_EXISTS else node
    linkFree linkName node)

/-- none of the four bits of the slaves is set -/
def slavesReady (node : WaitListNode) : Bool :=
  isClear node SLAVE1_BUSY && isClear node SLAVE2_BUSY && isClear node SLAVE2_NOT_EXISTS &&
    isClear node SLAVE1_NOT_EXISTS

/-- what the first loop of `hsr_link_deleted` does to a node it passes -/
def clearStillExists (linkName : CStr) (node : WaitListNode) : WaitListNode :=
  if node.hsrName == linkName then resetStatusFlags node HSR_STILL_EXISTS else node

def hsrLinkDeleted (waitList : List WaitListNode) (hsrLink : LinkObj) :
    Op W (List WaitListNode) := do
  let linkName ← deref .nullGetName hsrLink.getName
  let (waitList, met) ← scan (clearStillExists linkName)
    (fun node => node.hsrName == linkName && slavesReady node) (createHif S) waitList
  if met then pure waitList
  else do
    let (waitList, _met) ← scan id slavesReady (createHif S) waitList
    pure waitList

end Hsr
