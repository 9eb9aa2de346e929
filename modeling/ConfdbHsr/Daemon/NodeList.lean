import ConfdbHsr.Daemon.ApplyConf
import ConfdbHsr.Libnl.NodeMessage

/-!
# The list of nodes (`status.c`, `handlers.c`) and the notifications that change it

The managed cache of HSR nodes, and its publication in the CDB by the change callback.

* `addNodeToList`, `deleteNodeFromList`   publish a node, withdraw it;
* `hnodeCacheChangeCb`   the callback; it is given the cache after the change;
* `eventInput`           a message of the HSR family enters the managed cache (`cache_mngr.c`),
                         whose callback may be any.
-/

namespace Hsr
open Nl Proc

variable {W : Type} (S : Sys W)

/-- `hnode_get_mac_address_A` -/
def hnodeGetMacAddressA (node : HsrNode) : CStr := S.addrText node.macAddressA

/-- `cdb_edit_status` of an entry of the node list of an interface -/
def cdbEditStatus (op : CdbOp) (linkName mac : CStr) : Op W Int := do
  let ret ← sys (S.cdbEditStatus op linkName mac)
  emit (.cdbEdit op linkName mac)
  pure ret

/-- what `add_node_to_list` and `delete_node_from_list` do with the dumped links: an edit of the
entry of the node, under the name of its interface; `onError` is their result when it fails -/
def editNode (op : CdbOp) (onError : Int → Int) (node : HsrNode) (linkCache : List LinkObj) :
    Op W Int :=
  match rtnlLinkI2name linkCache node.hnIfindex 128 with
  | none => pure (-1)
  | some linkName => do
    let ret ← cdbEditStatus S op linkName (hnodeGetMacAddressA S node)
    pure (if ret < 0 then onError ret else 0)

def addNodeToList (node : HsrNode) : Op W Int :=
  withDump S (fun _ => putUnset) (editNode S .merge (fun _ => -1) node)

def deleteNodeFromList (node : HsrNode) : Op W Int :=
  withDump S (fun _ => putUnset) (editNode S .remove (fun ret => ret) node)

/-- `hnode_cache_change_cb`; `mngrHnodeCache` is the managed cache after the change -/
def hnodeCacheChangeCb (app : HsrModule) (mngrHnodeCache : List HsrNode) (note : Note HsrNode) :
    Op W (List HsrNode) := do
  emit (.nodeNote note)
  if app.interfacesSize > 0 then
    match note with
    | .new nObj => do
      let _ ← addNodeToList S nObj
      pure mngrHnodeCache
    | .del oObj => do
      let _ ← deleteNodeFromList S oObj
      pure mngrHnodeCache
    | .change oObj _ _ => pure (ObjectOps.cacheAdd mngrHnodeCache oObj)
  else pure mngrHnodeCache

/-! ## notifications -/

/-- a change callback of the managed cache (`change_func_v2_t`) -/
abbrev ChangeCb (W A : Type) := List HsrNode → Note HsrNode → Proc Fault W A (List HsrNode)

section
variable {A : Type} (changeCb : ChangeCb W A)

/-- `include_cb` for the managed cache of nodes -/
def includeCb (mngrHnodeCache : List HsrNode) (obj : HsrNode) : Proc Fault W A (Int × List HsrNode) :=
  nlCacheIncludeV2 hsrNodeOps changeCb mngrHnodeCache obj

/-- `event_input`; a read beyond a short attribute does not stop it -/
def eventInput (mngrHnodeCache : List HsrNode) (msg : HsrMsg) :
    Proc Fault W A (Int × List HsrNode) :=
  nlCacheParse .badAttr false (includeCb changeCb) msg.cmd msg.stream mngrHnodeCache

/-- messages that are read from the manager's socket one after the other; a negative result of
`event_input` ends the reading -/
def eventInputs (mngrHnodeCache : List HsrNode) :
    List HsrMsg → Proc Fault W A (Int × List HsrNode)
  | [] => pure (0, mngrHnodeCache)
  | msg :: msgs => do
    let (err, mngrHnodeCache) ← eventInput changeCb mngrHnodeCache msg
    if err < 0 then pure (err, mngrHnodeCache) else eventInputs mngrHnodeCache msgs

end

end Hsr
