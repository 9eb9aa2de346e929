import ConfdbHsr.Lib.Proc
import ConfdbHsr.Libnl.HsrNode
import ConfdbHsr.Libnl.Link

/-!
# The state of the daemon and its environment

* `WaitListNode`, `HsrModule`   `struct wait_list_node` and the part of `struct hsr_module` that
                 the handlers read and write;
* `Sys W`        what the daemon asks of its environment: the kernel through netlink, the
                 allocator, the CDB; every answer may depend on and change the world `W`;
* `Fault`, `Act` how the daemon can crash, and what it does that an observer can see;
* `Op W`         a computation of the daemon.
-/

namespace Hsr
open Nl

/-! ## wait list nodes -/

def SLAVE1_BUSY : BitVec 8 := 0x01
def SLAVE2_BUSY : BitVec 8 := 0x02
def SLAVE1_NOT_EXISTS : BitVec 8 := 0x04
def SLAVE2_NOT_EXISTS : BitVec 8 := 0x08
def HSR_STILL_EXISTS : BitVec 8 := 0x10

structure WaitListNode where
  hsrName : CStr
  slave1Name : CStr
  slave2Name : CStr
  status : BitVec 8
  deriving DecidableEq, Repr

/-- the two slaves of a node have different names -/
def WaitListNode.Distinct (node : WaitListNode) : Prop := node.slave1Name ≠ node.slave2Name

instance : DecidablePred WaitListNode.Distinct := fun _ => inferInstanceAs (Decidable (_ ≠ _))

def setStatusFlags (node : WaitListNode) (flags : BitVec 8) : WaitListNode :=
  { node with status := node.status ||| flags }

def resetStatusFlags (node : WaitListNode) (flags : BitVec 8) : WaitListNode :=
  { node with status := node.status &&& ~~~flags }

/-- `(node->status & flags) == 0` -/
def isClear (node : WaitListNode) (flags : BitVec 8) : Bool := node.status &&& flags == 0

/-- the node that `wait_list_node_alloc` fills in -/
def newNode (ifName slave1Name slave2Name : CStr) : WaitListNode :=
  ⟨ifName, slave1Name, slave2Name, 0⟩

def addNodeToWaitList (node : WaitListNode) (waitList : List WaitListNode) : List WaitListNode :=
  waitList ++ [node]

/-- `delete_wait_list_node`: the list without the first node of that name, and whether there
was one -/
def deleteWaitListNode (waitList : List WaitListNode) (ifName : CStr) :
    List WaitListNode × Bool :=
  (waitList.eraseP fun node => node.hsrName == ifName,
    waitList.any fun node => node.hsrName == ifName)

section
variable (node : WaitListNode) (flags : BitVec 8)

@[simp] lemma setStatusFlags_status :
    (setStatusFlags node flags).status = node.status ||| flags := rfl
@[simp] lemma resetStatusFlags_status :
    (resetStatusFlags node flags).status = node.status &&& ~~~flags := rfl

end

/-- `struct hsr_module`: the wait list, the array `interfaces` and its counter -/
structure HsrModule where
  waitList : List WaitListNode
  interfaces : List UInt32
  interfacesSize : Int
  deriving DecidableEq, Repr

/-- the state that `app_create` sets up -/
def HsrModule.init : HsrModule := ⟨[], [], 0⟩

/-! ## the environment -/

/-- an edit of `angtel-hsr:hsr/node_list` under an interface -/
inductive CdbOp where
  | merge | remove
  deriving DecidableEq, Repr

/-- what the daemon asks of its environment -/
structure Sys (W : Type) where
  nlConnect : W → Int × W
  rtnlLinkAllocCache : W → (Int × List LinkObj) × W
  rtnlLinkAdd : RtnlLink → W → Int × W
  rtnlLinkDelete : LinkObj → W → Int × W
  /-- whether an allocation succeeds -/
  calloc : W → Bool × W
  cdbEditStatus : CdbOp → CStr → CStr → W → Int × W
  /-- the text that `nl_addr2str` writes for an address -/
  addrText : Option NlAddr → CStr
  /-- whether libnl was built with assertions -/
  asserts : Bool

/-- how the daemon can crash -/
inductive Fault where
  | nullStrcmp
  | nullGetName
  | nullGetType
  | nullGetIfindex
  | appBug
  /-- an attribute is read that is missing or too short -/
  | badAttr
  /-- `nl_cache_put` is given a pointer that was never set -/
  | wildPut
  /-- a write to `interfaces` outside the array -/
  | wildStore
  deriving DecidableEq, Repr

/-- what an observer sees of the daemon -/
inductive Act where
  | createHif (node : WaitListNode)
  /-- a create request made by `create_hsr_interface` for `ifName` -/
  | linkAdd (ifName : CStr) (link : RtnlLink) (ret : Int)
  | linkDelete (link : LinkObj) (ret : Int)
  /-- `rtnl_link_hsr_get_slave1` or `rtnl_link_hsr_get_slave2` is applied to a link -/
  | hsrGetSlave (link : LinkObj)
  /-- a write to `interfaces` at an index, with the allocated length -/
  | interfacesStore (idx : Int) (len : Nat)
  | cdbEdit (op : CdbOp) (ifName mac : CStr)
  /-- `hnode_cache_change_cb` is called -/
  | nodeNote (note : Note HsrNode)
  deriving DecidableEq, Repr

abbrev Op (W : Type) := Proc Fault W Act

/-- a pointer that is dereferenced -/
def deref {W α : Type} (fault : Fault) : Option α → Op W α
  | some a => pure a
  | none => Proc.fail fault

/-- `!strcmp(a, b)` -/
def strEq {W : Type} (a : Option CStr) (b : CStr) : Op W Bool := do
  let a ← deref .nullStrcmp a
  pure (a == b)

@[simp] lemma deref_some {W α : Type} (fault : Fault) (a : α) :
    (deref fault (some a) : Op W α) = pure a := rfl

@[simp] lemma strEq_some {W : Type} (a b : CStr) :
    (strEq (some a) b : Op W Bool) = pure (a == b) := rfl

end Hsr
