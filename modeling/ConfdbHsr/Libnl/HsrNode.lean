import ConfdbHsr.Libnl.AfOps
import ConfdbHsr.Libnl.KeyedCache

/-!
# HSR nodes

`lib/genl/hsr_node.c` with the generic netlink dispatch of `lib/genl/mngt.c`: the object type
`hsr_node`, and the parsers that turn a message of the HSR family into nodes.

* `NlAddr`           `struct nl_addr` (`lib/addr.c`);
* `HsrNode`, `hsrNodeOps`   `struct hsr_node` and its cache operations;
* `hnodeMsgNodeListParser`, `hnodeMsgNodeStatusParser`, `hnodeMsgErrorParser`   the parsers;
* `cmdMsgParser`     `cmd_msg_parser`: a message is checked against its command and parsed;
* `hsrNode_keyed`    nodes of a node list are told apart by interface and address.
-/

namespace Nl

/-! ## addresses -/

structure NlAddr where
  aFamily : Nat
  aAddr : List UInt8
  aPrefixlen : Nat
  deriving DecidableEq, Repr

/-- `nl_addr_build`; the prefix is the whole address, or the label of an MPLS address -/
def nlAddrBuild (family : Nat) (buf : List UInt8) : NlAddr :=
  ⟨family, buf, if family = AF_MPLS then 20 else buf.length * 8⟩

def nlAddrGuessFamily (addr : NlAddr) : Nat :=
  match addr.aAddr.length with
  | 4 => AF_INET
  | 6 => AF_LLC
  | 16 => AF_INET6
  | _ => 0

/-- the address in an attribute, as the HSR parsers allocate it: for the family `AF_UNSPEC`, which is
then replaced by the guessed one -/
def nlAddrOfAttr (nla : Nlattr) : NlAddr :=
  let addr := nlAddrBuild 0 nla.payload
  { addr with aFamily := nlAddrGuessFamily addr }

/-- whether `nl_addr_cmp` of two addresses is not zero -/
def NlAddr.differs (a b : NlAddr) : Bool :=
  if a.aFamily ≠ b.aFamily then true
  else if a.aAddr.length ≠ b.aAddr.length then true
  else if a.aAddr.length ≠ 0 then a.aAddr ≠ b.aAddr ∨ a.aPrefixlen ≠ b.aPrefixlen
  else false

/-- the same for addresses that may be absent -/
def nlAddrCmp : Option NlAddr → Option NlAddr → Bool
  | none, none => false
  | some a, some b => a.differs b
  | _, _ => true

/-! ## nodes -/

def HNODE_ATTR_ADDR_A : Mask := 1#64 <<< 0
def HNODE_ATTR_ADDR_B : Mask := 1#64 <<< 1
def HNODE_ATTR_IFINDEX : Mask := 1#64 <<< 2
def HNODE_ATTR_SLAVE1 : Mask := 1#64 <<< 3
def HNODE_ATTR_SLAVE2 : Mask := 1#64 <<< 4
def HNODE_ATTR_SLAVE1_AGE : Mask := 1#64 <<< 5
def HNODE_ATTR_SLAVE2_AGE : Mask := 1#64 <<< 6
def HNODE_ATTR_SLAVE1_SEQ : Mask := 1#64 <<< 7
def HNODE_ATTR_SLAVE2_SEQ : Mask := 1#64 <<< 8
def HNODE_ATTR_ADDR_B_IFINDEX : Mask := 1#64 <<< 9

/-- `struct hsr_node` -/
structure HsrNode where
  ceMsgtype : Nat
  ceMask : Mask
  macAddressA : Option NlAddr
  macAddressB : Option NlAddr
  hnIfindex : UInt32
  hnSlave1Ifindex : UInt32
  hnSlave2Ifindex : UInt32
  hnSlave1Age : UInt32
  hnSlave2Age : UInt32
  hnSlave1Seq : UInt16
  hnSlave2Seq : UInt16
  hnAddrBIfindex : UInt32
  deriving DecidableEq, Repr

/-- `hnode_alloc` -/
def hnodeAlloc : HsrNode := ⟨0, 0, none, none, 0, 0, 0, 0, 0, 0, 0, 0⟩

def hnodeCompare (a b : HsrNode) (attrs : Mask) : Mask :=
  let hnodeDiff attr expr := attrDiff attrs attr a.ceMask b.ceMask expr
  hnodeDiff HNODE_ATTR_IFINDEX (a.hnIfindex ≠ b.hnIfindex) |||
  hnodeDiff HNODE_ATTR_ADDR_A (nlAddrCmp a.macAddressA b.macAddressA) |||
  hnodeDiff HNODE_ATTR_ADDR_B (nlAddrCmp a.macAddressB b.macAddressB) |||
  hnodeDiff HNODE_ATTR_SLAVE1 (a.hnSlave1Ifindex ≠ b.hnSlave1Ifindex) |||
  hnodeDiff HNODE_ATTR_SLAVE2 (a.hnSlave2Ifindex ≠ b.hnSlave2Ifindex) |||
  hnodeDiff HNODE_ATTR_SLAVE1_AGE (a.hnSlave1Age ≠ b.hnSlave1Age) |||
  hnodeDiff HNODE_ATTR_SLAVE2_AGE (a.hnSlave2Age ≠ b.hnSlave2Age) |||
  hnodeDiff HNODE_ATTR_SLAVE1_SEQ (a.hnSlave1Seq ≠ b.hnSlave1Seq) |||
  hnodeDiff HNODE_ATTR_SLAVE2_SEQ (a.hnSlave2Seq ≠ b.hnSlave2Seq) |||
  hnodeDiff HNODE_ATTR_ADDR_B_IFINDEX (a.hnAddrBIfindex ≠ b.hnAddrBIfindex)

/-- `nl_addr_clone`: the address is built anew, and the prefix is copied -/
def nlAddrClone (addr : NlAddr) : NlAddr :=
  { nlAddrBuild addr.aFamily addr.aAddr with aPrefixlen := addr.aPrefixlen }

/-- `hnode_clone`; a field of the source that is zero is not copied -/
def hnodeClone (dst src : HsrNode) : HsrNode :=
  { dst with
    macAddressA := if src.macAddressA.isSome then src.macAddressA.map nlAddrClone
      else dst.macAddressA
    macAddressB := if src.macAddressB.isSome then src.macAddressB.map nlAddrClone
      else dst.macAddressB
    hnIfindex := if src.hnIfindex ≠ 0 then src.hnIfindex else dst.hnIfindex
    hnSlave1Ifindex := if src.hnSlave1Ifindex ≠ 0 then src.hnSlave1Ifindex
      else dst.hnSlave1Ifindex
    hnSlave2Ifindex := if src.hnSlave2Ifindex ≠ 0 then src.hnSlave2Ifindex
      else dst.hnSlave2Ifindex
    hnSlave1Age := if src.hnSlave1Age ≠ 0 then src.hnSlave1Age else dst.hnSlave1Age
    hnSlave2Age := if src.hnSlave2Age ≠ 0 then src.hnSlave2Age else dst.hnSlave2Age
    hnSlave1Seq := if src.hnSlave1Seq ≠ 0 then src.hnSlave1Seq else dst.hnSlave1Seq
    hnSlave2Seq := if src.hnSlave2Seq ≠ 0 then src.hnSlave2Seq else dst.hnSlave2Seq }

/-- `nl_object_clone` of a node: its bytes are copied before `hnode_clone` -/
def nlObjectClone (obj : HsrNode) : HsrNode := hnodeClone obj obj

@[simp] theorem nlObjectClone_eq (obj : HsrNode) : nlObjectClone obj = obj := by
  have hclone : nlAddrClone = id := funext fun _ => rfl
  simp [nlObjectClone, hnodeClone, hclone]

def GENL_ID_HSR : Nat := 0x1e

/-- `hsr_node_ops` with `hnode_obj_ops` -/
def hsrNodeOps : CacheOps HsrNode where
  ceMask := HsrNode.ceMask
  ooIdAttrs := HNODE_ATTR_IFINDEX ||| HNODE_ATTR_ADDR_A ||| HNODE_ATTR_ADDR_B
  ooCompare := hnodeCompare
  ceMsgtype := HsrNode.ceMsgtype
  coMsgtypes := [(GENL_ID_HSR, .unspec), (1, .del), (2, .new)]

/-! ## commands -/

def HSR_A_NODE_ADDR : Nat := 1
def HSR_A_IFINDEX : Nat := 2
def HSR_A_IF1_AGE : Nat := 3
def HSR_A_IF2_AGE : Nat := 4
def HSR_A_NODE_ADDR_B : Nat := 5
def HSR_A_IF1_SEQ : Nat := 6
def HSR_A_IF2_SEQ : Nat := 7
def HSR_A_IF1_IFINDEX : Nat := 8
def HSR_A_IF2_IFINDEX : Nat := 9
def HSR_A_ADDR_B_IFINDEX : Nat := 10
def HSR_A_MAX : Nat := 10

def HSR_C_RING_ERROR : UInt8 := 1
def HSR_C_NODE_DOWN : UInt8 := 2
def HSR_C_GET_NODE_STATUS : UInt8 := 3
def HSR_C_SET_NODE_STATUS : UInt8 := 4
def HSR_C_GET_NODE_LIST : UInt8 := 5
def HSR_C_SET_NODE_LIST : UInt8 := 6

/-- a message of the HSR family: its command and its attributes -/
structure HsrMsg where
  cmd : UInt8
  stream : List UInt8
  deriving DecidableEq, Repr

/-- `hnode_policy` -/
def hnodePolicy (type : Nat) : NlaPolicy :=
  if type ∈ [HSR_A_IFINDEX, HSR_A_IF1_IFINDEX, HSR_A_IF2_IFINDEX, HSR_A_IF1_AGE, HSR_A_IF2_AGE,
      HSR_A_ADDR_B_IFINDEX] then ⟨.u32, 0, 0⟩
  else if type ∈ [HSR_A_IF1_SEQ, HSR_A_IF2_SEQ] then ⟨.u16, 0, 0⟩
  else ⟨.unspec, 0, 0⟩

/-- the message parsers of the family -/
inductive MsgParser where
  | error | nodeList | nodeStatus
  deriving DecidableEq, Repr

structure GenlCmd where
  cId : UInt8
  cMaxattr : Nat
  cAttrPolicy : Option (Nat → NlaPolicy)
  cMsgParser : Option MsgParser

def genlCmds : List GenlCmd := [
  ⟨HSR_C_RING_ERROR, HSR_A_MAX, none, some .error⟩,
  ⟨HSR_C_NODE_DOWN, HSR_A_MAX, some hnodePolicy, some .nodeList⟩,
  ⟨HSR_C_GET_NODE_STATUS, 0, none, none⟩,
  ⟨HSR_C_SET_NODE_STATUS, HSR_A_MAX, some hnodePolicy, some .nodeStatus⟩,
  ⟨HSR_C_GET_NODE_LIST, 0, none, none⟩,
  ⟨HSR_C_SET_NODE_LIST, HSR_A_MAX, some hnodePolicy, some .nodeList⟩]

def lookupCmd (cmdId : UInt8) : Option GenlCmd := genlCmds.find? fun cmd => cmd.cId == cmdId

/-- `struct genl_info`, with the stream of attributes of the message -/
structure GenlInfo where
  nlmsgType : Nat
  stream : List UInt8
  attrs : AttrTable

/-! ## parsing -/

/-- the node that `hnode_msg_node_list_parser` allocates for an address -/
def listNode (cmdId : UInt8) (ifindex : UInt32) (nla : Nlattr) : HsrNode :=
  { hnodeAlloc with
    ceMsgtype :=
      if cmdId = HSR_C_SET_NODE_LIST then 2
      else if cmdId = HSR_C_NODE_DOWN then 1
      else 0
    ceMask := HNODE_ATTR_ADDR_A ||| HNODE_ATTR_IFINDEX
    macAddressA := some (nlAddrOfAttr nla)
    hnIfindex := ifindex }

section
variable {ε W A σ : Type} (badRead : ε) (strict : Bool)
  (ppCb : σ → HsrNode → Proc ε W A (Int × σ))

/-- the loop of `hnode_msg_node_list_parser` -/
def nodeListLoop (cmd : GenlCmd) (ifindex : UInt32) : List Nlattr → σ → Proc ε W A (Int × σ)
  | [], arg => pure (0, arg)
  | nla :: rest, arg =>
    if nla.type > cmd.cMaxattr then nodeListLoop cmd ifindex rest arg
    else if nla.nlaType.toNat = HSR_A_NODE_ADDR then do
      let (err, arg) ← ppCb arg (listNode cmd.cId ifindex nla)
      if err < 0 then pure (err, arg) else nodeListLoop cmd ifindex rest arg
    else nodeListLoop cmd ifindex rest arg

def hnodeMsgNodeListParser (cmd : GenlCmd) (info : GenlInfo) (arg : σ) :
    Proc ε W A (Int × σ) :=
  if info.attrs HSR_A_IFINDEX = none then pure (-NLE_MISSING_ATTR, arg)
  else do
    let ifindex ← nlaGetU32 badRead (info.attrs HSR_A_IFINDEX)
    nodeListLoop ppCb cmd ifindex (nlattrs info.stream) arg

/-- one field of `hnode_info_parse`: if the attribute is there, it is read and its bit is set -/
def infoField {β : Type} (attr : Option Nlattr) (bit : Mask)
    (read : Option Nlattr → Proc ε W A β) (set : HsrNode → β → HsrNode) (node : HsrNode) :
    Proc ε W A HsrNode :=
  if attr = none then pure node
  else do
    let v ← read attr
    let node := set node v
    pure { node with ceMask := node.ceMask ||| bit }

/-- `nl_addr_alloc_attr` with the guessed family -/
def addrAllocAttr : Option Nlattr → Proc ε W A NlAddr
  | some nla => pure (nlAddrOfAttr nla)
  | none => Proc.fail badRead

/-- `hnode_info_parse`; the indexes of the ports and the second sequence number go into the fields
the source assigns -/
def hnodeInfoParse (node : HsrNode) (tb : AttrTable) : Proc ε W A HsrNode := do
  let u32 := nlaGetU32 (W := W) (A := A) badRead
  let u16 := nlaGetU16 (W := W) (A := A) badRead
  let addr := addrAllocAttr (W := W) (A := A) badRead
  let node ← infoField (tb HSR_A_NODE_ADDR) HNODE_ATTR_ADDR_A addr
    (fun node v => { node with macAddressA := some v }) node
  let node ← infoField (tb HSR_A_NODE_ADDR_B) HNODE_ATTR_ADDR_B addr
    (fun node v => { node with macAddressB := some v }) node
  let node ← infoField (tb HSR_A_IFINDEX) HNODE_ATTR_IFINDEX u32
    (fun node v => { node with hnIfindex := v }) node
  let node ← infoField (tb HSR_A_IF1_IFINDEX) HNODE_ATTR_SLAVE1 u32
    (fun node v => { node with hnIfindex := v }) node
  let node ← infoField (tb HSR_A_IF2_IFINDEX) HNODE_ATTR_SLAVE2 u32
    (fun node v => { node with hnIfindex := v }) node
  let node ← infoField (tb HSR_A_IF1_AGE) HNODE_ATTR_SLAVE1_AGE u32
    (fun node v => { node with hnSlave1Age := v }) node
  let node ← infoField (tb HSR_A_IF2_AGE) HNODE_ATTR_SLAVE2_AGE u32
    (fun node v => { node with hnSlave2Age := v }) node
  let node ← infoField (tb HSR_A_IF1_SEQ) HNODE_ATTR_SLAVE1_SEQ u16
    (fun node v => { node with hnSlave1Seq := v }) node
  let node ← infoField (tb HSR_A_IF2_SEQ) HNODE_ATTR_SLAVE2_SEQ u16
    (fun node v => { node with hnSlave1Seq := v }) node
  infoField (tb HSR_A_ADDR_B_IFINDEX) HNODE_ATTR_ADDR_B_IFINDEX u32
    (fun node v => { node with hnAddrBIfindex := v }) node

def hnodeMsgNodeStatusParser (info : GenlInfo) (arg : σ) : Proc ε W A (Int × σ) :=
  if info.attrs HSR_A_IFINDEX = none then pure (-NLE_MISSING_ATTR, arg)
  else do
    let node ← hnodeInfoParse badRead { hnodeAlloc with ceMsgtype := info.nlmsgType } info.attrs
    ppCb arg node

/-- `nla_get_u32` where no policy has looked at the attribute and the value is only printed.  An
attribute that is missing is a null pointer; one that is too short is read beyond its end, which is
a bad read if `strict` asks for it, and otherwise gives some number. -/
def nlaPrintU32 : Option Nlattr → Proc ε W A Unit
  | none => Proc.fail badRead
  | some nla => if strict && nla.len < 4 then Proc.fail badRead else pure ()

/-- `hnode_msg_error_parser`; the nodes it builds are only printed -/
def hnodeMsgErrorParser (info : GenlInfo) (arg : σ) : Proc ε W A (Int × σ) := do
  nlaPrintU32 badRead strict (info.attrs HSR_A_IFINDEX)
  pure (0, arg)

def runParser (parser : MsgParser) (cmd : GenlCmd) (info : GenlInfo) (arg : σ) :
    Proc ε W A (Int × σ) :=
  match parser with
  | .error => hnodeMsgErrorParser badRead strict info arg
  | .nodeList => hnodeMsgNodeListParser badRead ppCb cmd info arg
  | .nodeStatus => hnodeMsgNodeStatusParser badRead ppCb info arg

/-- `cmd_msg_parser`, for a message of the HSR family with the command `cmdId` -/
def cmdMsgParser (cmdId : UInt8) (stream : List UInt8) (arg : σ) : Proc ε W A (Int × σ) :=
  match lookupCmd cmdId with
  | none => pure (-NLE_MSGTYPE_NOSUPPORT, arg)
  | some cmd =>
    match cmd.cMsgParser with
    | none => pure (-NLE_OPNOTSUPP, arg)
    | some parser =>
      match nlaParse cmd.cMaxattr cmd.cAttrPolicy stream with
      | .error err => pure (err, arg)
      | .ok tb => runParser badRead strict ppCb parser cmd ⟨GENL_ID_HSR, stream, tb⟩ arg

/-- `nl_cache_parse` with `hsr_node_ops`: one entry of the message types is the family's -/
def nlCacheParse (cmdId : UInt8) (stream : List UInt8) (arg : σ) : Proc ε W A (Int × σ) := do
  let (err, arg) ← cmdMsgParser badRead strict ppCb cmdId stream arg
  pure (if err = -NLE_OPNOTSUPP then -NLE_MSGTYPE_NOSUPPORT else err, arg)

end

/-! ## identity of nodes -/

/-- the interface and the address that a node is about -/
def nodePair (node : HsrNode) : UInt32 × List UInt8 :=
  (node.hnIfindex, (node.macAddressA.map NlAddr.aAddr).getD [])

/-- the node was allocated for an address in a node list -/
def FromNodeList (node : HsrNode) : Prop :=
  ∃ cmdId ifindex nla, node = listNode cmdId ifindex nla

lemma nodePair_listNode (cmdId : UInt8) (ifindex : UInt32) (nla : Nlattr) :
    nodePair (listNode cmdId ifindex nla) = (ifindex, nla.payload) := rfl

/-- addresses of attributes compare by their bytes: the family and the prefix follow from the
length -/
theorem nlAddrOfAttr_differs (a b : Nlattr) :
    (nlAddrOfAttr a).differs (nlAddrOfAttr b) = false ↔ a.payload = b.payload := by
  have hfamily : ∀ nla : Nlattr, (nlAddrOfAttr nla).aFamily =
      nlAddrGuessFamily (nlAddrBuild 0 nla.payload) := fun _ => rfl
  have haddr : ∀ nla : Nlattr, (nlAddrOfAttr nla).aAddr = nla.payload := fun _ => rfl
  have hprefix : ∀ nla : Nlattr, (nlAddrOfAttr nla).aPrefixlen = nla.payload.length * 8 :=
    fun _ => rfl
  constructor
  · intro h
    rw [NlAddr.differs, haddr, haddr] at h
    by_cases hlen : a.payload.length = b.payload.length
    · rcases Nat.eq_zero_or_pos b.payload.length with hzero | hpos
      · have ha := List.length_eq_zero_iff.mp (hlen.trans hzero)
        rw [ha, List.length_eq_zero_iff.mp hzero]
      · have hne := List.length_pos_iff.mp hpos
        by_contra hdiff
        simp [hlen, hdiff, hne] at h
    · simp [hlen] at h
  · intro h
    rw [NlAddr.differs, haddr, haddr, hprefix, hprefix, hfamily, hfamily, h]
    simp

theorem hnodeCompare_listNode (c d : UInt8) (i j : UInt32) (a b : Nlattr) {attrs : Mask}
    (hifindex : attrs &&& HNODE_ATTR_IFINDEX ≠ 0) (haddr : attrs &&& HNODE_ATTR_ADDR_A ≠ 0) :
    hnodeCompare (listNode c i a) (listNode d j b) attrs = 0 ↔ i = j ∧ a.payload = b.payload := by
  have habsent : ∀ attr (e : Bool), (HNODE_ATTR_ADDR_A ||| HNODE_ATTR_IFINDEX) &&& attr = 0 →
      attrDiff attrs attr (listNode c i a).ceMask (listNode d j b).ceMask e = 0 :=
    fun attr e h => attrDiff_absent h h
  have h1 : attrDiff attrs HNODE_ATTR_IFINDEX (listNode c i a).ceMask (listNode d j b).ceMask
      (decide (i ≠ j)) = 0 ↔ i = j := by
    have hm : (HNODE_ATTR_ADDR_A ||| HNODE_ATTR_IFINDEX) &&& HNODE_ATTR_IFINDEX ≠ 0 := by decide
    exact (attrDiff_present hifindex hm).trans (by simp)
  have h2 : attrDiff attrs HNODE_ATTR_ADDR_A (listNode c i a).ceMask (listNode d j b).ceMask
      ((nlAddrOfAttr a).differs (nlAddrOfAttr b)) = 0 ↔ a.payload = b.payload := by
    have hm : (HNODE_ATTR_ADDR_A ||| HNODE_ATTR_IFINDEX) &&& HNODE_ATTR_ADDR_A ≠ 0 := by decide
    exact (attrDiff_present haddr hm).trans (nlAddrOfAttr_differs a b)
  simp only [hnodeCompare]
  rw [habsent HNODE_ATTR_ADDR_B _ (by decide),
    habsent HNODE_ATTR_SLAVE1 _ (by decide), habsent HNODE_ATTR_SLAVE2 _ (by decide),
    habsent HNODE_ATTR_SLAVE1_AGE _ (by decide), habsent HNODE_ATTR_SLAVE2_AGE _ (by decide),
    habsent HNODE_ATTR_SLAVE1_SEQ _ (by decide), habsent HNODE_ATTR_SLAVE2_SEQ _ (by decide),
    habsent HNODE_ATTR_ADDR_B_IFINDEX _ (by decide)]
  simp only [BitVec.ofNat_eq_ofNat, BitVec.or_zero, BitVec.or_eq_zero_iff]
  exact and_congr h1 h2

lemma hsrNodeOps_idAttrs : hsrNodeOps.ooIdAttrs &&& (HNODE_ATTR_ADDR_A ||| HNODE_ATTR_IFINDEX) =
    HNODE_ATTR_ADDR_A ||| HNODE_ATTR_IFINDEX := by
  decide

/-- **Nodes of node lists are told apart by interface and address**, and two nodes with the same
pair do not differ. -/
theorem hsrNode_keyed : Keyed hsrNodeOps.toObjectOps FromNodeList nodePair := by
  constructor
  · rintro _ _ ⟨c, i, a, rfl⟩ ⟨d, j, b, rfl⟩
    have hid : ∀ c i a, hsrNodeOps.ooIdAttrs &&& hsrNodeOps.ceMask (listNode c i a) =
        HNODE_ATTR_ADDR_A ||| HNODE_ATTR_IFINDEX := fun _ _ _ => hsrNodeOps_idAttrs
    rw [ObjectOps.objectIdentical_same _ (hid c i a) (hid d j b), nodePair_listNode,
      nodePair_listNode, Prod.mk.injEq]
    exact hnodeCompare_listNode c d i j a b (by decide) (by decide)
  · rintro _ _ ⟨c, i, a, rfl⟩ ⟨d, j, b, rfl⟩ h
    rw [nodePair_listNode, nodePair_listNode, Prod.mk.injEq] at h
    exact (hnodeCompare_listNode c d i j a b (by decide) (by decide)).mpr h

end Nl
