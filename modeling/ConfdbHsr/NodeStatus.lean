import ConfdbHsr.Libnl.HsrNode
import Mathlib.Data.UInt

/-!
# Decoding a node status

`hnode_info_parse` has one block for each of ten attributes.

* `HnodeAttr`        the attributes, each with its number, its bit and its field;
* `hnodeInfoParse_eq`   from a table that meets the policy the blocks compute `decoded`;
* `Decodes`          bits and fields are those of the attributes that are present;
* `node_status_decodes_iff`   when the blocks decode.

Three blocks write the field of a neighbour: both port indexes go into `hn_ifindex`, and the second
sequence number into `hn_slave1_seq`.
-/

namespace Nl
open Proc

/-! ## attributes and fields -/

inductive HnodeAttr where
  | addrA | addrB | ifindex | slave1 | slave2 | slave1Age | slave2Age | slave1Seq | slave2Seq
  | addrBIfindex
  deriving DecidableEq, Repr

/-- the value of a field -/
inductive HnodeValue where
  | addr (a : Option NlAddr)
  | u32 (n : UInt32)
  | u16 (n : UInt16)
  deriving DecidableEq, Repr

namespace HnodeAttr

/-- the attributes, in the order of the blocks -/
def all : List HnodeAttr :=
  [addrA, addrB, ifindex, slave1, slave2, slave1Age, slave2Age, slave1Seq, slave2Seq, addrBIfindex]

lemma mem_all (attr : HnodeAttr) : attr ∈ all := by
  cases attr <;> decide

/-- the number of the attribute in a message -/
def type : HnodeAttr → Nat
  | addrA => HSR_A_NODE_ADDR
  | addrB => HSR_A_NODE_ADDR_B
  | ifindex => HSR_A_IFINDEX
  | slave1 => HSR_A_IF1_IFINDEX
  | slave2 => HSR_A_IF2_IFINDEX
  | slave1Age => HSR_A_IF1_AGE
  | slave2Age => HSR_A_IF2_AGE
  | slave1Seq => HSR_A_IF1_SEQ
  | slave2Seq => HSR_A_IF2_SEQ
  | addrBIfindex => HSR_A_ADDR_B_IFINDEX

/-- its bit in `ce_mask` -/
def mask : HnodeAttr → Mask
  | addrA => HNODE_ATTR_ADDR_A
  | addrB => HNODE_ATTR_ADDR_B
  | ifindex => HNODE_ATTR_IFINDEX
  | slave1 => HNODE_ATTR_SLAVE1
  | slave2 => HNODE_ATTR_SLAVE2
  | slave1Age => HNODE_ATTR_SLAVE1_AGE
  | slave2Age => HNODE_ATTR_SLAVE2_AGE
  | slave1Seq => HNODE_ATTR_SLAVE1_SEQ
  | slave2Seq => HNODE_ATTR_SLAVE2_SEQ
  | addrBIfindex => HNODE_ATTR_ADDR_B_IFINDEX

/-- its field in `struct hsr_node` -/
def field (node : HsrNode) : HnodeAttr → HnodeValue
  | addrA => .addr node.macAddressA
  | addrB => .addr node.macAddressB
  | ifindex => .u32 node.hnIfindex
  | slave1 => .u32 node.hnSlave1Ifindex
  | slave2 => .u32 node.hnSlave2Ifindex
  | slave1Age => .u32 node.hnSlave1Age
  | slave2Age => .u32 node.hnSlave2Age
  | slave1Seq => .u16 node.hnSlave1Seq
  | slave2Seq => .u16 node.hnSlave2Seq
  | addrBIfindex => .u32 node.hnAddrBIfindex

/-- the value that a payload stands for -/
def value (nla : Nlattr) : HnodeAttr → HnodeValue
  | addrA => .addr (some (nlAddrOfAttr nla))
  | addrB => .addr (some (nlAddrOfAttr nla))
  | slave1Seq => .u16 (u16Of nla.payload)
  | slave2Seq => .u16 (u16Of nla.payload)
  | _ => .u32 (u32Of nla.payload)

end HnodeAttr

/-- `node` is `fresh` with the attributes of the table read into their fields -/
def Decodes (tb : AttrTable) (fresh node : HsrNode) : Prop :=
  ∀ attr : HnodeAttr, (node.ceMask &&& attr.mask ≠ 0 ↔ tb attr.type ≠ none) ∧
    attr.field node = (tb attr.type).elim (attr.field fresh) fun nla => attr.value nla

/-- every attribute of the table meets the policy -/
def PolicyMet (tb : AttrTable) : Prop :=
  ∀ t, ∀ nla ∈ tb t, nla.type = t ∧ 0 ≤ validateNla nla HSR_A_MAX hnodePolicy

/-! ## what the blocks compute -/

def readU32 (attr : Option Nlattr) (old : UInt32) : UInt32 :=
  attr.elim old fun nla => u32Of nla.payload

def readU16 (attr : Option Nlattr) (old : UInt16) : UInt16 :=
  attr.elim old fun nla => u16Of nla.payload

def readAddr (attr : Option Nlattr) (old : Option NlAddr) : Option NlAddr :=
  attr.elim old fun nla => some (nlAddrOfAttr nla)

/-- the node after the blocks -/
def decoded (tb : AttrTable) (node : HsrNode) : HsrNode :=
  { node with
    ceMask := HnodeAttr.all.foldl
      (fun ceMask attr => ceMask ||| bitIf attr.mask (tb attr.type)) node.ceMask
    macAddressA := readAddr (tb HSR_A_NODE_ADDR) node.macAddressA
    macAddressB := readAddr (tb HSR_A_NODE_ADDR_B) node.macAddressB
    hnIfindex := readU32 (tb HSR_A_IF2_IFINDEX) (readU32 (tb HSR_A_IF1_IFINDEX)
      (readU32 (tb HSR_A_IFINDEX) node.hnIfindex))
    hnSlave1Age := readU32 (tb HSR_A_IF1_AGE) node.hnSlave1Age
    hnSlave2Age := readU32 (tb HSR_A_IF2_AGE) node.hnSlave2Age
    hnSlave1Seq := readU16 (tb HSR_A_IF2_SEQ) (readU16 (tb HSR_A_IF1_SEQ) node.hnSlave1Seq)
    hnAddrBIfindex := readU32 (tb HSR_A_ADDR_B_IFINDEX) node.hnAddrBIfindex }

section
variable {ε W A : Type} (badRead : ε)

lemma PolicyMet.minlen {tb : AttrTable} (h : PolicyMet tb) {t : Nat} (ht : t ≤ HSR_A_MAX)
    {nla : Nlattr} (hnla : nla ∈ tb t) : (hnodePolicy t).kind.minlen ≤ nla.len := by
  obtain ⟨rfl, hvalid⟩ := h t nla hnla
  have hbounds : (hnodePolicy nla.type).minlen = 0 := by
    unfold hnodePolicy
    split
    · rfl
    · split <;> rfl
  by_contra hshort
  have hneg : validateNla nla HSR_A_MAX hnodePolicy = -NLE_RANGE := by
    unfold validateNla
    rw [if_neg (by omega)]
    simp only [hbounds, ne_eq, not_true_eq_false, if_false]
    rw [if_pos (by omega)]
  rw [hneg] at hvalid
  exact absurd hvalid (by decide)

/-- a block, when its attribute can be read: the field is set and the bit with it -/
lemma infoField_eq {β : Type} {attr : Option Nlattr} {bit : Mask}
    {read : Option Nlattr → Proc ε W A β} {set : HsrNode → β → HsrNode}
    (put : HsrNode → Option Nlattr → HsrNode) (hnone : ∀ node, put node none = node)
    (hsome : ∀ nla ∈ attr, ∃ v, read (some nla) = pure v ∧ ∀ node, set node v = put node (some nla))
    (node : HsrNode) :
    infoField attr bit read set node =
      pure { put node attr with ceMask := (put node attr).ceMask ||| bitIf bit attr } := by
  cases attr with
  | none =>
    rw [infoField, if_pos rfl, hnone]
    simp [bitIf]
  | some nla =>
    obtain ⟨v, hread, hset⟩ := hsome nla rfl
    rw [infoField, if_neg nofun, hread, pure_bind, hset]
    rfl

section
variable {tb : AttrTable} (h : PolicyMet tb) {t : Nat} (ht : t ≤ HSR_A_MAX) {bit : Mask}
include h ht

lemma infoU32_eq (hkind : (hnodePolicy t).kind = .u32) (get : HsrNode → UInt32)
    {set : HsrNode → UInt32 → HsrNode} (hset : ∀ node, set node (get node) = node)
    (node : HsrNode) :
    infoField (tb t) bit (nlaGetU32 badRead : _ → Proc ε W A UInt32) set node =
      let node' := set node (readU32 (tb t) (get node))
      pure { node' with ceMask := node'.ceMask ||| bitIf bit (tb t) } := by
  refine infoField_eq (fun node attr => set node (readU32 attr (get node))) hset ?_ node
  intro nla hnla
  have hlen := h.minlen ht hnla
  rw [hkind] at hlen
  exact ⟨u32Of nla.payload, if_neg (Nat.not_lt.mpr hlen), fun _ => rfl⟩

lemma infoU16_eq (hkind : (hnodePolicy t).kind = .u16) (get : HsrNode → UInt16)
    {set : HsrNode → UInt16 → HsrNode} (hset : ∀ node, set node (get node) = node)
    (node : HsrNode) :
    infoField (tb t) bit (nlaGetU16 badRead : _ → Proc ε W A UInt16) set node =
      let node' := set node (readU16 (tb t) (get node))
      pure { node' with ceMask := node'.ceMask ||| bitIf bit (tb t) } := by
  refine infoField_eq (fun node attr => set node (readU16 attr (get node))) hset ?_ node
  intro nla hnla
  have hlen := h.minlen ht hnla
  rw [hkind] at hlen
  exact ⟨u16Of nla.payload, if_neg (Nat.not_lt.mpr hlen), fun _ => rfl⟩

end

variable {badRead} in
/-- **What `hnode_info_parse` computes** from a table that meets the policy. -/
theorem hnodeInfoParse_eq {tb : AttrTable} (h : PolicyMet tb) (node : HsrNode) :
    (hnodeInfoParse badRead node tb : Proc ε W A HsrNode) = pure (decoded tb node) := by
  have haddrA : ∀ node, infoField (tb HSR_A_NODE_ADDR) HNODE_ATTR_ADDR_A
      (addrAllocAttr badRead : _ → Proc ε W A NlAddr)
      (fun node v => { node with macAddressA := some v }) node = _ :=
    infoField_eq (fun node attr =>
      { node with macAddressA := readAddr attr node.macAddressA }) (fun _ => rfl)
      fun nla _ => ⟨nlAddrOfAttr nla, rfl, fun _ => rfl⟩
  have haddrB : ∀ node, infoField (tb HSR_A_NODE_ADDR_B) HNODE_ATTR_ADDR_B
      (addrAllocAttr badRead : _ → Proc ε W A NlAddr)
      (fun node v => { node with macAddressB := some v }) node = _ :=
    infoField_eq (fun node attr =>
      { node with macAddressB := readAddr attr node.macAddressB }) (fun _ => rfl)
      fun nla _ => ⟨nlAddrOfAttr nla, rfl, fun _ => rfl⟩
  unfold hnodeInfoParse
  dsimp only
  rw [haddrA, pure_bind, haddrB, pure_bind]
  rw [infoU32_eq badRead h (by decide) rfl HsrNode.hnIfindex fun _ => rfl, pure_bind]
  rw [infoU32_eq badRead h (by decide) rfl HsrNode.hnIfindex fun _ => rfl, pure_bind]
  rw [infoU32_eq badRead h (by decide) rfl HsrNode.hnIfindex fun _ => rfl, pure_bind]
  rw [infoU32_eq badRead h (by decide) rfl HsrNode.hnSlave1Age fun _ => rfl, pure_bind]
  rw [infoU32_eq badRead h (by decide) rfl HsrNode.hnSlave2Age fun _ => rfl, pure_bind]
  rw [infoU16_eq badRead h (by decide) rfl HsrNode.hnSlave1Seq fun _ => rfl, pure_bind]
  rw [infoU16_eq badRead h (by decide) rfl HsrNode.hnSlave1Seq fun _ => rfl, pure_bind]
  rw [infoU32_eq badRead h (by decide) rfl HsrNode.hnAddrBIfindex fun _ => rfl]
  rfl

end

/-! ## what they should compute -/

lemma mask_and_mask (a b : HnodeAttr) : a.mask &&& b.mask ≠ 0 ↔ a = b := by
  cases a <;> cases b <;> decide

lemma bitIf_and_mask (attr b : HnodeAttr) (o : Option Nlattr) :
    bitIf attr.mask o &&& b.mask ≠ 0 ↔ attr = b ∧ o ≠ none := by
  cases o with
  | none =>
    have hzero : bitIf attr.mask (none : Option Nlattr) &&& b.mask = 0 := BitVec.zero_and
    simp [hzero]
  | some nla =>
    show attr.mask &&& b.mask ≠ 0 ↔ _
    rw [mask_and_mask]
    simp

lemma foldl_mask (tb : AttrTable) (b : HnodeAttr) (attrs : List HnodeAttr) (x : Mask) :
    attrs.foldl (fun ceMask attr => ceMask ||| bitIf attr.mask (tb attr.type)) x &&& b.mask ≠ 0 ↔
      x &&& b.mask ≠ 0 ∨ (b ∈ attrs ∧ tb b.type ≠ none) := by
  induction attrs generalizing x with
  | nil => simp
  | cons attr attrs ih =>
    have hor : (x ||| bitIf attr.mask (tb attr.type)) &&& b.mask ≠ 0 ↔
        x &&& b.mask ≠ 0 ∨ (attr = b ∧ tb attr.type ≠ none) := by
      rw [← bitIf_and_mask, BitVec.and_or_distrib_right]
      exact BitVec.or_eq_zero_iff.not.trans not_and_or
    rw [List.foldl_cons, ih, hor, or_assoc, List.mem_cons]
    refine or_congr_right ?_
    constructor
    · rintro (⟨rfl, hne⟩ | ⟨hmem, hne⟩)
      · exact ⟨.inl rfl, hne⟩
      · exact ⟨.inr hmem, hne⟩
    · rintro ⟨rfl | hmem, hne⟩
      · exact .inl ⟨rfl, hne⟩
      · exact .inr ⟨hmem, hne⟩

lemma decoded_mask (tb : AttrTable) {node : HsrNode} (hfresh : node.ceMask = 0)
    (attr : HnodeAttr) : (decoded tb node).ceMask &&& attr.mask ≠ 0 ↔ tb attr.type ≠ none := by
  refine (foldl_mask tb attr HnodeAttr.all node.ceMask).trans ?_
  rw [hfresh]
  simp [HnodeAttr.mem_all]

/-! ## when the blocks decode -/

/-- every attribute of the list that is present is zero -/
def AllZero {α : Type} [Zero α] (read : List UInt8 → α) (tb : AttrTable) (types : List Nat) :
    Prop :=
  ∀ t ∈ types, ∀ nla ∈ tb t, read nla.payload = 0

/-- no attribute is written into the field of a neighbour, or the attributes that end up in the
field are all zero -/
structure SharesNoField (tb : AttrTable) : Prop where
  indexes : (tb HSR_A_IF1_IFINDEX = none ∧ tb HSR_A_IF2_IFINDEX = none) ∨
    AllZero u32Of tb [HSR_A_IFINDEX, HSR_A_IF1_IFINDEX, HSR_A_IF2_IFINDEX]
  seqs : tb HSR_A_IF2_SEQ = none ∨ AllZero u16Of tb [HSR_A_IF1_SEQ, HSR_A_IF2_SEQ]

lemma addr_readAddr (o : Option Nlattr) (old : Option NlAddr) :
    HnodeValue.addr (readAddr o old) =
      o.elim (.addr old) fun nla => .addr (some (nlAddrOfAttr nla)) := by
  cases o <;> rfl

lemma u32_readU32 (o : Option Nlattr) (old : UInt32) :
    HnodeValue.u32 (readU32 o old) = o.elim (.u32 old) fun nla => .u32 (u32Of nla.payload) := by
  cases o <;> rfl

lemma u16_readU16 (o : Option Nlattr) (old : UInt16) :
    HnodeValue.u16 (readU16 o old) = o.elim (.u16 old) fun nla => .u16 (u16Of nla.payload) := by
  cases o <;> rfl

lemma readU32_zero {o : Option Nlattr} :
    readU32 o 0 = 0 ↔ ∀ nla ∈ o, u32Of nla.payload = 0 := by
  cases o <;> simp [readU32]

lemma readU16_zero {o : Option Nlattr} :
    readU16 o 0 = 0 ↔ ∀ nla ∈ o, u16Of nla.payload = 0 := by
  cases o <;> simp [readU16]

lemma allZero_three {tb : AttrTable} {a b c : Nat} : AllZero u32Of tb [a, b, c] ↔
    readU32 (tb a) 0 = 0 ∧ readU32 (tb b) 0 = 0 ∧ readU32 (tb c) 0 = 0 := by
  rw [readU32_zero, readU32_zero, readU32_zero, AllZero]
  simp

lemma allZero_two {tb : AttrTable} {a b : Nat} : AllZero u16Of tb [a, b] ↔
    readU16 (tb a) 0 = 0 ∧ readU16 (tb b) 0 = 0 := by
  rw [readU16_zero, readU16_zero, AllZero]
  simp

/-- three attributes that are written into the first one's field, one after the other -/
lemma indexes_iff (x y z : Option Nlattr) :
    (readU32 z (readU32 y (readU32 x 0)) = readU32 x 0 ∧ readU32 y 0 = 0 ∧ readU32 z 0 = 0) ↔
      ((y = none ∧ z = none) ∨ (readU32 x 0 = 0 ∧ readU32 y 0 = 0 ∧ readU32 z 0 = 0)) := by
  have hsome : ∀ (nla : Nlattr) old, readU32 (some nla) old = readU32 (some nla) 0 :=
    fun _ _ => rfl
  have hnone : ∀ old, readU32 none old = old := fun _ => rfl
  cases z with
  | some nla =>
    rw [hsome]
    simp only [reduceCtorEq, and_false, false_or]
    constructor
    · rintro ⟨hx, hy, hz⟩
      exact ⟨hx ▸ hz, hy, hz⟩
    · rintro ⟨hx, hy, hz⟩
      exact ⟨hz.trans hx.symm, hy, hz⟩
  | none =>
    cases y with
    | some nla =>
      rw [hnone, hsome]
      simp only [reduceCtorEq, false_and, false_or]
      constructor
      · rintro ⟨hx, hy, hz⟩
        exact ⟨hx ▸ hy, hy, hz⟩
      · rintro ⟨hx, hy, hz⟩
        exact ⟨hy.trans hx.symm, hy, hz⟩
    | none => simp [hnone]

lemma seqs_iff (x y : Option Nlattr) :
    (readU16 y (readU16 x 0) = readU16 x 0 ∧ readU16 y 0 = 0) ↔
      (y = none ∨ (readU16 x 0 = 0 ∧ readU16 y 0 = 0)) := by
  cases y with
  | none => simp [readU16]
  | some nla =>
    have hsome : ∀ old, readU16 (some nla) old = readU16 (some nla) 0 := fun _ => rfl
    rw [hsome]
    simp only [reduceCtorEq, false_or]
    constructor
    · rintro ⟨hx, hy⟩
      exact ⟨hx ▸ hy, hy⟩
    · rintro ⟨hx, hy⟩
      exact ⟨hy.trans hx.symm, hy⟩

/-- the fields in terms of what is read: five have a block of their own -/
lemma decodes_fields (tb : AttrTable) (msgtype : Nat) :
    Decodes tb { hnodeAlloc with ceMsgtype := msgtype }
        (decoded tb { hnodeAlloc with ceMsgtype := msgtype }) ↔
      (readU32 (tb HSR_A_IF2_IFINDEX) (readU32 (tb HSR_A_IF1_IFINDEX)
          (readU32 (tb HSR_A_IFINDEX) 0)) = readU32 (tb HSR_A_IFINDEX) 0 ∧
        readU32 (tb HSR_A_IF1_IFINDEX) 0 = 0 ∧ readU32 (tb HSR_A_IF2_IFINDEX) 0 = 0) ∧
      (readU16 (tb HSR_A_IF2_SEQ) (readU16 (tb HSR_A_IF1_SEQ) 0) = readU16 (tb HSR_A_IF1_SEQ) 0 ∧
        readU16 (tb HSR_A_IF2_SEQ) 0 = 0) := by
  constructor
  · intro h
    have hifindex := (h .ifindex).2.trans (u32_readU32 _ _).symm
    have hslave1 := (h .slave1).2.trans (u32_readU32 _ _).symm
    have hslave2 := (h .slave2).2.trans (u32_readU32 _ _).symm
    have hseq1 := (h .slave1Seq).2.trans (u16_readU16 _ _).symm
    have hseq2 := (h .slave2Seq).2.trans (u16_readU16 _ _).symm
    exact ⟨⟨HnodeValue.u32.inj hifindex, (HnodeValue.u32.inj hslave1).symm,
      (HnodeValue.u32.inj hslave2).symm⟩, HnodeValue.u16.inj hseq1, (HnodeValue.u16.inj hseq2).symm⟩
  · rintro ⟨⟨hifindex, hslave1, hslave2⟩, hseq1, hseq2⟩ attr
    refine ⟨decoded_mask tb rfl attr, ?_⟩
    cases attr with
    | addrA => exact addr_readAddr _ _
    | addrB => exact addr_readAddr _ _
    | ifindex => exact (congrArg HnodeValue.u32 hifindex).trans (u32_readU32 _ _)
    | slave1 => exact (congrArg HnodeValue.u32 hslave1.symm).trans (u32_readU32 _ _)
    | slave2 => exact (congrArg HnodeValue.u32 hslave2.symm).trans (u32_readU32 _ _)
    | slave1Age => exact u32_readU32 _ _
    | slave2Age => exact u32_readU32 _ _
    | slave1Seq => exact (congrArg HnodeValue.u16 hseq1).trans (u16_readU16 _ _)
    | slave2Seq => exact (congrArg HnodeValue.u16 hseq2.symm).trans (u16_readU16 _ _)
    | addrBIfindex => exact u32_readU32 _ _

/-- **Decoding a node status.**  From a table that meets the policy and a freshly allocated node,
`hnode_info_parse` returns a node; its bits and fields are those of the attributes that are present
exactly when no attribute is written into a neighbour's field, or all zero. -/
theorem node_status_decodes_iff {ε W A : Type} (badRead : ε) (tb : AttrTable) (h : PolicyMet tb)
    (msgtype : Nat) (w : W) :
    ∃ node, (hnodeInfoParse badRead { hnodeAlloc with ceMsgtype := msgtype } tb :
        Proc ε W A HsrNode) w = ⟨.ok node, w, []⟩ ∧
      (Decodes tb { hnodeAlloc with ceMsgtype := msgtype } node ↔ SharesNoField tb) := by
  refine ⟨decoded tb { hnodeAlloc with ceMsgtype := msgtype }, ?_, ?_⟩
  · rw [hnodeInfoParse_eq h]
    rfl
  · rw [decodes_fields, indexes_iff, seqs_iff, ← allZero_three, ← allZero_two]
    exact ⟨fun h => ⟨h.1, h.2⟩, fun h => ⟨h.indexes, h.seqs⟩⟩

/-- the table of some attributes -/
def tableOf (attrs : List Nlattr) : AttrTable := fun t => attrs.find? fun nla => nla.type == t

lemma policyMet_tableOf {attrs : List Nlattr}
    (h : ∀ nla ∈ attrs, 0 ≤ validateNla nla HSR_A_MAX hnodePolicy) : PolicyMet (tableOf attrs) := by
  intro t nla hnla
  have htype : nla.type = t := by simpa using List.find?_some hnla
  exact ⟨htype, h nla (List.mem_of_find?_eq_some hnla)⟩

/-- a status with the interface, an age and the first sequence number is decoded -/
theorem status_without_ports_decodes :
    ∃ node, (hnodeInfoParse () { hnodeAlloc with ceMsgtype := 30 }
        (tableOf [⟨2, [5, 0, 0, 0]⟩, ⟨3, [9, 0, 0, 0]⟩, ⟨6, [7, 0]⟩]) :
        Proc Unit Unit Unit HsrNode) () = ⟨.ok node, (), []⟩ ∧
      (Decodes (tableOf [⟨2, [5, 0, 0, 0]⟩, ⟨3, [9, 0, 0, 0]⟩, ⟨6, [7, 0]⟩])
          { hnodeAlloc with ceMsgtype := 30 } node ↔
        SharesNoField (tableOf [⟨2, [5, 0, 0, 0]⟩, ⟨3, [9, 0, 0, 0]⟩, ⟨6, [7, 0]⟩])) :=
  node_status_decodes_iff () (tableOf [⟨2, [5, 0, 0, 0]⟩, ⟨3, [9, 0, 0, 0]⟩, ⟨6, [7, 0]⟩])
    (policyMet_tableOf (by decide)) 30 ()

/-- the index of the first port overwrites that of the interface -/
theorem port_index_overwrites_the_interface :
    ¬ ∀ (ε W A : Type) (badRead : ε) (tb : AttrTable) (msgtype : Nat) (w : W) (node : HsrNode),
      PolicyMet tb → (hnodeInfoParse badRead { hnodeAlloc with ceMsgtype := msgtype } tb :
        Proc ε W A HsrNode) w = ⟨.ok node, w, []⟩ →
      Decodes tb { hnodeAlloc with ceMsgtype := msgtype } node := by
  intro h
  have hdecodes := h Unit Unit Unit () (tableOf [⟨2, [5, 0, 0, 0]⟩, ⟨8, [3, 0, 0, 0]⟩]) 30 () _
    (policyMet_tableOf (by decide)) rfl
  exact absurd (hdecodes .ifindex).2 (by decide)

end Nl
