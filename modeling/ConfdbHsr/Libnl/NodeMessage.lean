import ConfdbHsr.Libnl.HsrNode

/-!
# Well-formed messages about nodes

A `SET_NODE_LIST` or `NODE_DOWN` message names an interface and any number of addresses.

* `NodeNotification`   such a message, as its attributes;
* `NodeNotification.edits`   the edits of a set of (interface, address) pairs it stands for;
* `cmdMsgParser_notification`   how it is parsed, whatever is done with its nodes.
-/

namespace Nl

abbrev NodePair := UInt32 × List UInt8

/-- one node for each pair of the set -/
abbrev HoldsNodes (cache : List HsrNode) (s : Finset NodePair) : Prop :=
  Holds FromNodeList nodePair cache s

inductive NodeCmd where
  | setNodeList | nodeDown
  deriving DecidableEq, Repr

def NodeCmd.cId : NodeCmd → UInt8
  | .setNodeList => HSR_C_SET_NODE_LIST
  | .nodeDown => HSR_C_NODE_DOWN

def NodeCmd.edit (pair : NodePair) : NodeCmd → SetEdit NodePair
  | .setNodeList => .insert pair
  | .nodeDown => .erase pair

/-- the entry of the command in `genl_cmds` -/
def NodeCmd.genlCmd (cmd : NodeCmd) : GenlCmd :=
  ⟨cmd.cId, HSR_A_MAX, some hnodePolicy, some .nodeList⟩

/-- a well-formed `SET_NODE_LIST` or `NODE_DOWN`: attributes that are laid out and sized as the
family's policy asks, an `HSR_A_IFINDEX` among them -/
structure NodeNotification where
  cmd : NodeCmd
  attrs : List Nlattr
  fits : ∀ nla ∈ attrs, nla.Fits
  valid : ∀ nla ∈ attrs, 0 ≤ validateNla nla HSR_A_MAX hnodePolicy
  hasIfindex : ∃ nla ∈ attrs, nla.type = HSR_A_IFINDEX

namespace NodeNotification

/-- the attributes as they are received -/
def stream (n : NodeNotification) : List UInt8 := encodeAttrs n.attrs

def msg (n : NodeNotification) : HsrMsg := ⟨n.cmd.cId, n.stream⟩

/-- the interface it is about; a repeated attribute replaces the earlier one -/
def ifindex (n : NodeNotification) : UInt32 :=
  u32Of ((lastOfType n.attrs HSR_A_IFINDEX).map Nlattr.payload |>.getD [])

/-- the attributes that carry an address -/
def addrs (n : NodeNotification) : List Nlattr :=
  n.attrs.filter fun nla => nla.nlaType.toNat = HSR_A_NODE_ADDR

/-- the edits: one for each address, in order -/
def edits (n : NodeNotification) : List (SetEdit NodePair) :=
  n.addrs.map fun nla => n.cmd.edit (n.ifindex, nla.payload)

end NodeNotification

/-! ## parsing -/

lemma lookupCmd_cId (cmd : NodeCmd) : lookupCmd cmd.cId = some cmd.genlCmd := by
  cases cmd with
  | setNodeList => rfl
  | nodeDown => rfl

lemma addr_type {nla : Nlattr} (h : nla.nlaType.toNat = HSR_A_NODE_ADDR) :
    ¬ nla.type > HSR_A_MAX := by
  have hle : nla.type ≤ nla.nlaType.toNat := by
    rw [Nlattr.type, UInt16.toNat_and]
    exact Nat.and_le_left
  rw [h] at hle
  exact Nat.not_lt.mpr (hle.trans (by decide))

section
variable {ε W A σ : Type} {badRead : ε} {strict : Bool} {ppCb : σ → HsrNode → Proc ε W A (Int × σ)}

/-- the nodes of a list of addresses, handed over one after the other until one is refused -/
def handNodes (ppCb : σ → HsrNode → Proc ε W A (Int × σ)) (cmdId : UInt8) (ifindex : UInt32) :
    List Nlattr → σ → Proc ε W A (Int × σ)
  | [], arg => pure (0, arg)
  | nla :: rest, arg => do
    let (err, arg) ← ppCb arg (listNode cmdId ifindex nla)
    if err < 0 then pure (err, arg) else handNodes ppCb cmdId ifindex rest arg

/-- the loop of the parser looks at the addresses only -/
lemma nodeListLoop_eq (cmd : NodeCmd) (ifindex : UInt32) (attrs : List Nlattr) (arg : σ) :
    nodeListLoop ppCb cmd.genlCmd ifindex attrs arg =
      handNodes ppCb cmd.cId ifindex
        (attrs.filter fun nla => nla.nlaType.toNat = HSR_A_NODE_ADDR) arg := by
  induction attrs generalizing arg with
  | nil => rfl
  | cons nla attrs ih =>
    by_cases haddr : nla.nlaType.toNat = HSR_A_NODE_ADDR
    · have hmax : ¬ nla.type > cmd.genlCmd.cMaxattr := addr_type haddr
      rw [List.filter_cons_of_pos (by simpa using haddr), nodeListLoop, if_neg hmax,
        if_pos haddr, handNodes]
      congr 1
      funext ⟨err, arg⟩
      simp only [ih]
    · rw [List.filter_cons_of_neg (by simpa using haddr), nodeListLoop, if_neg haddr, ite_self, ih]

lemma ifindex_read (n : NodeNotification) : ∃ nla, lastOfType n.attrs HSR_A_IFINDEX = some nla ∧
    (nlaGetU32 badRead (some nla) : Proc ε W A UInt32) = pure n.ifindex := by
  obtain ⟨nla, hmem, htype, hlast⟩ := lastOfType_mem n.hasIfindex
  have hvalid := n.valid nla hmem
  have hlen : ¬ nla.len < 4 := by
    intro hlt
    rw [validateNla, htype] at hvalid
    simp [hnodePolicy, HSR_A_IFINDEX, HSR_A_MAX, NlaKind.minlen, hlt, NLE_RANGE] at hvalid
  refine ⟨nla, hlast, ?_⟩
  rw [nlaGetU32, if_neg hlen, NodeNotification.ifindex, hlast]
  rfl

/-- **A well-formed message is parsed**: its nodes are handed over in order. -/
theorem cmdMsgParser_notification (n : NodeNotification) (arg : σ) :
    cmdMsgParser badRead strict ppCb n.cmd.cId n.stream arg =
      handNodes ppCb n.cmd.cId n.ifindex n.addrs arg := by
  obtain ⟨tb, hparse, htb⟩ := nlaParse_encode n.fits n.valid
  obtain ⟨nla, hlast, hread⟩ : ∃ nla, lastOfType n.attrs HSR_A_IFINDEX = some nla ∧
      (nlaGetU32 badRead (some nla) : Proc ε W A UInt32) = pure n.ifindex := ifindex_read n
  have hifindex : tb HSR_A_IFINDEX = some nla := (htb HSR_A_IFINDEX (by decide)).trans hlast
  have hmax : n.cmd.genlCmd.cMaxattr = HSR_A_MAX := rfl
  have hpolicy : n.cmd.genlCmd.cAttrPolicy = some hnodePolicy := rfl
  have hparser : n.cmd.genlCmd.cMsgParser = some .nodeList := rfl
  simp only [NodeNotification.stream, cmdMsgParser, lookupCmd_cId, hmax, hpolicy, hparser, hparse,
    runParser, hnodeMsgNodeListParser, hifindex, nlattrs_encode n.fits]
  rw [if_neg nofun, hread, pure_bind]
  exact nodeListLoop_eq n.cmd n.ifindex n.attrs arg

end

end Nl
