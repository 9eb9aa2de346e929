import ConfdbHsr.Libnl.AfOps
import ConfdbHsr.Libnl.Cache

/-!
# Links and HSR links

`lib/route/link.c` and `lib/route/link/hsr.c`, as far as the daemon uses them.

* `RtnlLink`         `struct rtnl_link`, with the `struct hsr_info` of its kind;
* `LinkObj`          a link that came out of `link_msg_parser`: the attributes the parser always
                     provides are there;
* `linkMsgParser`    the parser, over the table of parsed attributes;
* `rtnlLinkGet`, `rtnlLinkGetByName`   lookups in a link cache, by index and by name;
* `rtnlLinkHsrAlloc` and the setters used to build a request for an HSR device.
-/

namespace Nl

def LINK_ATTR_MTU : Mask := 1#64 <<< 0
def LINK_ATTR_LINK : Mask := 1#64 <<< 1
def LINK_ATTR_MASTER : Mask := 1#64 <<< 4
def LINK_ATTR_FLAGS : Mask := 1#64 <<< 9
def LINK_ATTR_IFNAME : Mask := 1#64 <<< 10
def LINK_ATTR_IFINDEX : Mask := 1#64 <<< 11
def LINK_ATTR_FAMILY : Mask := 1#64 <<< 12
def LINK_ATTR_ARPTYPE : Mask := 1#64 <<< 13
def LINK_ATTR_CHANGE : Mask := 1#64 <<< 15
def LINK_ATTR_LINKINFO : Mask := 1#64 <<< 18

def ARPHRD_ETHER : UInt32 := 1
def ARPHRD_VOID : UInt32 := 0xFFFF
def IFNAMSIZ : Nat := 16

def HSR_HAS_SLAVE1_ID : BitVec 32 := 2
def HSR_HAS_SLAVE2_ID : BitVec 32 := 4
def HSR_HAS_VERSION : BitVec 32 := 8

/-- `struct hsr_info` -/
structure HsrInfo where
  viHsrVersion : UInt8
  slave1Id : UInt32
  slave2Id : UInt32
  viMask : BitVec 32
  deriving DecidableEq, Repr

/-- `hsr_alloc`: zeroed -/
def HsrInfo.zero : HsrInfo := ⟨0, 0, 0, 0⟩

/-- `struct rtnl_link`; `lInfo` is read for the kind `hsr` only -/
structure RtnlLink where
  ceMask : Mask
  lName : CStr
  lFamily : UInt32
  lArptype : UInt32
  lIndex : UInt32
  lFlags : UInt32
  lChange : UInt32
  lMtu : UInt32
  lLink : UInt32
  lMaster : UInt32
  lInfoKind : Option CStr
  lInfo : HsrInfo
  deriving DecidableEq, Repr

/-- `rtnl_link_alloc` -/
def rtnlLinkAlloc : RtnlLink :=
  ⟨0, [], 0, 0, 0, 0, 0, 0, 0, 0, none, HsrInfo.zero⟩

/-- the attributes `link_msg_parser` provides for every link -/
def linkBase : Mask :=
  LINK_ATTR_IFNAME ||| LINK_ATTR_FAMILY ||| LINK_ATTR_ARPTYPE ||| LINK_ATTR_IFINDEX |||
    LINK_ATTR_FLAGS ||| LINK_ATTR_CHANGE

/-- a link as `link_msg_parser` returns it -/
structure LinkObj extends RtnlLink where
  hasBase : ceMask &&& linkBase = linkBase
  deriving DecidableEq, Repr

/-! ## parsing -/

/-- `struct ifinfomsg` -/
structure IfInfoMsg where
  ifiFamily : UInt32
  ifiType : UInt32
  ifiIndex : UInt32
  ifiFlags : UInt32
  ifiChange : UInt32
  deriving Repr

/-- the nest `IFLA_LINKINFO`: its kind, and for the kind `hsr` the parsed `IFLA_INFO_DATA` -/
structure LinkInfoAttr where
  infoKind : Option CStr
  infoData : Option HsrInfo
  deriving Repr

/-- the table of attributes of a link message, and the error with which the parser of another
attribute refuses it: of VFs, of address families, or of the data of a kind -/
structure LinkTb where
  ifname : Option CStr
  mtu : Option UInt32
  link : Option UInt32
  master : Option UInt32
  linkinfo : Option LinkInfoAttr
  refused : Option Int
  deriving Repr

lemma or_keeps (b x : Mask) : (b ||| x) &&& b = b := by
  ext i hi
  rw [BitVec.getElem_and, BitVec.getElem_or]
  cases b[i] <;> simp

/-- `link_msg_parser` after `nlmsg_parse` -/
def linkMsgParser (ifi : IfInfoMsg) (tb : LinkTb) : Except Int LinkObj :=
  match tb.ifname, tb.refused with
  | none, _ => .error (-NLE_MISSING_ATTR)
  | some _, some err => .error err
  | some name, none =>
    let kind := tb.linkinfo.bind LinkInfoAttr.infoKind
    .ok {
      ceMask := linkBase ||| (bitIf LINK_ATTR_MTU tb.mtu ||| bitIf LINK_ATTR_LINK tb.link |||
        bitIf LINK_ATTR_MASTER tb.master ||| bitIf LINK_ATTR_LINKINFO kind)
      lName := name.take (IFNAMSIZ - 1)
      lFamily := kind.elim ifi.ifiFamily (kindFamily ifi.ifiFamily)
      lArptype := ifi.ifiType
      lIndex := ifi.ifiIndex
      lFlags := ifi.ifiFlags
      lChange := ifi.ifiChange
      lMtu := tb.mtu.getD 0
      lLink := tb.link.getD 0
      lMaster := tb.master.getD 0
      lInfoKind := kind
      lInfo := (tb.linkinfo.bind LinkInfoAttr.infoData).getD HsrInfo.zero
      hasBase := or_keeps _ _ }

/-! ## reading a link -/

namespace RtnlLink

/-- `rtnl_link_get_name` -/
def getName (link : RtnlLink) : Option CStr :=
  if link.ceMask &&& LINK_ATTR_IFNAME ≠ 0 then some link.lName else none

/-- `rtnl_link_get_arptype` -/
def getArptype (link : RtnlLink) : UInt32 :=
  if link.ceMask &&& LINK_ATTR_ARPTYPE ≠ 0 then link.lArptype else ARPHRD_VOID

/-- the link type that `nl_llproto2str` prints as `ether` -/
def isEther (link : RtnlLink) : Bool := link.getArptype == ARPHRD_ETHER

/-- `rtnl_link_is_hsr`; the operations of a link are those registered for its kind -/
def isHsr (link : RtnlLink) : Bool := link.lInfoKind == some (cs "hsr")

/-- `rtnl_link_get_ifindex`; a C `int` is kept as its 32-bit pattern -/
def getIfindex (link : RtnlLink) : UInt32 := link.lIndex

/-- `rtnl_link_hsr_get_slave1`, when it returns -/
def hsrSlave1 (link : RtnlLink) : UInt32 :=
  if link.isHsr then link.lInfo.slave1Id else 0 - 10

/-- `rtnl_link_hsr_get_slave2`, when it returns -/
def hsrSlave2 (link : RtnlLink) : UInt32 :=
  if link.isHsr then link.lInfo.slave2Id else 0 - 10

end RtnlLink

lemma LinkObj.has_attr (link : LinkObj) {attr : Mask} (ha : linkBase &&& attr ≠ 0) :
    link.ceMask &&& attr ≠ 0 := by
  intro h
  have hb : link.ceMask &&& linkBase &&& attr = 0 := by
    rw [BitVec.and_assoc, BitVec.and_comm linkBase, ← BitVec.and_assoc, h]
    exact BitVec.zero_and
  rw [link.hasBase] at hb
  exact ha hb

@[simp] theorem LinkObj.getName_eq (link : LinkObj) : link.getName = some link.lName :=
  if_pos (link.has_attr (by decide))

/-! ## lookups in a link cache -/

/-- `rtnl_link_get`: the first link with the index, of any family -/
def rtnlLinkGet (cache : List LinkObj) (ifindex : UInt32) : Option LinkObj :=
  cache.find? fun link => link.lIndex == ifindex

/-- `rtnl_link_get_by_name`: the first link with the name, of any family and kind -/
def rtnlLinkGetByName (cache : List LinkObj) (name : CStr) : Option LinkObj :=
  cache.find? fun link => link.lName == name

/-- `rtnl_link_name2i` -/
def rtnlLinkName2i (cache : List LinkObj) (name : CStr) : UInt32 :=
  match rtnlLinkGetByName cache name with
  | some link => link.lIndex
  | none => 0

/-- `rtnl_link_i2name` into a buffer of `len` bytes -/
def rtnlLinkI2name (cache : List LinkObj) (ifindex : UInt32) (len : Nat) : Option CStr :=
  (rtnlLinkGet cache ifindex).map fun link => link.lName.take (len - 1)

lemma rtnlLinkGetByName_name {cache : List LinkObj} {name : CStr} {link : LinkObj}
    (h : rtnlLinkGetByName cache name = some link) : link.lName = name := by
  simpa using List.find?_some h

/-! ## building a request -/

/-- `rtnl_link_hsr_alloc` -/
def rtnlLinkHsrAlloc : RtnlLink :=
  { rtnlLinkAlloc with
    lInfoKind := some (cs "hsr")
    ceMask := LINK_ATTR_LINKINFO }

namespace RtnlLink

/-- `rtnl_link_set_name`: names are cut to the size of the field -/
def setName (link : RtnlLink) (name : CStr) : RtnlLink :=
  { link with
    lName := name.take (IFNAMSIZ - 1)
    ceMask := link.ceMask ||| LINK_ATTR_IFNAME }

/-- `rtnl_link_hsr_set_version`, on an HSR link -/
def hsrSetVersion (link : RtnlLink) (version : UInt8) : RtnlLink :=
  { link with
    lInfo := { link.lInfo with
      viHsrVersion := version
      viMask := link.lInfo.viMask ||| HSR_HAS_VERSION } }

/-- `rtnl_link_hsr_set_slave1`, on an HSR link -/
def hsrSetSlave1 (link : RtnlLink) (id : UInt32) : RtnlLink :=
  { link with
    lInfo := { link.lInfo with
      slave1Id := id
      viMask := link.lInfo.viMask ||| HSR_HAS_SLAVE1_ID } }

/-- `rtnl_link_hsr_set_slave2`, on an HSR link -/
def hsrSetSlave2 (link : RtnlLink) (id : UInt32) : RtnlLink :=
  { link with
    lInfo := { link.lInfo with
      slave2Id := id
      viMask := link.lInfo.viMask ||| HSR_HAS_SLAVE2_ID } }

end RtnlLink

end Nl
