import ConfdbHsr.Libnl.Fields
import ConfdbHsr.Libnl.HsrLink
import ConfdbHsr.Libnl.HsrNode
import ConfdbHsr.Libnl.Nlmsg
import ConfdbHsr.LinkDiff

/-!
# Link messages (`lib/route/link.c`)

The requests about links as bytes, and the parser of link messages on bytes.

* `WireLink`       `struct rtnl_link` with all attributes that a request can carry;
* `OtherData`      what other modules have in it: the kinds other than `hsr`, VFs and the address
                   families put it into a request themselves;
* `rtnlLinkFillInfo`, `buildLinkRequest`   the builders;
* `rtnlLinkBuildAddRequest`, `rtnlLinkBuildDeleteRequest`;
* `LinkModules`    the parsers of the kinds other than `hsr`, and of VFs;
* `linkMsgParse`   the parser; it may also read where there is nothing (`Halt.wildRead`).

The parser is followed in what it refuses and in the fields that a request can carry.  Fields that
no request carries (statistics, the queueing discipline, the data of other modules) and their bits
are left out.  Memory does not run out.
-/

namespace Nl

def NLE_MSG_TOOSHORT : Int := 21

def LINK_ATTR_CARRIER : Mask := 1#64 <<< 25
def LINK_ATTR_NS_FD : Mask := 1#64 <<< 29
def LINK_ATTR_NS_PID : Mask := 1#64 <<< 30
def LINK_ATTR_LINKINFO_SLAVE_KIND : Mask := 1#64 <<< 39

def IFLA_ADDRESS : Nat := 1
def IFLA_BROADCAST : Nat := 2
def IFLA_IFNAME : Nat := 3
def IFLA_MTU : Nat := 4
def IFLA_LINK : Nat := 5
def IFLA_QDISC : Nat := 6
def IFLA_STATS : Nat := 7
def IFLA_MASTER : Nat := 10
def IFLA_PROTINFO : Nat := 12
def IFLA_TXQLEN : Nat := 13
def IFLA_MAP : Nat := 14
def IFLA_WEIGHT : Nat := 15
def IFLA_OPERSTATE : Nat := 16
def IFLA_LINKMODE : Nat := 17
def IFLA_NET_NS_PID : Nat := 19
def IFLA_IFALIAS : Nat := 20
def IFLA_NUM_VF : Nat := 21
def IFLA_VFINFO_LIST : Nat := 22
def IFLA_STATS64 : Nat := 23
def IFLA_GROUP : Nat := 27
def IFLA_NET_NS_FD : Nat := 28
def IFLA_PROMISCUITY : Nat := 30
def IFLA_NUM_TX_QUEUES : Nat := 31
def IFLA_NUM_RX_QUEUES : Nat := 32
def IFLA_CARRIER : Nat := 33
def IFLA_CARRIER_CHANGES : Nat := 35
def IFLA_LINK_NETNSID : Nat := 37
def IFLA_PHYS_PORT_NAME : Nat := 38
def IFLA_GSO_MAX_SEGS : Nat := 40
def IFLA_GSO_MAX_SIZE : Nat := 41
def IFLA_MAX : Nat := 51

def IFLA_INFO_XSTATS : Nat := 3
def IFLA_INFO_SLAVE_KIND : Nat := 4
def IFLA_INFO_MAX : Nat := 5

def IFQDISCSIZ : Nat := 32
def IFALIASZ : Nat := 256

/-- `struct rtnl_link`, also with the fields that the daemon does not use -/
structure WireLink extends RtnlLink where
  lFlagMask : UInt32
  lAddr : NlAddr
  lBcast : NlAddr
  lTxqlen : UInt32
  lWeight : UInt32
  lOperstate : UInt8
  lCarrier : UInt8
  lLinkmode : UInt8
  lIfalias : CStr
  lLinkNetnsid : UInt32
  lNumTxQueues : UInt32
  lNumRxQueues : UInt32
  lNsFd : UInt32
  lNsPid : UInt32
  lGroup : UInt32
  lInfoSlaveKind : CStr
  multicastSpec : UInt8
  supervisionAddr : Vector UInt8 6
  seqNr : UInt16
  deriving DecidableEq, Repr

/-- a link with none of these fields -/
def RtnlLink.full (link : RtnlLink) : WireLink :=
  { link with
    lFlagMask := 0, lAddr := ⟨0, [], 0⟩, lBcast := ⟨0, [], 0⟩, lTxqlen := 0, lWeight := 0
    lOperstate := 0, lCarrier := 0, lLinkmode := 0, lIfalias := [], lLinkNetnsid := 0
    lNumTxQueues := 0, lNumRxQueues := 0, lNsFd := 0, lNsPid := 0, lGroup := 0
    lInfoSlaveKind := [], multicastSpec := 0, supervisionAddr := Vector.replicate 6 0, seqNr := 0 }

namespace WireLink

/-- `ce_mask & attr` -/
def has (link : WireLink) (attr : Mask) : Bool := link.ceMask &&& attr != 0

/-- the `struct hsr_info` that `l_info` points to -/
def info (link : WireLink) : FullHsrInfo :=
  ⟨link.lInfo, link.multicastSpec, link.supervisionAddr, link.seqNr⟩

def setInfo (link : WireLink) (vi : FullHsrInfo) : WireLink :=
  { link with
    lInfo := vi.toHsrInfo, multicastSpec := vi.multicastSpec
    supervisionAddr := vi.supervisionAddr, seqNr := vi.seqNr }

end WireLink

/-! ## strings -/

/-- a C string in memory -/
def cString (bytes : List UInt8) : CStr := bytes.takeWhile (· ≠ 0)

/-- the payload of `nla_put_string` -/
def putString (str : CStr) : List UInt8 := str ++ [0]

/-- `nla_strlcpy`, read as a string -/
def nlaStrlcpy (nla : Nlattr) (dstsize : Nat) : CStr :=
  let src := if nla.payload.getLast? = some 0 then nla.payload.dropLast else nla.payload
  cString (src.take (dstsize - 1))

/-! ## building -/

namespace IfInfoMsg

/-- its bytes; the fields of the structure have 8, 16 and 32 bits -/
def encode (ifi : IfInfoMsg) : List UInt8 :=
  [UInt8.ofNat ifi.ifiFamily.toNat, 0] ++ u16Bytes ifi.ifiType.toNat ++ u32Bytes ifi.ifiIndex ++
    u32Bytes ifi.ifiFlags ++ u32Bytes ifi.ifiChange

def decode (bytes : List UInt8) : IfInfoMsg where
  ifiFamily := UInt32.ofNat (bytes.headD 0).toNat
  ifiType := UInt32.ofNat (u16Of (bytes.drop 2)).toNat
  ifiIndex := u32Of (bytes.drop 4)
  ifiFlags := u32Of (bytes.drop 8)
  ifiChange := u32Of (bytes.drop 12)

end IfInfoMsg

/-- `nlmsg_alloc_simple`; the fields of the header are completed when the message is sent -/
def nlmsgAllocSimple (nmSize : Nat) : NlMsg := ⟨nmSize, List.replicate NLMSG_HDRLEN 0⟩

/-- `nlmsg_append` of data whose length is a multiple of `NLMSG_ALIGNTO` -/
def nlmsgAppend (msg : NlMsg) (data : List UInt8) : Except Int NlMsg :=
  if msg.nmSize < msg.buf.length + data.length then .error (-NLE_NOMEM)
  else .ok { msg with buf := msg.buf ++ data }

/-- one line of `rtnl_link_fill_info` -/
def linkField (attrtype : Nat) (bit : Mask) (data : WireLink → List UInt8) : PutField WireLink :=
  ⟨UInt16.ofNat attrtype, fun link => link.has bit, data⟩

def fillInfoFields : List (PutField WireLink) := [
  linkField IFLA_ADDRESS LINK_ATTR_ADDR fun link => link.lAddr.aAddr,
  linkField IFLA_BROADCAST LINK_ATTR_BRD fun link => link.lBcast.aAddr,
  linkField IFLA_MTU LINK_ATTR_MTU fun link => u32Bytes link.lMtu,
  linkField IFLA_TXQLEN LINK_ATTR_TXQLEN fun link => u32Bytes link.lTxqlen,
  linkField IFLA_WEIGHT LINK_ATTR_WEIGHT fun link => u32Bytes link.lWeight,
  linkField IFLA_IFNAME LINK_ATTR_IFNAME fun link => putString link.lName,
  linkField IFLA_OPERSTATE LINK_ATTR_OPERSTATE fun link => [link.lOperstate],
  linkField IFLA_CARRIER LINK_ATTR_CARRIER fun link => [link.lCarrier],
  linkField IFLA_LINKMODE LINK_ATTR_LINKMODE fun link => [link.lLinkmode],
  linkField IFLA_IFALIAS LINK_ATTR_IFALIAS fun link => putString link.lIfalias,
  linkField IFLA_LINK LINK_ATTR_LINK fun link => u32Bytes link.lLink,
  linkField IFLA_LINK_NETNSID LINK_ATTR_LINK_NETNSID fun link => u32Bytes link.lLinkNetnsid,
  linkField IFLA_MASTER LINK_ATTR_MASTER fun link => u32Bytes link.lMaster,
  linkField IFLA_NUM_TX_QUEUES LINK_ATTR_NUM_TX_QUEUES fun link => u32Bytes link.lNumTxQueues,
  linkField IFLA_NUM_RX_QUEUES LINK_ATTR_NUM_RX_QUEUES fun link => u32Bytes link.lNumRxQueues,
  linkField IFLA_NET_NS_FD LINK_ATTR_NS_FD fun link => u32Bytes link.lNsFd,
  linkField IFLA_NET_NS_PID LINK_ATTR_NS_PID fun link => u32Bytes link.lNsPid]

def groupField : PutField WireLink :=
  linkField IFLA_GROUP LINK_ATTR_GROUP fun link => u32Bytes link.lGroup

def rtnlLinkFillInfo (msg : NlMsg) (link : WireLink) : Except NlMsg NlMsg :=
  putFields fillInfoFields link msg

/-- `goto nla_put_failure` -/
def orMsgSize (r : Except NlMsg NlMsg) : Except Int NlMsg := r.mapError fun _ => -NLE_MSGSIZE

/-- what the other modules put into a request for a link: the data of a kind other than `hsr`, the
list of VFs, and the data of address families (`af_fill_pi`, and `af_fill` in `IFLA_AF_SPEC`) -/
structure OtherData where
  ioPutAttrs : NlMsg → Int × NlMsg
  fillVflist : NlMsg → Int × NlMsg
  afFillPi : NlMsg → Int × NlMsg
  afFill : NlMsg → Int × NlMsg

/-- nothing -/
def OtherData.none : OtherData :=
  ⟨fun msg => (0, msg), fun msg => (0, msg), fun msg => (0, msg), fun msg => (0, msg)⟩

def putOther (put : NlMsg → Int × NlMsg) (msg : NlMsg) : Except Int NlMsg :=
  let (ret, msg) := put msg
  if ret < 0 then .error (-NLE_MSGSIZE) else pure msg

section
variable (other : OtherData)

/-- `io_put_attrs` of the operations of the kind -/
def ioPutAttrs (link : WireLink) (msg : NlMsg) : Int × NlMsg :=
  if link.lInfoKind.getD [] = cs "hsr" then hsrPutAttrs msg link.info else other.ioPutAttrs msg

/-- the kind and its data, in the open nest `IFLA_LINKINFO` -/
def putKind (msg : NlMsg) (link : WireLink) : Except Int NlMsg :=
  if link.has LINK_ATTR_LINKINFO then do
    let msg ← orMsgSize (putAttr msg ⟨IFLA_INFO_KIND, putString (link.lInfoKind.getD [])⟩)
    putOther (ioPutAttrs other link) msg
  else pure msg

def slaveKindField : PutField WireLink :=
  linkField IFLA_INFO_SLAVE_KIND LINK_ATTR_LINKINFO_SLAVE_KIND
    fun link => putString link.lInfoSlaveKind

/-- the nest `IFLA_LINKINFO` -/
def putLinkInfo (msg : NlMsg) (link : WireLink) : Except Int NlMsg :=
  if link.has (LINK_ATTR_LINKINFO ||| LINK_ATTR_LINKINFO_SLAVE_KIND) then
    match nlaNestStart msg IFLA_LINKINFO with
    | none => .error (-NLE_MSGSIZE)
    | some (info, msg) => do
      let msg ← putKind other msg link
      let msg ← orMsgSize (putField link msg slaveKindField)
      pure (nlaNestEnd msg info).2
  else pure msg

/-- `build_link_msg` -/
def buildLinkRequest (nmSize : Nat) (hdr : IfInfoMsg) (link : WireLink) : Except Int NlMsg := do
  let msg ← (nlmsgAppend (nlmsgAllocSimple nmSize) hdr.encode).mapError fun _ => -NLE_MSGSIZE
  let msg ← orMsgSize (rtnlLinkFillInfo msg link)
  let msg ← orMsgSize (putField link msg groupField)
  let msg ← putLinkInfo other msg link
  let msg ← putOther other.fillVflist msg
  let msg ← putOther other.afFillPi msg
  match nlaNestStart msg IFLA_AF_SPEC with
  | none => .error (-NLE_MSGSIZE)
  | some (afSpec, msg) => do
    let msg ← putOther other.afFill msg
    pure (nlaNestEnd msg afSpec).2

def rtnlLinkBuildAddRequest (nmSize : Nat) (link : WireLink) : Except Int NlMsg :=
  buildLinkRequest other nmSize ⟨link.lFamily, 0, link.lIndex, link.lFlags, link.lFlagMask⟩ link

end

/-- `rtnl_link_build_delete_request` -/
def rtnlLinkBuildDeleteRequest (nmSize : Nat) (link : RtnlLink) : Except Int NlMsg :=
  if link.ceMask &&& (LINK_ATTR_IFINDEX ||| LINK_ATTR_IFNAME) = 0 then .error (-NLE_MISSING_ATTR)
  else do
    let msg ← nlmsgAppend (nlmsgAllocSimple nmSize) (IfInfoMsg.encode ⟨0, 0, link.lIndex, 0, 0⟩)
    if link.ceMask &&& LINK_ATTR_IFNAME ≠ 0 then
      let (ret, msg) := nlaPut msg (UInt16.ofNat IFLA_IFNAME) (putString link.lName)
      if ret < 0 then .error ret else pure msg
    else pure msg

/-! ## parsing -/

/-- `rtln_link_policy`; a nest has no bound, also where a family has a policy of `IFLA_PROTINFO` -/
def rtlnLinkPolicy (type : Nat) : NlaPolicy :=
  if type ∈ [IFLA_IFNAME, IFLA_PHYS_PORT_NAME] then ⟨.string, 0, IFNAMSIZ⟩
  else if type ∈ [IFLA_MTU, IFLA_TXQLEN, IFLA_LINK, IFLA_WEIGHT, IFLA_MASTER, IFLA_NUM_VF,
      IFLA_PROMISCUITY, IFLA_NUM_TX_QUEUES, IFLA_NUM_RX_QUEUES, IFLA_GSO_MAX_SEGS,
      IFLA_GSO_MAX_SIZE, IFLA_GROUP, IFLA_CARRIER_CHANGES, IFLA_NET_NS_PID, IFLA_NET_NS_FD] then
    ⟨.u32, 0, 0⟩
  else if type ∈ [IFLA_OPERSTATE, IFLA_LINKMODE, IFLA_CARRIER] then ⟨.u8, 0, 0⟩
  else if type = IFLA_QDISC then ⟨.string, 0, IFQDISCSIZ⟩
  else if type = IFLA_IFALIAS then ⟨.string, 0, IFALIASZ⟩
  else if type = IFLA_STATS then ⟨.unspec, 92, 0⟩
  else if type = IFLA_STATS64 then ⟨.unspec, 184, 0⟩
  else if type = IFLA_MAP then ⟨.unspec, 32, 0⟩
  else ⟨.unspec, 0, 0⟩

/-- `link_info_policy` -/
def linkInfoPolicy (type : Nat) : NlaPolicy :=
  if type = IFLA_INFO_KIND.toNat then ⟨.string, 0, 0⟩ else ⟨.unspec, 0, 0⟩

/-- a block of the parser: if the attribute is there, its value is stored and its bit is set -/
def readInto {β : Type} (attr : Option Nlattr) (bit : Mask) (read : Nlattr → β)
    (set : WireLink → β → WireLink) (link : WireLink) : WireLink :=
  match attr with
  | none => link
  | some nla =>
    let link := set link (read nla)
    { link with ceMask := link.ceMask ||| bit }

/-- `nla_get_u32` of an attribute whose length the policy has checked -/
def getU32 (nla : Nlattr) : UInt32 := u32Of nla.payload

def getU8 (nla : Nlattr) : UInt8 := u8Of nla.payload

/-- the block of an attribute without a policy -/
def readNetnsid (attr : Option Nlattr) (link : WireLink) : Except Halt WireLink :=
  match attr with
  | none => .ok link
  | some nla =>
    if nla.len < 4 then .error .wildRead
    else .ok (readInto (some nla) LINK_ATTR_LINK_NETNSID getU32
      (fun link v => { link with lLinkNetnsid := v }) link)

/-- the first blocks of `rtnl_link_info_parse` -/
def readHardware (tb : AttrTable) (link : WireLink) : WireLink :=
  let link := readInto (tb IFLA_TXQLEN) LINK_ATTR_TXQLEN getU32
    (fun link v => { link with lTxqlen := v }) link
  let link := readInto (tb IFLA_MTU) LINK_ATTR_MTU getU32
    (fun link v => { link with lMtu := v }) link
  let link := readInto (tb IFLA_ADDRESS) LINK_ATTR_ADDR nlAddrOfAttr
    (fun link v => { link with lAddr := v }) link
  let link := readInto (tb IFLA_BROADCAST) LINK_ATTR_BRD nlAddrOfAttr
    (fun link v => { link with lBcast := v }) link
  readInto (tb IFLA_LINK) LINK_ATTR_LINK getU32 (fun link v => { link with lLink := v }) link

/-- its last blocks -/
def readState (tb : AttrTable) (link : WireLink) : WireLink :=
  let link := readInto (tb IFLA_WEIGHT) LINK_ATTR_WEIGHT getU32
    (fun link v => { link with lWeight := v }) link
  let link := readInto (tb IFLA_MASTER) LINK_ATTR_MASTER getU32
    (fun link v => { link with lMaster := v }) link
  let link := readInto (tb IFLA_CARRIER) LINK_ATTR_CARRIER getU8
    (fun link v => { link with lCarrier := v }) link
  let link := readInto (tb IFLA_OPERSTATE) LINK_ATTR_OPERSTATE getU8
    (fun link v => { link with lOperstate := v }) link
  let link := readInto (tb IFLA_LINKMODE) LINK_ATTR_LINKMODE getU8
    (fun link v => { link with lLinkmode := v }) link
  let link := readInto (tb IFLA_IFALIAS) LINK_ATTR_IFALIAS (fun nla => cString nla.payload)
    (fun link v => { link with lIfalias := v }) link
  let link := readInto (tb IFLA_NET_NS_FD) LINK_ATTR_NS_FD getU32
    (fun link v => { link with lNsFd := v }) link
  readInto (tb IFLA_NET_NS_PID) LINK_ATTR_NS_PID getU32
    (fun link v => { link with lNsPid := v }) link

def rtnlLinkInfoParse (tb : AttrTable) (link : WireLink) : Except Halt WireLink :=
  match tb IFLA_IFNAME with
  | none => .error (.code (-NLE_MISSING_ATTR))
  | some ifname => do
    let link := { link with lName := nlaStrlcpy ifname IFNAMSIZ }
    let link ← readNetnsid (tb IFLA_LINK_NETNSID) (readHardware tb link)
    pure (readState tb link)

/-- the parsers of other modules: of a list of VFs, and of the data and statistics of a kind other
than `hsr` (which do nothing for a kind without) -/
structure LinkModules where
  parseVflist : Nlattr → Except Halt Unit
  ioParse : CStr → Option Nlattr → Option Nlattr → Except Halt Unit

section
variable (mods : LinkModules)

def readVfs (tb : AttrTable) : Except Halt Unit :=
  match tb IFLA_NUM_VF, tb IFLA_VFINFO_LIST with
  | some numVf, some list => if getU32 numVf ≠ 0 then mods.parseVflist list else .ok ()
  | _, _ => .ok ()

/-- `hsr_parse` is called with what there is of data and statistics -/
def readHsrData (data xstats : Option Nlattr) (link : WireLink) : Except Halt WireLink :=
  match data with
  | some data => do
    let vi ← codeOf (hsrParse data)
    pure (link.setInfo vi)
  | none => if xstats.isSome then .error .wildRead else .ok link

/-- the data of another kind -/
def readOtherData (kind : CStr) (data xstats : Option Nlattr) : Except Halt Unit :=
  if data.isSome ∨ xstats.isSome then mods.ioParse kind data xstats else .ok ()

def readKind (li : AttrTable) (link : WireLink) : Except Halt WireLink :=
  match li IFLA_INFO_KIND.toNat with
  | none => .ok link
  | some nla => do
    let kind := cString nla.payload
    let link := { link with
      lInfoKind := some kind, lFamily := kindFamily link.lFamily kind
      ceMask := link.ceMask ||| LINK_ATTR_LINKINFO }
    if kind = cs "hsr" then
      readHsrData (li IFLA_INFO_DATA.toNat) (li IFLA_INFO_XSTATS) (link.setInfo FullHsrInfo.zero)
    else do
      readOtherData mods kind (li IFLA_INFO_DATA.toNat) (li IFLA_INFO_XSTATS)
      pure link

/-- the kind of a slave has no policy: its string need not end in it -/
def readSlaveKind (attr : Option Nlattr) (link : WireLink) : Except Halt WireLink :=
  match attr with
  | none => .ok link
  | some nla =>
    if 0 ∈ nla.payload then
      .ok (readInto (some nla) LINK_ATTR_LINKINFO_SLAVE_KIND (fun nla => cString nla.payload)
        (fun link v => { link with lInfoSlaveKind := v }) link)
    else .error .wildRead

/-- the nest `IFLA_LINKINFO` -/
def readLinkInfo (attr : Option Nlattr) (link : WireLink) : Except Halt WireLink :=
  match attr with
  | none => .ok link
  | some nla => do
    let li ← codeOf (nlaParse IFLA_INFO_MAX (some linkInfoPolicy) nla.payload)
    let link ← readKind mods li link
    readSlaveKind (li IFLA_INFO_SLAVE_KIND) link

/-- the policy of `IFLA_PROTINFO`, read as an attribute: the length of what is first in it is zero -/
def policyAttr : Nlattr := ⟨0, [0, 0, 0, 0]⟩

/-- the block of `IFLA_PROTINFO`, of a link whose header and which itself has a family.  Where the
kind has given the family, the attribute is replaced by the policy of the family, if it has one. -/
def readProtinfo (ifiFamily lFamily : UInt32) (protinfo : Option Nlattr) : Except Halt Unit :=
  match rtnlLinkAfOpsLookup lFamily.toNat with
  | none => .ok ()
  | some ops =>
    let protinfo := if lFamily ≠ ifiFamily ∧ ops.aoProtinfoPolicy then some policyAttr else protinfo
    match ops.aoParseProtinfo, protinfo with
    | some parse, some nla => parse nla
    | _, _ => .ok ()

/-- the attribute of a family in `IFLA_AF_SPEC` -/
def readAf (nla : Nlattr) : Except Halt Unit :=
  match (rtnlLinkAfOpsLookup nla.type).bind AfOps.aoParseAf with
  | some parse => parse nla
  | none => .ok ()

/-- the block of `IFLA_AF_SPEC`, of a link whose header has a family -/
def readAfSpec (ifiFamily : UInt32) (afSpec : Option Nlattr) : Except Halt Unit :=
  match afSpec with
  | none => .ok ()
  | some nla =>
    match (rtnlLinkAfOpsLookup ifiFamily.toNat).bind AfOps.aoParseAfFull with
    | some parse => parse nla
    | none => if ifiFamily = AF_UNSPEC then (nlattrs nla.payload).forM readAf else .ok ()

/-- the blocks of `link_msg_parser` after the nests -/
def readQueues (tb : AttrTable) (link : WireLink) : WireLink :=
  let link := readInto (tb IFLA_NUM_TX_QUEUES) LINK_ATTR_NUM_TX_QUEUES getU32
    (fun link v => { link with lNumTxQueues := v }) link
  let link := readInto (tb IFLA_NUM_RX_QUEUES) LINK_ATTR_NUM_RX_QUEUES getU32
    (fun link v => { link with lNumRxQueues := v }) link
  readInto (tb IFLA_GROUP) LINK_ATTR_GROUP getU32 (fun link v => { link with lGroup := v }) link

/-- the link that the parser starts with -/
def linkOfHeader (ifi : IfInfoMsg) : WireLink :=
  RtnlLink.full { rtnlLinkAlloc with
    ceMask := linkBase
    lFamily := ifi.ifiFamily, lArptype := ifi.ifiType, lIndex := ifi.ifiIndex
    lFlags := ifi.ifiFlags, lChange := ifi.ifiChange }

/-- the blocks of `link_msg_parser`, over the table of the attributes -/
def linkOfTable (ifi : IfInfoMsg) (tb : AttrTable) : Except Halt WireLink := do
  let link ← rtnlLinkInfoParse tb (linkOfHeader ifi)
  readVfs mods tb
  let link ← readLinkInfo mods (tb IFLA_LINKINFO.toNat) link
  readProtinfo ifi.ifiFamily link.lFamily (tb IFLA_PROTINFO)
  readAfSpec ifi.ifiFamily (tb IFLA_AF_SPEC.toNat)
  pure (readQueues tb link)

/-- the length of `struct ifinfomsg` -/
def IFI_HDRLEN : Nat := 16

/-- `link_msg_parser` of the payload of a message -/
def linkMsgParse (payload : List UInt8) : Except Halt WireLink :=
  if payload.length < IFI_HDRLEN then .error (.code (-NLE_MSG_TOOSHORT))
  else do
    let tb ← codeOf (nlaParse IFLA_MAX (some rtlnLinkPolicy) (payload.drop IFI_HDRLEN))
    linkOfTable mods (IfInfoMsg.decode payload) tb

end

/-! ## strings and headers -/

lemma cString_append {str : CStr} (h : 0 ∉ str) (rest : List UInt8) :
    cString (str ++ rest) = str ++ cString rest := by
  refine List.takeWhile_append_of_pos fun b hb => ?_
  have hne : b ≠ 0 := fun hzero => h (hzero ▸ hb)
  simpa using hne

lemma cString_putString {str : CStr} (h : 0 ∉ str) : cString (putString str) = str := by
  rw [putString, cString_append h]
  exact List.append_nil str

lemma cString_of_not_mem {str : CStr} (h : 0 ∉ str) : cString str = str := by
  have happend := cString_append h []
  rw [List.append_nil] at happend
  exact happend.trans (List.append_nil str)

lemma nlaStrlcpy_putString {str : CStr} {dstsize : Nat} (attrtype : UInt16) (h : 0 ∉ str)
    (hlen : str.length < dstsize) : nlaStrlcpy ⟨attrtype, putString str⟩ dstsize = str := by
  have htake : str.take (dstsize - 1) = str := List.take_of_length_le (by omega)
  rw [nlaStrlcpy, putString, if_pos List.getLast?_concat, List.dropLast_concat, htake,
    cString_of_not_mem h]

lemma IfInfoMsg.decode_encode {ifi : IfInfoMsg} (hfamily : ifi.ifiFamily.toNat < 2 ^ 8)
    (htype : ifi.ifiType.toNat < 2 ^ 16) (rest : List UInt8) :
    IfInfoMsg.decode (ifi.encode ++ rest) = ifi := by
  obtain ⟨family, type, index, flags, change⟩ := ifi
  have h1 : (UInt8.ofNat family.toNat).toNat = family.toNat := by
    rw [UInt8.toNat_ofNat']
    exact Nat.mod_eq_of_lt hfamily
  have h2 : (u16Of (u16Bytes type.toNat ++ (u32Bytes index ++ (u32Bytes flags ++
      (u32Bytes change ++ rest))))).toNat = type.toNat := u16At_bytes htype
  have h3 : u32Of (u32Bytes index ++ (u32Bytes flags ++ (u32Bytes change ++ rest))) = index :=
    u32Of_append _ _
  have h4 : u32Of (u32Bytes flags ++ (u32Bytes change ++ rest)) = flags := u32Of_append _ _
  have h5 : u32Of (u32Bytes change ++ rest) = change := u32Of_append _ _
  have hbytes : IfInfoMsg.encode ⟨family, type, index, flags, change⟩ ++ rest =
      UInt8.ofNat family.toNat :: 0 :: (u16Bytes type.toNat ++ (u32Bytes index ++
        (u32Bytes flags ++ (u32Bytes change ++ rest)))) := by
    simp [IfInfoMsg.encode]
  rw [hbytes, IfInfoMsg.decode]
  show IfInfoMsg.mk (UInt32.ofNat (UInt8.ofNat family.toNat).toNat)
    (UInt32.ofNat (u16Of (u16Bytes type.toNat ++ _)).toNat) (u32Of (u32Bytes index ++ _))
    (u32Of (u32Bytes flags ++ _)) (u32Of (u32Bytes change ++ rest)) = _
  rw [h1, h2, h3, h4, h5, UInt32.ofNat_toNat, UInt32.ofNat_toNat]

end Nl
