import ConfdbHsr.HsrAttrs
import ConfdbHsr.Libnl.LinkBuild

/-!
# Requests about links are read back

The parser of link messages is run on the requests that the builders make.

* `parsedLink`     what it makes of a request to add a link;
* `linkMsgParse_request`   that it does;
* `LinkRead`       the bits and the fields that a link and the parsed one share;
* `add_request_read`   the round trip.
-/

namespace Nl

variable {link : WireLink} {mods : LinkModules}

/-! ## the blocks of the parser -/

/-- the bit of an attribute that is there -/
def bitOf (present : Bool) (bit : Mask) : Mask := if present then bit else 0

lemma readInto_eq {β : Type} {attr : Option Nlattr} {present : Bool} {nla : Nlattr}
    (hattr : attr = if present then some nla else none) (bit : Mask) (read : Nlattr → β)
    (set : WireLink → β → WireLink) (get : WireLink → β)
    (hset : ∀ link, set link (get link) = link) (link : WireLink) :
    readInto attr bit read set link =
      let link' := set link (if present then read nla else get link)
      { link' with ceMask := link'.ceMask ||| bitOf present bit } := by
  subst hattr
  cases present with
  | false =>
    show link = { set link (get link) with
      ceMask := (set link (get link)).ceMask ||| 0#64 }
    rw [hset, BitVec.or_zero]
  | true => rfl

/-- the value of an attribute that is there, or what was there before -/
def valueOf {β : Type} (present : Bool) (value old : β) : β := if present then value else old

section
variable {tb : AttrTable} {link₀ : WireLink}

lemma readInto_field {β : Type} (htb : TableOf linkFields link IFLA_MAX tb) (attrtype : Nat)
    (bit : Mask) (data : WireLink → List UInt8) (hf : linkField attrtype bit data ∈ linkFields)
    (htype : (linkField attrtype bit data).type = attrtype) (read : Nlattr → β)
    (get : WireLink → β) (hread : read ((linkField attrtype bit data).attr link) = get link)
    (set : WireLink → β → WireLink) (hset : ∀ link, set link (get link) = link) :
    readInto (tb attrtype) bit read set link₀ =
      let link' := set link₀ (valueOf (link.has bit) (get link) (get link₀))
      { link' with ceMask := link'.ceMask ||| bitOf (link.has bit) bit } := by
  have hattr := htb.field _ hf (linkFields_max _ hf)
  rw [htype] at hattr
  rw [readInto_eq hattr bit read set get hset, hread]
  rfl

lemma readInto_u32 (htb : TableOf linkFields link IFLA_MAX tb) (attrtype : Nat) (bit : Mask)
    (get : WireLink → UInt32)
    (hf : linkField attrtype bit (fun link => u32Bytes (get link)) ∈ linkFields)
    (htype : (UInt16.ofNat attrtype &&& NLA_TYPE_MASK).toNat = attrtype)
    (set : WireLink → UInt32 → WireLink) (hset : ∀ link, set link (get link) = link) :
    readInto (tb attrtype) bit getU32 set link₀ =
      let link' := set link₀ (valueOf (link.has bit) (get link) (get link₀))
      { link' with ceMask := link'.ceMask ||| bitOf (link.has bit) bit } :=
  readInto_field htb attrtype bit _ hf htype getU32 get (u32Of_bytes _) set hset

lemma readQueues_eq (htb : TableOf linkFields link IFLA_MAX tb) : readQueues tb link₀ =
    { link₀ with
      lNumTxQueues := valueOf (link.has LINK_ATTR_NUM_TX_QUEUES) link.lNumTxQueues
        link₀.lNumTxQueues
      lNumRxQueues := valueOf (link.has LINK_ATTR_NUM_RX_QUEUES) link.lNumRxQueues
        link₀.lNumRxQueues
      lGroup := valueOf (link.has LINK_ATTR_GROUP) link.lGroup link₀.lGroup
      ceMask := link₀.ceMask ||| bitOf (link.has LINK_ATTR_NUM_TX_QUEUES) LINK_ATTR_NUM_TX_QUEUES
        ||| bitOf (link.has LINK_ATTR_NUM_RX_QUEUES) LINK_ATTR_NUM_RX_QUEUES
        ||| bitOf (link.has LINK_ATTR_GROUP) LINK_ATTR_GROUP } := by
  rw [readQueues, readInto_u32 htb IFLA_NUM_TX_QUEUES LINK_ATTR_NUM_TX_QUEUES
      (fun link => link.lNumTxQueues) (by simp [linkFields, fillInfoFields]) rfl _ fun _ => rfl,
    readInto_u32 htb IFLA_NUM_RX_QUEUES LINK_ATTR_NUM_RX_QUEUES
      (fun link => link.lNumRxQueues) (by simp [linkFields, fillInfoFields]) rfl _ fun _ => rfl,
    readInto_u32 htb IFLA_GROUP LINK_ATTR_GROUP
      (fun link => link.lGroup) (by simp [linkFields, groupField]) rfl _ fun _ => rfl]

lemma readHardware_eq (htb : TableOf linkFields link IFLA_MAX tb) (h : link.Sendable) :
    readHardware tb link₀ =
    { link₀ with
      lTxqlen := valueOf (link.has LINK_ATTR_TXQLEN) link.lTxqlen link₀.lTxqlen
      lMtu := valueOf (link.has LINK_ATTR_MTU) link.lMtu link₀.lMtu
      lAddr := valueOf (link.has LINK_ATTR_ADDR) link.lAddr link₀.lAddr
      lBcast := valueOf (link.has LINK_ATTR_BRD) link.lBcast link₀.lBcast
      lLink := valueOf (link.has LINK_ATTR_LINK) link.lLink link₀.lLink
      ceMask := link₀.ceMask ||| bitOf (link.has LINK_ATTR_TXQLEN) LINK_ATTR_TXQLEN
        ||| bitOf (link.has LINK_ATTR_MTU) LINK_ATTR_MTU
        ||| bitOf (link.has LINK_ATTR_ADDR) LINK_ATTR_ADDR
        ||| bitOf (link.has LINK_ATTR_BRD) LINK_ATTR_BRD
        ||| bitOf (link.has LINK_ATTR_LINK) LINK_ATTR_LINK } := by
  rw [readHardware, readInto_u32 htb IFLA_TXQLEN LINK_ATTR_TXQLEN
      (fun link => link.lTxqlen) (by simp [linkFields, fillInfoFields]) rfl _ fun _ => rfl,
    readInto_u32 htb IFLA_MTU LINK_ATTR_MTU
      (fun link => link.lMtu) (by simp [linkFields, fillInfoFields]) rfl _ fun _ => rfl,
    readInto_field htb IFLA_ADDRESS LINK_ATTR_ADDR (fun link => link.lAddr.aAddr)
      (by simp [linkFields, fillInfoFields]) rfl nlAddrOfAttr (fun link => link.lAddr) h.addr _
      fun _ => rfl,
    readInto_field htb IFLA_BROADCAST LINK_ATTR_BRD (fun link => link.lBcast.aAddr)
      (by simp [linkFields, fillInfoFields]) rfl nlAddrOfAttr (fun link => link.lBcast) h.bcast _
      fun _ => rfl,
    readInto_u32 htb IFLA_LINK LINK_ATTR_LINK
      (fun link => link.lLink) (by simp [linkFields, fillInfoFields]) rfl _ fun _ => rfl]

lemma readNetnsid_eq (htb : TableOf linkFields link IFLA_MAX tb) :
    readNetnsid (tb IFLA_LINK_NETNSID) link₀ = .ok
      { link₀ with
        lLinkNetnsid := valueOf (link.has LINK_ATTR_LINK_NETNSID) link.lLinkNetnsid
          link₀.lLinkNetnsid
        ceMask := link₀.ceMask |||
          bitOf (link.has LINK_ATTR_LINK_NETNSID) LINK_ATTR_LINK_NETNSID } := by
  have hattr : tb IFLA_LINK_NETNSID = if link.has LINK_ATTR_LINK_NETNSID then
      some ⟨37, u32Bytes link.lLinkNetnsid⟩ else none :=
    htb.field (linkField IFLA_LINK_NETNSID LINK_ATTR_LINK_NETNSID
      fun link => u32Bytes link.lLinkNetnsid) (by simp [linkFields, fillInfoFields]) (by decide)
  have hread := @readInto_u32 link tb link₀ htb IFLA_LINK_NETNSID LINK_ATTR_LINK_NETNSID
    (fun link => link.lLinkNetnsid) (by simp [linkFields, fillInfoFields]) rfl
    (fun link v => { link with lLinkNetnsid := v }) fun _ => rfl
  rw [hattr] at hread ⊢
  cases hpresent : link.has LINK_ATTR_LINK_NETNSID with
  | false =>
    rw [hpresent] at hread
    exact congrArg Except.ok hread
  | true =>
    rw [hpresent] at hread
    exact congrArg Except.ok hread

lemma readState_eq (htb : TableOf linkFields link IFLA_MAX tb) (h : link.Sendable) :
    readState tb link₀ =
    { link₀ with
      lWeight := valueOf (link.has LINK_ATTR_WEIGHT) link.lWeight link₀.lWeight
      lMaster := valueOf (link.has LINK_ATTR_MASTER) link.lMaster link₀.lMaster
      lCarrier := valueOf (link.has LINK_ATTR_CARRIER) link.lCarrier link₀.lCarrier
      lOperstate := valueOf (link.has LINK_ATTR_OPERSTATE) link.lOperstate link₀.lOperstate
      lLinkmode := valueOf (link.has LINK_ATTR_LINKMODE) link.lLinkmode link₀.lLinkmode
      lIfalias := valueOf (link.has LINK_ATTR_IFALIAS) link.lIfalias link₀.lIfalias
      lNsFd := valueOf (link.has LINK_ATTR_NS_FD) link.lNsFd link₀.lNsFd
      lNsPid := valueOf (link.has LINK_ATTR_NS_PID) link.lNsPid link₀.lNsPid
      ceMask := link₀.ceMask ||| bitOf (link.has LINK_ATTR_WEIGHT) LINK_ATTR_WEIGHT
        ||| bitOf (link.has LINK_ATTR_MASTER) LINK_ATTR_MASTER
        ||| bitOf (link.has LINK_ATTR_CARRIER) LINK_ATTR_CARRIER
        ||| bitOf (link.has LINK_ATTR_OPERSTATE) LINK_ATTR_OPERSTATE
        ||| bitOf (link.has LINK_ATTR_LINKMODE) LINK_ATTR_LINKMODE
        ||| bitOf (link.has LINK_ATTR_IFALIAS) LINK_ATTR_IFALIAS
        ||| bitOf (link.has LINK_ATTR_NS_FD) LINK_ATTR_NS_FD
        ||| bitOf (link.has LINK_ATTR_NS_PID) LINK_ATTR_NS_PID } := by
  rw [readState, readInto_u32 htb IFLA_WEIGHT LINK_ATTR_WEIGHT
      (fun link => link.lWeight) (by simp [linkFields, fillInfoFields]) rfl _ fun _ => rfl,
    readInto_u32 htb IFLA_MASTER LINK_ATTR_MASTER
      (fun link => link.lMaster) (by simp [linkFields, fillInfoFields]) rfl _ fun _ => rfl,
    readInto_field htb IFLA_CARRIER LINK_ATTR_CARRIER (fun link => [link.lCarrier])
      (by simp [linkFields, fillInfoFields]) rfl getU8 (fun link => link.lCarrier) rfl _
      fun _ => rfl,
    readInto_field htb IFLA_OPERSTATE LINK_ATTR_OPERSTATE (fun link => [link.lOperstate])
      (by simp [linkFields, fillInfoFields]) rfl getU8 (fun link => link.lOperstate) rfl _
      fun _ => rfl,
    readInto_field htb IFLA_LINKMODE LINK_ATTR_LINKMODE (fun link => [link.lLinkmode])
      (by simp [linkFields, fillInfoFields]) rfl getU8 (fun link => link.lLinkmode) rfl _
      fun _ => rfl,
    readInto_field htb IFLA_IFALIAS LINK_ATTR_IFALIAS (fun link => putString link.lIfalias)
      (by simp [linkFields, fillInfoFields]) rfl (fun nla => cString nla.payload)
      (fun link => link.lIfalias) (cString_putString h.ifalias.1) _ fun _ => rfl,
    readInto_u32 htb IFLA_NET_NS_FD LINK_ATTR_NS_FD
      (fun link => link.lNsFd) (by simp [linkFields, fillInfoFields]) rfl _ fun _ => rfl,
    readInto_u32 htb IFLA_NET_NS_PID LINK_ATTR_NS_PID
      (fun link => link.lNsPid) (by simp [linkFields, fillInfoFields]) rfl _ fun _ => rfl]

end

/-! ## the nest of the kind is read -/

/-- the family of a link after its kind is read -/
def familyOf (family : UInt32) (kind : Option CStr) : UInt32 :=
  kind.elim family (kindFamily family)

/-- a request for an HSR link also has the data of its kind -/
def WireLink.hasHsrInfo (link : WireLink) : Bool := link.has LINK_ATTR_LINKINFO && link.isHsr

section
variable {tb li : AttrTable} {link₀ : WireLink}

lemma linkInfoField_kind (hli : TableOf linkInfoFields link IFLA_INFO_MAX li) :
    li IFLA_INFO_KIND.toNat =
      if link.has LINK_ATTR_LINKINFO then some (kindField.attr link) else none :=
  hli.field kindField (by simp [linkInfoFields, kindFields]) (by decide)

lemma linkInfoField_data (hli : TableOf linkInfoFields link IFLA_INFO_MAX li) :
    li IFLA_INFO_DATA.toNat =
      if infoDataField.present link then some (infoDataField.attr link) else none :=
  hli.field infoDataField (by simp [linkInfoFields, kindFields]) (by decide)

lemma linkInfoField_slaveKind (hli : TableOf linkInfoFields link IFLA_INFO_MAX li) :
    li IFLA_INFO_SLAVE_KIND =
      if link.has LINK_ATTR_LINKINFO_SLAVE_KIND then some (slaveKindField.attr link) else none :=
  hli.field slaveKindField (by simp [linkInfoFields]) (by decide)

/-- the data of the kind are read back; without attributes there is no nest, and the fresh info
stays -/
lemma readHsrData_eq (hli : TableOf linkInfoFields link IFLA_INFO_MAX li)
    (hhsr : link.hasHsrInfo = true) :
    readHsrData (li IFLA_INFO_DATA.toNat) (li IFLA_INFO_XSTATS)
      (link₀.setInfo FullHsrInfo.zero) = .ok (link₀.setInfo (parsedInfo link.info)) := by
  have hparse := hsrParse_nest link.info (NLA_F_NESTED ||| IFLA_INFO_DATA)
  have hpresent : infoDataField.present link =
      (link.hasHsrInfo && !(hsrAttrs link.info).isEmpty) := rfl
  rw [linkInfoField_data hli, hpresent, hhsr]
  by_cases hattrs : hsrAttrs link.info = []
  · have habsent : li IFLA_INFO_XSTATS = none := hli.absent _ (by decide) (by decide)
    have hzero : parsedInfo link.info = FullHsrInfo.zero := by
      rw [hattrs] at hparse
      exact (Except.ok.inj hparse).symm
    rw [hattrs, habsent, hzero]
    rfl
  · rw [List.isEmpty_eq_false_iff.mpr hattrs, readHsrData.eq_def]
    show (codeOf (hsrParse ⟨NLA_F_NESTED ||| IFLA_INFO_DATA, encodeAttrs (hsrAttrs link.info)⟩) >>=
      _) = _
    rw [hparse]
    rfl

lemma readOtherData_eq (hli : TableOf linkInfoFields link IFLA_INFO_MAX li)
    (hother : link.hasHsrInfo = false) (kind : CStr) :
    readOtherData mods kind (li IFLA_INFO_DATA.toNat) (li IFLA_INFO_XSTATS) = .ok () := by
  have hpresent : infoDataField.present link =
      (link.hasHsrInfo && !(hsrAttrs link.info).isEmpty) := rfl
  have hdata : li IFLA_INFO_DATA.toNat = none := by
    rw [linkInfoField_data hli, hpresent, hother]
    rfl
  have habsent : li IFLA_INFO_XSTATS = none := hli.absent _ (by decide) (by decide)
  rw [hdata, habsent]
  rfl

lemma readKind_eq (hli : TableOf linkInfoFields link IFLA_INFO_MAX li) (h : link.Sendable) :
    readKind mods li link₀ = .ok (WireLink.setInfo { link₀ with
      lInfoKind := valueOf (link.has LINK_ATTR_LINKINFO) link.lInfoKind link₀.lInfoKind
      lFamily := valueOf (link.has LINK_ATTR_LINKINFO) (familyOf link₀.lFamily link.lInfoKind)
        link₀.lFamily
      ceMask := link₀.ceMask ||| bitOf (link.has LINK_ATTR_LINKINFO) LINK_ATTR_LINKINFO }
      (valueOf link.hasHsrInfo (parsedInfo link.info) link₀.info)) := by
  rw [readKind, linkInfoField_kind hli]
  by_cases hinfo : link.has LINK_ATTR_LINKINFO = true
  · obtain ⟨kind, hkind, hnul⟩ := h.kind hinfo
    have hstring : cString (kindField.attr link).payload = kind := by
      show cString (putString (link.lInfoKind.getD [])) = kind
      rw [hkind]
      exact cString_putString hnul
    rw [if_pos hinfo, hkind]
    dsimp only
    rw [hstring, hinfo, familyOf]
    by_cases hhsr : kind = cs "hsr"
    · have hdata : link.hasHsrInfo = true := by
        rw [WireLink.hasHsrInfo, hinfo, Bool.true_and, RtnlLink.isHsr, hkind, hhsr]
        rfl
      rw [if_pos hhsr, readHsrData_eq hli hdata, hdata]
      rfl
    · have hdata : link.hasHsrInfo = false := by
        rw [WireLink.hasHsrInfo, RtnlLink.isHsr, hkind, Bool.and_eq_false_iff, beq_eq_false_iff_ne]
        exact .inr fun h => hhsr (Option.some_inj.mp h)
      rw [if_neg hhsr, readOtherData_eq hli hdata, hdata]
      rfl
  · rw [if_neg hinfo]
    rw [Bool.not_eq_true] at hinfo
    rw [WireLink.hasHsrInfo, hinfo]
    show Except.ok link₀ = .ok { link₀ with ceMask := link₀.ceMask ||| 0#64 }
    rw [BitVec.or_zero]

lemma readSlaveKind_eq (hli : TableOf linkInfoFields link IFLA_INFO_MAX li) (h : link.Sendable) :
    readSlaveKind (li IFLA_INFO_SLAVE_KIND) link₀ = .ok { link₀ with
      lInfoSlaveKind := valueOf (link.has LINK_ATTR_LINKINFO_SLAVE_KIND) link.lInfoSlaveKind
        link₀.lInfoSlaveKind
      ceMask := link₀.ceMask |||
        bitOf (link.has LINK_ATTR_LINKINFO_SLAVE_KIND) LINK_ATTR_LINKINFO_SLAVE_KIND } := by
  rw [linkInfoField_slaveKind hli]
  by_cases hslave : link.has LINK_ATTR_LINKINFO_SLAVE_KIND = true
  · have hmem : 0 ∈ (slaveKindField.attr link).payload := List.mem_append_right _ (by simp)
    have hstring : cString (slaveKindField.attr link).payload = link.lInfoSlaveKind :=
      cString_putString h.slaveKind
    rw [if_pos hslave, readSlaveKind, if_pos hmem, readInto, hstring, hslave]
    rfl
  · rw [if_neg hslave]
    rw [Bool.not_eq_true] at hslave
    rw [hslave]
    show Except.ok link₀ = .ok { link₀ with ceMask := link₀.ceMask ||| 0#64 }
    rw [BitVec.or_zero]

lemma linkInfoField_table (htb : TableOf linkFields link IFLA_MAX tb) :
    tb IFLA_LINKINFO.toNat =
      if linkInfoField.present link then some (linkInfoField.attr link) else none :=
  htb.field linkInfoField (by simp [linkFields]) (by decide)

lemma readLinkInfo_eq (htb : TableOf linkFields link IFLA_MAX tb) (h : link.Sendable)
    (hsize : requestRoom link ≤ 2 ^ 16) :
    readLinkInfo mods (tb IFLA_LINKINFO.toNat) link₀ = .ok (WireLink.setInfo { link₀ with
      lInfoKind := valueOf (link.has LINK_ATTR_LINKINFO) link.lInfoKind link₀.lInfoKind
      lFamily := valueOf (link.has LINK_ATTR_LINKINFO) (familyOf link₀.lFamily link.lInfoKind)
        link₀.lFamily
      lInfoSlaveKind := valueOf (link.has LINK_ATTR_LINKINFO_SLAVE_KIND) link.lInfoSlaveKind
        link₀.lInfoSlaveKind
      ceMask := link₀.ceMask ||| bitOf (link.has LINK_ATTR_LINKINFO) LINK_ATTR_LINKINFO
        ||| bitOf (link.has LINK_ATTR_LINKINFO_SLAVE_KIND) LINK_ATTR_LINKINFO_SLAVE_KIND }
      (valueOf link.hasHsrInfo (parsedInfo link.info) link₀.info)) := by
  rw [linkInfoField_table htb]
  by_cases hpresent : linkInfoField.present link = true
  · have hmem : linkInfoField.attr link ∈ fieldAttrs linkFields link :=
      mem_fieldAttrs.mpr ⟨linkInfoField, by simp [linkFields], hpresent, rfl⟩
    have hlen : (encodeAttrs (fieldAttrs linkFields link)).length < 2 ^ 16 := by
      rw [requestRoom] at hsize
      omega
    have hfits : 4 + (encodeAttrs (fieldAttrs linkInfoFields link)).length < 2 ^ 16 :=
      fits_of_length hlen hmem
    obtain ⟨li, hparse, hli⟩ := @nlaParse_linkInfo link (by omega)
    rw [if_pos hpresent]
    show (codeOf (nlaParse IFLA_INFO_MAX (some linkInfoPolicy)
      (encodeAttrs (fieldAttrs linkInfoFields link))) >>= _) = _
    rw [hparse]
    show (readKind mods li link₀ >>= readSlaveKind (li IFLA_INFO_SLAVE_KIND)) = _
    rw [readKind_eq hli h]
    exact readSlaveKind_eq hli h
  · rw [if_neg hpresent]
    rw [Bool.not_eq_true] at hpresent
    have hnone : (link.has LINK_ATTR_LINKINFO || link.has LINK_ATTR_LINKINFO_SLAVE_KIND) = false :=
      (has_or link _ _).symm.trans hpresent
    obtain ⟨hinfo, hslave⟩ := Bool.or_eq_false_iff.mp hnone
    rw [WireLink.hasHsrInfo, hinfo, hslave]
    show Except.ok link₀ = .ok { link₀ with ceMask := link₀.ceMask ||| 0#64 ||| 0#64 }
    rw [BitVec.or_zero, BitVec.or_zero]

lemma readVfs_eq (htb : TableOf linkFields link IFLA_MAX tb) : readVfs mods tb = .ok () := by
  have habsent : tb IFLA_NUM_VF = none := htb.absent _ (by decide) (by decide)
  rw [readVfs, habsent]

/-- without the attribute there is at most the policy of `AF_INET6` in its place -/
lemma readProtinfo_none (ifiFamily lFamily : UInt32) :
    readProtinfo ifiFamily lFamily none = .ok () := by
  rw [readProtinfo]
  cases hops : rtnlLinkAfOpsLookup lFamily.toNat with
  | none => rfl
  | some ops =>
    rcases lookup_cases hops with rfl | rfl | rfl
    · rfl
    · dsimp only [inet6Ops]
      by_cases hfamily : lFamily ≠ ifiFamily
      · rw [if_pos ⟨hfamily, rfl⟩]
        rfl
      · rw [if_neg fun h => hfamily h.1]
    · dsimp only [bridgeOps]
      rw [if_neg (by rintro ⟨-, ⟨⟩⟩)]

lemma readAfs_eq (htb : TableOf linkFields link IFLA_MAX tb) (ifiFamily lFamily : UInt32) :
    readProtinfo ifiFamily lFamily (tb IFLA_PROTINFO) = .ok () ∧
      readAfSpec ifiFamily (tb IFLA_AF_SPEC.toNat) = .ok () := by
  have hprotinfo : tb IFLA_PROTINFO = none := htb.absent _ (by decide) (by decide)
  have hafSpec : tb IFLA_AF_SPEC.toNat = none := htb.absent _ (by decide) (by decide)
  rw [hprotinfo, hafSpec]
  exact ⟨readProtinfo_none _ _, rfl⟩

/-- the bits of the fields that a request carries -/
def carriedBits : Mask :=
  LINK_ATTR_TXQLEN ||| LINK_ATTR_MTU ||| LINK_ATTR_ADDR ||| LINK_ATTR_BRD ||| LINK_ATTR_LINK |||
    LINK_ATTR_LINK_NETNSID ||| LINK_ATTR_WEIGHT ||| LINK_ATTR_MASTER ||| LINK_ATTR_CARRIER |||
    LINK_ATTR_OPERSTATE ||| LINK_ATTR_LINKMODE ||| LINK_ATTR_IFALIAS ||| LINK_ATTR_NS_FD |||
    LINK_ATTR_NS_PID ||| LINK_ATTR_LINKINFO ||| LINK_ATTR_LINKINFO_SLAVE_KIND |||
    LINK_ATTR_NUM_TX_QUEUES ||| LINK_ATTR_NUM_RX_QUEUES ||| LINK_ATTR_GROUP

/-- what the parser makes of a request with a name -/
def parsedLink (hdr : IfInfoMsg) (link : WireLink) : WireLink :=
  WireLink.setInfo { linkOfHeader hdr with
    ceMask := linkBase ||| link.ceMask &&& carriedBits
    lName := link.lName
    lFamily := valueOf (link.has LINK_ATTR_LINKINFO) (familyOf hdr.ifiFamily link.lInfoKind)
      hdr.ifiFamily
    lMtu := valueOf (link.has LINK_ATTR_MTU) link.lMtu 0
    lLink := valueOf (link.has LINK_ATTR_LINK) link.lLink 0
    lMaster := valueOf (link.has LINK_ATTR_MASTER) link.lMaster 0
    lInfoKind := valueOf (link.has LINK_ATTR_LINKINFO) link.lInfoKind none
    lAddr := valueOf (link.has LINK_ATTR_ADDR) link.lAddr ⟨0, [], 0⟩
    lBcast := valueOf (link.has LINK_ATTR_BRD) link.lBcast ⟨0, [], 0⟩
    lTxqlen := valueOf (link.has LINK_ATTR_TXQLEN) link.lTxqlen 0
    lWeight := valueOf (link.has LINK_ATTR_WEIGHT) link.lWeight 0
    lOperstate := valueOf (link.has LINK_ATTR_OPERSTATE) link.lOperstate 0
    lCarrier := valueOf (link.has LINK_ATTR_CARRIER) link.lCarrier 0
    lLinkmode := valueOf (link.has LINK_ATTR_LINKMODE) link.lLinkmode 0
    lIfalias := valueOf (link.has LINK_ATTR_IFALIAS) link.lIfalias []
    lLinkNetnsid := valueOf (link.has LINK_ATTR_LINK_NETNSID) link.lLinkNetnsid 0
    lNumTxQueues := valueOf (link.has LINK_ATTR_NUM_TX_QUEUES) link.lNumTxQueues 0
    lNumRxQueues := valueOf (link.has LINK_ATTR_NUM_RX_QUEUES) link.lNumRxQueues 0
    lNsFd := valueOf (link.has LINK_ATTR_NS_FD) link.lNsFd 0
    lNsPid := valueOf (link.has LINK_ATTR_NS_PID) link.lNsPid 0
    lGroup := valueOf (link.has LINK_ATTR_GROUP) link.lGroup 0
    lInfoSlaveKind := valueOf (link.has LINK_ATTR_LINKINFO_SLAVE_KIND) link.lInfoSlaveKind [] }
    (valueOf link.hasHsrInfo (parsedInfo link.info) FullHsrInfo.zero)

lemma bitOf_has (bit : Mask) (n : Nat) (hn : n < 64) (hbit : bit = BitVec.twoPow 64 n) :
    bitOf (link.has bit) bit = link.ceMask &&& bit := by
  subst hbit
  rw [WireLink.has, bitOf, BitVec.and_twoPow]
  cases link.ceMask.getLsbD n with
  | false => rfl
  | true =>
    have hne : (BitVec.twoPow 64 n != 0#64) = true := by
      have hbit : (BitVec.twoPow 64 n).getLsbD n = true := by simp [hn]
      rw [bne_iff_ne]
      intro hzero
      rw [hzero] at hbit
      simp at hbit
    exact if_pos hne

lemma bits_read (link : WireLink) : linkBase
    ||| bitOf (link.has LINK_ATTR_TXQLEN) LINK_ATTR_TXQLEN
    ||| bitOf (link.has LINK_ATTR_MTU) LINK_ATTR_MTU
    ||| bitOf (link.has LINK_ATTR_ADDR) LINK_ATTR_ADDR
    ||| bitOf (link.has LINK_ATTR_BRD) LINK_ATTR_BRD
    ||| bitOf (link.has LINK_ATTR_LINK) LINK_ATTR_LINK
    ||| bitOf (link.has LINK_ATTR_LINK_NETNSID) LINK_ATTR_LINK_NETNSID
    ||| bitOf (link.has LINK_ATTR_WEIGHT) LINK_ATTR_WEIGHT
    ||| bitOf (link.has LINK_ATTR_MASTER) LINK_ATTR_MASTER
    ||| bitOf (link.has LINK_ATTR_CARRIER) LINK_ATTR_CARRIER
    ||| bitOf (link.has LINK_ATTR_OPERSTATE) LINK_ATTR_OPERSTATE
    ||| bitOf (link.has LINK_ATTR_LINKMODE) LINK_ATTR_LINKMODE
    ||| bitOf (link.has LINK_ATTR_IFALIAS) LINK_ATTR_IFALIAS
    ||| bitOf (link.has LINK_ATTR_NS_FD) LINK_ATTR_NS_FD
    ||| bitOf (link.has LINK_ATTR_NS_PID) LINK_ATTR_NS_PID
    ||| bitOf (link.has LINK_ATTR_LINKINFO) LINK_ATTR_LINKINFO
    ||| bitOf (link.has LINK_ATTR_LINKINFO_SLAVE_KIND) LINK_ATTR_LINKINFO_SLAVE_KIND
    ||| bitOf (link.has LINK_ATTR_NUM_TX_QUEUES) LINK_ATTR_NUM_TX_QUEUES
    ||| bitOf (link.has LINK_ATTR_NUM_RX_QUEUES) LINK_ATTR_NUM_RX_QUEUES
    ||| bitOf (link.has LINK_ATTR_GROUP) LINK_ATTR_GROUP =
      linkBase ||| link.ceMask &&& carriedBits := by
  simp only [carriedBits, BitVec.and_or_distrib_left, BitVec.or_assoc,
    bitOf_has LINK_ATTR_TXQLEN 2 (by decide) rfl, bitOf_has LINK_ATTR_MTU 0 (by decide) rfl,
    bitOf_has LINK_ATTR_ADDR 7 (by decide) rfl, bitOf_has LINK_ATTR_BRD 8 (by decide) rfl,
    bitOf_has LINK_ATTR_LINK 1 (by decide) rfl,
    bitOf_has LINK_ATTR_LINK_NETNSID 32 (by decide) rfl,
    bitOf_has LINK_ATTR_WEIGHT 3 (by decide) rfl, bitOf_has LINK_ATTR_MASTER 4 (by decide) rfl,
    bitOf_has LINK_ATTR_CARRIER 25 (by decide) rfl,
    bitOf_has LINK_ATTR_OPERSTATE 16 (by decide) rfl,
    bitOf_has LINK_ATTR_LINKMODE 17 (by decide) rfl,
    bitOf_has LINK_ATTR_IFALIAS 19 (by decide) rfl, bitOf_has LINK_ATTR_NS_FD 29 (by decide) rfl,
    bitOf_has LINK_ATTR_NS_PID 30 (by decide) rfl,
    bitOf_has LINK_ATTR_LINKINFO 18 (by decide) rfl,
    bitOf_has LINK_ATTR_LINKINFO_SLAVE_KIND 39 (by decide) rfl,
    bitOf_has LINK_ATTR_NUM_TX_QUEUES 22 (by decide) rfl,
    bitOf_has LINK_ATTR_NUM_RX_QUEUES 23 (by decide) rfl,
    bitOf_has LINK_ATTR_GROUP 24 (by decide) rfl]

lemma linkOfTable_eq {hdr : IfInfoMsg} (htb : TableOf linkFields link IFLA_MAX tb)
    (h : link.Sendable) (hsize : requestRoom link ≤ 2 ^ 16)
    (hname : link.has LINK_ATTR_IFNAME = true) :
    linkOfTable mods hdr tb = .ok (parsedLink hdr link) := by
  have hifname : tb IFLA_IFNAME = some ⟨3, putString link.lName⟩ := by
    have hfield := htb.field (linkField IFLA_IFNAME LINK_ATTR_IFNAME
      fun link => putString link.lName) (by simp [linkFields, fillInfoFields]) (by decide)
    exact hfield.trans (if_pos hname)
  rw [linkOfTable, rtnlLinkInfoParse, hifname]
  dsimp only [linkOfHeader, RtnlLink.full, rtnlLinkAlloc]
  rw [nlaStrlcpy_putString 3 h.name.1 h.name.2, readHardware_eq htb h]
  dsimp only
  rw [readNetnsid_eq htb]
  dsimp only
  show (Except.ok (readState tb _) >>= _) = _
  rw [readState_eq htb h]
  dsimp only
  show (readVfs mods tb >>= _) = _
  rw [readVfs_eq htb]
  show (readLinkInfo mods (tb IFLA_LINKINFO.toNat) _ >>= _) = _
  rw [readLinkInfo_eq htb h hsize]
  dsimp only [WireLink.setInfo, WireLink.info]
  show (readProtinfo _ _ _ >>= _) = _
  rw [(readAfs_eq htb _ _).1]
  show (readAfSpec _ _ >>= _) = _
  rw [(readAfs_eq htb _ 0).2]
  show Except.ok (readQueues tb _) = _
  rw [readQueues_eq htb]
  dsimp only
  rw [bits_read, parsedLink]
  rfl

end

/-! ## the round trip -/

theorem linkMsgParse_request {hdr : IfInfoMsg} (h : link.Sendable)
    (hsize : requestRoom link ≤ 2 ^ 16) (hfamily : hdr.ifiFamily.toNat < 2 ^ 8)
    (htype : hdr.ifiType.toNat < 2 ^ 16) :
    linkMsgParse mods ((requestHeader hdr ++ encodeAttrs (fieldAttrs linkFields link)).drop
      NLMSG_HDRLEN) =
        if link.has LINK_ATTR_IFNAME then .ok (parsedLink hdr link)
        else .error (.code (-NLE_MISSING_ATTR)) := by
  obtain ⟨tb, hparse, htb⟩ := nlaParse_request h hsize
  have hlen : hdr.encode.length = IFI_HDRLEN := by
    simp [IfInfoMsg.encode, u16Bytes, u32Bytes, IFI_HDRLEN]
  have hpayload : (requestHeader hdr ++ encodeAttrs (fieldAttrs linkFields link)).drop
      NLMSG_HDRLEN = hdr.encode ++ encodeAttrs (fieldAttrs linkFields link) := by
    rw [requestHeader, List.append_assoc]
    exact List.drop_left' List.length_replicate
  rw [hpayload, linkMsgParse, if_neg (by rw [List.length_append, hlen]; omega),
    List.drop_left' hlen, hparse, IfInfoMsg.decode_encode hfamily htype]
  show linkOfTable mods hdr tb = _
  by_cases hname : link.has LINK_ATTR_IFNAME = true
  · rw [if_pos hname, linkOfTable_eq htb h hsize hname]
  · have hifname : tb IFLA_IFNAME = none := by
      have hfield := htb.field (linkField IFLA_IFNAME LINK_ATTR_IFNAME
        fun link => putString link.lName) (by simp [linkFields, fillInfoFields]) (by decide)
      exact hfield.trans (if_neg hname)
    rw [if_neg hname, linkOfTable, rtnlLinkInfoParse, hifname]
    rfl

/-- the header of a request that adds a link -/
def addHeader (link : WireLink) : IfInfoMsg :=
  ⟨link.lFamily, 0, link.lIndex, link.lFlags, link.lFlagMask⟩

/-- a link and what a parser reads of the request to add it: the bits of the fields that a request
carries and of those that a header has, and the same value in each field that it carries -/
structure LinkRead (link link' : WireLink) : Prop where
  mask : link'.ceMask = linkBase ||| link.ceMask &&& carriedBits
  name : link'.lName = link.lName
  index : link'.lIndex = link.lIndex
  /-- a request has no ARP type -/
  arptype : link'.lArptype = 0
  flags : link'.lFlags = link.lFlags ∧ link'.lChange = link.lFlagMask
  family : link'.lFamily = if link.has LINK_ATTR_LINKINFO = true then
    familyOf link.lFamily link.lInfoKind else link.lFamily
  mtu : link.has LINK_ATTR_MTU = true → link'.lMtu = link.lMtu
  txqlen : link.has LINK_ATTR_TXQLEN = true → link'.lTxqlen = link.lTxqlen
  addr : link.has LINK_ATTR_ADDR = true → link'.lAddr = link.lAddr
  bcast : link.has LINK_ATTR_BRD = true → link'.lBcast = link.lBcast
  lower : link.has LINK_ATTR_LINK = true → link'.lLink = link.lLink
  netnsid : link.has LINK_ATTR_LINK_NETNSID = true → link'.lLinkNetnsid = link.lLinkNetnsid
  weight : link.has LINK_ATTR_WEIGHT = true → link'.lWeight = link.lWeight
  master : link.has LINK_ATTR_MASTER = true → link'.lMaster = link.lMaster
  carrier : link.has LINK_ATTR_CARRIER = true → link'.lCarrier = link.lCarrier
  operstate : link.has LINK_ATTR_OPERSTATE = true → link'.lOperstate = link.lOperstate
  linkmode : link.has LINK_ATTR_LINKMODE = true → link'.lLinkmode = link.lLinkmode
  ifalias : link.has LINK_ATTR_IFALIAS = true → link'.lIfalias = link.lIfalias
  ns : (link.has LINK_ATTR_NS_FD = true → link'.lNsFd = link.lNsFd) ∧
    (link.has LINK_ATTR_NS_PID = true → link'.lNsPid = link.lNsPid)
  queues : (link.has LINK_ATTR_NUM_TX_QUEUES = true → link'.lNumTxQueues = link.lNumTxQueues) ∧
    (link.has LINK_ATTR_NUM_RX_QUEUES = true → link'.lNumRxQueues = link.lNumRxQueues)
  group : link.has LINK_ATTR_GROUP = true → link'.lGroup = link.lGroup
  kind : link.has LINK_ATTR_LINKINFO = true → link'.lInfoKind = link.lInfoKind
  slaveKind : link.has LINK_ATTR_LINKINFO_SLAVE_KIND = true →
    link'.lInfoSlaveKind = link.lInfoSlaveKind
  /-- of an HSR link: everything but the sequence number -/
  info : link.has LINK_ATTR_LINKINFO = true → link.isHsr = true → link'.info = parsedInfo link.info

lemma linkRead_parsed (link : WireLink) : LinkRead link (parsedLink (addHeader link) link) where
  mask := rfl
  name := rfl
  index := rfl
  arptype := rfl
  flags := ⟨rfl, rfl⟩
  family := rfl
  mtu h := if_pos h
  txqlen h := if_pos h
  addr h := if_pos h
  bcast h := if_pos h
  lower h := if_pos h
  netnsid h := if_pos h
  weight h := if_pos h
  master h := if_pos h
  carrier h := if_pos h
  operstate h := if_pos h
  linkmode h := if_pos h
  ifalias h := if_pos h
  ns := ⟨fun h => if_pos h, fun h => if_pos h⟩
  queues := ⟨fun h => if_pos h, fun h => if_pos h⟩
  group h := if_pos h
  kind h := if_pos h
  slaveKind h := if_pos h
  info hinfo hhsr := by
    have hdata : link.hasHsrInfo = true := by
      rw [WireLink.hasHsrInfo, hinfo, hhsr]
      rfl
    exact if_pos hdata

/-- **A request to add a link is built and read back.**  If no other module adds anything to it and
the message has room for it, the parser of links reads each field that it carries, unless it has no
name: then the parser refuses it. -/
theorem add_request_read (mods : LinkModules) {nmSize : Nat} (h : link.Sendable)
    (hsize : nmSize ≤ 2 ^ 16) (hroom : requestRoom link ≤ nmSize) :
    ∃ msg, rtnlLinkBuildAddRequest .none nmSize link = .ok msg ∧
      if link.has LINK_ATTR_IFNAME then
        ∃ link', linkMsgParse mods (msg.buf.drop NLMSG_HDRLEN) = .ok link' ∧ LinkRead link link'
      else linkMsgParse mods (msg.buf.drop NLMSG_HDRLEN) = .error (.code (-NLE_MISSING_ATTR)) := by
  refine ⟨_, buildLinkRequest_ok hsize hroom, ?_⟩
  have hparse := @linkMsgParse_request link mods (addHeader link) h (Nat.le_trans hroom hsize)
    h.family (by show (0 : UInt32).toNat < 2 ^ 16; decide)
  split
  · rename_i hname
    rw [if_pos hname] at hparse
    exact ⟨_, hparse, linkRead_parsed link⟩
  · rename_i hname
    rw [if_neg hname] at hparse
    exact hparse

/-- modules that refuse nothing -/
def LinkModules.accepting : LinkModules := ⟨fun _ => .ok (), fun _ _ _ => .ok ()⟩

/-- a bridge that is asked for with its address and its MTU -/
def bridgeRequest : WireLink :=
  { RtnlLink.full { rtnlLinkAlloc with
      ceMask := LINK_ATTR_IFNAME ||| LINK_ATTR_MTU ||| LINK_ATTR_ADDR ||| LINK_ATTR_LINKINFO
      lName := cs "br0", lMtu := 1500, lInfoKind := some (cs "bridge") } with
    lAddr := nlAddrOfAttr ⟨1, [2, 0, 0, 0, 0, 7]⟩ }

theorem add_request_read_bridge :
    ∃ msg, rtnlLinkBuildAddRequest .none 4096 bridgeRequest = .ok msg ∧
      if bridgeRequest.has LINK_ATTR_IFNAME then
        ∃ link', linkMsgParse .accepting (msg.buf.drop NLMSG_HDRLEN) = .ok link' ∧
          LinkRead bridgeRequest link'
      else linkMsgParse .accepting (msg.buf.drop NLMSG_HDRLEN) =
        .error (.code (-NLE_MISSING_ATTR)) :=
  add_request_read .accepting
    { family := by decide
      name := by decide
      ifalias := by decide
      kind := fun _ => ⟨cs "bridge", rfl, by decide⟩
      slaveKind := by decide
      addr := rfl
      bcast := rfl } (by decide) (by decide)

end Nl
