import ConfdbHsr.LinkRequests

/-!
# Links that the parser accepts

* `LinkValid`     a link that a request can carry, with the bits of the header;
* `linkMsgParse_valid`   so is every link that the parser makes of a message;
* `parsed_link_read_again`, `delete_request_read`   the requests to add it, and to delete it, are
                   read back.
-/

namespace Nl

lemma of_bind_ok {ε α β : Type} {x : Except ε α} {f : α → Except ε β} {b : β}
    (h : (x >>= f) = .ok b) : ∃ a, x = .ok a ∧ f a = .ok b := by
  cases x with
  | error e => cases h
  | ok a => exact ⟨a, rfl, h⟩

lemma of_codeOf_ok {α : Type} {x : Except Int α} {a : α} (h : codeOf x = .ok a) : x = .ok a := by
  cases x with
  | error e => cases h
  | ok a' => exact congrArg Except.ok (Except.ok.inj h)

lemma nlaParse_met {maxtype : Nat} {policy : Nat → NlaPolicy} {stream : List UInt8} {tb : AttrTable}
    (h : nlaParse maxtype (some policy) stream = .ok tb) {t : Nat} {nla : Nlattr}
    (hnla : tb t = some nla) : nla.type = t ∧ 0 ≤ validateNla nla maxtype policy :=
  nlaParseLoop_met (fun _ nla hnla => absurd hnla (Option.not_mem_none nla)) h t nla hnla

lemma validateNla_string {maxtype : Nat} {policy : Nat → NlaPolicy} {nla : Nlattr} {maxlen : Nat}
    (hpolicy : policy nla.type = ⟨.string, 0, maxlen⟩) (htype : nla.type ≤ maxtype)
    (h : 0 ≤ validateNla nla maxtype policy) :
    nla.payload.getLast? = some 0 ∧ (maxlen = 0 ∨ nla.payload.length ≤ maxlen) := by
  rw [validateNla, if_neg (Nat.not_lt.mpr htype), hpolicy] at h
  dsimp only at h
  rw [if_neg (by decide : ¬ (0 : Nat) ≠ 0)] at h
  split at h
  · exact absurd h (by decide)
  · split at h
    · exact absurd h (by decide)
    · rename_i hmax
      split at h
      · exact absurd h (by decide)
      · rename_i hlast
        refine ⟨by_contra fun hne => hlast ⟨rfl, hne⟩, ?_⟩
        by_cases hzero : maxlen = 0
        · exact .inl hzero
        · exact .inr (Nat.not_lt.mp fun hlt => hmax ⟨hzero, hlt⟩)

/-! ## strings that are read -/

lemma cString_not_mem (bytes : List UInt8) : 0 ∉ cString bytes := by
  intro h
  have hall := List.all_takeWhile (l := bytes) (p := fun b => decide (b ≠ 0))
  exact absurd (List.all_eq_true.mp hall 0 h) (by decide)

lemma length_cString_le (bytes : List UInt8) : (cString bytes).length ≤ bytes.length :=
  (List.takeWhile_prefix _).length_le

lemma length_cString_lt {bytes : List UInt8} (h : bytes.getLast? = some 0) :
    (cString bytes).length < bytes.length := by
  rcases Nat.lt_or_eq_of_le (length_cString_le bytes) with hlt | heq
  · exact hlt
  · have hall : cString bytes = bytes := (List.takeWhile_prefix _).eq_of_length heq
    have hmem : 0 ∈ bytes := List.mem_of_getLast? h
    rw [← hall] at hmem
    exact absurd hmem (cString_not_mem bytes)

lemma nlaStrlcpy_fits (nla : Nlattr) {dstsize : Nat} (h : 0 < dstsize) :
    0 ∉ nlaStrlcpy nla dstsize ∧ (nlaStrlcpy nla dstsize).length < dstsize := by
  refine ⟨cString_not_mem _, ?_⟩
  have hle := length_cString_le ((if nla.payload.getLast? = some 0 then nla.payload.dropLast
    else nla.payload).take (dstsize - 1))
  have htake := List.length_take_le (dstsize - 1) (if nla.payload.getLast? = some 0 then
    nla.payload.dropLast else nla.payload)
  show (cString _).length < dstsize
  omega

/-! ## the blocks of the parser make well-formed links -/

/-- a link that a request can carry, with the bits of the header -/
structure LinkValid (link : WireLink) : Prop where
  sendable : link.Sendable
  base : link.ceMask &&& linkBase = linkBase

section
variable {link : WireLink} {tb : AttrTable} {mods : LinkModules}

lemma guessed_ofAttr (nla : Nlattr) : (nlAddrOfAttr nla).Guessed := rfl

lemma has_of_base (h : link.ceMask &&& linkBase = linkBase) {attr : Mask}
    (hattr : linkBase &&& attr ≠ 0) : link.has attr = true := by
  rw [WireLink.has, bne_iff_ne]
  intro hzero
  have hand : link.ceMask &&& linkBase &&& attr = 0 := by
    rw [BitVec.and_assoc, BitVec.and_comm linkBase, ← BitVec.and_assoc, hzero]
    exact BitVec.zero_and
  rw [h] at hand
  exact hattr hand

/-- a bit is set that says nothing of the kind -/
lemma LinkValid.setBit (h : LinkValid link) {bit : Mask} (hbit : bit &&& LINK_ATTR_LINKINFO = 0) :
    LinkValid { link with ceMask := link.ceMask ||| bit } where
  sendable := { h.sendable with
    kind := by
      intro hkind
      refine h.sendable.kind ?_
      have hmask : (link.ceMask ||| bit) &&& LINK_ATTR_LINKINFO =
          link.ceMask &&& LINK_ATTR_LINKINFO := by
        rw [BitVec.and_or_distrib_right, hbit]
        exact BitVec.or_zero
      rw [WireLink.has, hmask] at hkind
      exact hkind }
  base := by
    have hbase : (linkBase ||| bit) &&& linkBase = linkBase := or_keeps linkBase bit
    rw [BitVec.and_or_distrib_right, BitVec.and_self] at hbase
    show (link.ceMask ||| bit) &&& linkBase = linkBase
    rw [BitVec.and_or_distrib_right, h.base, hbase]

/-- a value that a request can carry is stored -/
def Stores {β : Type} (attr : Option Nlattr) (read : Nlattr → β) (set : WireLink → β → WireLink) :
    Prop :=
  ∀ link nla, attr = some nla → LinkValid link → LinkValid (set link (read nla))

lemma readInto_valid {β : Type} {attr : Option Nlattr} {bit : Mask} {read : Nlattr → β}
    {set : WireLink → β → WireLink} (h : LinkValid link) (hbit : bit &&& LINK_ATTR_LINKINFO = 0)
    (hset : Stores attr read set) : LinkValid (readInto attr bit read set link) := by
  cases attr with
  | none => exact h
  | some nla => exact (hset link nla rfl h).setBit hbit

lemma readHardware_valid (h : LinkValid link) : LinkValid (readHardware tb link) := by
  unfold readHardware
  refine readInto_valid ?_ (by decide) fun _ _ _ h => ⟨{ h.sendable with }, h.base⟩
  refine readInto_valid ?_ (by decide) fun _ nla _ h =>
    ⟨{ h.sendable with bcast := guessed_ofAttr nla }, h.base⟩
  refine readInto_valid ?_ (by decide) fun _ nla _ h =>
    ⟨{ h.sendable with addr := guessed_ofAttr nla }, h.base⟩
  refine readInto_valid ?_ (by decide) fun _ _ _ h => ⟨{ h.sendable with }, h.base⟩
  exact readInto_valid h (by decide) fun _ _ _ h => ⟨{ h.sendable with }, h.base⟩

lemma readNetnsid_valid (h : LinkValid link) {attr : Option Nlattr} {link' : WireLink}
    (hread : readNetnsid attr link = .ok link') : LinkValid link' := by
  cases attr with
  | none => exact Except.ok.inj hread ▸ h
  | some nla =>
    rw [readNetnsid] at hread
    split at hread
    · cases hread
    · obtain rfl := Except.ok.inj hread
      exact readInto_valid h (by decide) fun _ _ _ h => ⟨{ h.sendable with }, h.base⟩

lemma ifalias_fits (htb : ∀ nla, tb IFLA_IFALIAS = some nla →
      nla.type = IFLA_IFALIAS ∧ 0 ≤ validateNla nla IFLA_MAX rtlnLinkPolicy) {nla : Nlattr}
    (h : tb IFLA_IFALIAS = some nla) : (cString nla.payload).length < IFALIASZ := by
  obtain ⟨htype, hvalid⟩ := htb nla h
  have hpolicy : rtlnLinkPolicy nla.type = ⟨.string, 0, IFALIASZ⟩ := by
    rw [htype]
    decide
  obtain ⟨hlast, hlen⟩ := validateNla_string hpolicy (by rw [htype]; decide) hvalid
  have hlt := length_cString_lt hlast
  rcases hlen with hzero | hlen
  · exact absurd hzero (by decide)
  · exact Nat.lt_of_lt_of_le hlt hlen

lemma readState_valid (h : LinkValid link) (htb : ∀ nla, tb IFLA_IFALIAS = some nla →
      nla.type = IFLA_IFALIAS ∧ 0 ≤ validateNla nla IFLA_MAX rtlnLinkPolicy) :
    LinkValid (readState tb link) := by
  unfold readState
  refine readInto_valid ?_ (by decide) fun _ _ _ h => ⟨{ h.sendable with }, h.base⟩
  refine readInto_valid ?_ (by decide) fun _ _ _ h => ⟨{ h.sendable with }, h.base⟩
  refine readInto_valid ?_ (by decide) fun _ nla hnla h =>
    ⟨{ h.sendable with ifalias := ⟨cString_not_mem _, ifalias_fits htb hnla⟩ }, h.base⟩
  refine readInto_valid ?_ (by decide) fun _ _ _ h => ⟨{ h.sendable with }, h.base⟩
  refine readInto_valid ?_ (by decide) fun _ _ _ h => ⟨{ h.sendable with }, h.base⟩
  refine readInto_valid ?_ (by decide) fun _ _ _ h => ⟨{ h.sendable with }, h.base⟩
  refine readInto_valid ?_ (by decide) fun _ _ _ h => ⟨{ h.sendable with }, h.base⟩
  exact readInto_valid h (by decide) fun _ _ _ h => ⟨{ h.sendable with }, h.base⟩

lemma LinkValid.setInfo (h : LinkValid link) (vi : FullHsrInfo) : LinkValid (link.setInfo vi) :=
  ⟨{ h.sendable with }, h.base⟩

lemma readHsrData_valid (h : LinkValid link) {data xstats : Option Nlattr} {link' : WireLink}
    (hread : readHsrData data xstats link = .ok link') : LinkValid link' := by
  cases data with
  | none =>
    cases xstats with
    | none => exact Except.ok.inj hread ▸ h
    | some nla => cases hread
  | some data =>
    rw [readHsrData] at hread
    cases hparse : hsrParse data with
    | error err =>
      rw [hparse] at hread
      cases hread
    | ok vi =>
      rw [hparse] at hread
      exact Except.ok.inj hread ▸ h.setInfo vi

lemma readKind_valid (h : LinkValid link) {li : AttrTable} {link' : WireLink}
    (hread : readKind mods li link = .ok link') : LinkValid link' := by
  rw [readKind] at hread
  cases hli : li IFLA_INFO_KIND.toNat with
  | none =>
    rw [hli] at hread
    exact Except.ok.inj hread ▸ h
  | some nla =>
    rw [hli] at hread
    dsimp only at hread
    have hkind : LinkValid { link with
        lInfoKind := some (cString nla.payload)
        lFamily := kindFamily link.lFamily (cString nla.payload)
        ceMask := link.ceMask ||| LINK_ATTR_LINKINFO } := by
      have hbase : (linkBase ||| LINK_ATTR_LINKINFO) &&& linkBase = linkBase := or_keeps _ _
      refine ⟨{ h.sendable with
        family := kindFamily_lt h.sendable.family _
        kind := fun _ => ⟨_, rfl, cString_not_mem _⟩ }, ?_⟩
      show (link.ceMask ||| LINK_ATTR_LINKINFO) &&& linkBase = linkBase
      rw [BitVec.and_or_distrib_right, BitVec.and_self] at hbase
      rw [BitVec.and_or_distrib_right, h.base, hbase]
    split at hread
    · exact readHsrData_valid (hkind.setInfo _) hread
    · obtain ⟨-, -, hread⟩ := of_bind_ok hread
      exact Except.ok.inj hread ▸ hkind

lemma readSlaveKind_valid (h : LinkValid link) {attr : Option Nlattr} {link' : WireLink}
    (hread : readSlaveKind attr link = .ok link') : LinkValid link' := by
  cases attr with
  | none => exact Except.ok.inj hread ▸ h
  | some nla =>
    rw [readSlaveKind] at hread
    split at hread
    · obtain rfl := Except.ok.inj hread
      exact readInto_valid h (by decide) fun _ _ _ h =>
        ⟨{ h.sendable with slaveKind := cString_not_mem _ }, h.base⟩
    · cases hread

lemma readLinkInfo_valid (h : LinkValid link) {attr : Option Nlattr} {link' : WireLink}
    (hread : readLinkInfo mods attr link = .ok link') : LinkValid link' := by
  cases attr with
  | none => exact Except.ok.inj hread ▸ h
  | some nla =>
    rw [readLinkInfo] at hread
    obtain ⟨li, -, hread⟩ := of_bind_ok hread
    obtain ⟨link₁, hkind, hread⟩ := of_bind_ok hread
    exact readSlaveKind_valid (readKind_valid h hkind) hread

lemma readQueues_valid (h : LinkValid link) : LinkValid (readQueues tb link) := by
  unfold readQueues
  refine readInto_valid ?_ (by decide) fun _ _ _ h => ⟨{ h.sendable with }, h.base⟩
  refine readInto_valid ?_ (by decide) fun _ _ _ h => ⟨{ h.sendable with }, h.base⟩
  exact readInto_valid h (by decide) fun _ _ _ h => ⟨{ h.sendable with }, h.base⟩

/-- the blocks of the parser that fill the link of a message, and those that may refuse it -/
lemma linkOfTable_steps {ifi : IfInfoMsg} (h : linkOfTable mods ifi tb = .ok link) :
    ∃ ifname link₁ link₂, tb IFLA_IFNAME = some ifname ∧
      readNetnsid (tb IFLA_LINK_NETNSID) (readHardware tb
        { linkOfHeader ifi with lName := nlaStrlcpy ifname IFNAMSIZ }) = .ok link₁ ∧
      readLinkInfo mods (tb IFLA_LINKINFO.toNat) (readState tb link₁) = .ok link₂ ∧
      (readVfs mods tb = .ok () ∧
        readProtinfo ifi.ifiFamily link₂.lFamily (tb IFLA_PROTINFO) = .ok () ∧
        readAfSpec ifi.ifiFamily (tb IFLA_AF_SPEC.toNat) = .ok ()) ∧
      link = readQueues tb link₂ := by
  obtain ⟨link₁, hinfo, h⟩ := of_bind_ok h
  obtain ⟨⟨⟩, hvfs, h⟩ := of_bind_ok h
  obtain ⟨link₂, hnest, h⟩ := of_bind_ok h
  obtain ⟨⟨⟩, hprotinfo, h⟩ := of_bind_ok h
  obtain ⟨⟨⟩, hafSpec, h⟩ := of_bind_ok h
  rw [rtnlLinkInfoParse] at hinfo
  cases hname : tb IFLA_IFNAME with
  | none =>
    rw [hname] at hinfo
    cases hinfo
  | some ifname =>
    rw [hname] at hinfo
    obtain ⟨link₀, hnetnsid, hstate⟩ := of_bind_ok hinfo
    have hlast : readQueues tb link₂ = link := Except.ok.inj h
    exact ⟨ifname, link₀, link₂, rfl, hnetnsid, Except.ok.inj hstate ▸ hnest,
      ⟨hvfs, hprotinfo, hafSpec⟩, hlast.symm⟩

lemma linkOfHeader_valid {payload : List UInt8} (ifname : Nlattr) :
    LinkValid { linkOfHeader (IfInfoMsg.decode payload) with
      lName := nlaStrlcpy ifname IFNAMSIZ } where
  sendable := {
    family := by
      have hlt := UInt8.toNat_lt (payload.headD 0)
      show (UInt32.ofNat (payload.headD 0).toNat).toNat < 2 ^ 8
      rw [UInt32.toNat_ofNat', Nat.mod_eq_of_lt (by omega)]
      exact hlt
    name := nlaStrlcpy_fits ifname (by decide)
    ifalias := ⟨by rintro ⟨⟩, show 0 < IFALIASZ by decide⟩
    kind := by
      intro h
      exact absurd (show WireLink.has _ _ = true from h) (by
        show ¬ (linkBase &&& LINK_ATTR_LINKINFO != 0) = true
        decide)
    slaveKind := by rintro ⟨⟩
    addr := rfl
    bcast := rfl }
  base := show linkBase &&& linkBase = linkBase from BitVec.and_self

end

lemma linkMsgParse_table {mods : LinkModules} {payload : List UInt8} {link : WireLink}
    (h : linkMsgParse mods payload = .ok link) :
    ∃ tb, nlaParse IFLA_MAX (some rtlnLinkPolicy) (payload.drop IFI_HDRLEN) = .ok tb ∧
      linkOfTable mods (IfInfoMsg.decode payload) tb = .ok link := by
  rw [linkMsgParse] at h
  split at h
  · cases h
  · obtain ⟨tb, hparse, h⟩ := of_bind_ok h
    exact ⟨tb, of_codeOf_ok hparse, h⟩

/-- **What the parser accepts is well formed.** -/
theorem linkMsgParse_valid {mods : LinkModules} {payload : List UInt8} {link : WireLink}
    (h : linkMsgParse mods payload = .ok link) : LinkValid link := by
  obtain ⟨tb, hparse, h⟩ := linkMsgParse_table h
  obtain ⟨ifname, link₁, link₂, -, hfirst, hnest, -, rfl⟩ := linkOfTable_steps h
  have h₁ := readNetnsid_valid (readHardware_valid (linkOfHeader_valid ifname)) hfirst
  exact readQueues_valid (readLinkInfo_valid
    (readState_valid h₁ fun nla hnla => nlaParse_met hparse hnla) hnest)

/-- a message about `eth0`, with its MTU -/
def eth0Message : List UInt8 :=
  [0, 0, 1, 0, 2, 0, 0, 0, 67, 16, 0, 0, 0, 0, 0, 0,
    9, 0, 3, 0, 101, 116, 104, 48, 0, 0, 0, 0,
    8, 0, 4, 0, 220, 5, 0, 0]

def eth0Link : WireLink :=
  RtnlLink.full { rtnlLinkAlloc with
    ceMask := linkBase ||| LINK_ATTR_MTU
    lName := [101, 116, 104, 48], lArptype := 1, lIndex := 2, lFlags := 4163, lMtu := 1500 }

lemma eth0_parsed : linkMsgParse .accepting eth0Message = .ok eth0Link := rfl

/-! ## the requests about such a link -/

/-- **A link that the parser accepts can be sent**: if no other module adds anything to it, a
request to add it that has room is built, and the parser reads each field that it carries. -/
theorem parsed_link_read_again {mods : LinkModules} {payload : List UInt8} {link : WireLink}
    {nmSize : Nat} (h : linkMsgParse mods payload = .ok link) (hsize : nmSize ≤ 2 ^ 16)
    (hroom : requestRoom link ≤ nmSize) :
    ∃ msg link', rtnlLinkBuildAddRequest .none nmSize link = .ok msg ∧
      linkMsgParse mods (msg.buf.drop NLMSG_HDRLEN) = .ok link' ∧ LinkRead link link' := by
  have hwf := linkMsgParse_valid h
  have hname : link.has LINK_ATTR_IFNAME = true := has_of_base hwf.base (by decide)
  have hparse := @linkMsgParse_request link mods (addHeader link) hwf.sendable
    (Nat.le_trans hroom hsize) hwf.sendable.family (by show (0 : UInt32).toNat < 2 ^ 16; decide)
  rw [if_pos hname] at hparse
  exact ⟨_, _, buildLinkRequest_ok hsize hroom, hparse, linkRead_parsed link⟩

theorem parsed_link_read_again_eth0 :
    ∃ msg link', rtnlLinkBuildAddRequest .none 4096 eth0Link = .ok msg ∧
      linkMsgParse .accepting (msg.buf.drop NLMSG_HDRLEN) = .ok link' ∧ LinkRead eth0Link link' :=
  parsed_link_read_again eth0_parsed (by decide) (by decide)

/-- what a request to delete a link says of it -/
def deleteTarget (link : RtnlLink) : WireLink :=
  RtnlLink.full { rtnlLinkAlloc with
    ceMask := LINK_ATTR_IFNAME, lName := link.lName, lIndex := link.lIndex }

lemma fieldAttrs_deleteTarget (link : RtnlLink) :
    fieldAttrs linkFields (deleteTarget link) = [⟨3, putString link.lName⟩] := by
  have hhas : ∀ bit, (deleteTarget link).has bit = (LINK_ATTR_IFNAME &&& bit != 0) := fun _ => rfl
  simp +decide only [linkFields, fillInfoFields, List.cons_append, List.nil_append, fieldAttrs_cons,
    linkField, groupField, linkInfoField, hhas]
  rfl

lemma length_nameAttr {name : CStr} (h : name.length < IFNAMSIZ) :
    (encodeAttrs [⟨3, putString name⟩]).length ≤ 20 := by
  have hlen : (Nlattr.mk 3 (putString name)).totalLen = 4 + (name.length + 1) := by
    rw [← length_putString]
    rfl
  rw [length_encodeAttrs_cons, length_encode, hlen, length_encodeAttrs_nil]
  simp only [IFNAMSIZ] at h
  simp only [nlaAlign]
  omega

lemma nlaPut_ok {msg : NlMsg} (h : msg.Aligned) (nla : Nlattr)
    (hfit : msg.buf.length + nla.encode.length ≤ msg.nmSize) :
    nlaPut msg nla.nlaType nla.payload = (0, msg.append [nla]) := by
  rw [nlaPut, nlaTotalSize_eq, if_neg (Nat.not_lt.mpr (by rw [h.tail_eq]; exact hfit)),
    h.aligned_eq, NlMsg.append]
  simp [encodeAttrs]

lemma rtnlLinkBuildDeleteRequest_ok {link : RtnlLink} {nmSize : Nat}
    (hname : link.ceMask &&& LINK_ATTR_IFNAME ≠ 0) (hlen : link.lName.length < IFNAMSIZ)
    (hroom : 52 ≤ nmSize) :
    rtnlLinkBuildDeleteRequest nmSize link =
      .ok ⟨nmSize, requestHeader ⟨0, 0, link.lIndex, 0, 0⟩ ++
        encodeAttrs (fieldAttrs linkFields (deleteTarget link))⟩ := by
  have hheader := length_requestHeader ⟨0, 0, link.lIndex, 0, 0⟩
  have hattr := length_nameAttr hlen
  rw [length_encodeAttrs_cons, length_encodeAttrs_nil] at hattr
  have haligned : NlMsg.Aligned ⟨nmSize, requestHeader ⟨0, 0, link.lIndex, 0, 0⟩⟩ := by
    rw [NlMsg.Aligned, hheader]
  have hput := nlaPut_ok haligned ⟨3, putString link.lName⟩ (by
    rw [hheader]
    show _ ≤ nmSize
    omega)
  have hmask : ¬ link.ceMask &&& (LINK_ATTR_IFINDEX ||| LINK_ATTR_IFNAME) = 0 := by
    rw [BitVec.and_or_distrib_left]
    exact fun h => hname (BitVec.or_eq_zero_iff.mp h).2
  rw [rtnlLinkBuildDeleteRequest, if_neg hmask, nlmsgAppend_header (by omega),
    fieldAttrs_deleteTarget]
  dsimp only [Bind.bind, Except.bind]
  rw [if_pos hname]
  show (if (nlaPut _ 3 (putString link.lName)).1 < 0 then
    Except.error (nlaPut _ 3 (putString link.lName)).1
    else Except.ok (nlaPut _ 3 (putString link.lName)).2) = _
  rw [hput]
  rfl

theorem deleteRequest_parsed {link : RtnlLink} {mods : LinkModules} (hname : 0 ∉ link.lName)
    (hlen : link.lName.length < IFNAMSIZ) :
    ∃ link', linkMsgParse mods ((requestHeader ⟨0, 0, link.lIndex, 0, 0⟩ ++
        encodeAttrs (fieldAttrs linkFields (deleteTarget link))).drop NLMSG_HDRLEN) = .ok link' ∧
      link'.lIndex = link.lIndex ∧ link'.lName = link.lName ∧ link'.ceMask = linkBase := by
  have hsendable : (deleteTarget link).Sendable := {
    family := show (0 : UInt32).toNat < 2 ^ 8 by decide
    name := ⟨hname, hlen⟩
    ifalias := ⟨by rintro ⟨⟩, show 0 < IFALIASZ by decide⟩
    kind := by
      intro h
      exact absurd h (by
        show ¬ (LINK_ATTR_IFNAME &&& LINK_ATTR_LINKINFO != 0) = true
        decide)
    slaveKind := by rintro ⟨⟩
    addr := rfl
    bcast := rfl }
  have hattr := length_nameAttr hlen
  have hhas : (deleteTarget link).has LINK_ATTR_IFNAME = true := by
    show (LINK_ATTR_IFNAME &&& LINK_ATTR_IFNAME != 0) = true
    decide
  have hzero : (0 : UInt32).toNat = 0 := rfl
  have hparse := @linkMsgParse_request (deleteTarget link) mods ⟨0, 0, link.lIndex, 0, 0⟩ hsendable
    (by rw [requestRoom, fieldAttrs_deleteTarget]; omega) (by rw [hzero]; omega)
    (by rw [hzero]; omega)
  rw [if_pos hhas] at hparse
  refine ⟨_, hparse, rfl, rfl, ?_⟩
  show linkBase ||| LINK_ATTR_IFNAME &&& carriedBits = linkBase
  decide

/-- **A request to delete a link that the parser accepted** is built and read back: it says the
index and the name of the link, and nothing else. -/
theorem delete_request_read {mods : LinkModules} {payload : List UInt8} {link : WireLink}
    {nmSize : Nat} (h : linkMsgParse mods payload = .ok link) (hroom : 52 ≤ nmSize) :
    ∃ msg link', rtnlLinkBuildDeleteRequest nmSize link.toRtnlLink = .ok msg ∧
      linkMsgParse mods (msg.buf.drop NLMSG_HDRLEN) = .ok link' ∧
      link'.lIndex = link.lIndex ∧ link'.lName = link.lName ∧ link'.ceMask = linkBase := by
  have hwf := linkMsgParse_valid h
  have hhas : link.has LINK_ATTR_IFNAME = true := has_of_base hwf.base (by decide)
  obtain ⟨hnul, hlen⟩ := hwf.sendable.name
  obtain ⟨link', hparse, hlink'⟩ := @deleteRequest_parsed link.toRtnlLink mods hnul hlen
  exact ⟨_, link', rtnlLinkBuildDeleteRequest_ok (bne_iff_ne.mp hhas) hlen hroom, hparse, hlink'⟩

theorem delete_request_read_eth0 :
    ∃ msg link', rtnlLinkBuildDeleteRequest 4096 eth0Link.toRtnlLink = .ok msg ∧
      linkMsgParse .accepting (msg.buf.drop NLMSG_HDRLEN) = .ok link' ∧
      link'.lIndex = eth0Link.lIndex ∧ link'.lName = eth0Link.lName ∧ link'.ceMask = linkBase :=
  delete_request_read eth0_parsed (by decide)

end Nl
