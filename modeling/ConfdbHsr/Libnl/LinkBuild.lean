import ConfdbHsr.Libnl.LinkMsg

/-!
# What a request about a link holds

* `linkFields`     the fields of a request, with the nest of the kind;
* `buildLinkRequest_ok`   a request that has room is built: its headers, and the attributes of the
                   fields that are present;
* `Sendable`       what a request can carry;
* `nlaParse_request`, `nlaParse_linkInfo`   the tables that a parser of links makes of it.
-/

namespace Nl

/-! ## what is built -/

def kindField : PutField WireLink :=
  ⟨IFLA_INFO_KIND, fun link => link.has LINK_ATTR_LINKINFO,
    fun link => putString (link.lInfoKind.getD [])⟩

/-- the nest of the data of a kind -/
def infoDataField : PutField WireLink :=
  ⟨NLA_F_NESTED ||| IFLA_INFO_DATA,
    fun link => link.has LINK_ATTR_LINKINFO && link.isHsr && !(hsrAttrs link.info).isEmpty,
    fun link => encodeAttrs (hsrAttrs link.info)⟩

/-- the kind in the nest `IFLA_LINKINFO`, and the nest of its data -/
def kindFields : List (PutField WireLink) := [kindField, infoDataField]

def linkInfoFields : List (PutField WireLink) := kindFields ++ [slaveKindField]

def linkInfoField : PutField WireLink :=
  ⟨NLA_F_NESTED ||| IFLA_LINKINFO,
    fun link => link.has (LINK_ATTR_LINKINFO ||| LINK_ATTR_LINKINFO_SLAVE_KIND),
    fun link => encodeAttrs (fieldAttrs linkInfoFields link)⟩

/-- the fields of a request -/
def linkFields : List (PutField WireLink) := fillInfoFields ++ [groupField, linkInfoField]

/-- the headers of a request -/
def requestHeader (hdr : IfInfoMsg) : List UInt8 :=
  List.replicate NLMSG_HDRLEN 0 ++ hdr.encode

/-- the length of a request, and the room for a nest that is opened and taken out again -/
def requestRoom (link : WireLink) : Nat := 36 + (encodeAttrs (fieldAttrs linkFields link)).length

section
variable {nmSize : Nat} {hdr : IfInfoMsg} {link : WireLink} {msg : NlMsg}

lemma length_requestHeader (hdr : IfInfoMsg) : (requestHeader hdr).length = 32 := by
  simp [requestHeader, IfInfoMsg.encode, u16Bytes, u32Bytes, NLMSG_HDRLEN]

lemma NlMsg.append_append (msg : NlMsg) (as bs : List Nlattr) :
    (msg.append as).append bs = msg.append (as ++ bs) := by
  simp [NlMsg.append, encodeAttrs_append]

lemma NlMsg.append_nil (msg : NlMsg) : msg.append [] = msg := by
  simp [NlMsg.append, encodeAttrs]

lemma NlMsg.length_append (msg : NlMsg) (as : List Nlattr) :
    (msg.append as).buf.length = msg.buf.length + (encodeAttrs as).length :=
  List.length_append

lemma length_encodeAttrs_cons (nla : Nlattr) (attrs : List Nlattr) :
    (encodeAttrs (nla :: attrs)).length = nla.encode.length + (encodeAttrs attrs).length := by
  rw [encodeAttrs, List.flatMap_cons, List.length_append, encodeAttrs]

lemma length_encodeAttrs_nil : (encodeAttrs []).length = 0 := rfl

lemma putFields_ok {fields : List (PutField WireLink)} (h : msg.Aligned)
    (hroom : msg.buf.length + (encodeAttrs (fieldAttrs fields link)).length ≤ msg.nmSize) :
    putFields fields link msg = .ok (msg.append (fieldAttrs fields link)) := by
  rw [putFields_eq, putAttrs_ok _ h hroom]

lemma putField_ok {f : PutField WireLink} (h : msg.Aligned)
    (hroom : msg.buf.length + (encodeAttrs (fieldAttrs [f] link)).length ≤ msg.nmSize) :
    putField link msg f = .ok (msg.append (fieldAttrs [f] link)) := by
  rw [← putFields_ok h hroom]
  exact (bind_pure _).symm

/-- a nest that is opened on an aligned message, and closed again after some attributes -/
lemma nest_ok {attrtype : UInt16} {attrs : List Nlattr} (h : msg.Aligned)
    (hlen : (encodeAttrs attrs).length < 2 ^ 16 - 4) :
    nlaNestEnd ((msg.openNest attrtype).append attrs) msg.tail =
      (0, msg.append (if attrs = [] then [] else
        [⟨NLA_F_NESTED ||| attrtype, encodeAttrs attrs⟩])) := by
  have hend := @nlaNestEnd_eq msg.nmSize msg.buf h (NLA_F_NESTED ||| attrtype) attrs hlen
  rw [h.tail_eq, NlMsg.openNest, NlMsg.append, h.aligned_eq, hend, NlMsg.append]
  split
  · simp [encodeAttrs]
  · simp [encodeAttrs]

/-- the nest of the data, if there is one -/
def hsrNestAttrs (vi : FullHsrInfo) : List Nlattr :=
  if hsrAttrs vi = [] then [] else [⟨NLA_F_NESTED ||| IFLA_INFO_DATA, encodeAttrs (hsrAttrs vi)⟩]

lemma hsrNest_eq (vi : FullHsrInfo) : hsrNest vi = encodeAttrs (hsrNestAttrs vi) := by
  rw [hsrNest, hsrNestAttrs]
  split
  · rfl
  · simp [encodeAttrs]

lemma kind_hsr_iff : link.lInfoKind.getD [] = cs "hsr" ↔ link.isHsr = true := by
  rw [RtnlLink.isHsr, beq_iff_eq]
  cases link.lInfoKind with
  | none => exact iff_of_false (by decide) nofun
  | some kind => exact Option.some_inj.symm

lemma fieldAttrs_kindFields : fieldAttrs kindFields link =
    if link.has LINK_ATTR_LINKINFO then
      ⟨IFLA_INFO_KIND, putString (link.lInfoKind.getD [])⟩ ::
        if link.isHsr then hsrNestAttrs link.info else []
    else [] := by
  by_cases hinfo : link.has LINK_ATTR_LINKINFO = true
  · by_cases hhsr : link.isHsr = true
    · by_cases hattrs : hsrAttrs link.info = []
      · simp [kindFields, kindField, infoDataField, fieldAttrs, PutField.attr, hsrNestAttrs, hinfo,
          hhsr, hattrs]
      · simp [kindFields, kindField, infoDataField, fieldAttrs, PutField.attr, hsrNestAttrs, hinfo,
          hhsr, hattrs]
    · simp [kindFields, kindField, infoDataField, fieldAttrs, PutField.attr, hinfo, hhsr]
  · simp [kindFields, kindField, infoDataField, fieldAttrs, hinfo]

lemma hsrPutAttrs_ok {vi : FullHsrInfo} (h : msg.Aligned)
    (hroom : msg.buf.length + 4 + (encodeAttrs (hsrAttrs vi)).length ≤ msg.nmSize) :
    hsrPutAttrs msg vi = (0, msg.append (hsrNestAttrs vi)) := by
  have hfits : msg.RoomFor vi := by
    rw [NlMsg.RoomFor, h.tail_eq, NLA_HDRLEN]
    exact hroom
  rw [hsrPutAttrs_fits hfits, h.aligned_eq, hsrNest_eq]
  rfl

lemma length_hsrNestAttrs (vi : FullHsrInfo) :
    (encodeAttrs (hsrAttrs vi)).length ≤ (encodeAttrs (hsrNestAttrs vi)).length := by
  rw [hsrNestAttrs]
  split
  · rename_i h
    rw [h]
  · have hle := le_nlaAlign (4 + (encodeAttrs (hsrAttrs vi)).length)
    rw [length_encodeAttrs_cons, length_encode]
    show _ ≤ nlaAlign (4 + (encodeAttrs (hsrAttrs vi)).length) + _
    omega

lemma putOther_ok {put : NlMsg → Int × NlMsg} {msg' : NlMsg} (h : put msg = (0, msg')) :
    putOther put msg = .ok msg' := by
  rw [putOther, h]
  rfl

lemma putOther_none (msg : NlMsg) : putOther (fun msg => (0, msg)) msg = .ok msg :=
  putOther_ok rfl

lemma ioPutAttrs_hsr (h : link.isHsr = true) :
    ioPutAttrs .none link msg = hsrPutAttrs msg link.info :=
  if_pos (kind_hsr_iff.mpr h)

lemma ioPutAttrs_other (h : ¬ link.isHsr = true) : ioPutAttrs .none link msg = (0, msg) :=
  if_neg fun hkind => h (kind_hsr_iff.mp hkind)

lemma putKind_ok (h : msg.Aligned)
    (hroom : msg.buf.length + 4 + (encodeAttrs (fieldAttrs kindFields link)).length ≤
      msg.nmSize) :
    putKind .none msg link = .ok (msg.append (fieldAttrs kindFields link)) := by
  rw [fieldAttrs_kindFields] at hroom ⊢
  rw [putKind]
  by_cases hinfo : link.has LINK_ATTR_LINKINFO = true
  · rw [if_pos hinfo] at hroom
    rw [if_pos hinfo, if_pos hinfo]
    rw [length_encodeAttrs_cons] at hroom
    have hput := putAttr_append h ⟨IFLA_INFO_KIND, putString (link.lInfoKind.getD [])⟩ (by omega)
    rw [hput]
    show putOther (ioPutAttrs .none link)
      (msg.append [⟨IFLA_INFO_KIND, putString (link.lInfoKind.getD [])⟩]) = _
    by_cases hhsr : link.isHsr = true
    · have hdata := length_hsrNestAttrs link.info
      rw [if_pos hhsr] at hroom
      have hnest := @hsrPutAttrs_ok
        (msg.append [⟨IFLA_INFO_KIND, putString (link.lInfoKind.getD [])⟩]) link.info
        (h.append _) (by
          rw [NlMsg.length_append, length_encodeAttrs_cons, length_encodeAttrs_nil]
          show _ ≤ msg.nmSize
          omega)
      rw [← ioPutAttrs_hsr hhsr] at hnest
      rw [putOther_ok hnest, if_pos hhsr, NlMsg.append_append]
      rfl
    · rw [putOther_ok (ioPutAttrs_other hhsr), if_neg hhsr]
  · rw [if_neg hinfo, if_neg hinfo, NlMsg.append_nil]
    rfl

lemma has_or (link : WireLink) (attr attr' : Mask) :
    link.has (attr ||| attr') = (link.has attr || link.has attr') := by
  have hor : link.ceMask &&& (attr ||| attr') = 0#64 ↔
      link.ceMask &&& attr = 0#64 ∧ link.ceMask &&& attr' = 0#64 := by
    rw [BitVec.and_or_distrib_left, BitVec.or_eq_zero_iff]
  rw [Bool.eq_iff_iff, Bool.or_eq_true, WireLink.has, WireLink.has, WireLink.has, bne_iff_ne,
    bne_iff_ne, bne_iff_ne, ← not_and_or]
  exact not_congr hor

lemma fieldAttrs_linkInfoFields_ne_nil
    (h : link.has (LINK_ATTR_LINKINFO ||| LINK_ATTR_LINKINFO_SLAVE_KIND) = true) :
    fieldAttrs linkInfoFields link ≠ [] := by
  rw [linkInfoFields, fieldAttrs_append, fieldAttrs_kindFields]
  rw [has_or, Bool.or_eq_true] at h
  intro hnil
  obtain ⟨hkind, hslave⟩ := List.append_eq_nil_iff.mp hnil
  rcases h with h | h
  · rw [if_pos h] at hkind
    cases hkind
  · rw [fieldAttrs_cons, if_pos (show slaveKindField.present link = true from h)] at hslave
    cases hslave

lemma putLinkInfo_ok (h : msg.Aligned) (hsize : msg.nmSize ≤ 2 ^ 16)
    (hroom : msg.buf.length + 4 + (encodeAttrs (fieldAttrs [linkInfoField] link)).length ≤
      msg.nmSize) :
    putLinkInfo .none msg link = .ok (msg.append (fieldAttrs [linkInfoField] link)) := by
  rw [fieldAttrs_cons] at hroom ⊢
  rw [putLinkInfo]
  by_cases hinfo : link.has (LINK_ATTR_LINKINFO ||| LINK_ATTR_LINKINFO_SLAVE_KIND) = true
  · have hne := fieldAttrs_linkInfoFields_ne_nil hinfo
    have hinner : fieldAttrs linkInfoFields link =
        fieldAttrs kindFields link ++ fieldAttrs [slaveKindField] link := fieldAttrs_append _ _ _
    have hlen : (encodeAttrs (fieldAttrs linkInfoFields link)).length =
        (encodeAttrs (fieldAttrs kindFields link)).length +
          (encodeAttrs (fieldAttrs [slaveKindField] link)).length := by
      rw [hinner, encodeAttrs_append, List.length_append]
    have hle := le_nlaAlign (4 + (encodeAttrs (fieldAttrs linkInfoFields link)).length)
    have htotal : (linkInfoField.attr link).totalLen =
        4 + (encodeAttrs (fieldAttrs linkInfoFields link)).length := rfl
    rw [if_pos (show linkInfoField.present link = true from hinfo), length_encodeAttrs_cons,
      length_encode, htotal] at hroom
    have hopen := length_openNest msg IFLA_LINKINFO
    have haligned := aligned_openNest msg IFLA_LINKINFO
    rw [h.tail_eq, NLA_HDRLEN] at hopen
    have hnest : msg.RoomForNest := by
      rw [NlMsg.RoomForNest, h.tail_eq, NLA_HDRLEN]
      omega
    have hkind := @putKind_ok link (msg.openNest IFLA_LINKINFO) haligned (by
      rw [hopen]
      show _ ≤ msg.nmSize
      omega)
    have hslave := @putField_ok link ((msg.openNest IFLA_LINKINFO).append
      (fieldAttrs kindFields link)) slaveKindField (haligned.append _) (by
        rw [NlMsg.length_append, hopen]
        show _ ≤ msg.nmSize
        omega)
    have hend := @nest_ok msg IFLA_LINKINFO (fieldAttrs linkInfoFields link) h (by omega)
    rw [if_pos hinfo, if_pos (show linkInfoField.present link = true from hinfo),
      nlaNestStart_eq, if_pos hnest]
    dsimp only
    rw [hkind]
    show (orMsgSize (putField link _ slaveKindField) >>= fun m => pure (nlaNestEnd m _).2) = _
    rw [hslave, NlMsg.append_append, ← hinner]
    show Except.ok (nlaNestEnd _ _).2 = _
    rw [hend, if_neg hne]
    rfl
  · rw [if_neg hinfo, if_neg (show ¬ linkInfoField.present link = true from hinfo)]
    exact congrArg Except.ok (NlMsg.append_nil msg).symm

lemma nlmsgAppend_header (hroom : 32 ≤ nmSize) :
    nlmsgAppend (nlmsgAllocSimple nmSize) hdr.encode = .ok ⟨nmSize, requestHeader hdr⟩ := by
  have hlen : (nlmsgAllocSimple nmSize).buf.length + hdr.encode.length = 32 := by
    rw [← length_requestHeader hdr, requestHeader, List.length_append]
    rfl
  rw [nlmsgAppend, hlen, if_neg (show ¬ (nlmsgAllocSimple nmSize).nmSize < 32 from
    Nat.not_lt.mpr hroom)]
  rfl

/-- a nest that is opened and closed at once is taken out again -/
lemma emptyNest_ok {attrtype : UInt16} (h : msg.Aligned) (hroom : msg.buf.length + 4 ≤ msg.nmSize) :
    nlaNestStart msg attrtype = some (msg.tail, msg.openNest attrtype) ∧
      (nlaNestEnd (msg.openNest attrtype) msg.tail).2 = msg := by
  have hnest : msg.RoomForNest := by
    rw [NlMsg.RoomForNest, h.tail_eq, NLA_HDRLEN]
    exact hroom
  have hend := @nest_ok msg attrtype [] h (by decide)
  rw [NlMsg.append_nil, if_pos rfl, NlMsg.append_nil] at hend
  constructor
  · rw [nlaNestStart_eq, if_pos hnest]
  · rw [hend]

lemma fieldAttrs_linkFields (link : WireLink) :
    fieldAttrs linkFields link = fieldAttrs fillInfoFields link ++
      (fieldAttrs [groupField] link ++ fieldAttrs [linkInfoField] link) := by
  rw [linkFields, ← fieldAttrs_append, ← fieldAttrs_append]
  rfl

/-- **A request that has room is built**, for a link to which no other module adds anything: its
headers, and the attributes of the fields that are present. -/
theorem buildLinkRequest_ok (hsize : nmSize ≤ 2 ^ 16) (hroom : requestRoom link ≤ nmSize) :
    buildLinkRequest .none nmSize hdr link =
      .ok ⟨nmSize, requestHeader hdr ++ encodeAttrs (fieldAttrs linkFields link)⟩ := by
  have hlen : requestRoom link = 36 + ((encodeAttrs (fieldAttrs fillInfoFields link)).length +
      ((encodeAttrs (fieldAttrs [groupField] link)).length +
      (encodeAttrs (fieldAttrs [linkInfoField] link)).length)) := by
    rw [requestRoom, fieldAttrs_linkFields, encodeAttrs_append, encodeAttrs_append,
      List.length_append, List.length_append]
  have hheader : (NlMsg.mk nmSize (requestHeader hdr)).buf.length = 32 := length_requestHeader hdr
  have haligned : NlMsg.Aligned ⟨nmSize, requestHeader hdr⟩ := by
    rw [NlMsg.Aligned, hheader]
  have hinfo := @putFields_ok link ⟨nmSize, requestHeader hdr⟩ fillInfoFields haligned (by
    rw [hheader]
    show _ ≤ nmSize
    omega)
  have hgroup := @putField_ok link ((NlMsg.mk nmSize (requestHeader hdr)).append
    (fieldAttrs fillInfoFields link)) groupField (haligned.append _) (by
      rw [NlMsg.length_append, hheader]
      show _ ≤ nmSize
      omega)
  have hlinkinfo := @putLinkInfo_ok link (((NlMsg.mk nmSize (requestHeader hdr)).append
    (fieldAttrs fillInfoFields link)).append (fieldAttrs [groupField] link))
    ((haligned.append _).append _) hsize (by
      rw [NlMsg.length_append, NlMsg.length_append, hheader]
      show _ ≤ nmSize
      omega)
  rw [NlMsg.append_append, NlMsg.append_append, List.append_assoc, ← fieldAttrs_linkFields]
    at hlinkinfo
  rw [NlMsg.append_append] at hgroup
  obtain ⟨hstart, hend⟩ := @emptyNest_ok ((NlMsg.mk nmSize (requestHeader hdr)).append
    (fieldAttrs linkFields link)) IFLA_AF_SPEC (haligned.append _) (by
      rw [NlMsg.length_append, hheader]
      show _ ≤ nmSize
      rw [requestRoom] at hroom
      omega)
  -- the steps of the builder, in its order
  rw [buildLinkRequest, nlmsgAppend_header (by omega)]
  show (orMsgSize (rtnlLinkFillInfo ⟨nmSize, requestHeader hdr⟩ link) >>= _) = _
  rw [rtnlLinkFillInfo, hinfo]
  show (orMsgSize (putField link _ groupField) >>= _) = _
  rw [hgroup]
  show (putLinkInfo .none _ link >>= _) = _
  rw [hlinkinfo]
  dsimp only [Bind.bind, Except.bind, OtherData.none]
  simp only [putOther_none, hstart]
  exact congrArg Except.ok hend

end

/-! ## the attributes of a request are valid -/

/-- the address has the family that its length tells -/
def NlAddr.Guessed (addr : NlAddr) : Prop := nlAddrOfAttr ⟨0, addr.aAddr⟩ = addr

/-- what a request can carry: the header has room for the family, strings have no zero byte and
room in their fields, and addresses have the family that their length tells -/
structure WireLink.Sendable (link : WireLink) : Prop where
  family : link.lFamily.toNat < 2 ^ 8
  name : 0 ∉ link.lName ∧ link.lName.length < IFNAMSIZ
  ifalias : 0 ∉ link.lIfalias ∧ link.lIfalias.length < IFALIASZ
  kind : link.has LINK_ATTR_LINKINFO = true → ∃ kind, link.lInfoKind = some kind ∧ 0 ∉ kind
  slaveKind : 0 ∉ link.lInfoSlaveKind
  addr : link.lAddr.Guessed
  bcast : link.lBcast.Guessed

lemma validateNla_ok {maxtype : Nat} {policy : Nat → NlaPolicy} {nla : Nlattr} {kind : NlaKind}
    {minlen maxlen : Nat} (hpolicy : policy nla.type = ⟨kind, minlen, maxlen⟩)
    (hmin : (if minlen ≠ 0 then minlen else kind.minlen) ≤ nla.len)
    (hmax : maxlen = 0 ∨ nla.len ≤ maxlen)
    (hstring : kind = .string → nla.payload.getLast? = some 0) :
    0 ≤ validateNla nla maxtype policy := by
  rw [validateNla]
  split
  · exact Int.le_refl 0
  · rw [hpolicy]
    dsimp only
    rw [if_neg (Nat.not_lt.mpr hmin), if_neg fun h => hmax.elim h.1 (Nat.not_le.mpr h.2),
      if_neg fun h => h.2 (hstring h.1)]

lemma length_putString (str : CStr) : (putString str).length = str.length + 1 :=
  List.length_append

lemma getLast_putString (str : CStr) : (putString str).getLast? = some 0 := List.getLast?_concat

variable {link : WireLink}

/-- what the policy says of a field -/
def fieldPolicy (attrtype : Nat) : NlaPolicy :=
  rtlnLinkPolicy (UInt16.ofNat attrtype &&& NLA_TYPE_MASK).toNat

section
variable {attrtype : Nat} {bit : Mask}

lemma linkField_u32 (get : WireLink → UInt32) (h : fieldPolicy attrtype = ⟨.u32, 0, 0⟩) :
    0 ≤ validateNla ((linkField attrtype bit fun link => u32Bytes (get link)).attr link) IFLA_MAX
      rtlnLinkPolicy :=
  validateNla_ok h (Nat.le_refl 4) (.inl rfl) nofun

lemma linkField_u8 (get : WireLink → UInt8) (h : fieldPolicy attrtype = ⟨.u8, 0, 0⟩) :
    0 ≤ validateNla ((linkField attrtype bit fun link => [get link]).attr link) IFLA_MAX
      rtlnLinkPolicy :=
  validateNla_ok h (Nat.le_refl 1) (.inl rfl) nofun

lemma linkField_unspec (data : WireLink → List UInt8) (h : fieldPolicy attrtype = ⟨.unspec, 0, 0⟩) :
    0 ≤ validateNla ((linkField attrtype bit data).attr link) IFLA_MAX rtlnLinkPolicy :=
  validateNla_ok h (Nat.zero_le _) (.inl rfl) nofun

lemma linkField_string (get : WireLink → CStr) {maxlen : Nat}
    (h : fieldPolicy attrtype = ⟨.string, 0, maxlen⟩) (hlen : (get link).length < maxlen) :
    0 ≤ validateNla ((linkField attrtype bit fun link => putString (get link)).attr link) IFLA_MAX
      rtlnLinkPolicy := by
  have hlen' : ((linkField attrtype bit fun link => putString (get link)).attr link).len =
      (get link).length + 1 := length_putString _
  refine validateNla_ok h ?_ (.inr ?_) fun _ => getLast_putString _
  · rw [hlen']
    exact Nat.le_add_left 1 _
  · rw [hlen']
    exact hlen

end

lemma fillInfoFields_valid (h : link.Sendable) {f : PutField WireLink}
    (hf : f ∈ fillInfoFields) : 0 ≤ validateNla (f.attr link) IFLA_MAX rtlnLinkPolicy := by
  simp only [fillInfoFields, List.mem_cons, List.not_mem_nil, or_false] at hf
  rcases hf with rfl | rfl | rfl | rfl | rfl | rfl | rfl | rfl | rfl | rfl | rfl | rfl | rfl | rfl |
    rfl | rfl | rfl
  · exact linkField_unspec _ rfl
  · exact linkField_unspec _ rfl
  · exact linkField_u32 _ rfl
  · exact linkField_u32 _ rfl
  · exact linkField_u32 _ rfl
  · exact linkField_string _ rfl h.name.2
  · exact linkField_u8 _ rfl
  · exact linkField_u8 _ rfl
  · exact linkField_u8 _ rfl
  · exact linkField_string _ rfl h.ifalias.2
  · exact linkField_u32 _ rfl
  · exact linkField_unspec _ rfl
  · exact linkField_u32 _ rfl
  · exact linkField_u32 _ rfl
  · exact linkField_u32 _ rfl
  · exact linkField_u32 _ rfl
  · exact linkField_u32 _ rfl

lemma linkFields_valid (h : link.Sendable) {f : PutField WireLink} (hf : f ∈ linkFields) :
    0 ≤ validateNla (f.attr link) IFLA_MAX rtlnLinkPolicy := by
  rcases List.mem_append.mp hf with hf | hf
  · exact fillInfoFields_valid h hf
  · rcases List.mem_cons.mp hf with rfl | hf
    · exact linkField_u32 _ rfl
    · obtain rfl := List.mem_singleton.mp hf
      have hpolicy : rtlnLinkPolicy linkInfoField.type = ⟨.unspec, 0, 0⟩ := by decide
      exact validateNla_ok hpolicy (Nat.zero_le _) (.inl rfl) nofun

lemma linkInfoFields_valid {f : PutField WireLink} (hf : f ∈ linkInfoFields) :
    0 ≤ validateNla (f.attr link) IFLA_INFO_MAX linkInfoPolicy := by
  simp only [linkInfoFields, kindFields, List.cons_append, List.nil_append, List.mem_cons,
    List.not_mem_nil, or_false] at hf
  rcases hf with rfl | rfl | rfl
  · have hpolicy : linkInfoPolicy kindField.type = ⟨.string, 0, 0⟩ := rfl
    refine validateNla_ok hpolicy ?_ (.inl rfl) fun _ => getLast_putString _
    show 1 ≤ (putString (link.lInfoKind.getD [])).length
    rw [length_putString]
    exact Nat.le_add_left 1 _
  · have hpolicy : linkInfoPolicy infoDataField.type = ⟨.unspec, 0, 0⟩ := rfl
    exact validateNla_ok hpolicy (Nat.zero_le _) (.inl rfl) nofun
  · have hpolicy : linkInfoPolicy slaveKindField.type = ⟨.unspec, 0, 0⟩ := rfl
    exact validateNla_ok hpolicy (Nat.zero_le _) (.inl rfl) nofun

lemma linkFields_nodup : (linkFields.map PutField.type).Nodup := by decide

lemma linkInfoFields_nodup : (linkInfoFields.map PutField.type).Nodup := by decide

lemma linkFields_max : ∀ f ∈ linkFields, f.type ≤ IFLA_MAX := by decide

/-- the length of an attribute of a request that has room fits in its header -/
lemma fits_of_length {attrs : List Nlattr} (hlen : (encodeAttrs attrs).length < 2 ^ 16)
    {nla : Nlattr} (h : nla ∈ attrs) : nla.Fits := by
  have hle := le_nlaAlign nla.totalLen
  have hmem : nla.encode.length ≤ (encodeAttrs attrs).length := by
    obtain ⟨before, after, rfl⟩ := List.append_of_mem h
    rw [encodeAttrs_append, List.length_append, length_encodeAttrs_cons]
    omega
  rw [length_encode] at hmem
  show nla.totalLen < 2 ^ 16
  omega

lemma nlaParse_request (h : link.Sendable) (hsize : requestRoom link ≤ 2 ^ 16) :
    ∃ tb, nlaParse IFLA_MAX (some rtlnLinkPolicy) (encodeAttrs (fieldAttrs linkFields link)) =
      .ok tb ∧ TableOf linkFields link IFLA_MAX tb := by
  have hlen : (encodeAttrs (fieldAttrs linkFields link)).length < 2 ^ 16 := by
    rw [requestRoom] at hsize
    omega
  exact nlaParse_fields linkFields_nodup fun f hf hpresent =>
    ⟨fits_of_length hlen (mem_fieldAttrs.mpr ⟨f, hf, hpresent, rfl⟩), linkFields_valid h hf⟩

lemma nlaParse_linkInfo (hlen : (encodeAttrs (fieldAttrs linkInfoFields link)).length < 2 ^ 16) :
    ∃ li, nlaParse IFLA_INFO_MAX (some linkInfoPolicy)
      (encodeAttrs (fieldAttrs linkInfoFields link)) = .ok li ∧
        TableOf linkInfoFields link IFLA_INFO_MAX li :=
  nlaParse_fields linkInfoFields_nodup fun f hf hpresent =>
    ⟨fits_of_length hlen (mem_fieldAttrs.mpr ⟨f, hf, hpresent, rfl⟩), linkInfoFields_valid hf⟩

end Nl
