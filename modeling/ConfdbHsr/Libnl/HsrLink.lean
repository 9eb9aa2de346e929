import ConfdbHsr.Libnl.Link
import ConfdbHsr.Libnl.Msg

/-!
# The parameters of an HSR link in messages (`lib/route/link/hsr.c`)

* `FullHsrInfo`   `struct hsr_info` with all its fields;
* `hsrParse`      `hsr_parse`;
* `hsrPutAttrs`   `hsr_put_attrs`;
* `buildLinkMsg`  the part of `build_link_msg` that calls it;
* `hsrAttrs`      the attributes of the bits that are set;
* `hsrPutAttrs_fits`, `hsrPutAttrs_stops`, `hsrPutAttrs_refused`   what a message with room for all
                  of them, for some, and not even for the nest is left as, and the code.
-/

namespace Nl

def HSR_HAS_MULTICAST_SPEC : BitVec 32 := 1
def HSR_HAS_SEQ_NR : BitVec 32 := 16
def HSR_HAS_SUPERVISION_ADDR : BitVec 32 := 32

def IFLA_LINKINFO : UInt16 := 18
def IFLA_AF_SPEC : UInt16 := 26
def IFLA_INFO_KIND : UInt16 := 1
def IFLA_INFO_DATA : UInt16 := 2

def IFLA_HSR_SLAVE1 : Nat := 1
def IFLA_HSR_SLAVE2 : Nat := 2
def IFLA_HSR_MULTICAST_SPEC : Nat := 3
def IFLA_HSR_SUPERVISION_ADDR : Nat := 4
def IFLA_HSR_SEQ_NR : Nat := 5
def IFLA_HSR_VERSION : Nat := 6
def IFLA_HSR_MAX : Nat := 6

/-- `struct hsr_info`, also with the fields that the daemon does not use -/
structure FullHsrInfo extends HsrInfo where
  multicastSpec : UInt8
  supervisionAddr : Vector UInt8 6
  seqNr : UInt16
  deriving DecidableEq, Repr

namespace FullHsrInfo

/-- `hsr_alloc`: zeroed -/
def zero : FullHsrInfo := ⟨HsrInfo.zero, 0, Vector.replicate 6 0, 0⟩

/-- `vi_mask & flag` -/
def has (vi : FullHsrInfo) (flag : BitVec 32) : Bool := vi.viMask &&& flag != 0

end FullHsrInfo

/-! ## parsing -/

/-- `hsr_policy` -/
def hsrPolicy (type : Nat) : NlaPolicy :=
  if type ∈ [IFLA_HSR_SLAVE1, IFLA_HSR_SLAVE2] then ⟨.u32, 0, 0⟩
  else if type ∈ [IFLA_HSR_MULTICAST_SPEC, IFLA_HSR_VERSION] then ⟨.u8, 0, 0⟩
  else if type = IFLA_HSR_SEQ_NR then ⟨.u16, 0, 0⟩
  else if type = IFLA_HSR_SUPERVISION_ADDR then ⟨.unspec, 6, 0⟩
  else ⟨.unspec, 0, 0⟩

def u8Of (payload : List UInt8) : UInt8 := payload.headD 0

/-- `nla_memcpy` to a zeroed array of six bytes -/
def nlaMemcpy (payload : List UInt8) : Vector UInt8 6 := Vector.ofFn fun i => payload.getD i 0

/-- one block of `hsr_parse`: if the attribute is there, its value is stored and its bit is set -/
def parseInto {β : Type} (attr : Option Nlattr) (flag : BitVec 32) (read : List UInt8 → β)
    (set : FullHsrInfo → β → FullHsrInfo) (vi : FullHsrInfo) : FullHsrInfo :=
  match attr with
  | none => vi
  | some nla =>
    let vi := set vi (read nla.payload)
    { vi with viMask := vi.viMask ||| flag }

/-- the blocks of `hsr_parse`; there is none for `IFLA_HSR_SEQ_NR` -/
def hsrRead (tb : AttrTable) : FullHsrInfo :=
  let vi := FullHsrInfo.zero
  let vi := parseInto (tb IFLA_HSR_SLAVE1) HSR_HAS_SLAVE1_ID u32Of
    (fun vi v => { vi with slave1Id := v }) vi
  let vi := parseInto (tb IFLA_HSR_SLAVE2) HSR_HAS_SLAVE2_ID u32Of
    (fun vi v => { vi with slave2Id := v }) vi
  let vi := parseInto (tb IFLA_HSR_VERSION) HSR_HAS_VERSION u8Of
    (fun vi v => { vi with viHsrVersion := v }) vi
  let vi := parseInto (tb IFLA_HSR_MULTICAST_SPEC) HSR_HAS_MULTICAST_SPEC u8Of
    (fun vi v => { vi with multicastSpec := v }) vi
  parseInto (tb IFLA_HSR_SUPERVISION_ADDR) HSR_HAS_SUPERVISION_ADDR nlaMemcpy
    (fun vi v => { vi with supervisionAddr := v }) vi

/-- `hsr_parse` of the nest `IFLA_INFO_DATA` -/
def hsrParse (data : Nlattr) : Except Int FullHsrInfo :=
  (nlaParse IFLA_HSR_MAX (some hsrPolicy) data.payload).map hsrRead

/-! ## writing -/

/-- one `NLA_PUT` of `hsr_put_attrs`, made if the bit is set -/
def putIf (present : Bool) (msg : NlMsg) (attrtype : Nat) (data : List UInt8) :
    Except NlMsg NlMsg :=
  if present then putAttr msg ⟨UInt16.ofNat attrtype, data⟩ else .ok msg

def hsrPutFields (vi : FullHsrInfo) (msg : NlMsg) : Except NlMsg NlMsg := do
  let msg ← putIf (vi.has HSR_HAS_SLAVE1_ID) msg IFLA_HSR_SLAVE1 (u32Bytes vi.slave1Id)
  let msg ← putIf (vi.has HSR_HAS_SLAVE2_ID) msg IFLA_HSR_SLAVE2 (u32Bytes vi.slave2Id)
  let msg ← putIf (vi.has HSR_HAS_VERSION) msg IFLA_HSR_VERSION [vi.viHsrVersion]
  let msg ← putIf (vi.has HSR_HAS_MULTICAST_SPEC) msg IFLA_HSR_MULTICAST_SPEC [vi.multicastSpec]
  let msg ← putIf (vi.has HSR_HAS_SEQ_NR) msg IFLA_HSR_SEQ_NR (u16Bytes vi.seqNr.toNat)
  putIf (vi.has HSR_HAS_SUPERVISION_ADDR) msg IFLA_HSR_SUPERVISION_ADDR vi.supervisionAddr.toList

/-- `hsr_put_attrs`; the label `nla_put_failure` stands before the same `return 0` -/
def hsrPutAttrs (msg : NlMsg) (vi : FullHsrInfo) : Int × NlMsg :=
  match nlaNestStart msg IFLA_INFO_DATA with
  | none => (-NLE_MSGSIZE, msg)
  | some (data, msg) =>
    match hsrPutFields vi msg with
    | .error msg => (0, msg)
    | .ok msg => (0, (nlaNestEnd msg data).2)

/-- `build_link_msg` from the call of `io_put_attrs` on, for an HSR link without a slave kind, a
list of VFs or data of address families; `info` is the open nest `IFLA_LINKINFO` -/
def buildLinkMsgFrom (msg : NlMsg) (info : Nat) (vi : FullHsrInfo) : Except Int NlMsg :=
  let (ret, msg) := hsrPutAttrs msg vi
  if ret < 0 then .error (-NLE_MSGSIZE)
  else
    let (_, msg) := nlaNestEnd msg info
    match nlaNestStart msg IFLA_AF_SPEC with
    | none => .error (-NLE_MSGSIZE)
    | some (afSpec, msg) => .ok (nlaNestEnd msg afSpec).2

/-- `build_link_msg` of such a link, on the message that `rtnl_link_fill_info` has left -/
def buildLinkMsg (msg : NlMsg) (vi : FullHsrInfo) : Except Int NlMsg :=
  match nlaNestStart msg IFLA_LINKINFO with
  | none => .error (-NLE_MSGSIZE)
  | some (info, msg) =>
    match putAttr msg ⟨IFLA_INFO_KIND, cs "hsr" ++ [0]⟩ with
    | .error _ => .error (-NLE_MSGSIZE)
    | .ok msg => buildLinkMsgFrom msg info vi

/-! ## what is written -/

/-- the attribute of a bit, if it is set -/
def attrIf (present : Bool) (attrtype : Nat) (data : List UInt8) : List Nlattr :=
  if present then [⟨UInt16.ofNat attrtype, data⟩] else []

/-- the attributes of the bits that are set -/
def hsrAttrs (vi : FullHsrInfo) : List Nlattr :=
  attrIf (vi.has HSR_HAS_SLAVE1_ID) IFLA_HSR_SLAVE1 (u32Bytes vi.slave1Id) ++
  attrIf (vi.has HSR_HAS_SLAVE2_ID) IFLA_HSR_SLAVE2 (u32Bytes vi.slave2Id) ++
  attrIf (vi.has HSR_HAS_VERSION) IFLA_HSR_VERSION [vi.viHsrVersion] ++
  attrIf (vi.has HSR_HAS_MULTICAST_SPEC) IFLA_HSR_MULTICAST_SPEC [vi.multicastSpec] ++
  attrIf (vi.has HSR_HAS_SEQ_NR) IFLA_HSR_SEQ_NR (u16Bytes vi.seqNr.toNat) ++
  attrIf (vi.has HSR_HAS_SUPERVISION_ADDR) IFLA_HSR_SUPERVISION_ADDR vi.supervisionAddr.toList

lemma putIf_eq (present : Bool) (msg : NlMsg) (attrtype : Nat) (data : List UInt8) :
    putIf present msg attrtype data = putAttrs msg (attrIf present attrtype data) := by
  cases present with
  | false => rfl
  | true =>
    rw [putIf, attrIf, if_pos rfl, if_pos rfl, putAttrs, List.foldlM_cons]
    exact (bind_pure _).symm

lemma putAttrs_append (msg : NlMsg) (as bs : List Nlattr) :
    putAttrs msg (as ++ bs) = (putAttrs msg as >>= fun msg => putAttrs msg bs) :=
  List.foldlM_append

lemma hsrPutFields_eq (vi : FullHsrInfo) (msg : NlMsg) :
    hsrPutFields vi msg = putAttrs msg (hsrAttrs vi) := by
  simp only [hsrPutFields, hsrAttrs, putIf_eq, putAttrs_append, bind_assoc]

/-! ## what a message is left as -/

/-- the nest with the attributes of the bits that are set; there is none without attributes -/
def hsrNest (vi : FullHsrInfo) : List UInt8 :=
  if hsrAttrs vi = [] then []
  else (Nlattr.mk (NLA_F_NESTED ||| IFLA_INFO_DATA) (encodeAttrs (hsrAttrs vi))).encode

/-- the message has room for the header of a nest -/
def NlMsg.RoomForNest (msg : NlMsg) : Prop := msg.tail + NLA_HDRLEN ≤ msg.nmSize

/-- and for the attributes of the bits that are set -/
def NlMsg.RoomFor (msg : NlMsg) (vi : FullHsrInfo) : Prop :=
  msg.tail + NLA_HDRLEN + (encodeAttrs (hsrAttrs vi)).length ≤ msg.nmSize

instance (msg : NlMsg) : Decidable msg.RoomForNest := inferInstanceAs (Decidable (_ ≤ _))

instance (msg : NlMsg) (vi : FullHsrInfo) : Decidable (msg.RoomFor vi) :=
  inferInstanceAs (Decidable (_ ≤ _))

lemma length_attrIf_le (present : Bool) (attrtype : Nat) {data : List UInt8}
    (h : data.length ≤ 6) : (encodeAttrs (attrIf present attrtype data)).length ≤ 12 := by
  cases present with
  | false => exact Nat.zero_le 12
  | true =>
    rw [attrIf, if_pos rfl, encodeAttrs, List.flatMap_cons, List.flatMap_nil, List.append_nil,
      length_encode]
    simp only [Nlattr.totalLen, NLA_HDRLEN, nlaAlign]
    omega

lemma encodeAttrs_append (as bs : List Nlattr) :
    encodeAttrs (as ++ bs) = encodeAttrs as ++ encodeAttrs bs :=
  List.flatMap_append

lemma length_hsrAttrs (vi : FullHsrInfo) : (encodeAttrs (hsrAttrs vi)).length < 2 ^ 16 - 4 := by
  have h1 := length_attrIf_le (vi.has HSR_HAS_SLAVE1_ID) IFLA_HSR_SLAVE1
    (show (u32Bytes vi.slave1Id).length ≤ 6 by simp [u32Bytes])
  have h2 := length_attrIf_le (vi.has HSR_HAS_SLAVE2_ID) IFLA_HSR_SLAVE2
    (show (u32Bytes vi.slave2Id).length ≤ 6 by simp [u32Bytes])
  have h3 := length_attrIf_le (vi.has HSR_HAS_VERSION) IFLA_HSR_VERSION
    (show [vi.viHsrVersion].length ≤ 6 by simp)
  have h4 := length_attrIf_le (vi.has HSR_HAS_MULTICAST_SPEC) IFLA_HSR_MULTICAST_SPEC
    (show [vi.multicastSpec].length ≤ 6 by simp)
  have h5 := length_attrIf_le (vi.has HSR_HAS_SEQ_NR) IFLA_HSR_SEQ_NR
    (show (u16Bytes vi.seqNr.toNat).length ≤ 6 by simp [u16Bytes])
  have h6 := length_attrIf_le (vi.has HSR_HAS_SUPERVISION_ADDR) IFLA_HSR_SUPERVISION_ADDR
    (show vi.supervisionAddr.toList.length ≤ 6 by simp)
  simp only [hsrAttrs, encodeAttrs_append, List.length_append]
  omega

section
variable {msg : NlMsg} {vi : FullHsrInfo}

/-- the message with the header of a nest -/
def NlMsg.openNest (msg : NlMsg) (attrtype : UInt16) : NlMsg :=
  { msg with buf := msg.aligned ++ nestHeader (NLA_F_NESTED ||| attrtype) }

lemma nlaNestStart_eq (msg : NlMsg) (attrtype : UInt16) :
    nlaNestStart msg attrtype =
      if msg.RoomForNest then some (msg.tail, msg.openNest attrtype) else none := by
  have hsize : nlaTotalSize ([] : List UInt8).length = NLA_HDRLEN := rfl
  rw [nlaNestStart, nlaPut, hsize]
  by_cases hroom : msg.RoomForNest
  · rw [if_pos hroom, if_neg (Nat.not_lt.mpr hroom)]
    rfl
  · rw [if_neg hroom, if_pos (Nat.not_le.mp hroom)]
    rfl

lemma length_openNest (msg : NlMsg) (attrtype : UInt16) :
    (msg.openNest attrtype).buf.length = msg.tail + NLA_HDRLEN := by
  rw [NlMsg.openNest, List.length_append, msg.length_aligned, nestHeader_eq]
  rfl

lemma aligned_openNest (msg : NlMsg) (attrtype : UInt16) : (msg.openNest attrtype).Aligned := by
  have htail := nlaAlign_mod msg.buf.length
  rw [NlMsg.Aligned, length_openNest, NlMsg.tail, NLA_HDRLEN]
  omega

theorem hsrPutAttrs_refused (h : ¬ msg.RoomForNest) :
    hsrPutAttrs msg vi = (-NLE_MSGSIZE, msg) := by
  rw [hsrPutAttrs, nlaNestStart_eq, if_neg h]

theorem hsrPutAttrs_fits (h : msg.RoomFor vi) :
    hsrPutAttrs msg vi = (0, { msg with buf := msg.aligned ++ hsrNest vi }) := by
  have hroom : msg.RoomForNest := Nat.le_trans (Nat.le_add_right _ _) h
  have hput := putAttrs_ok (hsrAttrs vi) (aligned_openNest msg IFLA_INFO_DATA) (by
    rw [length_openNest]
    exact h)
  have haligned : msg.aligned.length % 4 = 0 := by
    rw [msg.length_aligned]
    exact nlaAlign_mod _
  have hend := @nlaNestEnd_eq msg.nmSize msg.aligned haligned (NLA_F_NESTED ||| IFLA_INFO_DATA)
    (hsrAttrs vi) (length_hsrAttrs vi)
  rw [msg.length_aligned] at hend
  rw [hsrPutAttrs, nlaNestStart_eq, if_pos hroom]
  dsimp only
  rw [hsrPutFields_eq, hput]
  dsimp only
  rw [NlMsg.append, NlMsg.openNest, hend]
  rfl

/-- the nest fits, but not all attributes do: the code is zero -/
theorem hsrPutAttrs_stops (hroom : msg.RoomForNest) (h : ¬ msg.RoomFor vi) :
    (hsrPutAttrs msg vi).1 = 0 := by
  have hlen := length_openNest msg IFLA_INFO_DATA
  obtain ⟨msg', hput⟩ := putAttrs_error (hsrAttrs vi) (aligned_openNest msg IFLA_INFO_DATA)
    (by rw [hlen]; exact hroom) (by rw [hlen]; exact h)
  rw [hsrPutAttrs, nlaNestStart_eq, if_pos hroom]
  dsimp only
  rw [hsrPutFields_eq, hput]

end

end Nl
