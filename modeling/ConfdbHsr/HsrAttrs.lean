import ConfdbHsr.Libnl.HsrLink

/-!
# The parameters of an HSR link are written and read back

* `PutsWhole`          `hsr_put_attrs` writes all attributes or says that it did not, and
                       `build_link_msg` hears of it;
* `puts_whole_iff`     it does unless there is room for the nest and not for all attributes;
* `SameInfo`           two infos have the same bits, and the same values where these are set;
* `hsrParse_nest`      what the parser reads of a nest that was written;
* `round_trip_iff`     the info itself, iff it has no sequence number.
-/

namespace Nl

/-! ## a message that is too short -/

/-- a code of zero means that the nest holds the attributes of all bits, and no more; if they do
not fit, the code is negative and the message is not built -/
structure PutsWhole (msg : NlMsg) (vi : FullHsrInfo) : Prop where
  whole : (hsrPutAttrs msg vi).1 = 0 →
    (hsrPutAttrs msg vi).2 = { msg with buf := msg.aligned ++ hsrNest vi }
  refused : ¬ msg.RoomFor vi → (hsrPutAttrs msg vi).1 < 0
  fails : ¬ msg.RoomFor vi → ∀ info, buildLinkMsgFrom msg info vi = .error (-NLE_MSGSIZE)

/-- **All attributes are written, or the caller hears that they are not, unless there is room for
the nest and not for all attributes.** -/
theorem puts_whole_iff (msg : NlMsg) (vi : FullHsrInfo) :
    PutsWhole msg vi ↔ msg.RoomFor vi ∨ ¬ msg.RoomForNest := by
  constructor
  · intro h
    by_contra hroom
    rw [not_or, not_not] at hroom
    have hzero := hsrPutAttrs_stops hroom.2 hroom.1
    have hneg := h.refused hroom.1
    omega
  · rintro (hroom | hroom)
    · refine ⟨fun _ => ?_, fun h => absurd hroom h, fun h => absurd hroom h⟩
      rw [hsrPutAttrs_fits hroom]
    · have hput := @hsrPutAttrs_refused msg vi hroom
      refine ⟨fun hzero => ?_, fun _ => ?_, fun _ info => ?_⟩
      · rw [hput] at hzero
        cases hzero
      · rw [hput]
        show -NLE_MSGSIZE < 0
        decide
      · rw [buildLinkMsgFrom, hput]
        rfl

/-- an info with two ports, and a message with room for one of them -/
def twoPorts : FullHsrInfo :=
  { FullHsrInfo.zero with
    slave1Id := 2
    slave2Id := 3
    viMask := HSR_HAS_SLAVE1_ID ||| HSR_HAS_SLAVE2_ID }

/-- the second port does not fit: the code is zero, and the message is built without it, with a
nest that was never closed -/
theorem second_port_cut :
    ¬ PutsWhole ⟨60, List.replicate 44 0⟩ twoPorts ∧
      hsrPutAttrs ⟨60, List.replicate 44 0⟩ twoPorts =
        (0, ⟨60, List.replicate 44 0 ++ [4, 0, 2, 128, 8, 0, 1, 0, 2, 0, 0, 0]⟩) ∧
      ∃ msg, buildLinkMsg ⟨60, List.replicate 32 0⟩ twoPorts = .ok msg := by
  refine ⟨?_, by decide, ⟨60, List.replicate 32 0 ++ [24, 0, 18, 128, 8, 0, 1, 0, 104, 115, 114, 0,
    4, 0, 2, 128, 8, 0, 1, 0, 2, 0, 0, 0]⟩, by decide⟩
  intro h
  have hneg := h.refused (by decide)
  revert hneg
  decide

/-! ## reading the nest -/

/-- the same bits, and the same value in every field whose bit is set -/
structure SameInfo (vi vi' : FullHsrInfo) : Prop where
  mask : vi'.viMask = vi.viMask
  slave1 : vi.has HSR_HAS_SLAVE1_ID = true → vi'.slave1Id = vi.slave1Id
  slave2 : vi.has HSR_HAS_SLAVE2_ID = true → vi'.slave2Id = vi.slave2Id
  version : vi.has HSR_HAS_VERSION = true → vi'.viHsrVersion = vi.viHsrVersion
  multicastSpec : vi.has HSR_HAS_MULTICAST_SPEC = true → vi'.multicastSpec = vi.multicastSpec
  seqNr : vi.has HSR_HAS_SEQ_NR = true → vi'.seqNr = vi.seqNr
  supervisionAddr :
    vi.has HSR_HAS_SUPERVISION_ADDR = true → vi'.supervisionAddr = vi.supervisionAddr

/-- the info that `hsr_parse` reads from the nest which `hsr_put_attrs` has appended to a message,
or the fresh one if it has appended none -/
def readBack (msg msg' : NlMsg) : Except Int FullHsrInfo :=
  match nlaAt (msg'.buf.drop msg.tail) with
  | some data => hsrParse data
  | none => .ok FullHsrInfo.zero

lemma hsrAttr_type {t : Nat} (ht : t ≤ IFLA_HSR_MAX) (data : List UInt8) :
    (Nlattr.mk (UInt16.ofNat t) data).type = t := by
  have hall : ∀ t ≤ IFLA_HSR_MAX, (UInt16.ofNat t &&& NLA_TYPE_MASK).toNat = t := by decide
  exact hall t ht

lemma hsrAttr_ok {t n : Nat} {data : List UInt8} (ht : t ≤ IFLA_HSR_MAX) (hlen : data.length = n)
    (hmin : (if (hsrPolicy t).minlen ≠ 0 then (hsrPolicy t).minlen
      else (hsrPolicy t).kind.minlen) ≤ n) (hmax : n ≤ 6) :
    (Nlattr.mk (UInt16.ofNat t) data).Fits ∧
      0 ≤ validateNla (Nlattr.mk (UInt16.ofNat t) data) IFLA_HSR_MAX hsrPolicy := by
  have hpolicy : ∀ t ≤ IFLA_HSR_MAX, (hsrPolicy t).kind ≠ .string ∧ (hsrPolicy t).maxlen = 0 := by
    decide
  obtain ⟨hkind, hmaxlen⟩ := hpolicy t ht
  constructor
  · show NLA_HDRLEN + data.length < 2 ^ 16
    rw [NLA_HDRLEN]
    omega
  · have hlen' : (Nlattr.mk (UInt16.ofNat t) data).len = n := hlen
    have hzero : validateNla (Nlattr.mk (UInt16.ofNat t) data) IFLA_HSR_MAX hsrPolicy = 0 := by
      rw [validateNla, hsrAttr_type ht, if_neg (Nat.not_lt.mpr ht)]
      dsimp only
      rw [hlen', if_neg (Nat.not_lt.mpr hmin), if_neg (fun h => h.1 hmaxlen),
        if_neg (fun h => hkind h.1)]
    exact Int.le_of_eq hzero.symm

lemma attrIf_ok {present : Bool} {t n : Nat} {data : List UInt8} {nla : Nlattr}
    (hlen : data.length = n) (ht : t ≤ IFLA_HSR_MAX)
    (hmin : (if (hsrPolicy t).minlen ≠ 0 then (hsrPolicy t).minlen
      else (hsrPolicy t).kind.minlen) ≤ n) (hmax : n ≤ 6) (h : nla ∈ attrIf present t data) :
    nla.Fits ∧ 0 ≤ validateNla nla IFLA_HSR_MAX hsrPolicy := by
  cases present with
  | false => cases h
  | true =>
    rw [List.mem_singleton.mp h]
    exact hsrAttr_ok ht hlen hmin hmax

lemma hsrAttrs_ok {vi : FullHsrInfo} {nla : Nlattr} (h : nla ∈ hsrAttrs vi) :
    nla.Fits ∧ 0 ≤ validateNla nla IFLA_HSR_MAX hsrPolicy := by
  simp only [hsrAttrs, List.mem_append] at h
  rcases h with ((((h | h) | h) | h) | h) | h
  · exact attrIf_ok (n := 4) rfl (by decide) (by decide) (by decide) h
  · exact attrIf_ok (n := 4) rfl (by decide) (by decide) (by decide) h
  · exact attrIf_ok (n := 1) rfl (by decide) (by decide) (by decide) h
  · exact attrIf_ok (n := 1) rfl (by decide) (by decide) (by decide) h
  · exact attrIf_ok (n := 2) rfl (by decide) (by decide) (by decide) h
  · exact attrIf_ok (n := 6) Vector.length_toList (by decide) (by decide) (by decide) h

/-- the last attribute of a type, when a conditional one is added behind -/
lemma lastOfType_attrIf (attrs : List Nlattr) (present : Bool) {s : Nat} (hs : s ≤ IFLA_HSR_MAX)
    (data : List UInt8) (t : Nat) :
    lastOfType (attrs ++ attrIf present s data) t =
      if s = t ∧ present = true then some ⟨UInt16.ofNat s, data⟩ else lastOfType attrs t := by
  rw [lastOfType, List.foldl_append]
  cases present with
  | false => simp [attrIf, lastOfType]
  | true => simp [attrIf, hsrAttr_type hs, lastOfType]

/-- what the parser finds in the table of a nest that was written -/
lemma lastOfType_hsrAttrs (vi : FullHsrInfo) :
    lastOfType (hsrAttrs vi) IFLA_HSR_SLAVE1 =
        (if vi.has HSR_HAS_SLAVE1_ID then some ⟨1, u32Bytes vi.slave1Id⟩ else none) ∧
      lastOfType (hsrAttrs vi) IFLA_HSR_SLAVE2 =
        (if vi.has HSR_HAS_SLAVE2_ID then some ⟨2, u32Bytes vi.slave2Id⟩ else none) ∧
      lastOfType (hsrAttrs vi) IFLA_HSR_VERSION =
        (if vi.has HSR_HAS_VERSION then some ⟨6, [vi.viHsrVersion]⟩ else none) ∧
      lastOfType (hsrAttrs vi) IFLA_HSR_MULTICAST_SPEC =
        (if vi.has HSR_HAS_MULTICAST_SPEC then some ⟨3, [vi.multicastSpec]⟩ else none) ∧
      lastOfType (hsrAttrs vi) IFLA_HSR_SUPERVISION_ADDR =
        (if vi.has HSR_HAS_SUPERVISION_ADDR then some ⟨4, vi.supervisionAddr.toList⟩ else none) := by
  have hfirst : attrIf (vi.has HSR_HAS_SLAVE1_ID) IFLA_HSR_SLAVE1 (u32Bytes vi.slave1Id) =
      [] ++ attrIf (vi.has HSR_HAS_SLAVE1_ID) IFLA_HSR_SLAVE1 (u32Bytes vi.slave1Id) := rfl
  have hnil : ∀ t, lastOfType [] t = none := fun _ => rfl
  rw [hsrAttrs, hfirst]
  refine ⟨?_, ?_, ?_, ?_, ?_⟩
  all_goals
    simp (disch := decide) only [lastOfType_attrIf, hnil]
    simp [IFLA_HSR_SLAVE1, IFLA_HSR_SLAVE2, IFLA_HSR_VERSION, IFLA_HSR_MULTICAST_SPEC,
      IFLA_HSR_SEQ_NR, IFLA_HSR_SUPERVISION_ADDR]

/-- the bit of an attribute that the parser knows -/
def flagIf (present : Bool) (flag : BitVec 32) : BitVec 32 := if present then flag else 0

lemma parseInto_eq {β : Type} (present : Bool) (nla : Nlattr) (flag : BitVec 32)
    (read : List UInt8 → β) (set : FullHsrInfo → β → FullHsrInfo) (get : FullHsrInfo → β)
    (hset : ∀ vi, set vi (get vi) = vi) (vi : FullHsrInfo) :
    parseInto (if present then some nla else none) flag read set vi =
      let vi' := set vi (if present then read nla.payload else get vi)
      { vi' with viMask := vi'.viMask ||| flagIf present flag } := by
  cases present with
  | false =>
    show vi = { set vi (get vi) with viMask := (set vi (get vi)).viMask ||| 0 }
    rw [hset]
    show vi = { vi with viMask := vi.viMask ||| 0#32 }
    rw [BitVec.or_zero]
  | true => rfl

/-- what the parser keeps of an info: everything but the sequence number -/
def parsedInfo (vi : FullHsrInfo) : FullHsrInfo where
  slave1Id := if vi.has HSR_HAS_SLAVE1_ID then vi.slave1Id else 0
  slave2Id := if vi.has HSR_HAS_SLAVE2_ID then vi.slave2Id else 0
  viHsrVersion := if vi.has HSR_HAS_VERSION then vi.viHsrVersion else 0
  multicastSpec := if vi.has HSR_HAS_MULTICAST_SPEC then vi.multicastSpec else 0
  supervisionAddr :=
    if vi.has HSR_HAS_SUPERVISION_ADDR then vi.supervisionAddr else Vector.replicate 6 0
  seqNr := 0
  viMask := flagIf (vi.has HSR_HAS_SLAVE1_ID) HSR_HAS_SLAVE1_ID |||
    flagIf (vi.has HSR_HAS_SLAVE2_ID) HSR_HAS_SLAVE2_ID |||
    flagIf (vi.has HSR_HAS_VERSION) HSR_HAS_VERSION |||
    flagIf (vi.has HSR_HAS_MULTICAST_SPEC) HSR_HAS_MULTICAST_SPEC |||
    flagIf (vi.has HSR_HAS_SUPERVISION_ADDR) HSR_HAS_SUPERVISION_ADDR

lemma nlaMemcpy_toList (addr : Vector UInt8 6) : nlaMemcpy addr.toList = addr := by
  apply Vector.ext
  intro i hi
  have hlen : i < addr.toList.length := by rw [Vector.length_toList]; exact hi
  rw [nlaMemcpy, Vector.getElem_ofFn, List.getD_eq_getElem?_getD, List.getElem?_eq_getElem hlen,
    Option.getD_some, Vector.getElem_toList]

/-- **The parser reads back a nest that was written**, without the sequence number. -/
theorem hsrParse_nest (vi : FullHsrInfo) (attrtype : UInt16) :
    hsrParse ⟨attrtype, encodeAttrs (hsrAttrs vi)⟩ = .ok (parsedInfo vi) := by
  have hfits : ∀ nla ∈ hsrAttrs vi, nla.Fits := fun _ h => (hsrAttrs_ok h).1
  have hvalid : ∀ nla ∈ hsrAttrs vi, 0 ≤ validateNla nla IFLA_HSR_MAX hsrPolicy :=
    fun _ h => (hsrAttrs_ok h).2
  obtain ⟨tb, hparse, htb⟩ := nlaParse_encode hfits hvalid
  obtain ⟨h1, h2, h3, h4, h5⟩ := lastOfType_hsrAttrs vi
  rw [hsrParse, hparse]
  show Except.ok (hsrRead tb) = _
  refine congrArg Except.ok ?_
  rw [hsrRead, htb _ (by decide), htb _ (by decide), htb _ (by decide), htb _ (by decide),
    htb _ (by decide), h1, h2, h3, h4, h5]
  -- from the last block to the first
  rw [parseInto_eq _ _ _ _ _ (fun vi => vi.supervisionAddr) (fun _ => rfl),
    parseInto_eq _ _ _ _ _ (fun vi => vi.multicastSpec) (fun _ => rfl),
    parseInto_eq _ _ _ _ _ (fun vi => vi.viHsrVersion) (fun _ => rfl),
    parseInto_eq _ _ _ _ _ (fun vi => vi.slave2Id) (fun _ => rfl),
    parseInto_eq _ _ _ _ _ (fun vi => vi.slave1Id) (fun _ => rfl)]
  dsimp only
  rw [u32Of_bytes, u32Of_bytes, nlaMemcpy_toList]
  have hzero : FullHsrInfo.zero.viMask = 0#32 := rfl
  rw [hzero, BitVec.zero_or]
  rfl

/-! ## the round trip -/

/-- the bits that an info can have -/
def hsrBits : BitVec 32 :=
  HSR_HAS_MULTICAST_SPEC ||| HSR_HAS_SLAVE1_ID ||| HSR_HAS_SLAVE2_ID ||| HSR_HAS_VERSION |||
    HSR_HAS_SEQ_NR ||| HSR_HAS_SUPERVISION_ADDR

/-- the bits that the parser knows -/
def parsedBits : BitVec 32 :=
  HSR_HAS_SLAVE1_ID ||| HSR_HAS_SLAVE2_ID ||| HSR_HAS_VERSION ||| HSR_HAS_MULTICAST_SPEC |||
    HSR_HAS_SUPERVISION_ADDR

lemma flagIf_has (vi : FullHsrInfo) (n : Nat) :
    flagIf (vi.has (BitVec.twoPow 32 n)) (BitVec.twoPow 32 n) =
      vi.viMask &&& BitVec.twoPow 32 n := by
  rw [FullHsrInfo.has, flagIf]
  split
  · rename_i h
    rw [BitVec.and_twoPow] at h ⊢
    split
    · rfl
    · rename_i hbit
      rw [if_neg hbit] at h
      simp at h
  · rename_i h
    have hzero : vi.viMask &&& BitVec.twoPow 32 n = 0#32 := by simpa using h
    exact hzero.symm

lemma parsedInfo_mask (vi : FullHsrInfo) : (parsedInfo vi).viMask = vi.viMask &&& parsedBits := by
  have h0 : HSR_HAS_MULTICAST_SPEC = BitVec.twoPow 32 0 := by decide
  have h1 : HSR_HAS_SLAVE1_ID = BitVec.twoPow 32 1 := by decide
  have h2 : HSR_HAS_SLAVE2_ID = BitVec.twoPow 32 2 := by decide
  have h3 : HSR_HAS_VERSION = BitVec.twoPow 32 3 := by decide
  have h5 : HSR_HAS_SUPERVISION_ADDR = BitVec.twoPow 32 5 := by decide
  simp only [parsedInfo, parsedBits, h0, h1, h2, h3, h5, flagIf_has, BitVec.and_or_distrib_left]

lemma parsedInfo_mask_iff {vi : FullHsrInfo} (hmask : vi.viMask &&& hsrBits = vi.viMask) :
    (parsedInfo vi).viMask = vi.viMask ↔ vi.has HSR_HAS_SEQ_NR = false := by
  have hbits : hsrBits = parsedBits ||| HSR_HAS_SEQ_NR := by decide
  have hseq : vi.has HSR_HAS_SEQ_NR = false ↔ vi.viMask &&& HSR_HAS_SEQ_NR = 0 := by
    simp [FullHsrInfo.has]
  rw [parsedInfo_mask, hseq]
  constructor
  · intro h
    have hnone : parsedBits &&& HSR_HAS_SEQ_NR = 0#32 := by decide
    rw [← h, BitVec.and_assoc, hnone]
    exact BitVec.and_zero
  · intro h
    rw [hbits, BitVec.and_or_distrib_left, h] at hmask
    exact BitVec.or_zero.symm.trans hmask

/-- what is read back of an info that was written to a message with room for it -/
theorem readBack_eq {msg : NlMsg} {vi : FullHsrInfo} (hroom : msg.RoomFor vi) :
    readBack msg (hsrPutAttrs msg vi).2 = .ok (parsedInfo vi) := by
  have hdrop : (msg.aligned ++ hsrNest vi).drop msg.tail = hsrNest vi :=
    List.drop_left' msg.length_aligned
  rw [hsrPutAttrs_fits hroom, readBack, hdrop, hsrNest]
  have hparse := hsrParse_nest vi (NLA_F_NESTED ||| IFLA_INFO_DATA)
  by_cases hattrs : hsrAttrs vi = []
  · rw [hattrs] at hparse
    rw [if_pos hattrs]
    exact hparse
  · have hfits : (Nlattr.mk (NLA_F_NESTED ||| IFLA_INFO_DATA) (encodeAttrs (hsrAttrs vi))).Fits := by
      have hlen := length_hsrAttrs vi
      show NLA_HDRLEN + (encodeAttrs (hsrAttrs vi)).length < 2 ^ 16
      rw [NLA_HDRLEN]
      omega
    have hat := nlaAt_encode hfits []
    rw [List.append_nil] at hat
    rw [if_neg hattrs, hat]
    exact hparse

/-- **An info that is written to a message with room for it is read back iff it has no sequence
number.** -/
theorem round_trip_iff (msg : NlMsg) (vi : FullHsrInfo) (hroom : msg.RoomFor vi)
    (hmask : vi.viMask &&& hsrBits = vi.viMask) :
    (∃ vi', readBack msg (hsrPutAttrs msg vi).2 = .ok vi' ∧ SameInfo vi vi') ↔
      vi.has HSR_HAS_SEQ_NR = false := by
  rw [readBack_eq hroom]
  constructor
  · rintro ⟨vi', hvi', hsame⟩
    obtain rfl := Except.ok.inj hvi'
    exact (parsedInfo_mask_iff hmask).mp hsame.mask
  · intro hseq
    refine ⟨parsedInfo vi, rfl, (parsedInfo_mask_iff hmask).mpr hseq, fun h => if_pos h,
      fun h => if_pos h, fun h => if_pos h, fun h => if_pos h, fun h => ?_, fun h => if_pos h⟩
    rw [hseq] at h
    cases h

/-- an info with ports, a version and a supervision address, in a message of a page -/
theorem round_trip_ports :
    ∃ vi', readBack ⟨4096, List.replicate 44 0⟩ (hsrPutAttrs ⟨4096, List.replicate 44 0⟩
        { twoPorts with viMask := twoPorts.viMask ||| HSR_HAS_SUPERVISION_ADDR }).2 = .ok vi' ∧
      SameInfo { twoPorts with viMask := twoPorts.viMask ||| HSR_HAS_SUPERVISION_ADDR } vi' :=
  (round_trip_iff _ _ (by decide) (by decide)).mpr (by decide)

/-- a sequence number that is written is not read -/
theorem round_trip_sequence_number :
    ¬ ∃ vi', readBack ⟨4096, List.replicate 44 0⟩ (hsrPutAttrs ⟨4096, List.replicate 44 0⟩
        { FullHsrInfo.zero with seqNr := 7, viMask := HSR_HAS_SEQ_NR }).2 = .ok vi' ∧
      SameInfo { FullHsrInfo.zero with seqNr := 7, viMask := HSR_HAS_SEQ_NR } vi' := by
  have hroom : NlMsg.RoomFor ⟨4096, List.replicate 44 0⟩
      { FullHsrInfo.zero with seqNr := 7, viMask := HSR_HAS_SEQ_NR } := by decide
  rintro ⟨vi', hvi', hsame⟩
  rw [readBack_eq hroom] at hvi'
  obtain rfl := Except.ok.inj hvi'
  have hmask := hsame.mask
  revert hmask
  decide

end Nl
