import ConfdbHsr.Libnl.Attr

/-!
# Building messages

`lib/attr.c`: attributes are appended to a message whose buffer has a fixed size.

* `NlMsg`        a message under construction;
* `nlaPut`       `nla_put`: it refuses what does not fit and leaves the message as it was;
* `nlaNestStart`, `nlaNestEnd`   a nest is opened as an empty attribute; when it is closed its
                 length is set to what was put since, or it is taken out again if that is nothing;
* `putAttrs`     several attributes, up to the first that does not fit;
* `putAttrs_ok`, `putAttrs_error`   which is none iff there is room for all of them;
* `nlaNestEnd_eq`   a closed nest is the attribute whose payload are the attributes put into it.
-/

namespace Nl

def NLE_MSGSIZE : Int := 9
def NLE_ATTRSIZE : Int := 34
def NLA_F_NESTED : UInt16 := 0x8000

/-- a message: the size of its buffer, and its bytes up to `nlmsg_len` -/
structure NlMsg where
  nmSize : Nat
  buf : List UInt8
  deriving DecidableEq, Repr

/-- the offset of `nlmsg_tail` -/
def NlMsg.tail (msg : NlMsg) : Nat := nlaAlign msg.buf.length

/-- the bytes up to the tail; the buffer is zeroed when it is allocated -/
def NlMsg.aligned (msg : NlMsg) : List UInt8 :=
  msg.buf ++ List.replicate (msg.tail - msg.buf.length) 0

/-- `nla_total_size` -/
def nlaTotalSize (payload : Nat) : Nat := nlaAlign (NLA_HDRLEN + payload)

/-- `nla_put`, with `nla_reserve` -/
def nlaPut (msg : NlMsg) (attrtype : UInt16) (data : List UInt8) : Int × NlMsg :=
  let tlen := msg.tail + nlaTotalSize data.length
  if tlen > msg.nmSize then (-NLE_NOMEM, msg)
  else (0, { msg with buf := msg.aligned ++ (Nlattr.mk attrtype data).encode })

/-- `nla_nest_start`: the offset of the nest -/
def nlaNestStart (msg : NlMsg) (attrtype : UInt16) : Option (Nat × NlMsg) :=
  let start := msg.tail
  let (ret, msg) := nlaPut msg (NLA_F_NESTED ||| attrtype) []
  if ret < 0 then none else some (start, msg)

/-- `nla_nest_cancel` -/
def nlaNestCancel (msg : NlMsg) (start : Nat) : NlMsg :=
  { msg with buf := msg.buf.take (msg.buf.length - (msg.tail - start)) }

/-- `nla_nest_end`; the padding at its end always fits -/
def nlaNestEnd (msg : NlMsg) (start : Nat) : Int × NlMsg :=
  let len := msg.tail - start
  if len > 0xFFFF ∨ len = NLA_HDRLEN then
    (if len = NLA_HDRLEN then 0 else -NLE_ATTRSIZE, nlaNestCancel msg start)
  else
    (0, { msg with
      buf := msg.aligned.take start ++ u16Bytes len ++ msg.aligned.drop (start + 2) })

/-- `NLA_PUT`: an error is `goto nla_put_failure`, with the message as it is then -/
def putAttr (msg : NlMsg) (nla : Nlattr) : Except NlMsg NlMsg :=
  let (ret, msg) := nlaPut msg nla.nlaType nla.payload
  if ret < 0 then .error msg else .ok msg

def putAttrs (msg : NlMsg) (attrs : List Nlattr) : Except NlMsg NlMsg := attrs.foldlM putAttr msg

/-! ## what fits -/

/-- the length of the message is a multiple of the alignment -/
def NlMsg.Aligned (msg : NlMsg) : Prop := msg.buf.length % 4 = 0

lemma nlaAlign_of_dvd {n : Nat} (h : n % 4 = 0) : nlaAlign n = n := by
  unfold nlaAlign
  omega

lemma nlaAlign_mod (n : Nat) : nlaAlign n % 4 = 0 := by
  unfold nlaAlign
  omega

lemma nlaTotalSize_eq (nla : Nlattr) : nlaTotalSize nla.payload.length = nla.encode.length :=
  (length_encode nla).symm

section
variable {msg : NlMsg}

lemma NlMsg.length_aligned (msg : NlMsg) : msg.aligned.length = msg.tail := by
  have h := le_nlaAlign msg.buf.length
  rw [NlMsg.aligned, List.length_append, List.length_replicate, NlMsg.tail]
  omega

lemma NlMsg.Aligned.tail_eq (h : msg.Aligned) : msg.tail = msg.buf.length := nlaAlign_of_dvd h

lemma NlMsg.Aligned.aligned_eq (h : msg.Aligned) : msg.aligned = msg.buf := by
  rw [NlMsg.aligned, h.tail_eq, Nat.sub_self, List.replicate_zero, List.append_nil]

lemma length_encodeAttrs_mod (attrs : List Nlattr) : (encodeAttrs attrs).length % 4 = 0 := by
  induction attrs with
  | nil => rfl
  | cons nla attrs ih =>
    have hnla := nlaAlign_mod nla.totalLen
    rw [encodeAttrs, List.flatMap_cons, List.length_append, length_encode]
    rw [encodeAttrs] at ih
    omega

lemma putAttr_ok (nla : Nlattr) (h : msg.tail + nla.encode.length ≤ msg.nmSize) :
    putAttr msg nla = .ok { msg with buf := msg.aligned ++ nla.encode } := by
  rw [putAttr, nlaPut, nlaTotalSize_eq, if_neg (Nat.not_lt.mpr h)]
  rfl

lemma putAttr_error (nla : Nlattr) (h : ¬ msg.tail + nla.encode.length ≤ msg.nmSize) :
    putAttr msg nla = .error msg := by
  rw [putAttr, nlaPut, nlaTotalSize_eq, if_pos (Nat.not_le.mp h)]
  rfl

/-- the message with more attributes -/
def NlMsg.append (msg : NlMsg) (attrs : List Nlattr) : NlMsg :=
  { msg with buf := msg.buf ++ encodeAttrs attrs }

lemma NlMsg.Aligned.append (h : msg.Aligned) (attrs : List Nlattr) : (msg.append attrs).Aligned := by
  have hattrs := length_encodeAttrs_mod attrs
  rw [NlMsg.Aligned, NlMsg.append, List.length_append]
  rw [NlMsg.Aligned] at h
  omega

lemma putAttr_append (h : msg.Aligned) (nla : Nlattr)
    (hfit : msg.buf.length + nla.encode.length ≤ msg.nmSize) :
    putAttr msg nla = .ok (msg.append [nla]) := by
  rw [putAttr_ok nla (by rw [h.tail_eq]; exact hfit), h.aligned_eq, NlMsg.append]
  simp [encodeAttrs]

theorem putAttrs_ok (attrs : List Nlattr) (h : msg.Aligned)
    (hfit : msg.buf.length + (encodeAttrs attrs).length ≤ msg.nmSize) :
    putAttrs msg attrs = .ok (msg.append attrs) := by
  induction attrs generalizing msg with
  | nil => simp [putAttrs, NlMsg.append, encodeAttrs, pure, Except.pure]
  | cons nla attrs ih =>
    rw [encodeAttrs, List.flatMap_cons, List.length_append] at hfit
    have hput := putAttr_append h nla (by omega)
    have hrest := ih (h.append [nla]) (by
      simp only [NlMsg.append, encodeAttrs, List.flatMap_cons, List.flatMap_nil,
        List.append_nil, List.length_append]
      omega)
    rw [putAttrs, List.foldlM_cons, hput]
    show putAttrs (msg.append [nla]) attrs = _
    rw [hrest]
    simp [NlMsg.append, encodeAttrs]

theorem putAttrs_error (attrs : List Nlattr) (h : msg.Aligned) (hmsg : msg.buf.length ≤ msg.nmSize)
    (hfit : ¬ msg.buf.length + (encodeAttrs attrs).length ≤ msg.nmSize) :
    ∃ msg', putAttrs msg attrs = .error msg' := by
  induction attrs generalizing msg with
  | nil => exact absurd hmsg hfit
  | cons nla attrs ih =>
    rw [encodeAttrs, List.flatMap_cons, List.length_append] at hfit
    rw [putAttrs, List.foldlM_cons]
    by_cases hnla : msg.buf.length + nla.encode.length ≤ msg.nmSize
    · have hlen : (msg.append [nla]).buf.length = msg.buf.length + nla.encode.length := by
        simp [NlMsg.append, encodeAttrs]
      rw [putAttr_append h nla hnla]
      refine ih (h.append [nla]) ?_ ?_
      · rw [hlen]
        exact hnla
      · rw [hlen, encodeAttrs]
        show ¬ _ ≤ msg.nmSize
        omega
    · rw [putAttr_error nla (by rw [h.tail_eq]; exact hnla)]
      exact ⟨msg, rfl⟩

end

/-! ## nests -/

/-- the header of a nest as it is opened -/
def nestHeader (attrtype : UInt16) : List UInt8 := (Nlattr.mk attrtype []).encode

lemma nestHeader_eq (attrtype : UInt16) :
    nestHeader attrtype = u16Bytes 4 ++ u16Bytes attrtype.toNat := by
  have hpad : nlaAlign 4 - 4 = 0 := rfl
  show u16Bytes 4 ++ u16Bytes attrtype.toNat ++ [] ++ List.replicate (nlaAlign 4 - 4) 0 = _
  rw [hpad, List.replicate_zero, List.append_nil, List.append_nil]

/-- **A nest that is closed** is an attribute with what was put into it; one with nothing in it is
taken out. -/
theorem nlaNestEnd_eq {size : Nat} {pre : List UInt8} (hpre : pre.length % 4 = 0)
    (attrtype : UInt16) (attrs : List Nlattr) (hlen : (encodeAttrs attrs).length < 2 ^ 16 - 4) :
    nlaNestEnd ⟨size, pre ++ nestHeader attrtype ++ encodeAttrs attrs⟩ pre.length =
      (0, ⟨size, pre ++
        if attrs = [] then [] else (Nlattr.mk attrtype (encodeAttrs attrs)).encode⟩) := by
  have hmod := length_encodeAttrs_mod attrs
  have hhead : (nestHeader attrtype).length = 4 := by
    rw [nestHeader_eq]
    rfl
  have hall : (pre ++ nestHeader attrtype ++ encodeAttrs attrs).length =
      pre.length + (4 + (encodeAttrs attrs).length) := by
    rw [List.length_append, List.length_append, hhead]
    omega
  have haligned : NlMsg.Aligned ⟨size, pre ++ nestHeader attrtype ++ encodeAttrs attrs⟩ := by
    rw [NlMsg.Aligned, hall]
    omega
  have htail := haligned.tail_eq
  rw [hall] at htail
  rw [nlaNestEnd, htail, haligned.aligned_eq, Nat.add_sub_cancel_left]
  by_cases hattrs : attrs = []
  · subst hattrs
    have hempty : 4 + (encodeAttrs []).length = NLA_HDRLEN := rfl
    have htake : (pre ++ nestHeader attrtype ++ encodeAttrs []).take (pre.length + 4 - 4) = pre := by
      rw [Nat.add_sub_cancel, List.append_assoc, List.take_left' rfl]
    rw [if_pos (.inr hempty), if_pos hempty, if_pos rfl, List.append_nil, nlaNestCancel, htail,
      hall, hempty, NLA_HDRLEN, Nat.add_sub_cancel_left, htake]
  · have hpos : attrs.length ≤ (encodeAttrs attrs).length := length_encodeAttrs attrs
    have hne : attrs.length ≠ 0 := fun h => hattrs (List.length_eq_zero_iff.mp h)
    have htotal : (Nlattr.mk attrtype (encodeAttrs attrs)).totalLen =
        4 + (encodeAttrs attrs).length := rfl
    have htake : (pre ++ nestHeader attrtype ++ encodeAttrs attrs).take pre.length = pre := by
      rw [List.append_assoc, List.take_left' rfl]
    have hdrop : (pre ++ nestHeader attrtype ++ encodeAttrs attrs).drop (pre.length + 2) =
        u16Bytes attrtype.toNat ++ encodeAttrs attrs := by
      have htwo : (u16Bytes 4).length = 2 := rfl
      rw [List.append_assoc, ← List.drop_drop, List.drop_left, nestHeader_eq, List.append_assoc]
      exact List.drop_left' htwo
    rw [if_neg (by simp only [NLA_HDRLEN]; omega), if_neg hattrs, Nlattr.encode, htotal,
      nlaAlign_of_dvd (by omega), Nat.sub_self, List.replicate_zero, List.append_nil, htake, hdrop]
    simp only [List.append_assoc]

end Nl
