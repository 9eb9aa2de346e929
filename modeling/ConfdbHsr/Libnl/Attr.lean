import ConfdbHsr.Lib.Proc
import ConfdbHsr.Libnl.Object
import Mathlib.Algebra.Group.Nat.Defs
import Mathlib.Data.List.Induction
import Mathlib.Logic.Function.Basic

/-!
# Netlink attributes

`lib/attr.c`: a message carries a stream of attributes, each with a header of two 16-bit words
(length and type, little endian), its payload, and padding to a multiple of four bytes.

* `nlattrs`          the attributes that `nla_for_each_attr` visits;
* `nlaParse`         `nla_parse`: the table of the attributes by type, validated by a policy;
* `nlaParseLoop_met`, `nlaParseLoop_error`   what a table holds, and why there is none;
* `Nlattr.encode`    an attribute as `nla_put` lays it out;
* `nlattrs_encode`   reading a stream of encoded attributes gives them back.
-/

namespace Nl

def NLA_HDRLEN : Nat := 4
def NLA_TYPE_MASK : UInt16 := 0x3FFF

def NLE_INVAL : Int := 7
def NLE_RANGE : Int := 8

/-- `NLA_ALIGN` -/
def nlaAlign (len : Nat) : Nat := (len + 3) / 4 * 4

/-- a 16-bit word in memory -/
def u16At (b0 b1 : UInt8) : UInt16 := UInt16.ofNat (b0.toNat + 256 * b1.toNat)

def u16Bytes (n : Nat) : List UInt8 := [UInt8.ofNat n, UInt8.ofNat (n / 256)]

/-- an attribute: the type in its header, and its payload -/
structure Nlattr where
  nlaType : UInt16
  payload : List UInt8
  deriving DecidableEq, Repr

namespace Nlattr

/-- the length in the header of the attribute -/
def totalLen (nla : Nlattr) : Nat := NLA_HDRLEN + nla.payload.length

/-- `nla_type` -/
def type (nla : Nlattr) : Nat := (nla.nlaType &&& NLA_TYPE_MASK).toNat

/-- `nla_len` -/
def len (nla : Nlattr) : Nat := nla.payload.length

end Nlattr

/-! ## reading a stream -/

/-- the attribute at the front of what remains of a stream, if `nla_ok` -/
def nlaAt : List UInt8 → Option Nlattr
  | l0 :: l1 :: t0 :: t1 :: rest =>
    let nlaLen := (u16At l0 l1).toNat
    if NLA_HDRLEN ≤ nlaLen ∧ nlaLen ≤ NLA_HDRLEN + rest.length then
      some ⟨u16At t0 t1, rest.take (nlaLen - NLA_HDRLEN)⟩
    else none
  | _ => none

/-- `nla_next` -/
def nlaNext (nla : Nlattr) (pos : List UInt8) : List UInt8 := pos.drop (nlaAlign nla.totalLen)

def nlattrsFuel : Nat → List UInt8 → List Nlattr
  | 0, _ => []
  | fuel + 1, pos =>
    match nlaAt pos with
    | none => []
    | some nla => nla :: nlattrsFuel fuel (nlaNext nla pos)

/-- `nla_for_each_attr`: every attribute takes a byte at least, so the length of the stream
bounds their number -/
def nlattrs (head : List UInt8) : List Nlattr := nlattrsFuel head.length head

/-! ## policies and tables -/

inductive NlaKind where
  | unspec | u8 | u16 | u32 | u64 | string | flag
  deriving DecidableEq, Repr

/-- `nla_attr_minlen` -/
def NlaKind.minlen : NlaKind → Nat
  | .unspec => 0
  | .u8 => 1
  | .u16 => 2
  | .u32 => 4
  | .u64 => 8
  | .string => 1
  | .flag => 0

/-- `struct nla_policy`; a zero is a bound that is not set -/
structure NlaPolicy where
  kind : NlaKind
  minlen : Nat
  maxlen : Nat
  deriving DecidableEq, Repr

def validateNla (nla : Nlattr) (maxtype : Nat) (policy : Nat → NlaPolicy) : Int :=
  if nla.type > maxtype then 0
  else
    let pt := policy nla.type
    let minlen := if pt.minlen ≠ 0 then pt.minlen else pt.kind.minlen
    if nla.len < minlen then -NLE_RANGE
    else if pt.maxlen ≠ 0 ∧ nla.len > pt.maxlen then -NLE_RANGE
    else if pt.kind = .string ∧ nla.payload.getLast? ≠ some 0 then -NLE_INVAL
    else 0

/-- the array `tb` -/
abbrev AttrTable := Nat → Option Nlattr

/-- the loop of `nla_parse`; the last attribute of a type stays -/
def nlaParseLoop (maxtype : Nat) (policy : Option (Nat → NlaPolicy)) (tb : AttrTable) :
    List Nlattr → Except Int AttrTable
  | [] => .ok tb
  | nla :: rest =>
    if nla.type > maxtype then nlaParseLoop maxtype policy tb rest
    else
      let err := match policy with
        | some policy => validateNla nla maxtype policy
        | none => 0
      if err < 0 then .error err
      else nlaParseLoop maxtype policy (Function.update tb nla.type (some nla)) rest

def nlaParse (maxtype : Nat) (policy : Option (Nat → NlaPolicy)) (stream : List UInt8) :
    Except Int AttrTable :=
  nlaParseLoop maxtype policy (fun _ => none) (nlattrs stream)

/-! ## reading a payload -/

def u32Of (payload : List UInt8) : UInt32 :=
  match payload with
  | b0 :: b1 :: b2 :: b3 :: _ =>
    UInt32.ofNat (b0.toNat + 256 * (b1.toNat + 256 * (b2.toNat + 256 * b3.toNat)))
  | _ => 0

def u16Of (payload : List UInt8) : UInt16 :=
  match payload with
  | b0 :: b1 :: _ => u16At b0 b1
  | _ => 0

section
variable {ε W A : Type} (badRead : ε)

/-- `nla_get_u32`; a missing attribute, and bytes after its end, must not be read -/
def nlaGetU32 : Option Nlattr → Proc ε W A UInt32
  | some nla => if nla.len < 4 then Proc.fail badRead else pure (u32Of nla.payload)
  | none => Proc.fail badRead

/-- `nla_get_u16` -/
def nlaGetU16 : Option Nlattr → Proc ε W A UInt16
  | some nla => if nla.len < 2 then Proc.fail badRead else pure (u16Of nla.payload)
  | none => Proc.fail badRead

end

/-! ## writing a stream -/

/-- the bytes of an attribute, with its padding -/
def Nlattr.encode (nla : Nlattr) : List UInt8 :=
  u16Bytes nla.totalLen ++ u16Bytes nla.nlaType.toNat ++ nla.payload ++
    List.replicate (nlaAlign nla.totalLen - nla.totalLen) 0

/-- the payload of a 32-bit attribute -/
def u32Bytes (n : UInt32) : List UInt8 :=
  [UInt8.ofNat n.toNat, UInt8.ofNat (n.toNat / 256), UInt8.ofNat (n.toNat / 256 / 256),
    UInt8.ofNat (n.toNat / 256 / 256 / 256)]

def encodeAttrs (attrs : List Nlattr) : List UInt8 := attrs.flatMap Nlattr.encode

/-- the length of the attribute fits in its header -/
def Nlattr.Fits (nla : Nlattr) : Prop := nla.totalLen < 2 ^ 16

instance (nla : Nlattr) : Decidable nla.Fits := inferInstanceAs (Decidable (_ < _))

/-! ## a stream of encoded attributes is read back -/

lemma u16At_bytes {n : Nat} (h : n < 2 ^ 16) :
    (u16At (UInt8.ofNat n) (UInt8.ofNat (n / 256))).toNat = n := by
  simp only [u16At, UInt16.toNat_ofNat', UInt8.toNat_ofNat']
  omega

lemma u32Of_bytes (n : UInt32) : u32Of (u32Bytes n) = n := by
  apply UInt32.toNat_inj.mp
  have hn := n.toNat_lt
  simp only [u32Bytes, u32Of, UInt32.toNat_ofNat', UInt8.toNat_ofNat']
  omega

lemma le_nlaAlign (n : Nat) : n ≤ nlaAlign n := by
  unfold nlaAlign
  omega

lemma length_encode (nla : Nlattr) : nla.encode.length = nlaAlign nla.totalLen := by
  have h := le_nlaAlign nla.totalLen
  simp only [Nlattr.encode, u16Bytes, List.length_append, List.length_cons, List.length_nil,
    List.length_replicate]
  simp only [Nlattr.totalLen, NLA_HDRLEN] at h ⊢
  omega

theorem nlaAt_encode {nla : Nlattr} (h : nla.Fits) (rest : List UInt8) :
    nlaAt (nla.encode ++ rest) = some nla := by
  have hlen := u16At_bytes h
  have htype : u16At (UInt8.ofNat nla.nlaType.toNat) (UInt8.ofNat (nla.nlaType.toNat / 256))
      = nla.nlaType := by
    apply UInt16.toNat_inj.mp
    exact u16At_bytes nla.nlaType.toNat_lt
  rw [Nlattr.encode, u16Bytes, u16Bytes]
  simp only [List.cons_append, List.nil_append, List.append_assoc, nlaAt]
  rw [hlen, htype]
  have hpay : nla.totalLen - NLA_HDRLEN = nla.payload.length := by
    simp [Nlattr.totalLen]
  rw [if_pos, hpay, List.take_left]
  constructor
  · simp [Nlattr.totalLen]
  · simp only [Nlattr.totalLen, List.length_append]
    omega

theorem nlaNext_encode (nla : Nlattr) (rest : List UInt8) :
    nlaNext nla (nla.encode ++ rest) = rest := by
  rw [nlaNext, ← length_encode, List.drop_left]

lemma nlattrsFuel_encode (attrs : List Nlattr) (h : ∀ nla ∈ attrs, nla.Fits) (fuel : Nat)
    (hf : attrs.length < fuel) : nlattrsFuel fuel (encodeAttrs attrs) = attrs := by
  induction attrs generalizing fuel with
  | nil =>
    cases fuel with
    | zero => rfl
    | succ fuel => rfl
  | cons nla attrs ih =>
    cases fuel with
    | zero => cases hf
    | succ fuel =>
      have hrest := ih (fun a ha => h a (List.mem_cons_of_mem nla ha)) fuel (by simpa using hf)
      have hnla := h nla List.mem_cons_self
      rw [encodeAttrs, List.flatMap_cons, nlattrsFuel, nlaAt_encode hnla]
      show nla :: nlattrsFuel fuel (nlaNext nla (nla.encode ++ encodeAttrs attrs)) = nla :: attrs
      rw [nlaNext_encode, hrest]

lemma length_encodeAttrs (attrs : List Nlattr) : attrs.length ≤ (encodeAttrs attrs).length := by
  induction attrs with
  | nil => simp
  | cons nla attrs ih =>
    have h := le_nlaAlign nla.totalLen
    rw [encodeAttrs, List.flatMap_cons, List.length_append, length_encode]
    rw [encodeAttrs] at ih
    simp only [Nlattr.totalLen, NLA_HDRLEN, List.length_cons] at h ⊢
    omega

/-- **A stream of encoded attributes is read back.** -/
theorem nlattrs_encode {attrs : List Nlattr} (h : ∀ nla ∈ attrs, nla.Fits) :
    nlattrs (encodeAttrs attrs) = attrs := by
  rcases attrs with _ | ⟨nla, attrs⟩
  · rfl
  · refine nlattrsFuel_encode _ h _ ?_
    have hnla := le_nlaAlign nla.totalLen
    have hrest := length_encodeAttrs attrs
    rw [encodeAttrs, List.flatMap_cons, List.length_append, length_encode]
    rw [encodeAttrs] at hrest
    simp only [Nlattr.totalLen, NLA_HDRLEN, List.length_cons] at hnla ⊢
    omega

/-! ## the table of a stream -/

section
variable {maxtype : Nat}

lemma validateNla_cases (nla : Nlattr) (maxtype : Nat) (policy : Nat → NlaPolicy) :
    validateNla nla maxtype policy = 0 ∨ validateNla nla maxtype policy = -NLE_RANGE ∨
      validateNla nla maxtype policy = -NLE_INVAL := by
  unfold validateNla
  split
  · exact .inl rfl
  · dsimp only
    generalize (if (policy nla.type).minlen ≠ 0 then (policy nla.type).minlen
      else (policy nla.type).kind.minlen) = minlen
    split
    · exact .inr (.inl rfl)
    · split
      · exact .inr (.inl rfl)
      · split
        · exact .inr (.inr rfl)
        · exact .inl rfl

lemma nlaParseLoop_error {policy : Option (Nat → NlaPolicy)} {attrs : List Nlattr} {tb : AttrTable}
    {err : Int} (h : nlaParseLoop maxtype policy tb attrs = .error err) :
    err = -NLE_RANGE ∨ err = -NLE_INVAL := by
  induction attrs generalizing tb with
  | nil => cases h
  | cons nla attrs ih =>
    cases policy with
    | none =>
      rw [nlaParseLoop] at h
      split at h
      · exact ih h
      · exact ih h
    | some policy =>
      rw [nlaParseLoop] at h
      split at h
      · exact ih h
      · dsimp only at h
        split at h
        · rename_i hneg
          obtain rfl := Except.error.inj h
          rcases validateNla_cases nla maxtype policy with hzero | hcode
          · omega
          · exact hcode
        · exact ih h

lemma nlaParseLoop_met {policy : Nat → NlaPolicy} {attrs : List Nlattr} {tb tb' : AttrTable}
    (htb : ∀ t, ∀ nla ∈ tb t, nla.type = t ∧ 0 ≤ validateNla nla maxtype policy)
    (h : nlaParseLoop maxtype (some policy) tb attrs = .ok tb') :
    ∀ t, ∀ nla ∈ tb' t, nla.type = t ∧ 0 ≤ validateNla nla maxtype policy := by
  induction attrs generalizing tb with
  | nil =>
    obtain rfl := Except.ok.inj h
    exact htb
  | cons nla attrs ih =>
    rw [nlaParseLoop] at h
    split at h
    · exact ih htb h
    · dsimp only at h
      split at h
      · cases h
      · rename_i hvalid
        refine ih (fun t a ha => ?_) h
        by_cases ht : t = nla.type
        · subst ht
          rw [Function.update_self] at ha
          obtain rfl := Option.some.inj ha
          exact ⟨rfl, by omega⟩
        · rw [Function.update_of_ne ht] at ha
          exact htb t a ha

end

section
variable {maxtype : Nat} {policy : Nat → NlaPolicy}

/-- the last attribute of a type -/
def lastOfType (attrs : List Nlattr) (t : Nat) : Option Nlattr :=
  attrs.foldl (fun last nla => if nla.type = t then some nla else last) none

lemma lastOfType_mem {attrs : List Nlattr} {t : Nat} (h : ∃ nla ∈ attrs, nla.type = t) :
    ∃ nla ∈ attrs, nla.type = t ∧ lastOfType attrs t = some nla := by
  induction attrs using List.reverseRecOn with
  | nil => simp at h
  | append_singleton attrs last ih =>
    by_cases hlast : last.type = t
    · exact ⟨last, by simp, hlast, by simp [lastOfType, hlast]⟩
    · have hrest : ∃ nla ∈ attrs, nla.type = t := by
        obtain ⟨nla, hmem, htype⟩ := h
        rcases List.mem_append.mp hmem with hmem | hmem
        · exact ⟨nla, hmem, htype⟩
        · rw [List.mem_singleton.mp hmem] at htype
          exact absurd htype hlast
      obtain ⟨nla, hmem, htype, heq⟩ := ih hrest
      refine ⟨nla, List.mem_append_left _ hmem, htype, ?_⟩
      rw [lastOfType, List.foldl_append]
      show (if last.type = t then some last else lastOfType attrs t) = some nla
      rw [if_neg hlast, heq]

/-- a loop that refuses no attribute ends with the last one of each type -/
lemma nlaParseLoop_valid {policy : Option (Nat → NlaPolicy)} (attrs : List Nlattr)
    (h : ∀ pol ∈ policy, ∀ nla ∈ attrs, 0 ≤ validateNla nla maxtype pol) (tb : AttrTable) :
    ∃ tb', nlaParseLoop maxtype policy tb attrs = .ok tb' ∧ ∀ t ≤ maxtype,
      tb' t = attrs.foldl (fun last nla => if nla.type = t then some nla else last) (tb t) := by
  induction attrs generalizing tb with
  | nil => exact ⟨tb, rfl, fun _ _ => rfl⟩
  | cons nla attrs ih =>
    have hrest := ih fun pol hpol a ha => h pol hpol a (List.mem_cons_of_mem nla ha)
    have hnla : ¬ (match policy with
        | some policy => validateNla nla maxtype policy
        | none => 0) < 0 := by
      cases policy with
      | none => simp
      | some pol => exact Int.not_lt.mpr (h pol rfl nla List.mem_cons_self)
    rw [nlaParseLoop.eq_def]
    dsimp only
    by_cases hmax : nla.type > maxtype
    · obtain ⟨tb', hparse, htb⟩ := hrest tb
      refine ⟨tb', by rw [if_pos hmax, hparse], fun t ht => ?_⟩
      rw [htb t ht, List.foldl_cons, if_neg (by omega)]
    · obtain ⟨tb', hparse, htb⟩ := hrest (Function.update tb nla.type (some nla))
      refine ⟨tb', ?_, fun t ht => ?_⟩
      · rw [if_neg hmax, if_neg hnla, hparse]
      · rw [htb t ht, List.foldl_cons]
        by_cases heq : nla.type = t
        · rw [if_pos heq, ← heq, Function.update_self]
        · rw [if_neg heq, Function.update_of_ne (Ne.symm heq)]

theorem nlaParse_none (stream : List UInt8) :
    ∃ tb, nlaParse maxtype none stream = .ok tb ∧
      ∀ t ≤ maxtype, tb t = lastOfType (nlattrs stream) t :=
  nlaParseLoop_valid (nlattrs stream) (fun pol hpol => absurd hpol (Option.not_mem_none pol))
    fun _ => none

/-- **A stream of valid attributes is parsed**, and the table holds the last one of each type. -/
theorem nlaParse_encode {attrs : List Nlattr} (hfits : ∀ nla ∈ attrs, nla.Fits)
    (hvalid : ∀ nla ∈ attrs, 0 ≤ validateNla nla maxtype policy) :
    ∃ tb, nlaParse maxtype (some policy) (encodeAttrs attrs) = .ok tb ∧
      ∀ t ≤ maxtype, tb t = lastOfType attrs t := by
  rw [nlaParse, nlattrs_encode hfits]
  refine nlaParseLoop_valid attrs (fun pol hpol => ?_) fun _ => none
  obtain rfl := Option.some.inj hpol
  exact hvalid

end

end Nl
