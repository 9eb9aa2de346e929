import ConfdbHsr.Libnl.HsrLink
import ConfdbHsr.Libnl.HsrNode
import ConfdbHsr.Libnl.LinkCache

/-!
# The difference between two links

`link_compare` of `lib/route/link.c` with all attributes, and the operations of a kind that it
reaches through `lib/route/link/api.c`.

* `FullLink`          `struct rtnl_link`, with all fields that are compared;
* `fullLinkCompare`   `link_compare`;
* `diff_zero_iff`     there is no difference iff the links agree in all that is compared;
* `ChangeSeen`        a change of the parameters of an HSR link is a difference, and a cache that
                      holds the link reports it;
* `change_seen_iff`   it is unless the links agree in everything else.
-/

namespace Nl

def LINK_ATTR_TXQLEN : Mask := 1#64 <<< 2
def LINK_ATTR_WEIGHT : Mask := 1#64 <<< 3
def LINK_ATTR_QDISC : Mask := 1#64 <<< 5
def LINK_ATTR_ADDR : Mask := 1#64 <<< 7
def LINK_ATTR_BRD : Mask := 1#64 <<< 8
def LINK_ATTR_OPERSTATE : Mask := 1#64 <<< 16
def LINK_ATTR_LINKMODE : Mask := 1#64 <<< 17
def LINK_ATTR_IFALIAS : Mask := 1#64 <<< 19
def LINK_ATTR_NUM_VF : Mask := 1#64 <<< 20
def LINK_ATTR_PROMISCUITY : Mask := 1#64 <<< 21
def LINK_ATTR_NUM_TX_QUEUES : Mask := 1#64 <<< 22
def LINK_ATTR_NUM_RX_QUEUES : Mask := 1#64 <<< 23
def LINK_ATTR_GROUP : Mask := 1#64 <<< 24
def LINK_ATTR_PROTINFO : Mask := 1#64 <<< 26
def LINK_ATTR_LINK_NETNSID : Mask := 1#64 <<< 32

def LOOSE_COMPARISON : BitVec 32 := 1

/-! ## links -/

/-- `struct rtnl_link_info_ops`, as far as a comparison uses it; `io_compare` tells whether two
infos differ -/
structure LinkInfoOps (ι : Type) where
  ioName : CStr
  ioCompare : Option (ι → ι → BitVec 32 → Bool)

/-- `hsr_info_ops`: there is no `io_compare` -/
def hsrInfoOps : LinkInfoOps FullHsrInfo := ⟨cs "hsr", none⟩

/-- `l_info_ops` with the `l_info` that belongs to them -/
inductive LinkInfo (ι : Type) where
  | none
  | hsr (vi : FullHsrInfo)
  | other (ops : LinkInfoOps ι) (info : ι)

/-- `struct rtnl_link`, with all fields that are compared: `ι` are the infos of the other kinds,
`β` the data of the address families -/
structure FullLink (ι β : Type) where
  ceMask : Mask
  lName : CStr
  lFamily : UInt32
  lIndex : UInt32
  lFlags : UInt32
  lMtu : UInt32
  lLink : UInt32
  lLinkNetnsid : UInt32
  lTxqlen : UInt32
  lWeight : UInt32
  lMaster : UInt32
  lAddr : Option NlAddr
  lBcast : Option NlAddr
  lQdisc : CStr
  lFlagMask : UInt32
  lNumVf : UInt32
  lOperstate : UInt8
  lLinkmode : UInt8
  lInfo : LinkInfo ι
  lAfData : UInt32 → Option β
  lIfalias : CStr
  lPromiscuity : UInt32
  lNumTxQueues : UInt32
  lNumRxQueues : UInt32
  lGroup : UInt32

/-- `rtnl_link_alloc` -/
def FullLink.zero {ι β : Type} : FullLink ι β :=
  ⟨0, [], 0, 0, 0, 0, 0, 0, 0, 0, 0, none, none, [], 0, 0, 0, 0, .none, fun _ => none, [], 0, 0, 0,
    0⟩

/-! ## comparing them -/

section
variable {ι β : Type}

/-- the call of `io_compare`, if there is one -/
def LinkInfoOps.compare (ops : LinkInfoOps ι) (a b : ι) (flags : BitVec 32) : Bool :=
  match ops.ioCompare with
  | none => false
  | some ioCompare => ioCompare a b flags

/-- whether `rtnl_link_info_data_compare` is not zero; the operations of a kind are told by their
name -/
def infoDataCompare (flags : BitVec 32) : LinkInfo ι → LinkInfo ι → Bool
  | .none, .none => false
  | .hsr a, .hsr b => hsrInfoOps.compare a b flags
  | .other opsA a, .other opsB b =>
    if opsA.ioName ≠ opsB.ioName then true else opsA.compare a b flags
  | _, _ => true

/-- whether `rtnl_link_af_data_compare` is not zero; `afOps` are the registered operations of the
address families, each with its `ao_compare` -/
def afDataCompare (afOps : UInt32 → Option (Option (β → β → Bool))) (a b : FullLink ι β)
    (family : UInt32) : Bool :=
  match a.lAfData family, b.lAfData family with
  | none, none => false
  | some dataA, some dataB =>
    match afOps family with
    | some (some aoCompare) => aoCompare dataA dataB
    | _ => true
  | _, _ => true

/-- the attributes that `link_compare` compares itself, each with whether the values differ -/
def comparedAttrs (a b : FullLink ι β) (flags : BitVec 32) : List (Mask × Bool) :=
  [(LINK_ATTR_IFINDEX, a.lIndex ≠ b.lIndex),
    (LINK_ATTR_MTU, a.lMtu ≠ b.lMtu),
    (LINK_ATTR_LINK, a.lLink ≠ b.lLink),
    (LINK_ATTR_LINK_NETNSID, a.lLinkNetnsid ≠ b.lLinkNetnsid),
    (LINK_ATTR_TXQLEN, a.lTxqlen ≠ b.lTxqlen),
    (LINK_ATTR_WEIGHT, a.lWeight ≠ b.lWeight),
    (LINK_ATTR_MASTER, a.lMaster ≠ b.lMaster),
    (LINK_ATTR_FAMILY, a.lFamily ≠ b.lFamily),
    (LINK_ATTR_OPERSTATE, a.lOperstate ≠ b.lOperstate),
    (LINK_ATTR_LINKMODE, a.lLinkmode ≠ b.lLinkmode),
    (LINK_ATTR_QDISC, a.lQdisc ≠ b.lQdisc),
    (LINK_ATTR_IFNAME, a.lName ≠ b.lName),
    (LINK_ATTR_ADDR, nlAddrCmp a.lAddr b.lAddr),
    (LINK_ATTR_BRD, nlAddrCmp a.lBcast b.lBcast),
    (LINK_ATTR_IFALIAS, a.lIfalias ≠ b.lIfalias),
    (LINK_ATTR_NUM_VF, a.lNumVf ≠ b.lNumVf),
    (LINK_ATTR_PROMISCUITY, a.lPromiscuity ≠ b.lPromiscuity),
    (LINK_ATTR_NUM_TX_QUEUES, a.lNumTxQueues ≠ b.lNumTxQueues),
    (LINK_ATTR_NUM_RX_QUEUES, a.lNumRxQueues ≠ b.lNumRxQueues),
    (LINK_ATTR_GROUP, a.lGroup ≠ b.lGroup),
    (LINK_ATTR_FLAGS, if flags &&& LOOSE_COMPARISON ≠ 0
      then (a.lFlags ^^^ b.lFlags) &&& b.lFlagMask ≠ 0 else a.lFlags ≠ b.lFlags)]

variable (afOps : UInt32 → Option (Option (β → β → Bool)))

/-- the links have one address family, and different data of it -/
def AfDiffers (a b : FullLink ι β) : Prop :=
  a.lFamily = b.lFamily ∧ afDataCompare afOps a b a.lFamily = true

instance (a b : FullLink ι β) : Decidable (AfDiffers afOps a b) :=
  inferInstanceAs (Decidable (_ ∧ _))

/-- `link_compare`; the kinds are not compared where the address families differ -/
def fullLinkCompare (flags : BitVec 32) (a b : FullLink ι β) (attrs : Mask) : Mask :=
  let linkDiff attr expr := attrDiff attrs attr a.ceMask b.ceMask expr
  let diff := (comparedAttrs a b flags).foldl (fun diff attr => diff ||| linkDiff attr.1 attr.2) 0
  if AfDiffers afOps a b then diff ||| linkDiff LINK_ATTR_PROTINFO true
  else diff ||| linkDiff LINK_ATTR_LINKINFO (infoDataCompare flags a.lInfo b.lInfo)

/-- `link_obj_ops`; neither of its comparisons is a loose one -/
def fullLinkOps : ObjectOps (FullLink ι β) where
  ceMask link := link.ceMask
  ooIdAttrs := linkIdAttrs
  ooCompare := fullLinkCompare afOps 0

/-! ## no difference -/

/-- an attribute that both links have with one value, or neither has -/
def Agree (a b : FullLink ι β) (attr : Mask) (differs : Bool) : Prop :=
  a.ceMask &&& attr = b.ceMask &&& attr ∧ (a.ceMask &&& attr ≠ 0 → differs = false)

lemma attrDiff_all {attr maskA maskB : Mask} {differs : Bool} (hattr : attr ≠ 0) :
    attrDiff (BitVec.allOnes 64) attr maskA maskB differs = 0 ↔
      maskA &&& attr = maskB &&& attr ∧ (maskA &&& attr ≠ 0 → differs = false) := by
  have hall : BitVec.allOnes 64 &&& attr ≠ 0 := by
    rw [BitVec.allOnes_and]
    exact hattr
  rw [attrDiff_eq_zero hattr]
  exact ⟨fun h => h hall, fun h _ => h⟩

lemma foldl_or_eq_zero {α : Type} (f : α → Mask) (xs : List α) (acc : Mask) :
    xs.foldl (fun diff x => diff ||| f x) acc = 0 ↔ acc = 0 ∧ ∀ x ∈ xs, f x = 0 := by
  induction xs generalizing acc with
  | nil => simp
  | cons x xs ih =>
    rw [List.foldl_cons, ih, or_eq_zero, List.forall_mem_cons, and_assoc]

/-- the links agree in all that `link_compare` compares itself -/
structure SameGeneric (a b : FullLink ι β) : Prop where
  attrs : ∀ attr ∈ comparedAttrs a b 0, Agree a b attr.1 attr.2
  protinfo : AfDiffers afOps a b → Agree a b LINK_ATTR_PROTINFO true
  linkinfo : ¬ AfDiffers afOps a b →
    a.ceMask &&& LINK_ATTR_LINKINFO = b.ceMask &&& LINK_ATTR_LINKINFO

/-- the bits of the attributes in the table -/
def comparedBits : List Nat :=
  [11, 0, 1, 32, 2, 3, 4, 12, 16, 17, 5, 10, 7, 8, 19, 20, 21, 22, 23, 24, 9]

lemma comparedAttrs_ne_zero (a b : FullLink ι β) (flags : BitVec 32) :
    ∀ attr ∈ comparedAttrs a b flags, attr.1 ≠ 0 := by
  have hmasks : (comparedAttrs a b flags).map Prod.fst = comparedBits.map (1#64 <<< ·) := rfl
  have hbits : ∀ n ∈ comparedBits, n < 64 := by decide
  intro attr hattr
  have hmem := List.mem_map_of_mem (f := Prod.fst) hattr
  rw [hmasks] at hmem
  obtain ⟨n, hn, heq⟩ := List.mem_map.mp hmem
  rw [← heq]
  exact bit_ne_zero (hbits n hn)

/-- **There is no difference** between two links iff they agree in all that is compared, in the
infos of their kinds only if the address families do not differ. -/
theorem diff_zero_iff (a b : FullLink ι β) :
    (fullLinkOps afOps).objectDiff64 a b = 0 ↔ SameGeneric afOps a b ∧
      (¬ AfDiffers afOps a b → a.ceMask &&& LINK_ATTR_LINKINFO ≠ 0 →
        infoDataCompare 0 a.lInfo b.lInfo = false) := by
  have hattrs : (∀ attr ∈ comparedAttrs a b 0,
      attrDiff (BitVec.allOnes 64) attr.1 a.ceMask b.ceMask attr.2 = 0) ↔
        ∀ attr ∈ comparedAttrs a b 0, Agree a b attr.1 attr.2 := by
    refine forall₂_congr fun attr hattr => ?_
    exact attrDiff_all (comparedAttrs_ne_zero a b 0 attr hattr)
  show fullLinkCompare afOps 0 a b (BitVec.allOnes 64) = 0 ↔ _
  rw [fullLinkCompare]
  by_cases haf : AfDiffers afOps a b
  · rw [if_pos haf, or_eq_zero, foldl_or_eq_zero, hattrs, attrDiff_all (by decide)]
    constructor
    · rintro ⟨⟨-, hall⟩, hproto⟩
      exact ⟨⟨hall, fun _ => hproto, fun h => absurd haf h⟩, fun h => absurd haf h⟩
    · rintro ⟨hsame, -⟩
      exact ⟨⟨rfl, hsame.attrs⟩, hsame.protinfo haf⟩
  · rw [if_neg haf, or_eq_zero, foldl_or_eq_zero, hattrs, attrDiff_all (by decide)]
    constructor
    · rintro ⟨⟨-, hall⟩, hinfo⟩
      exact ⟨⟨hall, fun h => absurd h haf, fun _ => hinfo.1⟩, fun _ => hinfo.2⟩
    · rintro ⟨hsame, hinfo⟩
      exact ⟨⟨rfl, hsame.attrs⟩, hsame.linkinfo haf, hinfo haf⟩

/-! ## HSR links -/

/-- a parameter that both infos have with one value, or neither has -/
def SameParam {γ : Type} (vi vi' : FullHsrInfo) (flag : BitVec 32) (get : FullHsrInfo → γ) : Prop :=
  vi.has flag = vi'.has flag ∧ (vi.has flag = true → get vi = get vi')

structure SamePorts (vi vi' : FullHsrInfo) : Prop where
  slave1 : SameParam vi vi' HSR_HAS_SLAVE1_ID fun vi => vi.slave1Id
  slave2 : SameParam vi vi' HSR_HAS_SLAVE2_ID fun vi => vi.slave2Id

structure SameParams (vi vi' : FullHsrInfo) : Prop extends SamePorts vi vi' where
  version : SameParam vi vi' HSR_HAS_VERSION fun vi => vi.viHsrVersion
  multicastSpec : SameParam vi vi' HSR_HAS_MULTICAST_SPEC fun vi => vi.multicastSpec
  supervisionAddr : SameParam vi vi' HSR_HAS_SUPERVISION_ADDR fun vi => vi.supervisionAddr

/-- a change of the parameters is a difference, and the inclusion of the new link in a cache that
holds the old one reports a change of the ports -/
structure ChangeSeen (a b : FullLink ι β) (vi vi' : FullHsrInfo) : Prop where
  diff : (fullLinkOps afOps).objectDiff64 a b = 0 → SameParams vi vi'
  note : ∀ cache, (fullLinkOps afOps).cacheSearch cache b = some a → ¬ SamePorts vi vi' →
    ∃ diff, Note.change a b diff ∈ ((fullLinkOps afOps).cacheInclude cache b .new).2

theorem hsr_diff_zero_iff {a b : FullLink ι β} {vi vi' : FullHsrInfo} (ha : a.lInfo = .hsr vi)
    (hb : b.lInfo = .hsr vi') :
    (fullLinkOps afOps).objectDiff64 a b = 0 ↔ SameGeneric afOps a b := by
  have hinfo : infoDataCompare 0 a.lInfo b.lInfo = false := by
    rw [ha, hb]
    rfl
  rw [diff_zero_iff]
  exact ⟨fun h => h.1, fun h => ⟨h, fun _ _ => hinfo⟩⟩

/-- **A change of the parameters of an HSR link is seen unless the two links agree in everything
else.** -/
theorem change_seen_iff {a b : FullLink ι β} {vi vi' : FullHsrInfo} (ha : a.lInfo = .hsr vi)
    (hb : b.lInfo = .hsr vi') :
    ChangeSeen afOps a b vi vi' ↔ ¬ SameGeneric afOps a b ∨ SameParams vi vi' := by
  have hdiff := hsr_diff_zero_iff afOps ha hb
  constructor
  · intro h
    by_cases hsame : SameGeneric afOps a b
    · exact .inr (h.diff (hdiff.mpr hsame))
    · exact .inl hsame
  · rintro (hne | hparams)
    · have hnonzero : (fullLinkOps afOps).objectDiff64 a b ≠ 0 := fun h => hne (hdiff.mp h)
      refine ⟨fun h => absurd h hnonzero, fun cache hold _ => ?_⟩
      refine ⟨(fullLinkOps afOps).objectDiff64 a b, ?_⟩
      rw [ObjectOps.cacheInclude]
      dsimp only
      rw [hold]
      dsimp only
      rw [if_pos hnonzero]
      exact List.mem_singleton.mpr rfl
    · exact ⟨fun _ => hparams, fun _ _ hports => absurd hparams.toSamePorts hports⟩

end

/-- an info with two ports -/
def portsInfo (slave1 slave2 : UInt32) : FullHsrInfo :=
  { FullHsrInfo.zero with
    slave1Id := slave1
    slave2Id := slave2
    viMask := HSR_HAS_SLAVE1_ID ||| HSR_HAS_SLAVE2_ID }

/-- an HSR link with the index 7, as the parser returns it -/
def hsrLink (mtu : UInt32) (vi : FullHsrInfo) : FullLink Unit Unit :=
  { (FullLink.zero : FullLink Unit Unit) with
    ceMask := linkBase ||| LINK_ATTR_MTU ||| LINK_ATTR_LINKINFO
    lName := cs "hsr0"
    lIndex := 7
    lMtu := mtu
    lInfo := .hsr vi }

/-- a new port with another MTU -/
theorem change_seen_mtu :
    ChangeSeen (fun _ => none) (hsrLink 1494 (portsInfo 2 3)) (hsrLink 1500 (portsInfo 4 3))
      (portsInfo 2 3) (portsInfo 4 3) := by
  refine (change_seen_iff (fun _ => none) rfl rfl).mpr (.inl fun hsame => ?_)
  have hmtu := hsame.attrs (LINK_ATTR_MTU, true) (by decide)
  have hvalue := hmtu.2 (by decide)
  cases hvalue

/-- a new port alone is no difference, and the callback is not called -/
theorem change_unseen_ports :
    ¬ ChangeSeen (fun _ => none) (hsrLink 1494 (portsInfo 2 3)) (hsrLink 1494 (portsInfo 4 3))
      (portsInfo 2 3) (portsInfo 4 3) ∧
    ((fullLinkOps (fun _ => none)).cacheInclude [hsrLink 1494 (portsInfo 2 3)]
      (hsrLink 1494 (portsInfo 4 3)) .new).2 = [] := by
  refine ⟨fun hseen => ?_, rfl⟩
  have hparams := hseen.diff (by decide)
  have hport := hparams.slave1.2 (by decide)
  revert hport
  decide

end Nl
