import ConfdbHsr.Libnl.Link

/-!
# The link cache and the messages that change it

`link_compare`, the operations of `route/link` objects, and the inclusion of a link message in a
cache.

* `LinkMsg`        a parsed link message: the action of its type and the object;
* `LinkMsg.notes`, `LinkMsg.apply`   the callbacks and the cache after an inclusion;
* `devices`        the links of a cache, without the bridge ports that share it;
* `linkOps_identical`   an index and a family identify a link;
* `LinkMsg.effect`   what the inclusion of a message does, by what it finds in the cache.
-/

namespace Nl

/-- the kinds for which `lib/route/link` registers operations -/
def linkInfoKinds : List CStr :=
  ["bond", "can", "dummy", "geneve", "gre", "gretap", "hsr", "ifb", "ip6tnl", "ipip", "ipvlan",
    "macsec", "macvlan", "macvtap", "ppp", "sit", "veth", "vlan", "vrf", "vti", "vxlan",
    "xfrm"].map cs

/-- `l_info_ops`: the operations of the kind, if there are any -/
def RtnlLink.infoOps (link : RtnlLink) : Option CStr :=
  link.lInfoKind.filter (· ∈ linkInfoKinds)

/-- what identifies a link in a cache -/
def linkIdAttrs : Mask := LINK_ATTR_IFINDEX ||| LINK_ATTR_FAMILY

/-- `link_compare`; `other` are the attributes outside the model in which the two differ -/
def linkCompare (other : Mask) (a b : LinkObj) (attrs : Mask) : Mask :=
  let linkDiff attr expr := attrDiff attrs attr a.ceMask b.ceMask expr
  linkDiff LINK_ATTR_IFINDEX (a.lIndex ≠ b.lIndex) |||
  linkDiff LINK_ATTR_MTU (a.lMtu ≠ b.lMtu) |||
  linkDiff LINK_ATTR_LINK (a.lLink ≠ b.lLink) |||
  linkDiff LINK_ATTR_MASTER (a.lMaster ≠ b.lMaster) |||
  linkDiff LINK_ATTR_FAMILY (a.lFamily ≠ b.lFamily) |||
  linkDiff LINK_ATTR_IFNAME (a.lName ≠ b.lName) |||
  linkDiff LINK_ATTR_FLAGS (a.lFlags ≠ b.lFlags) |||
  linkDiff LINK_ATTR_LINKINFO (a.infoOps ≠ b.infoOps) |||
  (attrs &&& other &&& ~~~linkIdAttrs)

/-- `link_obj_ops` -/
def linkOps (other : Mask) : ObjectOps LinkObj where
  ceMask link := link.ceMask
  ooIdAttrs := linkIdAttrs
  ooCompare := linkCompare other

/-- a link message that was parsed: its action (`RTM_NEWLINK` is `new`, `RTM_DELLINK` is `del`),
its object, and the attributes outside the model in which this differs from the cached one -/
structure LinkMsg where
  act : MsgAct
  obj : LinkObj
  other : Mask

namespace LinkMsg
variable (msg : LinkMsg) (links : List LinkObj)

/-- the cache after the inclusion of the message -/
def apply : List LinkObj := ((linkOps msg.other).cacheInclude links msg.obj msg.act).1

/-- the callbacks of the inclusion -/
def notes : List (Note LinkObj) := ((linkOps msg.other).cacheInclude links msg.obj msg.act).2

end LinkMsg

/-- not a bridge port: these have the family `AF_BRIDGE` and come without a kind -/
def LinkObj.isDevice (link : LinkObj) : Bool :=
  link.lFamily == AF_UNSPEC || link.lInfoKind == some (cs "bridge")

def devices (links : List LinkObj) : List LinkObj := links.filter LinkObj.isDevice

/-- the link has the attribute of a master -/
def LinkObj.hasMaster (link : LinkObj) : Prop := link.ceMask &&& LINK_ATTR_MASTER ≠ 0

lemma LinkObj.has_base_bit (link : LinkObj) {n : Nat} (hn : n < 64)
    (hbase : linkBase.getLsbD n = true) : link.ceMask.getLsbD n = true := by
  have h := link.has_attr ((and_bit_ne_zero hn linkBase).mpr hbase)
  exact (and_bit_ne_zero hn _).mp h

/-! ## identity -/

section
variable (other : Mask) (a b : LinkObj)

lemma linkOps_idAttrs : (linkOps other).ooIdAttrs &&& (linkOps other).ceMask a = linkIdAttrs := by
  have hsub : linkIdAttrs = linkIdAttrs &&& linkBase := by decide
  have hbase := a.hasBase
  show linkIdAttrs &&& a.ceMask = linkIdAttrs
  rw [hsub, BitVec.and_assoc, BitVec.and_comm linkBase, hbase]

/-- two links have all attributes of the parser, so these differ where their values do -/
lemma attrDiff_base {attrs : Mask} {n : Nat} {differs : Bool} (hn : n < 64)
    (hattrs : attrs.getLsbD n = true) (hbase : linkBase.getLsbD n = true) :
    attrDiff attrs (1#64 <<< n) a.ceMask b.ceMask differs = 0 ↔ differs = false := by
  rw [attrDiff_bit hn, a.has_base_bit hn hbase, b.has_base_bit hn hbase, hattrs]
  simp

lemma attrDiff_skip {attrs attr maskA maskB : Mask} (h : attrs &&& attr = 0) (differs : Bool) :
    attrDiff attrs attr maskA maskB differs = 0 :=
  if_neg fun hdiff => hdiff.1 h

lemma or_eq_zero {x y : Mask} : x ||| y = 0 ↔ x = 0 ∧ y = 0 := BitVec.or_eq_zero_iff

theorem linkOps_identical :
    (linkOps other).objectIdentical a b = true ↔ a.lIndex = b.lIndex ∧ a.lFamily = b.lFamily := by
  rw [ObjectOps.objectIdentical_same _ (linkOps_idAttrs other a) (linkOps_idAttrs other b)]
  show linkCompare other a b linkIdAttrs = 0 ↔ _
  have hindex : attrDiff linkIdAttrs LINK_ATTR_IFINDEX a.ceMask b.ceMask (a.lIndex ≠ b.lIndex) = 0 ↔
      a.lIndex = b.lIndex := by
    rw [LINK_ATTR_IFINDEX, attrDiff_base a b (by decide) (by decide) (by decide)]
    simp
  have hfamily : attrDiff linkIdAttrs LINK_ATTR_FAMILY a.ceMask b.ceMask
      (a.lFamily ≠ b.lFamily) = 0 ↔ a.lFamily = b.lFamily := by
    rw [LINK_ATTR_FAMILY, attrDiff_base a b (by decide) (by decide) (by decide)]
    simp
  have hother : linkIdAttrs &&& other &&& ~~~linkIdAttrs = 0 := by
    rw [BitVec.and_comm linkIdAttrs, BitVec.and_assoc, BitVec.and_not_self]
    exact BitVec.and_zero
  simp (disch := decide) only [linkCompare, or_eq_zero, attrDiff_skip, hindex, hfamily,
    hother, and_true]

/-- no difference in what the daemon looks at in a change -/
def NoChange (a b : LinkObj) : Prop :=
  a.lName = b.lName ∧ (a.hasMaster ↔ b.hasMaster) ∧ (a.hasMaster → a.lMaster = b.lMaster)

/-- links between which libnl sees no difference have the same name and master -/
theorem linkOps_noDiff (h : (linkOps other).objectDiff64 a b = 0) : NoChange a b := by
  have hcmp : linkCompare other a b (BitVec.allOnes 64) = 0 := h
  simp only [linkCompare, or_eq_zero] at hcmp
  obtain ⟨⟨⟨⟨⟨⟨⟨⟨-, -⟩, -⟩, hmaster⟩, -⟩, hname⟩, -⟩, -⟩, -⟩ := hcmp
  rw [LINK_ATTR_IFNAME, attrDiff_base a b (by decide) (by decide) (by decide)] at hname
  rw [LINK_ATTR_MASTER, attrDiff_bit (by decide)] at hmaster
  obtain ⟨hbit, hm⟩ := hmaster (by decide)
  have hhas : ∀ link : LinkObj, link.hasMaster ↔ link.ceMask.getLsbD 4 = true :=
    fun link => and_bit_ne_zero (by decide) link.ceMask
  refine ⟨by simpa using hname, ?_, fun ha => ?_⟩
  · rw [hhas, hhas, hbit]
  · simpa using hm ((hhas a).mp ha)

end

/-! ## what a message does to a cache -/

/-- the two links share the slot of the cache that an index and a family name -/
def SameLink (a b : LinkObj) : Prop := a.lIndex = b.lIndex ∧ a.lFamily = b.lFamily

/-- the cache and the callbacks after a message, by what the message finds -/
inductive Effect (links : List LinkObj) : List LinkObj → List (Note LinkObj) → Prop
  | same : Effect links links []
  | appears (L : LinkObj) : Effect links (links ++ [L]) [.new L]
  | vanishes {pre post : List LinkObj} {o : LinkObj} (hlinks : links = pre ++ o :: post) :
      Effect links (pre ++ post) [.del o]
  | changes {pre post : List LinkObj} {o : LinkObj} (L : LinkObj) (diff : Mask)
      (hlinks : links = pre ++ o :: post) (hsame : SameLink o L) :
      Effect links (pre ++ post ++ [L]) [.change o L diff]
  | refreshed {pre post : List LinkObj} {o : LinkObj} (L : LinkObj)
      (hlinks : links = pre ++ o :: post) (hsame : SameLink o L) (hno : NoChange o L) :
      Effect links (pre ++ post ++ [L]) []

lemma cacheSearch_split {ops : ObjectOps LinkObj} {links : List LinkObj} {needle old : LinkObj}
    (h : ops.cacheSearch links needle = some old) :
    ∃ pre post, links = pre ++ old :: post ∧ ops.cacheRemove links needle = pre ++ post ∧
      ops.objectIdentical old needle = true := by
  obtain ⟨hid, pre, post, rfl, hpre⟩ := List.find?_eq_some_iff_append.mp h
  refine ⟨pre, post, rfl, ?_, hid⟩
  have hmiss : ∀ a ∈ pre, ¬ ops.objectIdentical a needle = true := by
    intro a ha
    simpa using hpre a ha
  show (pre ++ old :: post).eraseP _ = pre ++ post
  rw [List.eraseP_append_right _ hmiss]
  exact congrArg (pre ++ ·) (List.eraseP_cons_of_pos hid)

/-- **What a link message does to a cache.** -/
theorem LinkMsg.effect (msg : LinkMsg) (links : List LinkObj) :
    Effect links (msg.apply links) (msg.notes links) := by
  unfold LinkMsg.apply LinkMsg.notes ObjectOps.cacheInclude
  cases msg.act with
  | new =>
    cases hfind : (linkOps msg.other).cacheSearch links msg.obj with
    | none => exact .appears msg.obj
    | some old =>
      obtain ⟨pre, post, hlinks, hremove, hid⟩ := cacheSearch_split hfind
      have hsame := (linkOps_identical msg.other old msg.obj).mp hid
      dsimp only
      rw [hremove]
      by_cases hdiff : (linkOps msg.other).objectDiff64 old msg.obj = 0
      · rw [if_neg (not_not.mpr hdiff)]
        exact .refreshed msg.obj hlinks hsame (linkOps_noDiff msg.other old msg.obj hdiff)
      · rw [if_pos hdiff]
        exact .changes msg.obj _ hlinks hsame
  | del =>
    cases hfind : (linkOps msg.other).cacheSearch links msg.obj with
    | none => exact .same
    | some old =>
      obtain ⟨pre, post, hlinks, hremove, -⟩ := cacheSearch_split hfind
      dsimp only
      rw [hremove]
      exact .vanishes hlinks
  | _ => exact .same

lemma LinkMsg.notes_cases (msg : LinkMsg) (links : List LinkObj) :
    msg.notes links = [] ∨ ∃ note, msg.notes links = [note] := by
  have heffect := msg.effect links
  generalize msg.apply links = links' at heffect
  generalize msg.notes links = notes at heffect ⊢
  cases heffect with
  | same => exact .inl rfl
  | refreshed L hlinks hsame hno => exact .inl rfl
  | appears L => exact .inr ⟨_, rfl⟩
  | vanishes hlinks => exact .inr ⟨_, rfl⟩
  | changes L diff hlinks hsame => exact .inr ⟨_, rfl⟩

end Nl
