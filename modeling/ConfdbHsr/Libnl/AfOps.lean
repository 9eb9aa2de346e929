import ConfdbHsr.Lib.CText
import ConfdbHsr.Libnl.Msg

/-!
# Address families of links

`lib/route/link/api.c` with the three families that register operations for links
(`lib/route/link/inet.c`, `inet6.c`, `bridge.c`): which of their attributes a parser of links
refuses.  What it stores of them is left out.

* `nlStr2af`       the family with a name (`lib/addr.c`, `lib/utils.c`);
* `AfOps`          `struct rtnl_link_af_ops`, its parsers;
* `rtnlLinkAfOpsLookup`   the operations that are registered for a family;
* `kindFamily`     the family of a link whose kind is the name of a family.
-/

namespace Nl
open CText

def EINVAL : Int := 22

def AF_UNSPEC : UInt32 := 0
def AF_BRIDGE : UInt32 := 7
def AF_INET : Nat := 2
def AF_INET6 : Nat := 10
def AF_LLC : Nat := 26
def AF_MPLS : Nat := 28

/-! ## names of families -/

def afs : List (Nat × CStr) := [
  (0, cs "unspec"), (1, cs "unix"), (AF_INET, cs "inet"), (3, cs "ax25"), (4, cs "ipx"),
  (5, cs "appletalk"), (6, cs "netrom"), (AF_BRIDGE.toNat, cs "bridge"), (8, cs "atmpvc"),
  (9, cs "x25"), (AF_INET6, cs "inet6"), (11, cs "rose"), (12, cs "decnet"), (13, cs "netbeui"),
  (14, cs "security"), (15, cs "key"), (16, cs "netlink"), (17, cs "packet"), (18, cs "ash"),
  (19, cs "econet"), (20, cs "atmsvc"), (21, cs "rds"), (22, cs "sna"), (23, cs "irda"),
  (24, cs "pppox"), (25, cs "wanpipe"), (AF_LLC, cs "llc"), (29, cs "can"), (30, cs "tipc"),
  (31, cs "bluetooth"), (32, cs "iucv"), (33, cs "rxrpc"), (34, cs "isdn"), (35, cs "phonet"),
  (36, cs "ieee802154"), (37, cs "caif"), (38, cs "alg"), (39, cs "nfc"), (40, cs "vsock"),
  (AF_MPLS, cs "mpls")]

/-- `__str2type`: a name of the table in any case, or a number that is all of the text -/
def str2type (buf : CStr) (tbl : List (Nat × CStr)) : Int :=
  if buf = [] then -NLE_INVAL
  else
    match tbl.find? fun entry => strcaseeq entry.2 buf with
    | some entry => entry.1
    | none =>
      match strtoul 0 buf with
      | some (l, []) => if l = ULONG_MAX then -NLE_OBJ_NOTFOUND else Int.bmod l (2 ^ 32)
      | _ => -NLE_OBJ_NOTFOUND

def nlStr2af (name : CStr) : Int :=
  let fam := str2type name afs
  if 0 ≤ fam then fam else -EINVAL

/-! ## the parsers of the families -/

/-- how a parser ends without a link: with an error, or by reading what no attribute holds -/
inductive Halt where
  | code (err : Int)
  | wildRead
  deriving DecidableEq, Repr

/-- a returned error -/
def codeOf {α : Type} (r : Except Int α) : Except Halt α := r.mapError .code

/-- `nla_is_nested` -/
def Nlattr.isNested (nla : Nlattr) : Bool := nla.nlaType &&& NLA_F_NESTED != 0

def refuseIf (refused : Bool) (err : Int) : Except Halt Unit :=
  if refused then .error (.code err) else .ok ()

/-- an attribute that is there has a length that is no multiple -/
def ragged (attr : Option Nlattr) (size : Nat) : Bool := attr.any fun nla => nla.len % size != 0

def IFLA_INET_MAX : Nat := 1
def IFLA_INET_CONF : Nat := 1

def inetPolicy (type : Nat) : NlaPolicy :=
  if type = IFLA_INET_CONF then ⟨.unspec, 4, 0⟩ else ⟨.unspec, 0, 0⟩

def inetParseAf (nla : Nlattr) : Except Halt Unit := do
  let tb ← codeOf (nlaParse IFLA_INET_MAX (some inetPolicy) nla.payload)
  refuseIf (ragged (tb IFLA_INET_CONF) 4) (-EINVAL)

def IFLA_INET6_FLAGS : Nat := 1
def IFLA_INET6_CONF : Nat := 2
def IFLA_INET6_STATS : Nat := 3
def IFLA_INET6_CACHEINFO : Nat := 5
def IFLA_INET6_ICMP6STATS : Nat := 6
def IFLA_INET6_TOKEN : Nat := 7
def IFLA_INET6_ADDR_GEN_MODE : Nat := 8
def IFLA_INET6_MAX : Nat := 8

def inet6Policy (type : Nat) : NlaPolicy :=
  if type = IFLA_INET6_FLAGS then ⟨.u32, 0, 0⟩
  else if type ∈ [IFLA_INET6_CACHEINFO, IFLA_INET6_TOKEN] then ⟨.unspec, 16, 0⟩
  else if type = IFLA_INET6_CONF then ⟨.unspec, 4, 0⟩
  else if type ∈ [IFLA_INET6_STATS, IFLA_INET6_ICMP6STATS] then ⟨.unspec, 8, 0⟩
  else if type = IFLA_INET6_ADDR_GEN_MODE then ⟨.u8, 0, 0⟩
  else ⟨.unspec, 0, 0⟩

def inet6ParseProtinfo (nla : Nlattr) : Except Halt Unit := do
  let tb ← codeOf (nlaParse IFLA_INET6_MAX (some inet6Policy) nla.payload)
  refuseIf (ragged (tb IFLA_INET6_CONF) 4 || ragged (tb IFLA_INET6_STATS) 8 ||
    ragged (tb IFLA_INET6_ICMP6STATS) 8) (-EINVAL)

def IFLA_BRPORT_STATE : Nat := 1
def IFLA_BRPORT_PRIORITY : Nat := 2
def IFLA_BRPORT_COST : Nat := 3
def IFLA_BRPORT_UNICAST_FLOOD : Nat := 9
def IFLA_BRPORT_LEARNING_SYNC : Nat := 11
def IFLA_BRPORT_MAX : Nat := 34

/-- `br_attrs_policy`: the flags of a port are bytes, like its state -/
def brAttrsPolicy (type : Nat) : NlaPolicy :=
  if type = IFLA_BRPORT_PRIORITY then ⟨.u16, 0, 0⟩
  else if type = IFLA_BRPORT_COST then ⟨.u32, 0, 0⟩
  else if IFLA_BRPORT_STATE ≤ type ∧ type ≤ IFLA_BRPORT_UNICAST_FLOOD ∨
    type = IFLA_BRPORT_LEARNING_SYNC then ⟨.u8, 0, 0⟩
  else ⟨.unspec, 0, 0⟩

def bridgeParseProtinfo (nla : Nlattr) : Except Halt Unit :=
  if nla.isNested then
    codeOf ((nlaParse IFLA_BRPORT_MAX (some brAttrsPolicy) nla.payload).map fun _ => ())
  else refuseIf (nla.len < 1) (-NLE_RANGE)

def IFLA_BRIDGE_MODE : Nat := 1
def IFLA_BRIDGE_VLAN_INFO : Nat := 2
def BRIDGE_VLAN_INFO_RANGE_BEGIN : UInt16 := 8
def BRIDGE_VLAN_INFO_RANGE_END : UInt16 := 16
def VLAN_VID_MASK : UInt16 := 0xFFF

/-- the loop of `bridge_parse_af_full`, with `vid_range_flags`.  A mode is checked like a
`struct bridge_vlan_info`, so no other length of it is accepted. -/
def bridgeVlans : UInt16 → List Nlattr → Except Halt Unit
  | _, [] => .ok ()
  | rangeFlags, nla :: rest =>
    if nla.type ≠ IFLA_BRIDGE_MODE ∧ nla.type ≠ IFLA_BRIDGE_VLAN_INFO then
      bridgeVlans rangeFlags rest
    else if nla.type = IFLA_BRIDGE_MODE ∧ nla.len < 2 then .error .wildRead
    else if nla.len ≠ 4 then .error (.code (-EINVAL))
    else
      let flags := u16Of nla.payload
      let vid := u16Of (nla.payload.drop 2)
      if vid = 0 ∨ VLAN_VID_MASK ≤ vid then .error (.code (-EINVAL))
      else if flags &&& BRIDGE_VLAN_INFO_RANGE_BEGIN ≠ 0 then
        bridgeVlans (flags ^^^ BRIDGE_VLAN_INFO_RANGE_BEGIN) rest
      else if flags &&& BRIDGE_VLAN_INFO_RANGE_END ≠ 0 ∧
          rangeFlags ≠ flags ^^^ BRIDGE_VLAN_INFO_RANGE_END then .error (.code (-EINVAL))
      else bridgeVlans 0xFFFF rest

def bridgeParseAfFull (nla : Nlattr) : Except Halt Unit := bridgeVlans 0xFFFF (nlattrs nla.payload)

/-! ## the operations -/

/-- `struct rtnl_link_af_ops`: the parsers of a family, those that it has.  Of the policy of
`IFLA_PROTINFO` it says only whether there is one: it is `NLA_NESTED`, which asks for nothing. -/
structure AfOps where
  aoFamily : Nat
  aoParseProtinfo : Option (Nlattr → Except Halt Unit)
  aoParseAf : Option (Nlattr → Except Halt Unit)
  aoParseAfFull : Option (Nlattr → Except Halt Unit)
  aoProtinfoPolicy : Bool

def inetOps : AfOps := ⟨AF_INET, none, some inetParseAf, none, false⟩
def inet6Ops : AfOps := ⟨AF_INET6, some inet6ParseProtinfo, some inet6ParseProtinfo, none, true⟩
def bridgeOps : AfOps :=
  ⟨AF_BRIDGE.toNat, some bridgeParseProtinfo, none, some bridgeParseAfFull, false⟩

def rtnlLinkAfOpsLookup (family : Nat) : Option AfOps :=
  [inetOps, inet6Ops, bridgeOps].find? fun ops => ops.aoFamily == family

/-- the family of a link of a kind that came with a family: without operations for its own, it is
given the one that its kind names -/
def kindFamily (family : UInt32) (kind : CStr) : UInt32 :=
  let af := nlStr2af kind
  if 0 ≤ af ∧ rtnlLinkAfOpsLookup family.toNat = none ∧
      (rtnlLinkAfOpsLookup af.toNat).isSome then UInt32.ofNat af.toNat
  else family

lemma lookup_cases {family : Nat} {ops : AfOps} (h : rtnlLinkAfOpsLookup family = some ops) :
    ops = inetOps ∨ ops = inet6Ops ∨ ops = bridgeOps := by
  have hmem := List.mem_of_find?_eq_some h
  simpa only [List.mem_cons, List.not_mem_nil, or_false] using hmem

/-- a family with operations fits in the header of a message -/
lemma lookup_lt {family : Nat} {ops : AfOps} (h : rtnlLinkAfOpsLookup family = some ops) :
    family < 2 ^ 8 := by
  have hfamily : ops.aoFamily = family := by simpa using List.find?_some h
  subst hfamily
  rcases lookup_cases h with rfl | rfl | rfl
  · decide
  · decide
  · decide

lemma kindFamily_lt {family : UInt32} (h : family.toNat < 2 ^ 8) (kind : CStr) :
    (kindFamily family kind).toNat < 2 ^ 8 := by
  unfold kindFamily
  dsimp only
  split
  · rename_i hif
    obtain ⟨ops, hops⟩ := Option.isSome_iff_exists.mp hif.2.2
    have hlt := lookup_lt hops
    rw [UInt32.toNat_ofNat', Nat.mod_eq_of_lt (by omega)]
    exact hlt
  · exact h

/-- a name in any case, and a number -/
example : kindFamily 0 (cs "Bridge") = 7 ∧ kindFamily 0 (cs "0x0a") = 10 ∧
    kindFamily 2 (cs "bridge") = 2 ∧ kindFamily 0 (cs "hsr") = 0 := by decide

end Nl
