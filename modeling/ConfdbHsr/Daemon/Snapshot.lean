import ConfdbHsr.Daemon.Flags
import ConfdbHsr.Daemon.LinkEvents

/-!
# The flags that a configuration call computes

`main_check` looks at one dump of the links.  `snapshot` is the mask that it sets in its node, and
`PlainConfig` says for which tables the mask is right.

* `claimed`            what `get_master` looks for: an HSR device that lists the link as a port;
* `mainCheck_leaves`   the node is appended with the flags of `snapshot`, or not at all;
* `snapshot_truth`     in a plain configuration these are the true ones.
-/

namespace Hsr
open Nl Proc

/-- an HSR device of the table has the index as a port -/
def isPort (d : LinkObj) (ifindex : UInt32) : Bool :=
  ifindex == d.hsrSlave1 || ifindex == d.hsrSlave2

def claimed (table : List LinkObj) (ifindex : UInt32) : Bool :=
  table.any fun d => d.isHsr && isPort d ifindex

/-- a mask, if the slave is claimed -/
def maskIf (b : Bool) (flags : BitVec 8) : BitVec 8 := if b then flags else 0

/-- the mask that `main_check` sets where a device of the name exists -/
def reconfigureMask (table : List LinkObj) (i1 i2 : UInt32) (d : LinkObj) : BitVec 8 :=
  if (i1 == d.hsrSlave1 && i2 == d.hsrSlave2) || (i2 == d.hsrSlave1 && i1 == d.hsrSlave2) then 0
  else if isPort d i1 then maskIf (claimed table i2) SLAVE2_BUSY
  else if isPort d i2 then maskIf (claimed table i1) SLAVE1_BUSY
  else maskIf (claimed table i1 && claimed table i2) (SLAVE1_BUSY ||| SLAVE2_BUSY)

/-- the mask that `main_check` sets in its node -/
def snapshot (table : List LinkObj) : Option LinkObj → Option LinkObj → Option LinkObj → BitVec 8
  | none, none, _ => SLAVE1_NOT_EXISTS ||| SLAVE2_NOT_EXISTS
  | none, some slave2, _ =>
    SLAVE1_NOT_EXISTS ||| maskIf (claimed table slave2.lIndex) SLAVE2_BUSY
  | some slave1, none, _ =>
    SLAVE2_NOT_EXISTS ||| maskIf (claimed table slave1.lIndex) SLAVE1_BUSY
  | some slave1, some slave2, none =>
    maskIf (claimed table slave1.lIndex) SLAVE1_BUSY |||
      maskIf (claimed table slave2.lIndex) SLAVE2_BUSY
  | some slave1, some slave2, some d => reconfigureMask table slave1.lIndex slave2.lIndex d

lemma isPort_pair {d : LinkObj} {i1 i2 : UInt32} (hne : i1 ≠ i2) :
    ((i1 == d.hsrSlave1 && i2 == d.hsrSlave2) || (i2 == d.hsrSlave1 && i1 == d.hsrSlave2)) =
      (isPort d i1 && isPort d i2) := by
  unfold isPort
  by_cases h1 : i1 = d.hsrSlave1
  · have h2 : (i2 == d.hsrSlave1) = false := by simpa [← h1] using hne.symm
    simp [h1, h2]
  · by_cases h2 : i1 = d.hsrSlave2
    · have h3 : (i2 == d.hsrSlave2) = false := by simpa [← h2] using hne.symm
      simp [h2, h3]
    · have e1 : (i1 == d.hsrSlave1) = false := by simpa using h1
      have e2 : (i1 == d.hsrSlave2) = false := by simpa using h2
      rw [e1, e2]
      simp

lemma setStatusFlags_or (node : WaitListNode) (a b : BitVec 8) :
    setStatusFlags (setStatusFlags node a) b = setStatusFlags node (a ||| b) := by
  simp [setStatusFlags, BitVec.or_assoc]

lemma setStatusFlags_zero (node : WaitListNode) : setStatusFlags node 0 = node := by
  simp [setStatusFlags]

lemma setStatusFlags_maskIf (node : WaitListNode) (b : Bool) (flags : BitVec 8) :
    setStatusFlags node (maskIf b flags) = if b then setStatusFlags node flags else node := by
  cases b with
  | false => exact setStatusFlags_zero node
  | true => rfl

lemma maskIf_bit (b : Bool) (flags : BitVec 8) (i : Nat) :
    (maskIf b flags).getLsbD i = (b && flags.getLsbD i) := by
  cases b with
  | false => exact BitVec.getLsbD_zero
  | true => rfl

/-- the mask with the given values of the four flags -/
def flagMask (missing1 missing2 busy1 busy2 : Bool) : BitVec 8 :=
  maskIf missing1 SLAVE1_NOT_EXISTS ||| maskIf missing2 SLAVE2_NOT_EXISTS |||
    maskIf busy1 SLAVE1_BUSY ||| maskIf busy2 SLAVE2_BUSY

lemma flagMask_bit (missing1 missing2 busy1 busy2 : Bool) (flag : Flag) :
    (flagMask missing1 missing2 busy1 busy2).getLsbD flag.bit = match flag with
      | .notExists .slave1 => missing1
      | .notExists .slave2 => missing2
      | .busy .slave1 => busy1
      | .busy .slave2 => busy2 := by
  unfold flagMask
  rw [BitVec.getLsbD_or, BitVec.getLsbD_or, BitVec.getLsbD_or, maskIf_bit, maskIf_bit, maskIf_bit,
    maskIf_bit]
  rcases flag with slot | slot <;> cases slot <;>
    simp [Flag.bit, SLAVE1_BUSY, SLAVE2_BUSY, SLAVE1_NOT_EXISTS, SLAVE2_NOT_EXISTS]

/-! ## running `main_check` -/

section
variable {W : Type} {S : Sys W} {P : W → Prop}

lemma getSlave1_leaves (link : LinkObj) :
    Leaves P (rtnlLinkHsrGetSlave1 S link) fun a w => P w ∧ a = link.hsrSlave1 :=
  leaves_emit_bind (leaves_ite (fun _ => leaves_fail _) fun _ => leaves_pure fun _ h => ⟨h, rfl⟩)

lemma getSlave2_leaves (link : LinkObj) :
    Leaves P (rtnlLinkHsrGetSlave2 S link) fun a w => P w ∧ a = link.hsrSlave2 :=
  leaves_emit_bind (leaves_ite (fun _ => leaves_fail _) fun _ => leaves_pure fun _ h => ⟨h, rfl⟩)

/-- the branch for an existing device sets its mask, whatever becomes of the device -/
lemma mainCheckReconfigure_flags {table : List LinkObj} {i1 i2 : UInt32} {m1 m2 : Option LinkObj}
    (h1 : m1.isSome = claimed table i1) (h2 : m2.isSome = claimed table i2) (d : LinkObj)
    (node : WaitListNode) :
    Leaves P (mainCheckReconfigure S i1 i2 m1 m2 d node) fun p _ =>
      p.2 = setStatusFlags node (reconfigureMask table i1 i2 d) := by
  have hdel : Leaves P (do
      let ret ← deleteHsrInterface S d
      pure (ret, node) : Op W (Int × WaitListNode)) fun p _ => p.2 = setStatusFlags node 0 :=
    Yields.leaves (yields_then fun _ => yields_pure (setStatusFlags_zero node).symm)
  have hmask : ∀ {m : Option LinkObj} {i : UInt32} (flags : BitVec 8),
      m.isSome = claimed table i → Leaves P (if m.isNone then do
          let ret ← deleteHsrInterface S d
          pure (ret, node)
        else pure (0, setStatusFlags node flags) : Op W (Int × WaitListNode))
        fun p _ => p.2 = setStatusFlags node (maskIf (claimed table i) flags) := by
    intro m i flags hm
    rw [← hm]
    cases m with
    | none => exact hdel
    | some _ => exact leaves_pure fun _ _ => rfl
  refine leaves_bind _ (getSlave1_leaves d) fun sl1 => leaves_given fun e1 => ?_
  refine leaves_bind _ (getSlave2_leaves d) fun sl2 => leaves_given fun e2 => ?_
  subst e1 e2
  unfold reconfigureMask isPort
  refine leaves_ite (fun h => ?_) fun h => ?_
  · rw [if_pos h]
    exact hdel
  · rw [if_neg h]
    refine leaves_ite (fun h => ?_) fun h => ?_
    · rw [if_pos h]
      exact hmask SLAVE2_BUSY h2
    · rw [if_neg h]
      refine leaves_ite (fun h => ?_) fun h => ?_
      · rw [if_pos h]
        exact hmask SLAVE1_BUSY h1
      · rw [if_neg h, ← h1, ← h2]
        cases m1 with
        | none =>
          cases m2 with
          | none => exact hdel
          | some _ => exact leaves_pure fun _ _ => (setStatusFlags_zero node).symm
        | some _ =>
          cases m2 with
          | none => exact leaves_pure fun _ _ => (setStatusFlags_zero node).symm
          | some _ => exact leaves_pure fun _ _ => rfl

lemma getMasterLoop_leaves (slave : UInt32) (links : List LinkObj) :
    Leaves P (getMasterLoop S slave links) fun m w => P w ∧ m.isSome = claimed links slave := by
  induction links with
  | nil => exact leaves_pure fun _ h => ⟨h, rfl⟩
  | cons link links ih =>
    have hclaimed : claimed (link :: links) slave =
        ((link.isHsr && isPort link slave) || claimed links slave) := List.any_cons
    rw [hclaimed]
    refine leaves_ite (fun hhsr => ?_) fun hhsr => ?_
    · have hnot : link.isHsr = false := by simpa using hhsr
      rw [hnot]
      exact ih
    · have hyes : link.isHsr = true := by simpa using hhsr
      rw [hyes]
      refine leaves_bind _ (getSlave1_leaves link) fun sl1 => leaves_given fun h1 => ?_
      refine leaves_bind _ (getSlave2_leaves link) fun sl2 => leaves_given fun h2 => ?_
      subst h1 h2
      refine leaves_ite (fun hport => leaves_pure fun w h => ⟨h, ?_⟩) fun hport => ?_
      · have hp : isPort link slave = true := hport
        rw [hp]
        rfl
      · have hp : isPort link slave = false := Bool.eq_false_iff.mpr hport
        rw [hp]
        exact ih

end

variable {ω : Type} {S : Sys (Kernel ω)} (hS : Consistent S) {k : Kernel ω}
include hS

lemma dump_leaves {α : Type} {f : Int × List LinkObj → Op (Kernel ω) α} {Q : α → Kernel ω → Prop}
    (hf : Leaves (· = k) (f (0, devices k.links)) Q) :
    Leaves (· = k) (sys S.rtnlLinkAllocCache >>= f) Q := by
  intro w hw a ha
  subst hw
  rw [bind_apply, sys_apply, hS.dump] at ha ⊢
  exact hf w rfl a ha

lemma getMaster_leaves (slave : UInt32) :
    Leaves (· = k) (getMaster S slave) fun m w => w = k ∧ m.isSome = claimed (devices k.links) slave :=
  dump_leaves hS (getMasterLoop_leaves slave _)

/-- what `main_check` makes of the list: nothing, or the node is appended with its snapshot -/
def Appends (table : List LinkObj) (slave1 slave2 d : Option LinkObj)
    (waitList : List WaitListNode) (node : WaitListNode) (waitList' : List WaitListNode) : Prop :=
  waitList' = waitList ∨
    waitList' = waitList ++ [setStatusFlags node (snapshot table slave1 slave2 d)]

omit hS in
lemma mainCheckFresh_yields (waitList : List WaitListNode) (ifName : CStr)
    (m1 m2 : Option LinkObj) (slave1 slave2 : LinkObj) (node : WaitListNode) :
    Yields (fun p => p.2 = waitList ∨ p.2 = waitList ++ [setStatusFlags node
        (maskIf m1.isSome SLAVE1_BUSY ||| maskIf m2.isSome SLAVE2_BUSY)])
      (mainCheckFresh S waitList ifName m1 m2 slave1 slave2 node) := by
  unfold mainCheckFresh
  cases m1 with
  | none =>
    cases m2 with
    | none =>
      refine yields_ite (fun _ => ?_) fun h => absurd rfl h
      refine yields_ite (fun _ => ?_) fun _ => yields_pure (.inr ?_)
      · refine yields_then fun ret => ?_
        exact yields_ite (fun _ => yields_pure (.inl rfl)) fun _ => yields_pure (.inl rfl)
      · show waitList ++ [node] = waitList ++ [setStatusFlags node 0]
        rw [setStatusFlags_zero]
    | some _ =>
      have hflags : SLAVE2_BUSY = maskIf false SLAVE1_BUSY ||| maskIf true SLAVE2_BUSY := by decide
      refine yields_pure (.inr ?_)
      exact congrArg (fun flags => waitList ++ [setStatusFlags node flags]) hflags
  | some _ =>
    cases m2 with
    | none =>
      have hflags : SLAVE1_BUSY = maskIf true SLAVE1_BUSY ||| maskIf false SLAVE2_BUSY := by decide
      refine yields_pure (.inr ?_)
      exact congrArg (fun flags => waitList ++ [setStatusFlags node flags]) hflags
    | some _ => exact yields_pure (.inr rfl)

theorem mainCheck_leaves (waitList : List WaitListNode) (ifName : CStr)
    (slave1 slave2 d : Option LinkObj) (node : WaitListNode) :
    Leaves (· = k) (mainCheck S waitList ifName slave1 slave2 d node) fun p _ =>
      Appends (devices k.links) slave1 slave2 d waitList node p.2 := by
  cases slave1 with
  | none =>
    cases slave2 with
    | none => exact leaves_pure fun _ _ => .inr rfl
    | some slave2 =>
      refine leaves_bind _ (getMaster_leaves hS _) fun m => leaves_given fun hm => ?_
      refine leaves_pure fun _ _ => .inr ?_
      rw [snapshot, ← setStatusFlags_or, setStatusFlags_maskIf]
      show waitList ++ [if m.isSome then _ else _] = _
      rw [hm]
      rfl
  | some slave1 =>
    cases slave2 with
    | none =>
      refine leaves_bind _ (getMaster_leaves hS _) fun m => leaves_given fun hm => ?_
      refine leaves_pure fun _ _ => .inr ?_
      rw [snapshot, ← setStatusFlags_or, setStatusFlags_maskIf]
      show waitList ++ [if m.isSome then _ else _] = _
      rw [hm]
      rfl
    | some slave2 =>
      refine leaves_bind _ (getMaster_leaves hS _) fun m1 => leaves_given fun h1 => ?_
      refine leaves_bind _ (getMaster_leaves hS _) fun m2 => leaves_given fun h2 => ?_
      cases d with
      | some d =>
        refine leaves_bind _ (mainCheckReconfigure_flags h1 h2 d node) fun ⟨ret, node'⟩ => ?_
        refine leaves_ite (fun _ => leaves_pure fun _ _ => .inl rfl) fun _ => ?_
        refine leaves_pure fun _ (hnode : node' = _) => .inr ?_
        rw [hnode]
        rfl
      | none =>
        have hmask : snapshot (devices k.links) (some slave1) (some slave2) none =
            maskIf m1.isSome SLAVE1_BUSY ||| maskIf m2.isSome SLAVE2_BUSY := by
          rw [h1, h2]
          rfl
        refine Yields.leaves ((mainCheckFresh_yields _ _ m1 m2 _ _ _).mono fun p hp => ?_)
        rw [Appends, hmask]
        exact hp

lemma withDump_leaves {α : Type} {onError : Int → Op (Kernel ω) α}
    {f : List LinkObj → Op (Kernel ω) α} {Q : α → Kernel ω → Prop}
    (herr : ∀ ret, Leaves (· = k) (onError ret) Q) (hf : Leaves (· = k) (f (devices k.links)) Q) :
    Leaves (· = k) (withDump S onError f) Q := by
  refine leaves_sys_bind (fun _ w => w = k) (fun w hw => ?_) fun ret => ?_
  · subst hw
    exact hS.connect w
  · refine leaves_ite (fun _ => herr ret) fun _ => dump_leaves hS ?_
    exact leaves_ite (fun _ => herr 0) fun _ => hf

/-- the node that a configuration queues over the links of the kernel -/
def queuedNode (links : List LinkObj) (ifName slaveA slaveB : CStr) : WaitListNode :=
  setStatusFlags (newNode ifName slaveA slaveB)
    (snapshot (devices links) (deviceNamed links slaveA) (deviceNamed links slaveB)
      (deviceNamed links ifName))

lemma initialCheck_leaves (waitList : List WaitListNode) (ifName slaveA slaveB : CStr) :
    Leaves (· = k) (initialCheck S waitList ifName slaveA slaveB) fun p _ =>
      p.2 = waitList ∨ p.2 = (deleteWaitListNode waitList ifName).1 ∨
        p.2 = (deleteWaitListNode waitList ifName).1 ++
          [queuedNode k.links ifName slaveA slaveB] := by
  refine withDump_leaves hS (fun _ => leaves_fail _) ?_
  refine leaves_sys_bind (fun _ w => w = k) (fun w hw => ?_) fun allocated => ?_
  · subst hw
    exact hS.calloc w
  · refine leaves_ite (fun _ => leaves_pure fun _ _ => .inr (.inl rfl)) fun _ => ?_
    exact (mainCheck_leaves hS _ _ _ _ _ _).mono (fun _ h => h) fun p _ h => .inr h

lemma changeInterfaceList_leaves (app : HsrModule) (ifName : CStr) (isAdd : Bool) :
    Leaves (· = k) (changeInterfaceList S app ifName isAdd) fun p w =>
      w = k ∧ p.2.waitList = app.waitList := by
  refine withDump_leaves hS (fun _ => leaves_fail _) ?_
  refine leaves_ite (fun _ => leaves_pure fun _ h => ⟨h, rfl⟩) fun _ => ?_
  refine leaves_ite (fun _ => ?_) fun _ => leaves_pure fun _ h => ⟨h, rfl⟩
  refine leaves_bind (fun app' w => w = k ∧ app'.waitList = app.waitList) ?_ fun app' =>
    leaves_pure fun _ h => h
  refine leaves_emit_bind ?_
  exact leaves_ite (fun _ => leaves_pure fun _ h => ⟨h, rfl⟩) fun _ => leaves_fail _

/-- what a configuration call makes of the list, by the links of the kernel -/
inductive ConfigLeaves (links : List LinkObj) (waitList : List WaitListNode) :
    Option CStr → Option HsrData → List WaitListNode → Prop
  | keeps (key : Option CStr) (data : Option HsrData) : ConfigLeaves links waitList key data waitList
  | removes (ifName : CStr) (data : Option HsrData) :
      ConfigLeaves links waitList (some ifName) data (deleteWaitListNode waitList ifName).1
  | queues (ifName slaveA slaveB : CStr) :
      ConfigLeaves links waitList (some ifName) (some ⟨some slaveA, some slaveB⟩)
        ((deleteWaitListNode waitList ifName).1 ++ [queuedNode links ifName slaveA slaveB])

/-- **What a configuration call makes of the wait list.** -/
theorem hsrHandler_leaves (app : HsrModule) (key : Option CStr) (cdbData : Option HsrData) :
    Leaves (· = k) (hsrHandler S app key cdbData) fun p _ =>
      ConfigLeaves k.links app.waitList key cdbData p.2.waitList := by
  cases key with
  | none => exact leaves_pure fun _ _ => .keeps none cdbData
  | some ifName =>
    cases cdbData with
    | none =>
      refine Yields.leaves (yields_then fun ret => ?_)
      refine yields_ite (fun _ => yields_pure (.removes ifName none)) fun _ => ?_
      refine yields_bind (changeInterfaceList_waitList S app ifName false) fun p hp => ?_
      refine yields_pure ?_
      rw [hp]
      exact .keeps _ none
    | some data =>
      refine leaves_bind _ (changeInterfaceList_leaves hS app ifName true) fun p => ?_
      refine leaves_given fun hp => ?_
      obtain ⟨slaveA, slaveB⟩ := data
      cases slaveA with
      | none =>
        refine leaves_pure fun _ _ => ?_
        rw [hp]
        exact .keeps _ _
      | some slaveA =>
        cases slaveB with
        | none =>
          refine leaves_pure fun _ _ => ?_
          rw [hp]
          exact .keeps _ _
        | some slaveB =>
          refine leaves_bind _ (initialCheck_leaves hS _ ifName slaveA slaveB) fun q => ?_
          refine leaves_pure fun _ hq => ?_
          rw [hp] at hq
          show ConfigLeaves _ _ _ _ q.2
          rcases hq with hq | hq | hq
          · rw [hq]
            exact .keeps _ _
          · rw [hq]
            exact .removes ifName _
          · rw [hq]
            exact .queues ifName slaveA slaveB

/-! ## when the snapshot is true -/

/-- the HSR devices of a table list as ports just the links whose master they are -/
def PortsListed (table : List LinkObj) : Prop :=
  ∀ d ∈ table, d.isHsr = true → ∀ link ∈ table,
    (isPort d link.lIndex = true ↔ link.lMaster = d.lIndex)

/-- what has to hold of the slaves where the device `d` has the configured name -/
def OwnPlain (d : LinkObj) : Option LinkObj → Option LinkObj → Prop
  | none, none => True
  -- a port of the device is taken for busy where the other slave is missing
  | some slave1, none => slave1.lMaster ≠ d.lIndex
  | none, some slave2 => slave2.lMaster ≠ d.lIndex
  -- where neither is a port of it, one that is busy is overlooked where the other is free
  | some slave1, some slave2 => slave1.lMaster = d.lIndex ∨ slave2.lMaster = d.lIndex ∨
      (slave1.lMaster = 0 ↔ slave2.lMaster = 0)

/-- a configuration that `main_check` reads right -/
structure PlainConfig (links : List LinkObj) (ifName slaveA slaveB : CStr) : Prop where
  listed : PortsListed (devices links)
  distinct : slaveA ≠ slaveB
  hsrMaster : ∀ link ∈ devices links, link.lName = slaveA ∨ link.lName = slaveB →
    link.lMaster ≠ 0 → ∃ d ∈ devices links, d.isHsr = true ∧ d.lIndex = link.lMaster
  own : ∀ d ∈ deviceNamed links ifName, d.isHsr = true ∧
    OwnPlain d (deviceNamed links slaveA) (deviceNamed links slaveB)

instance (table : List LinkObj) : Decidable (PortsListed table) :=
  inferInstanceAs (Decidable (∀ d ∈ table, d.isHsr = true → ∀ link ∈ table,
    (isPort d link.lIndex = true ↔ link.lMaster = d.lIndex)))

instance (d : LinkObj) : ∀ slave1 slave2, Decidable (OwnPlain d slave1 slave2)
  | none, none => inferInstanceAs (Decidable True)
  | some _, none => inferInstanceAs (Decidable (_ ≠ _))
  | none, some _ => inferInstanceAs (Decidable (_ ≠ _))
  | some _, some _ => inferInstanceAs (Decidable (_ ∨ _ ∨ _))

instance (links : List LinkObj) (ifName slaveA slaveB : CStr) :
    Decidable (PlainConfig links ifName slaveA slaveB) :=
  decidable_of_iff (PortsListed (devices links) ∧ slaveA ≠ slaveB ∧
    (∀ link ∈ devices links, link.lName = slaveA ∨ link.lName = slaveB →
      link.lMaster ≠ 0 → ∃ d ∈ devices links, d.isHsr = true ∧ d.lIndex = link.lMaster) ∧
    ∀ d ∈ deviceNamed links ifName, d.isHsr = true ∧
      OwnPlain d (deviceNamed links slaveA) (deviceNamed links slaveB))
    ⟨fun h => ⟨h.1, h.2.1, h.2.2.1, h.2.2.2⟩, fun h => ⟨h.listed, h.distinct, h.hsrMaster, h.own⟩⟩

omit hS
section
variable {links : List LinkObj} {ifName slaveA slaveB : CStr} (hwf : WellFormed links)
  (h : PlainConfig links ifName slaveA slaveB)
include hwf h

lemma PlainConfig.claimed_eq {link : LinkObj} (hlink : link ∈ devices links)
    (hname : link.lName = slaveA ∨ link.lName = slaveB) :
    claimed (devices links) link.lIndex = (link.lMaster != 0) := by
  rw [Bool.eq_iff_iff, claimed, List.any_eq_true, bne_iff_ne]
  constructor
  · rintro ⟨d, hd, hport⟩
    rw [Bool.and_eq_true] at hport
    rw [(h.listed d hd hport.1 link hlink).mp hport.2]
    exact hwf.index_ne d (mem_devices.mp hd).1
  · intro hne
    obtain ⟨d, hd, hhsr, hindex⟩ := h.hsrMaster link hlink hname hne
    refine ⟨d, hd, ?_⟩
    rw [Bool.and_eq_true]
    exact ⟨hhsr, (h.listed d hd hhsr link hlink).mpr hindex.symm⟩

omit h in
lemma busyFor_sightOf (link : LinkObj) : busyFor ifName (sightOf links link) =
    (link.lMaster != 0 &&
      !(deviceNamed links ifName).any fun d => link.lMaster == d.lIndex) := by
  unfold sightOf
  split
  · rename_i hzero
    rw [hzero]
    rfl
  · rename_i hne
    have hown : (nameOf links link.lMaster = some ifName) ↔
        ((deviceNamed links ifName).any fun d => link.lMaster == d.lIndex) = true := by
      rw [nameOf_iff hwf, Option.any_eq_true]
      constructor
      · rintro ⟨d, hd, hindex, hname⟩
        exact ⟨d, (deviceNamed_iff hwf).mpr ⟨hd, hname⟩, by simp [hindex]⟩
      · rintro ⟨d, hd, hindex⟩
        obtain ⟨hmem, hname⟩ := (deviceNamed_iff hwf).mp hd
        exact ⟨d, hmem, by simpa using (beq_iff_eq.mp hindex).symm, hname⟩
    have hmaster : (link.lMaster != 0) = true := by simpa using hne
    rw [hmaster, Bool.true_and, busyFor, Bool.eq_iff_iff, bne_iff_ne, Ne, hown]
    simp

omit h in
lemma busyFor_own {d link : LinkObj} (hd : deviceNamed links ifName = some d) :
    busyFor ifName (sightOf links link) = (link.lMaster != 0 && link.lMaster != d.lIndex) := by
  rw [busyFor_sightOf hwf, hd]
  rfl

/-- the mask for an existing device and two existing slaves -/
lemma reconfigureMask_truth {a b d : LinkObj} (ha : deviceNamed links slaveA = some a)
    (hb : deviceNamed links slaveB = some b) (hd : deviceNamed links ifName = some d) :
    reconfigureMask (devices links) a.lIndex b.lIndex d =
      maskIf (busyFor ifName (sightOf links a)) SLAVE1_BUSY |||
        maskIf (busyFor ifName (sightOf links b)) SLAVE2_BUSY := by
  obtain ⟨hma, hna⟩ := (deviceNamed_iff hwf).mp ha
  obtain ⟨hmb, hnb⟩ := (deviceNamed_iff hwf).mp hb
  obtain ⟨hmd, -⟩ := (deviceNamed_iff hwf).mp hd
  obtain ⟨hhsr, hown⟩ := h.own d hd
  rw [ha, hb] at hown
  have hporta := h.listed d hmd hhsr a hma
  have hportb := h.listed d hmd hhsr b hmb
  have hne : a.lIndex ≠ b.lIndex := by
    intro heq
    have hab := hwf.index_inj hma hmb heq
    exact h.distinct (by rw [← hna, ← hnb, hab])
  have hd0 := hwf.index_ne d (mem_devices.mp hmd).1
  rw [busyFor_own hwf hd, busyFor_own hwf hd]
  unfold reconfigureMask
  rw [h.claimed_eq hwf hma (.inl hna), h.claimed_eq hwf hmb (.inr hnb), isPort_pair hne]
  cases hpa : isPort d a.lIndex with
  | true =>
    rw [hporta.mp hpa]
    cases hpb : isPort d b.lIndex with
    | true =>
      rw [hportb.mp hpb]
      simp [maskIf]
    | false =>
      have hbd : b.lMaster ≠ d.lIndex := fun heq => by simp [hportb.mpr heq] at hpb
      simp [maskIf, hbd]
  | false =>
    have had : a.lMaster ≠ d.lIndex := fun heq => by simp [hporta.mpr heq] at hpa
    cases hpb : isPort d b.lIndex with
    | true =>
      rw [hportb.mp hpb]
      simp [maskIf, had]
    | false =>
      have hbd : b.lMaster ≠ d.lIndex := fun heq => by simp [hportb.mpr heq] at hpb
      have hboth : a.lMaster = 0 ↔ b.lMaster = 0 := by
        rcases hown with heq | heq | hiff
        · exact absurd heq had
        · exact absurd heq hbd
        · exact hiff
      by_cases hzero : a.lMaster = 0
      · simp [maskIf, hzero, hboth.mp hzero]
      · simp [maskIf, hzero, mt hboth.mpr hzero, had, hbd]

lemma snapshot_eq :
    snapshot (devices links) (deviceNamed links slaveA) (deviceNamed links slaveB)
        (deviceNamed links ifName) =
      flagMask (deviceNamed links slaveA).isNone (deviceNamed links slaveB).isNone
        ((deviceNamed links slaveA).any fun a => busyFor ifName (sightOf links a))
        ((deviceNamed links slaveB).any fun b => busyFor ifName (sightOf links b)) := by
  -- a slave that is no port of the device of the name
  have hbusy : ∀ {a : LinkObj} {name : CStr}, deviceNamed links name = some a →
      name = slaveA ∨ name = slaveB →
      (∀ d, deviceNamed links ifName = some d → a.lMaster ≠ d.lIndex) →
      claimed (devices links) a.lIndex = busyFor ifName (sightOf links a) := by
    intro a name ha hname hown
    obtain ⟨hmem, rfl⟩ := (deviceNamed_iff hwf).mp ha
    rw [h.claimed_eq hwf hmem hname]
    cases hd : deviceNamed links ifName with
    | none =>
      rw [busyFor_sightOf hwf, hd]
      simp
    | some d =>
      rw [busyFor_own hwf hd]
      simp [hown d hd]
  have hown := fun d hd => (h.own d hd).2
  cases ha : deviceNamed links slaveA with
  | none =>
    cases hb : deviceNamed links slaveB with
    | none =>
      rw [snapshot]
      simp [flagMask, maskIf]
    | some b =>
      rw [ha, hb] at hown
      rw [snapshot, hbusy hb (.inr rfl) hown]
      simp [flagMask, maskIf]
  | some a =>
    cases hb : deviceNamed links slaveB with
    | none =>
      rw [ha, hb] at hown
      rw [snapshot, hbusy ha (.inl rfl) hown]
      simp [flagMask, maskIf]
    | some b =>
      cases hd : deviceNamed links ifName with
      | none =>
        have hnone : ∀ (x : LinkObj) d, deviceNamed links ifName = some d → x.lMaster ≠ d.lIndex := by
          intro x d hd'
          rw [hd] at hd'
          cases hd'
        rw [snapshot, hbusy ha (.inl rfl) (hnone a), hbusy hb (.inr rfl) (hnone b)]
        simp [flagMask, maskIf]
      | some d =>
        rw [snapshot, reconfigureMask_truth hwf h ha hb hd]
        simp [flagMask, maskIf]

/-- **In a plain configuration the snapshot tells the truth.** -/
theorem snapshot_truth (flag : Flag) :
    told flag (queuedNode links ifName slaveA slaveB) =
      flag.truth links (queuedNode links ifName slaveA slaveB) := by
  have hsame : SameNames (newNode ifName slaveA slaveB) (queuedNode links ifName slaveA slaveB) :=
    sameNames_set _ _
  rw [hsame.truth, queuedNode, told_set, told_newNode, Bool.false_or, snapshot_eq hwf h, flagMask_bit]
  rcases flag with slot | slot
  · rw [truth_busy]
    cases slot <;> rfl
  · rw [truth_notExists]
    cases slot <;> rfl

end

end Hsr
