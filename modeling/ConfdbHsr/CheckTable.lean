import ConfdbHsr.Daemon.Creation
import ConfdbHsr.Daemon.Snapshot
import ConfdbHsr.Daemon.Scenario

/-!
# What a configuration call decides from the links

`main_check` is a decision table over the existence of three links and the ports of all HSR
devices.  While nothing fails, its outcome depends on one table of links only.

* `ShowsTable`, `Serves`   in some worlds dumps show the table, and nothing fails;
* `initialCheck_decides`   from these worlds a call sends the requests of `decision` and leaves its
                     list;
* `Decides`          what a call should do, read off the table;
* `decides_iff`      when it does.

Two entries of the table are wrong: where both slaves exist and no device lists either, one that
is busy is overlooked if the other is free; and where one slave is missing, the other is taken for
busy even if the device of the configuration itself holds it.
-/

namespace Hsr
open Nl Proc

/-! ## requests -/

inductive Request where
  | add (link : RtnlLink)
  | delete (link : LinkObj)
  deriving DecidableEq, Repr

def Act.request : Act → Option Request
  | .linkAdd _ link _ => some (.add link)
  | .linkDelete link _ => some (.delete link)
  | _ => none

/-- the requests to the kernel in a log -/
def requests (acts : List Act) : List Request := acts.filterMap Act.request

@[simp] lemma requests_append (l l' : List Act) : requests (l ++ l') = requests l ++ requests l' :=
  List.filterMap_append

/-! ## the decision -/

/-- whether `main_check` deletes the device that has the configured name -/
def deletesOwn (table : List LinkObj) (i1 i2 : UInt32) (d : LinkObj) : Bool :=
  if (i1 == d.hsrSlave1 && i2 == d.hsrSlave2) || (i2 == d.hsrSlave1 && i1 == d.hsrSlave2) then true
  else if isPort d i1 then !claimed table i2
  else if isPort d i2 then !claimed table i1
  else !claimed table i1 && !claimed table i2

/-- the requests of `main_check`, and whether its node is queued -/
def decision (table : List LinkObj) (alone : Bool) (ifName : CStr) :
    Option LinkObj → Option LinkObj → Option LinkObj → List Request × Bool
  | some slave1, some slave2, some d =>
    (if deletesOwn table slave1.lIndex slave2.lIndex d then [.delete d] else [], true)
  | some slave1, some slave2, none =>
    if !claimed table slave1.lIndex && !claimed table slave2.lIndex && alone then
      ([.add (hsrRequest ifName slave1.lIndex slave2.lIndex 1)], false)
    else ([], true)
  | _, _, _ => ([], true)

/-! ## running a call -/

variable {W : Type} (S : Sys W)

/-- in the worlds `P` dumps show the table -/
def ShowsTable (table : List LinkObj) (P : W → Prop) : Prop :=
  ∀ w, P w → P (S.rtnlLinkAllocCache w).2 ∧ 0 ≤ (S.rtnlLinkAllocCache w).1.1 ∧
    (S.rtnlLinkAllocCache w).1.2 = table

/-- in the worlds `P` dumps show the table, and no operation fails -/
structure Serves (table : List LinkObj) (P : W → Prop) : Prop where
  connect : ∀ w, P w → P (S.nlConnect w).2 ∧ 0 ≤ (S.nlConnect w).1
  dump : ShowsTable S table P
  calloc : ∀ w, P w → P (S.calloc w).2 ∧ (S.calloc w).1 = true
  add : ∀ link w, P w → 0 ≤ (S.rtnlLinkAdd link w).1
  delete : ∀ link w, P w → 0 ≤ (S.rtnlLinkDelete link w).1

section
variable {S} {P : W → Prop}

lemma getSlave1_in {link : LinkObj} (hhsr : link.isHsr = true) :
    SpecIn P (rtnlLinkHsrGetSlave1 S link) fun r l => r = .ok link.hsrSlave1 ∧ requests l = [] := by
  refine specIn_emit_bind ?_
  rw [hhsr]
  exact specIn_pure ⟨rfl, rfl⟩

lemma getSlave2_in {link : LinkObj} (hhsr : link.isHsr = true) :
    SpecIn P (rtnlLinkHsrGetSlave2 S link) fun r l => r = .ok link.hsrSlave2 ∧ requests l = [] := by
  refine specIn_emit_bind ?_
  rw [hhsr]
  exact specIn_pure ⟨rfl, rfl⟩

lemma getMasterLoop_in (slave : UInt32) (links : List LinkObj) :
    SpecIn P (getMasterLoop S slave links) fun r l =>
      ∃ m, r = .ok m ∧ m.isSome = claimed links slave ∧ requests l = [] := by
  induction links with
  | nil => exact specIn_pure ⟨none, rfl, rfl, rfl⟩
  | cons link links ih =>
    have hclaimed : claimed (link :: links) slave =
        ((link.isHsr && isPort link slave) || claimed links slave) := List.any_cons
    rw [hclaimed]
    refine specIn_ite (fun hhsr => ?_) fun hhsr => ?_
    · have hnot : link.isHsr = false := by simpa using hhsr
      rw [hnot]
      exact ih
    · have hyes : link.isHsr = true := by simpa using hhsr
      rw [hyes]
      refine specIn_bind_val (getSlave1_in hyes) fun l hl => ?_
      refine specIn_bind_val (getSlave2_in hyes) fun l' hl' => ?_
      refine specIn_ite (fun hport => specIn_pure ?_) fun hport => ?_
      · have hp : isPort link slave = true := hport
        refine ⟨some link, rfl, ?_, ?_⟩
        · rw [hp]
          rfl
        · simp [hl, hl']
      · have hp : isPort link slave = false := Bool.eq_false_iff.mpr hport
        refine ih.mono fun r l'' ⟨m, hr, hm, hl''⟩ => ⟨m, hr, ?_, ?_⟩
        · rw [hp]
          exact hm
        · simp [hl, hl', hl'']

variable {table : List LinkObj}

lemma getMaster_in (hdump : ShowsTable S table P) (slave : UInt32) :
    SpecIn P (getMaster S slave) fun r l =>
      ∃ m, r = .ok m ∧ m.isSome = claimed table slave ∧ requests l = [] := by
  refine specIn_sys_bind (Q := fun dump => 0 ≤ dump.1 ∧ dump.2 = table) hdump ?_
  rintro ⟨ret, links⟩ ⟨hret, rfl⟩
  refine specIn_ite (fun hneg => ?_) fun _ => getMasterLoop_in slave links
  exact absurd hret (Int.not_le.mpr hneg)

variable (hS : Serves S table P)
include hS

lemma deleteOwn_from (d : LinkObj) (node : WaitListNode) :
    SpecFrom P (do
      let ret ← deleteHsrInterface S d
      pure (ret, node) : Op W (Int × WaitListNode)) fun r l =>
      r = .ok (0, setStatusFlags node 0) ∧ requests l = [.delete d] := by
  intro w hw
  have hret := hS.delete d w hw
  have hnot : ¬ Refused (S.rtnlLinkDelete d w).1 := fun h => absurd h.1 (by omega)
  rw [bind_apply, deleteHsrInterface_run, setStatusFlags_zero]
  simp only [if_neg hnot, thenRun_ok]
  exact ⟨rfl, rfl⟩

lemma mainCheckReconfigure_from {i1 i2 : UInt32} {m1 m2 : Option LinkObj}
    (h1 : m1.isSome = claimed table i1) (h2 : m2.isSome = claimed table i2) {d : LinkObj}
    (hhsr : d.isHsr = true) (node : WaitListNode) :
    SpecFrom P (mainCheckReconfigure S i1 i2 m1 m2 d node) fun r l =>
      r = .ok (0, setStatusFlags node (reconfigureMask table i1 i2 d)) ∧
        requests l = if deletesOwn table i1 i2 d then [.delete d] else [] := by
  have hdelete := deleteOwn_from hS d node
  -- one slave is a port of the device, and the other one decides
  have hother : ∀ {m : Option LinkObj} {i : UInt32} (flags : BitVec 8),
      m.isSome = claimed table i → SpecFrom P (if m.isNone then do
          let ret ← deleteHsrInterface S d
          pure (ret, node)
        else pure (0, setStatusFlags node flags) : Op W (Int × WaitListNode)) fun r l =>
        r = .ok (0, setStatusFlags node (maskIf (claimed table i) flags)) ∧
          requests l = if !claimed table i then [.delete d] else [] := by
    intro m i flags hm
    rw [← hm]
    cases m with
    | none => exact hdelete
    | some _ => exact specFrom_pure ⟨rfl, rfl⟩
  refine specFrom_bind_val (getSlave1_in hhsr) fun l hl => ?_
  refine specFrom_bind_val (getSlave2_in hhsr) fun l' hl' => ?_
  simp only [requests_append, hl, hl', List.nil_append]
  unfold reconfigureMask deletesOwn isPort
  refine specFrom_ite (fun h => ?_) fun h => ?_
  · rw [if_pos h, if_pos h]
    exact hdelete
  · rw [if_neg h, if_neg h]
    refine specFrom_ite (fun h => ?_) fun h => ?_
    · rw [if_pos h, if_pos h]
      exact hother SLAVE2_BUSY h2
    · rw [if_neg h, if_neg h]
      refine specFrom_ite (fun h => ?_) fun h => ?_
      · rw [if_pos h, if_pos h]
        exact hother SLAVE1_BUSY h1
      · rw [if_neg h, if_neg h, ← h1, ← h2]
        cases m1 with
        | none =>
          cases m2 with
          | none => exact hdelete
          | some _ => exact specFrom_pure ⟨by rw [setStatusFlags_maskIf]; rfl, rfl⟩
        | some _ =>
          cases m2 with
          | none => exact specFrom_pure ⟨by rw [setStatusFlags_maskIf]; rfl, rfl⟩
          | some _ => exact specFrom_pure ⟨rfl, rfl⟩

/-- the list that a call leaves: the node is queued with the flags of the snapshot, or not -/
def leftList (queued : Bool) (rest : List WaitListNode) (node : WaitListNode) (flags : BitVec 8) :
    List WaitListNode :=
  if queued then rest ++ [setStatusFlags node flags] else rest

lemma queueMissing_from (waitList : List WaitListNode) (node : WaitListNode) (slave : UInt32)
    (missing busy : BitVec 8) :
    SpecFrom P (do
      let node := setStatusFlags node missing
      let master ← getMaster S slave
      let node := if master.isSome then setStatusFlags node busy else node
      pure (0, addNodeToWaitList node waitList) : Op W (Int × List WaitListNode)) fun r l =>
      r = .ok (0, waitList ++
        [setStatusFlags node (missing ||| maskIf (claimed table slave) busy)]) ∧ requests l = [] := by
  refine specFrom_bind_ok (getMaster_in hS.dump slave) fun m l ⟨hm, hl⟩ => ?_
  refine specFrom_pure ⟨?_, by rw [requests_append, hl]; rfl⟩
  rw [← setStatusFlags_or, setStatusFlags_maskIf, ← hm]
  rfl

lemma mainCheckFresh_from (waitList : List WaitListNode) (ifName : CStr) {m1 m2 : Option LinkObj}
    {slave1 slave2 : LinkObj} (h1 : m1.isSome = claimed table slave1.lIndex)
    (h2 : m2.isSome = claimed table slave2.lIndex) (node : WaitListNode) :
    SpecFrom P (mainCheckFresh S waitList ifName m1 m2 slave1 slave2 node) fun r l =>
      r = .ok (0, leftList
        (decision table waitList.isEmpty ifName (some slave1) (some slave2) none).2 waitList node
        (snapshot table (some slave1) (some slave2) none)) ∧
        requests l =
          (decision table waitList.isEmpty ifName (some slave1) (some slave2) none).1 := by
  simp only [decision, snapshot]
  rw [← h1, ← h2]
  have hqueue : ∀ flags : BitVec 8, flags = maskIf m1.isSome SLAVE1_BUSY |||
      maskIf m2.isSome SLAVE2_BUSY → (!m1.isSome && !m2.isSome && waitList.isEmpty) = false →
      SpecFrom P (pure (0, addNodeToWaitList (setStatusFlags node flags) waitList) :
        Op W (Int × List WaitListNode)) fun r l =>
        let verdict := if !m1.isSome && !m2.isSome && waitList.isEmpty then
            ([Request.add (hsrRequest ifName slave1.lIndex slave2.lIndex 1)], false)
          else ([], true)
        r = .ok (0, leftList verdict.2 waitList node
          (maskIf m1.isSome SLAVE1_BUSY ||| maskIf m2.isSome SLAVE2_BUSY)) ∧
          requests l = verdict.1 := by
    rintro flags rfl hnot
    rw [hnot]
    exact specFrom_pure ⟨rfl, rfl⟩
  cases m1 with
  | none =>
    cases m2 with
    | none =>
      refine specFrom_ite (fun _ => ?_) fun h => absurd rfl h
      refine specFrom_ite (fun halone => ?_) fun halone => ?_
      · intro w hw
        have hret := hS.add (hsrRequest ifName slave1.lIndex slave2.lIndex 1) w hw
        rw [bind_apply, createHsrInterface_run, halone]
        simp only [if_neg (Int.not_lt.mpr hret), thenRun_ok]
        exact ⟨rfl, rfl⟩
      · have h := hqueue 0 rfl (by simpa using halone)
        rw [setStatusFlags_zero] at h
        exact h
    | some _ =>
      have hmask : SLAVE2_BUSY = maskIf false SLAVE1_BUSY ||| maskIf true SLAVE2_BUSY := by decide
      exact hqueue SLAVE2_BUSY hmask rfl
  | some _ =>
    cases m2 with
    | none =>
      have hmask : SLAVE1_BUSY = maskIf true SLAVE1_BUSY ||| maskIf false SLAVE2_BUSY := by decide
      exact hqueue SLAVE1_BUSY hmask rfl
    | some _ => exact hqueue (SLAVE1_BUSY ||| SLAVE2_BUSY) rfl rfl

theorem mainCheck_from (waitList : List WaitListNode) (ifName : CStr)
    (slave1 slave2 d : Option LinkObj) (hhsr : ∀ link ∈ d, link.isHsr = true)
    (node : WaitListNode) :
    SpecFrom P (mainCheck S waitList ifName slave1 slave2 d node) fun r l =>
      r = .ok (0, leftList (decision table waitList.isEmpty ifName slave1 slave2 d).2 waitList node
        (snapshot table slave1 slave2 d)) ∧
        requests l = (decision table waitList.isEmpty ifName slave1 slave2 d).1 := by
  cases slave1 with
  | none =>
    cases slave2 with
    | none => exact specFrom_pure ⟨rfl, rfl⟩
    | some slave2 => exact queueMissing_from hS waitList node slave2.lIndex _ _
  | some slave1 =>
    cases slave2 with
    | none => exact queueMissing_from hS waitList node slave1.lIndex _ _
    | some slave2 =>
      refine specFrom_bind_ok (getMaster_in hS.dump _) fun m1 l ⟨h1, hl⟩ => ?_
      refine specFrom_bind_ok (getMaster_in hS.dump _) fun m2 l' ⟨h2, hl'⟩ => ?_
      simp only [requests_append, hl, hl', List.nil_append]
      cases d with
      | some d =>
        refine specFrom_then (mainCheckReconfigure_from hS h1 h2 (hhsr d rfl) node)
          (fun _ _ h => nomatch h.1) fun p l'' ⟨hp, hl''⟩ => ?_
        obtain rfl := Except.ok.inj hp
        refine spec_pure ⟨rfl, ?_⟩
        rw [List.append_nil]
        exact hl''
      | none => exact mainCheckFresh_from hS waitList ifName h1 h2 node

/-- **What a configuration call does, by the links of one table.** -/
theorem initialCheck_decides (waitList : List WaitListNode) (ifName slaveA slaveB : CStr)
    (hhsr : ∀ link ∈ table, link.lName = ifName → link.isHsr = true) :
    SpecFrom P (initialCheck S waitList ifName slaveA slaveB) fun r l =>
      let rest := (deleteWaitListNode waitList ifName).1
      let find := rtnlLinkGetByName table
      let verdict := decision table rest.isEmpty ifName (find slaveA) (find slaveB) (find ifName)
      r = .ok (0, leftList verdict.2 rest (newNode ifName slaveA slaveB)
        (snapshot table (find slaveA) (find slaveB) (find ifName))) ∧ requests l = verdict.1 := by
  refine specFrom_sys_bind hS.connect fun ret hret => ?_
  rw [if_neg (Int.not_lt.mpr hret)]
  refine specFrom_sys_bind (Q := fun dump => 0 ≤ dump.1 ∧ dump.2 = table) hS.dump ?_
  rintro ⟨ret, links⟩ ⟨hret, rfl⟩
  show SpecFrom P (if ret < 0 then _ else _) _
  rw [if_neg (Int.not_lt.mpr hret)]
  refine specFrom_sys_bind (Q := fun allocated => allocated = true) hS.calloc ?_
  rintro _ rfl
  refine mainCheck_from hS _ ifName _ _ _ (fun link hlink => ?_) _
  exact hhsr link (List.mem_of_find?_eq_some hlink) (rtnlLinkGetByName_name hlink)

end

/-! ## what a call should do -/

/-- a table of links as a kernel shows it: names and indexes are distinct, and a link is a port of
one HSR device at most -/
structure KernelTable (table : List LinkObj) : Prop where
  names : (table.map fun link => link.lName).Nodup
  indexes : (table.map fun link => link.lIndex).Nodup
  ports : ∀ d ∈ table, ∀ d' ∈ table, d.isHsr = true → d'.isHsr = true → ∀ link ∈ table,
    isPort d link.lIndex = true → isPort d' link.lIndex = true → d = d'

instance (table : List LinkObj) : Decidable (KernelTable table) :=
  decidable_of_iff ((table.map fun link => link.lName).Nodup ∧
    (table.map fun link => link.lIndex).Nodup ∧
    ∀ d ∈ table, ∀ d' ∈ table, d.isHsr = true → d'.isHsr = true → ∀ link ∈ table,
      isPort d link.lIndex = true → isPort d' link.lIndex = true → d = d')
    ⟨fun h => ⟨h.1, h.2.1, h.2.2⟩, fun h => ⟨h.names, h.indexes, h.ports⟩⟩

section
variable (table : List LinkObj) (waitList : List WaitListNode) (ifName slaveA slaveB : CStr)

/-- the link is a port of an HSR device of the name -/
def OwnPort (link : LinkObj) : Prop :=
  ∃ d ∈ table, d.isHsr = true ∧ d.lName = ifName ∧ isPort d link.lIndex = true

/-- the link is a port of an HSR device of another name -/
def OthersPort (link : LinkObj) : Prop :=
  ∃ d ∈ table, d.isHsr = true ∧ d.lName ≠ ifName ∧ isPort d link.lIndex = true

/-- the device is created at once -/
def CreatesNow : Prop :=
  rtnlLinkGetByName table ifName = none ∧
  (∃ a b, rtnlLinkGetByName table slaveA = some a ∧ rtnlLinkGetByName table slaveB = some b ∧
    claimed table a.lIndex = false ∧ claimed table b.lIndex = false) ∧
  (waitList = [] ∨ ∃ node, waitList = [node] ∧ node.hsrName = ifName)

/-- the existing device is deleted -/
def DeletesOwn : Prop :=
  (∃ d ∈ table, d.lName = ifName) ∧
  ∃ a b, rtnlLinkGetByName table slaveA = some a ∧ rtnlLinkGetByName table slaveB = some b ∧
    (OwnPort table ifName a ∨ claimed table a.lIndex = false) ∧
    (OwnPort table ifName b ∨ claimed table b.lIndex = false)

/-- a create request for the configuration -/
def RequestFor (link : RtnlLink) : Prop :=
  link.lName = ifName ∧
  ∃ a b, rtnlLinkGetByName table slaveA = some a ∧ rtnlLinkGetByName table slaveB = some b ∧
    link.hsrSlave1 = a.lIndex ∧ link.hsrSlave2 = b.lIndex

/-- the flags of a node say what the table says of its slaves -/
def FlagsRight (node : WaitListNode) : Prop :=
  ∀ slot, (told (.notExists slot) node = true ↔
      rtnlLinkGetByName table (node.slaveName slot) = none) ∧
    (told (.busy slot) node = true ↔
      ∃ link, rtnlLinkGetByName table (node.slaveName slot) = some link ∧
        OthersPort table node.hsrName link)

/-- the requests that a call sends and the list that it leaves are the right ones -/
structure Decides (left : List WaitListNode) (sent : List Request) : Prop where
  creates : (∃ link, .add link ∈ sent ∧ RequestFor table ifName slaveA slaveB link) ↔
    CreatesNow table waitList ifName slaveA slaveB
  deletes : (∃ d, .delete d ∈ sent ∧ d.lName = ifName) ↔ DeletesOwn table ifName slaveA slaveB
  queues : ¬ CreatesNow table waitList ifName slaveA slaveB →
    ∃ node, left = (deleteWaitListNode waitList ifName).1 ++ [node] ∧ node.hsrName = ifName ∧
      node.slave1Name = slaveA ∧ node.slave2Name = slaveB ∧ FlagsRight table node

/-- the table is none of those that `main_check` reads wrong, and the name fits in a request -/
structure ReadsRight : Prop where
  /-- where the device exists and neither slave is a port of it, both are busy or none -/
  both : ∀ a b d, rtnlLinkGetByName table slaveA = some a → rtnlLinkGetByName table slaveB = some b →
    rtnlLinkGetByName table ifName = some d → isPort d a.lIndex = false →
    isPort d b.lIndex = false → claimed table a.lIndex = claimed table b.lIndex
  /-- where one slave is missing, the other is no port of the device -/
  first : ∀ a d, rtnlLinkGetByName table slaveA = some a → rtnlLinkGetByName table slaveB = none →
    rtnlLinkGetByName table ifName = some d → isPort d a.lIndex = false
  second : ∀ b d, rtnlLinkGetByName table slaveA = none → rtnlLinkGetByName table slaveB = some b →
    rtnlLinkGetByName table ifName = some d → isPort d b.lIndex = false
  fits : CreatesNow table waitList ifName slaveA slaveB → ifName.length < IFNAMSIZ

end

section
variable {table : List LinkObj} (hk : KernelTable table) {ifName : CStr}
include hk

lemma KernelTable.find_iff {name : CStr} {link : LinkObj} :
    rtnlLinkGetByName table name = some link ↔ link ∈ table ∧ link.lName = name :=
  KeyedFind.find_iff hk.names

omit hk in
lemma claimed_iff {i : UInt32} :
    claimed table i = true ↔ ∃ d ∈ table, d.isHsr = true ∧ isPort d i = true := by
  unfold claimed
  simp

lemma ownPort_iff {d link : LinkObj} (hd : rtnlLinkGetByName table ifName = some d)
    (hhsr : d.isHsr = true) :
    OwnPort table ifName link ↔ isPort d link.lIndex = true := by
  obtain ⟨hmem, hname⟩ := hk.find_iff.mp hd
  constructor
  · rintro ⟨d', hmem', -, hname', hport⟩
    have hsame : d' = d := List.inj_on_of_nodup_map hk.names hmem' hmem (hname'.trans hname.symm)
    rwa [hsame] at hport
  · intro hport
    exact ⟨d, hmem, hhsr, hname, hport⟩

/-- a port of the device of the name is no port of another one -/
lemma othersPort_iff {d link : LinkObj} (hd : rtnlLinkGetByName table ifName = some d)
    (hhsr : d.isHsr = true) (hlink : link ∈ table) :
    OthersPort table ifName link ↔
      claimed table link.lIndex = true ∧ isPort d link.lIndex = false := by
  obtain ⟨hmem, hname⟩ := hk.find_iff.mp hd
  rw [claimed_iff]
  constructor
  · rintro ⟨d', hmem', hhsr', hname', hport⟩
    refine ⟨⟨d', hmem', hhsr', hport⟩, Bool.eq_false_iff.mpr fun hown => hname' ?_⟩
    rw [hk.ports d' hmem' d hmem hhsr' hhsr link hlink hport hown, hname]
  · rintro ⟨⟨d', hmem', hhsr', hport⟩, hown⟩
    refine ⟨d', hmem', hhsr', fun hname' => ?_, hport⟩
    have hsame : d' = d := List.inj_on_of_nodup_map hk.names hmem' hmem (hname'.trans hname.symm)
    rw [hsame, hown] at hport
    cases hport

omit hk in
lemma othersPort_none {link : LinkObj} (hd : rtnlLinkGetByName table ifName = none) :
    OthersPort table ifName link ↔ claimed table link.lIndex = true := by
  rw [claimed_iff]
  refine exists_congr fun d => and_congr_right fun hmem => and_congr_right fun _ => ?_
  have hname : d.lName ≠ ifName := by simpa using List.find?_eq_none.mp hd d hmem
  exact and_iff_right hname

end

/-! ## when it does -/

section
variable {table : List LinkObj} {waitList : List WaitListNode} {ifName slaveA slaveB : CStr}

lemma flagsRight_iff (missing1 missing2 busy1 busy2 : Bool) :
    FlagsRight table (setStatusFlags (newNode ifName slaveA slaveB)
      (flagMask missing1 missing2 busy1 busy2)) ↔
      ((missing1 = true ↔ rtnlLinkGetByName table slaveA = none) ∧
        (busy1 = true ↔ ∃ link, rtnlLinkGetByName table slaveA = some link ∧
          OthersPort table ifName link)) ∧
      ((missing2 = true ↔ rtnlLinkGetByName table slaveB = none) ∧
        (busy2 = true ↔ ∃ link, rtnlLinkGetByName table slaveB = some link ∧
          OthersPort table ifName link)) := by
  have htold : ∀ flag, told flag (setStatusFlags (newNode ifName slaveA slaveB)
      (flagMask missing1 missing2 busy1 busy2)) =
        (flagMask missing1 missing2 busy1 busy2).getLsbD flag.bit := by
    intro flag
    rw [told_set, told_newNode, Bool.false_or]
  unfold FlagsRight
  simp only [htold, flagMask_bit]
  constructor
  · intro h
    exact ⟨h .slave1, h .slave2⟩
  · rintro ⟨h1, h2⟩ slot
    cases slot with
    | slave1 => exact h1
    | slave2 => exact h2

lemma decides_queued_iff {sent : List Request} {flags : BitVec 8}
    (hadd : ∀ link, .add link ∉ sent) (hnot : ¬ CreatesNow table waitList ifName slaveA slaveB)
    (hdel : (∃ d, .delete d ∈ sent ∧ d.lName = ifName) ↔ DeletesOwn table ifName slaveA slaveB) :
    Decides table waitList ifName slaveA slaveB ((deleteWaitListNode waitList ifName).1 ++
        [setStatusFlags (newNode ifName slaveA slaveB) flags]) sent ↔
      FlagsRight table (setStatusFlags (newNode ifName slaveA slaveB) flags) := by
  constructor
  · intro h
    obtain ⟨node, hleft, -, -, -, hflags⟩ := h.queues hnot
    have hnode := List.append_cancel_left hleft
    obtain rfl := List.singleton_inj.mp hnode
    exact hflags
  · intro hflags
    refine ⟨iff_of_false ?_ hnot, hdel, fun _ => ⟨_, rfl, rfl, rfl, rfl, hflags⟩⟩
    rintro ⟨link, hmem, -⟩
    exact hadd link hmem

lemma rest_isEmpty_iff : (deleteWaitListNode waitList ifName).1.isEmpty = true ↔
    waitList = [] ∨ ∃ node, waitList = [node] ∧ node.hsrName = ifName := by
  cases waitList with
  | nil => simp [deleteWaitListNode]
  | cons node rest =>
    unfold deleteWaitListNode
    by_cases hname : node.hsrName = ifName
    · simp [hname]
    · simp [hname]

lemma not_createsNow (h : rtnlLinkGetByName table slaveA = none ∨
    rtnlLinkGetByName table slaveB = none ∨ (rtnlLinkGetByName table ifName).isSome = true) :
    ¬ CreatesNow table waitList ifName slaveA slaveB := by
  rintro ⟨hd, ⟨a, b, ha, hb, -⟩, -⟩
  rcases h with h | h | h
  · rw [h] at ha
    cases ha
  · rw [h] at hb
    cases hb
  · rw [hd] at h
    cases h

lemma not_deletesOwn (h : rtnlLinkGetByName table slaveA = none ∨
    rtnlLinkGetByName table slaveB = none) : ¬ DeletesOwn table ifName slaveA slaveB := by
  rintro ⟨-, a, b, ha, hb, -⟩
  rcases h with h | h
  · rw [h] at ha
    cases ha
  · rw [h] at hb
    cases hb

lemma isPort_claimed {d : LinkObj} (hd : d ∈ table) (hhsr : d.isHsr = true) {i : UInt32}
    (hport : isPort d i = true) : claimed table i = true :=
  claimed_iff.mpr ⟨d, hd, hhsr, hport⟩

/-- what decides about the deletion of a device: each slave is one of its ports, or free -/
lemma deletesOwn_eq {d : LinkObj} {i1 i2 : UInt32} (hne : i1 ≠ i2) : deletesOwn table i1 i2 d =
    ((isPort d i1 || !claimed table i1) && (isPort d i2 || !claimed table i2)) := by
  unfold deletesOwn
  rw [isPort_pair hne]
  cases h1 : isPort d i1 with
  | true =>
    cases h2 : isPort d i2 with
    | true => rfl
    | false => rw [if_neg (by decide), if_pos rfl, Bool.true_or, Bool.true_and, Bool.false_or]
  | false =>
    cases h2 : isPort d i2 with
    | true =>
      rw [if_neg (by decide), if_neg (by decide), if_pos rfl, Bool.false_or, Bool.true_or,
        Bool.and_true]
    | false => rw [if_neg (by decide), if_neg (by decide), if_neg (by decide)]; rfl

/-- nothing is sent while a slave is missing, and all depends on the flags -/
lemma decides_missing_iff (h : rtnlLinkGetByName table slaveA = none ∨
    rtnlLinkGetByName table slaveB = none) (flags : BitVec 8) :
    Decides table waitList ifName slaveA slaveB (leftList true
        (deleteWaitListNode waitList ifName).1 (newNode ifName slaveA slaveB) flags) [] ↔
      FlagsRight table (setStatusFlags (newNode ifName slaveA slaveB) flags) := by
  have hnot : ¬ CreatesNow table waitList ifName slaveA slaveB :=
    not_createsNow (h.imp id Or.inl)
  refine decides_queued_iff (fun link hmem => nomatch hmem) hnot
    (iff_of_false ?_ (not_deletesOwn h))
  rintro ⟨d, hmem, -⟩
  cases hmem

lemma othersPort_of_find {slave : CStr} {link : LinkObj}
    (hlink : rtnlLinkGetByName table slave = some link) :
    (∃ link, rtnlLinkGetByName table slave = some link ∧ OthersPort table ifName link) ↔
      OthersPort table ifName link := by
  rw [hlink]
  constructor
  · rintro ⟨link', hsame, h⟩
    rwa [Option.some.inj hsame]
  · intro h
    exact ⟨link, rfl, h⟩

lemma createsNow_iff {a b : LinkObj} (ha : rtnlLinkGetByName table slaveA = some a)
    (hb : rtnlLinkGetByName table slaveB = some b) (hd : rtnlLinkGetByName table ifName = none) :
    CreatesNow table waitList ifName slaveA slaveB ↔
      (!claimed table a.lIndex && !claimed table b.lIndex &&
        (deleteWaitListNode waitList ifName).1.isEmpty) = true := by
  rw [Bool.and_eq_true, Bool.and_eq_true, rest_isEmpty_iff, Bool.not_eq_true', Bool.not_eq_true']
  constructor
  · rintro ⟨-, ⟨a', b', ha', hb', hfree⟩, hrest⟩
    rw [ha] at ha'
    rw [hb] at hb'
    obtain rfl := Option.some.inj ha'
    obtain rfl := Option.some.inj hb'
    exact ⟨hfree, hrest⟩
  · rintro ⟨hfree, hrest⟩
    exact ⟨hd, ⟨a, b, ha, hb, hfree⟩, hrest⟩

/-- two slaves and no device: what is read wrong -/
lemma readsRight_fresh_iff (hd : rtnlLinkGetByName table ifName = none) :
    ReadsRight table waitList ifName slaveA slaveB ↔
      (CreatesNow table waitList ifName slaveA slaveB → ifName.length < IFNAMSIZ) := by
  refine ⟨ReadsRight.fits, fun hfits => ⟨?_, ?_, ?_, hfits⟩⟩
  · intro a b d _ _ hd'
    rw [hd] at hd'
    cases hd'
  · intro a d _ _ hd'
    rw [hd] at hd'
    cases hd'
  · intro b d _ _ hd'
    rw [hd] at hd'
    cases hd'

lemma no_delete : ¬ ∃ d, Request.delete d ∈ ([] : List Request) ∧ d.lName = ifName := by
  rintro ⟨d, hmem, -⟩
  cases hmem

/-- two slaves and the device: one of them is overlooked if it alone is busy -/
lemma readsRight_reconfigure_iff {a b d : LinkObj} (ha : rtnlLinkGetByName table slaveA = some a)
    (hb : rtnlLinkGetByName table slaveB = some b) (hd : rtnlLinkGetByName table ifName = some d) :
    ReadsRight table waitList ifName slaveA slaveB ↔
      (isPort d a.lIndex = false → isPort d b.lIndex = false →
        claimed table a.lIndex = claimed table b.lIndex) := by
  have hnot : ¬ CreatesNow table waitList ifName slaveA slaveB :=
    not_createsNow (.inr (.inr (by rw [hd]; rfl)))
  refine ⟨fun h => h.both a b d ha hb hd, fun h => ⟨?_, ?_, ?_, fun h' => absurd h' hnot⟩⟩
  · intro a' b' d' ha' hb' hd'
    rw [ha] at ha'
    rw [hb] at hb'
    rw [hd] at hd'
    obtain rfl := Option.some.inj ha'
    obtain rfl := Option.some.inj hb'
    obtain rfl := Option.some.inj hd'
    exact h
  · intro a' d' _ hb'
    rw [hb] at hb'
    cases hb'
  · intro b' d' ha'
    rw [ha] at ha'
    cases ha'

section
variable (hk : KernelTable table) (hhsr : ∀ link ∈ table, link.lName = ifName → link.isHsr = true)
include hk hhsr

/-- a slave that is looked up alone is taken for busy rightly, unless the device itself holds it -/
lemma busy_right_iff {slave : CStr} {link : LinkObj}
    (hlink : rtnlLinkGetByName table slave = some link) :
    (claimed table link.lIndex = true ↔
      ∃ link, rtnlLinkGetByName table slave = some link ∧ OthersPort table ifName link) ↔
      ∀ d, rtnlLinkGetByName table ifName = some d → isPort d link.lIndex = false := by
  rw [othersPort_of_find hlink]
  cases hd : rtnlLinkGetByName table ifName with
  | none =>
    rw [othersPort_none hd]
    exact iff_of_true Iff.rfl fun d hd => nomatch hd
  | some d =>
    obtain ⟨hmem, hname⟩ := hk.find_iff.mp hd
    have hdhsr := hhsr d hmem hname
    rw [othersPort_iff hk hd hdhsr (hk.find_iff.mp hlink).1]
    constructor
    · rintro h d' hd'
      obtain rfl := Option.some.inj hd'
      refine Bool.eq_false_iff.mpr fun hport => ?_
      have hfree := (h.mp (isPort_claimed hmem hdhsr hport)).2
      rw [hport] at hfree
      cases hfree
    · intro h
      exact (and_iff_left (h d rfl)).symm

lemma decides_first_iff {a : LinkObj} (ha : rtnlLinkGetByName table slaveA = some a)
    (hb : rtnlLinkGetByName table slaveB = none) :
    Decides table waitList ifName slaveA slaveB (leftList true
        (deleteWaitListNode waitList ifName).1 (newNode ifName slaveA slaveB)
        (snapshot table (some a) none (rtnlLinkGetByName table ifName))) [] ↔
      ReadsRight table waitList ifName slaveA slaveB := by
  have hmask : snapshot table (some a) none (rtnlLinkGetByName table ifName) =
      flagMask false true (claimed table a.lIndex) false := by
    simp [snapshot, flagMask, maskIf]
  rw [hmask, decides_missing_iff (.inr hb), flagsRight_iff, busy_right_iff hk hhsr ha, ha, hb]
  constructor
  · rintro ⟨⟨-, h⟩, -⟩
    refine ⟨fun a' b' d' _ hb' => ?_, fun a' d' ha' _ hd' => ?_, fun b' d' ha' => ?_, fun h' => ?_⟩
    · rw [hb] at hb'
      cases hb'
    · rw [ha] at ha'
      obtain rfl := Option.some.inj ha'
      exact h d' hd'
    · rw [ha] at ha'
      cases ha'
    · exact absurd h' (not_createsNow (.inr (.inl hb)))
  · intro h
    refine ⟨⟨by simp, fun d hd => h.first a d ha hb hd⟩, by simp, by simp⟩

lemma decides_second_iff {b : LinkObj} (ha : rtnlLinkGetByName table slaveA = none)
    (hb : rtnlLinkGetByName table slaveB = some b) :
    Decides table waitList ifName slaveA slaveB (leftList true
        (deleteWaitListNode waitList ifName).1 (newNode ifName slaveA slaveB)
        (snapshot table none (some b) (rtnlLinkGetByName table ifName))) [] ↔
      ReadsRight table waitList ifName slaveA slaveB := by
  have hmask : snapshot table none (some b) (rtnlLinkGetByName table ifName) =
      flagMask true false false (claimed table b.lIndex) := by
    simp [snapshot, flagMask, maskIf]
  rw [hmask, decides_missing_iff (.inl ha), flagsRight_iff, busy_right_iff hk hhsr hb, ha, hb]
  constructor
  · rintro ⟨-, -, h⟩
    refine ⟨fun a' b' d' ha' => ?_, fun a' d' ha' => ?_, fun b' d' _ hb' hd' => ?_, fun h' => ?_⟩
    · rw [ha] at ha'
      cases ha'
    · rw [ha] at ha'
      cases ha'
    · rw [hb] at hb'
      obtain rfl := Option.some.inj hb'
      exact h d' hd'
    · exact absurd h' (not_createsNow (.inl ha))
  · intro h
    refine ⟨by simp, by simp, fun d hd => h.second b d ha hb hd⟩

lemma decides_fresh_iff {a b : LinkObj} (ha : rtnlLinkGetByName table slaveA = some a)
    (hb : rtnlLinkGetByName table slaveB = some b) (hd : rtnlLinkGetByName table ifName = none) :
    let rest := (deleteWaitListNode waitList ifName).1
    let verdict := decision table rest.isEmpty ifName (some a) (some b) none
    Decides table waitList ifName slaveA slaveB (leftList verdict.2 rest
        (newNode ifName slaveA slaveB) (snapshot table (some a) (some b) none)) verdict.1 ↔
      ReadsRight table waitList ifName slaveA slaveB := by
  intro rest verdict
  have hnoDelete : ¬ DeletesOwn table ifName slaveA slaveB := by
    rintro ⟨⟨d, hmem, hname⟩, -⟩
    rw [hk.find_iff.mpr ⟨hmem, hname⟩] at hd
    cases hd
  have hnow : CreatesNow table waitList ifName slaveA slaveB ↔ _ := createsNow_iff ha hb hd
  rw [readsRight_fresh_iff hd]
  by_cases h : CreatesNow table waitList ifName slaveA slaveB
  · have hverdict : verdict = ([.add (hsrRequest ifName a.lIndex b.lIndex 1)], false) :=
      if_pos (hnow.mp h)
    rw [hverdict]
    constructor
    · intro hdecides _
      obtain ⟨link, hmem, hname, -⟩ := hdecides.creates.mpr h
      obtain rfl := Request.add.inj (List.mem_singleton.mp hmem)
      exact hsrRequest_name_iff.mp hname
    · intro hfits
      refine ⟨iff_of_true ?_ h, iff_of_false ?_ hnoDelete, fun hnot => absurd h hnot⟩
      · have hname : (hsrRequest ifName a.lIndex b.lIndex 1).lName = ifName :=
          hsrRequest_name_iff.mpr (hfits h)
        exact ⟨_, List.mem_singleton_self _, hname, a, b, ha, hb, rfl, rfl⟩
      · rintro ⟨d, hmem, -⟩
        cases List.mem_singleton.mp hmem
  · have hverdict : verdict = ([], true) := if_neg fun hall => h (hnow.mpr hall)
    have hmask : snapshot table (some a) (some b) none =
        flagMask false false (claimed table a.lIndex) (claimed table b.lIndex) := by
      simp [snapshot, flagMask, maskIf]
    have hfree : ∀ {slave : CStr} {link : LinkObj}, rtnlLinkGetByName table slave = some link →
        (claimed table link.lIndex = true ↔ ∃ link, rtnlLinkGetByName table slave = some link ∧
          OthersPort table ifName link) := by
      intro slave link hlink
      refine (busy_right_iff hk hhsr hlink).mpr fun d hd' => ?_
      rw [hd] at hd'
      cases hd'
    rw [hverdict, hmask]
    refine iff_of_true ?_ fun h' => absurd h' h
    refine (decides_queued_iff (fun _ => List.not_mem_nil) h
      (iff_of_false no_delete hnoDelete)).mpr ?_
    rw [flagsRight_iff]
    refine ⟨⟨?_, hfree ha⟩, ?_, hfree hb⟩
    · rw [ha]
      simp
    · rw [hb]
      simp

omit hhsr in
lemma indexes_ne {a b : LinkObj} (hne : slaveA ≠ slaveB)
    (ha : rtnlLinkGetByName table slaveA = some a)
    (hb : rtnlLinkGetByName table slaveB = some b) : a.lIndex ≠ b.lIndex := by
  obtain ⟨hamem, haname⟩ := hk.find_iff.mp ha
  obtain ⟨hbmem, hbname⟩ := hk.find_iff.mp hb
  intro hsame
  have hab : a = b := List.inj_on_of_nodup_map hk.indexes hamem hbmem hsame
  exact hne (haname.symm.trans ((congrArg (fun link => link.lName) hab).trans hbname))

lemma deletesOwn_iff {a b d : LinkObj} (hne : slaveA ≠ slaveB)
    (ha : rtnlLinkGetByName table slaveA = some a) (hb : rtnlLinkGetByName table slaveB = some b)
    (hd : rtnlLinkGetByName table ifName = some d) :
    DeletesOwn table ifName slaveA slaveB ↔ deletesOwn table a.lIndex b.lIndex d = true := by
  obtain ⟨hdmem, hdname⟩ := hk.find_iff.mp hd
  have hown : ∀ link : LinkObj, OwnPort table ifName link ↔ isPort d link.lIndex = true :=
    fun link => ownPort_iff hk hd (hhsr d hdmem hdname)
  rw [deletesOwn_eq (indexes_ne hk hne ha hb), Bool.and_eq_true, Bool.or_eq_true,
    Bool.or_eq_true, Bool.not_eq_true', Bool.not_eq_true', ← hown a, ← hown b]
  constructor
  · rintro ⟨-, a', b', ha', hb', h⟩
    rw [ha] at ha'
    rw [hb] at hb'
    obtain rfl := Option.some.inj ha'
    obtain rfl := Option.some.inj hb'
    exact h
  · intro h
    exact ⟨⟨d, hdmem, hdname⟩, a, b, ha, hb, h⟩

/-- two slaves and the device: the deletion is right, and what `main_check` notes of the slaves
is right unless it overlooks one -/
lemma decides_reconfigure_iff {a b d : LinkObj} (hne : slaveA ≠ slaveB)
    (ha : rtnlLinkGetByName table slaveA = some a) (hb : rtnlLinkGetByName table slaveB = some b)
    (hd : rtnlLinkGetByName table ifName = some d) :
    let rest := (deleteWaitListNode waitList ifName).1
    let verdict := decision table rest.isEmpty ifName (some a) (some b) (some d)
    Decides table waitList ifName slaveA slaveB (leftList verdict.2 rest
        (newNode ifName slaveA slaveB) (snapshot table (some a) (some b) (some d))) verdict.1 ↔
      ReadsRight table waitList ifName slaveA slaveB := by
  intro rest verdict
  obtain ⟨hdmem, hdname⟩ := hk.find_iff.mp hd
  have hdhsr := hhsr d hdmem hdname
  have hsent : verdict.1 =
      if deletesOwn table a.lIndex b.lIndex d then [Request.delete d] else [] := rfl
  have hdelete : (∃ d', Request.delete d' ∈ verdict.1 ∧ d'.lName = ifName) ↔
      DeletesOwn table ifName slaveA slaveB := by
    rw [deletesOwn_iff hk hhsr hne ha hb hd, hsent]
    by_cases h : deletesOwn table a.lIndex b.lIndex d = true
    · rw [if_pos h]
      exact iff_of_true ⟨d, List.mem_singleton_self _, hdname⟩ h
    · rw [if_neg h]
      exact iff_of_false no_delete h
  have hadd : ∀ link, Request.add link ∉ verdict.1 := by
    intro link hmem
    rw [hsent] at hmem
    split at hmem
    · cases List.mem_singleton.mp hmem
    · cases hmem
  -- a slave that the device holds is noted for busy only if both are
  have hmask : snapshot table (some a) (some b) (some d) = flagMask false false
      (!isPort d a.lIndex && claimed table a.lIndex &&
        (isPort d b.lIndex || claimed table b.lIndex))
      (!isPort d b.lIndex && claimed table b.lIndex &&
        (isPort d a.lIndex || claimed table a.lIndex)) := by
    show reconfigureMask table a.lIndex b.lIndex d = _
    unfold reconfigureMask
    rw [isPort_pair (indexes_ne hk hne ha hb)]
    cases isPort d a.lIndex <;> cases isPort d b.lIndex <;> cases claimed table a.lIndex <;>
      cases claimed table b.lIndex <;> rfl
  rw [readsRight_reconfigure_iff ha hb hd, hmask]
  refine (decides_queued_iff hadd (not_createsNow (.inr (.inr (by rw [hd]; rfl)))) hdelete).trans ?_
  rw [flagsRight_iff, othersPort_of_find ha, othersPort_of_find hb,
    othersPort_iff hk hd hdhsr (hk.find_iff.mp ha).1,
    othersPort_iff hk hd hdhsr (hk.find_iff.mp hb).1, ha, hb]
  have hclaimed : ∀ link : LinkObj, isPort d link.lIndex = true →
      claimed table link.lIndex = true := fun link => isPort_claimed hdmem hdhsr
  cases hpa : isPort d a.lIndex with
  | true => cases isPort d b.lIndex <;> simp [hclaimed a hpa]
  | false =>
    cases hpb : isPort d b.lIndex with
    | true => simp [hclaimed b hpb]
    | false => cases claimed table a.lIndex <;> cases claimed table b.lIndex <;> simp

/-- **Where a call is right.**  For every table of links and every list of waiting nodes. -/
lemma decides_readsRight_iff (hne : slaveA ≠ slaveB) :
    let rest := (deleteWaitListNode waitList ifName).1
    let find := rtnlLinkGetByName table
    let verdict := decision table rest.isEmpty ifName (find slaveA) (find slaveB) (find ifName)
    Decides table waitList ifName slaveA slaveB (leftList verdict.2 rest
        (newNode ifName slaveA slaveB)
        (snapshot table (find slaveA) (find slaveB) (find ifName))) verdict.1 ↔
      ReadsRight table waitList ifName slaveA slaveB := by
  intro rest find verdict
  cases ha : find slaveA with
  | none =>
    cases hb : find slaveB with
    | none =>
      have hmask : SLAVE1_NOT_EXISTS ||| SLAVE2_NOT_EXISTS = flagMask true true false false := by
        decide
      have hverdict : verdict = ([], true) := by simp only [verdict, ha, hb, decision]
      rw [hverdict]
      simp only [snapshot]
      rw [hmask, decides_missing_iff (.inl ha), flagsRight_iff]
      simp only [find] at ha hb
      refine iff_of_true ?_ ⟨?_, ?_, ?_, ?_⟩
      · rw [ha, hb]
        simp
      · intro a b d ha'
        rw [ha] at ha'
        cases ha'
      · intro a d ha'
        rw [ha] at ha'
        cases ha'
      · intro b d _ hb'
        rw [hb] at hb'
        cases hb'
      · intro h
        exact absurd h (not_createsNow (.inl ha))
    | some b =>
      have hverdict : verdict = ([], true) := by simp only [verdict, ha, decision]
      rw [hverdict]
      exact decides_second_iff hk hhsr ha hb
  | some a =>
    cases hb : find slaveB with
    | none =>
      have hverdict : verdict = ([], true) := by simp only [verdict, ha, hb, decision]
      rw [hverdict]
      exact decides_first_iff hk hhsr ha hb
    | some b =>
      cases hd : find ifName with
      | none =>
        simp only [verdict, ha, hb, hd]
        exact decides_fresh_iff hk hhsr ha hb hd
      | some d =>
        simp only [verdict, ha, hb, hd]
        exact decides_reconfigure_iff hk hhsr hne ha hb hd

end

end

/-- **A call decides from the link table** exactly where `main_check` reads the table right. -/
theorem decides_iff {W : Type} (S : Sys W) (P : W → Prop) (table : List LinkObj)
    (waitList : List WaitListNode) (ifName slaveA slaveB : CStr) (hS : Serves S table P)
    (hk : KernelTable table) (hhsr : ∀ link ∈ table, link.lName = ifName → link.isHsr = true)
    (hne : slaveA ≠ slaveB) (w : W) (hw : P w) :
    ∃ left, (initialCheck S waitList ifName slaveA slaveB w).val = .ok (0, left) ∧
      (Decides table waitList ifName slaveA slaveB left
          (requests (initialCheck S waitList ifName slaveA slaveB w).acts) ↔
        ReadsRight table waitList ifName slaveA slaveB) := by
  obtain ⟨hval, hacts⟩ := initialCheck_decides hS waitList ifName slaveA slaveB hhsr w hw
  refine ⟨_, hval, ?_⟩
  rw [hacts]
  exact decides_readsRight_iff hk hhsr hne

lemma staticSys_serves (table : List LinkObj) :
    Serves (staticSys table) table fun _ => True where
  connect _ _ := ⟨trivial, le_rfl⟩
  dump _ _ := ⟨trivial, le_rfl, rfl⟩
  calloc _ _ := ⟨trivial, rfl⟩
  add _ _ _ := le_rfl
  delete _ _ _ := le_rfl

/-- `hsr0` is moved from other ports to two free ones -/
theorem moved_device_is_decided :
    ∃ left, (initialCheck (staticSys [eth0, eth1, hsrDevice 5 (cs "hsr0") 7 8]) []
        (cs "hsr0") (cs "eth0") (cs "eth1") ()).val = .ok (0, left) ∧
      (Decides [eth0, eth1, hsrDevice 5 (cs "hsr0") 7 8] [] (cs "hsr0") (cs "eth0") (cs "eth1") left
          (requests (initialCheck (staticSys [eth0, eth1, hsrDevice 5 (cs "hsr0") 7 8]) []
            (cs "hsr0") (cs "eth0") (cs "eth1") ()).acts) ↔
        ReadsRight [eth0, eth1, hsrDevice 5 (cs "hsr0") 7 8] [] (cs "hsr0") (cs "eth0")
          (cs "eth1")) :=
  decides_iff (staticSys [eth0, eth1, hsrDevice 5 (cs "hsr0") 7 8]) (fun _ => True)
    [eth0, eth1, hsrDevice 5 (cs "hsr0") 7 8] [] (cs "hsr0") (cs "eth0") (cs "eth1")
    (staticSys_serves _) (by decide) (by decide) (by decide) () trivial

/-- `eth1` is a port of `hsr1`, `eth0` is free and `hsr0` is over other ports: the node does not
say that `eth1` is busy -/
theorem one_busy_slave_is_overlooked :
    ¬ ∀ (W : Type) (S : Sys W) (P : W → Prop) (table : List LinkObj)
      (waitList : List WaitListNode) (ifName slaveA slaveB : CStr), Serves S table P →
      KernelTable table → (∀ link ∈ table, link.lName = ifName → link.isHsr = true) →
      slaveA ≠ slaveB → ∀ w : W, P w →
      ∃ left, (initialCheck S waitList ifName slaveA slaveB w).val = .ok (0, left) ∧
        Decides table waitList ifName slaveA slaveB left
          (requests (initialCheck S waitList ifName slaveA slaveB w).acts) := by
  intro h
  have hwrong := h Unit
    (staticSys [eth0, eth1, hsrDevice 5 (cs "hsr0") 7 8, hsrDevice 6 (cs "hsr1") 3 9])
    (fun _ => True) [eth0, eth1, hsrDevice 5 (cs "hsr0") 7 8, hsrDevice 6 (cs "hsr1") 3 9] []
    (cs "hsr0") (cs "eth0") (cs "eth1") (staticSys_serves _) (by decide) (by decide) (by decide) ()
    trivial
  obtain ⟨left, hval, hdecides⟩ := hwrong
  obtain ⟨-, rfl⟩ := Prod.mk.inj (Except.ok.inj hval)
  have hnot : ¬ CreatesNow [eth0, eth1, hsrDevice 5 (cs "hsr0") 7 8, hsrDevice 6 (cs "hsr1") 3 9] []
      (cs "hsr0") (cs "eth0") (cs "eth1") := not_createsNow (.inr (.inr (by decide)))
  obtain ⟨node, hnode, -, -, -, hflags⟩ := hdecides.queues hnot
  obtain rfl := List.singleton_inj.mp hnode
  have hbusy := (hflags .slave2).2.mpr ⟨eth1, by decide, hsrDevice 6 (cs "hsr1") 3 9, by decide,
    by decide, by decide, by decide⟩
  exact absurd hbusy (by decide)

end Hsr
