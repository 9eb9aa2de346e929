import ConfdbHsr.Daemon.Handlers

/-!
# The acts of each function

For every function that talks to the environment, a rule that says which acts it can make: if
these satisfy `P`, every act of the function does.

* `dumped`, `withDump_eq`   the dump every operation starts with, and the operation after it;
* `getMaster_run`, `changeInterfaceList_returns_iff`   when these return;
* `createHifFromWaitlist_always`, `initialCheck_always`, `hsrHandler_always`;
* a create request carries the name it was made for, a delete request the name that was looked up,
  and `get_master` reads the slaves of HSR links only.
-/

namespace Hsr
open Nl Proc

variable {W : Type} (S : Sys W) {P : Act → Prop}

/-! ## the dump of the link table -/

/-- the links that the opening finds, if it succeeds -/
def dumped (w : W) : Option (List LinkObj) :=
  if (S.nlConnect w).1 < 0 then none
  else
    let dump := S.rtnlLinkAllocCache (S.nlConnect w).2
    if dump.1.1 < 0 then none else some dump.1.2

/-- the world that the opening leaves -/
def afterDump (w : W) : W :=
  if (S.nlConnect w).1 < 0 then (S.nlConnect w).2
  else (S.rtnlLinkAllocCache (S.nlConnect w).2).2

theorem withDump_eq {α : Type} (onError : Int → Op W α) (k : List LinkObj → Op W α) (w : W) :
    ∃ ret, (dumped S w = none → ret < 0) ∧
      withDump S onError k w = match dumped S w with
        | none => onError ret (afterDump S w)
        | some links => k links (afterDump S w) := by
  unfold withDump dumped afterDump
  rw [bind_apply, sys_apply, thenRun_ok]
  by_cases h1 : (S.nlConnect w).1 < 0
  · rw [if_pos h1, if_pos h1, if_pos h1]
    exact ⟨_, fun _ => h1, rfl⟩
  · rw [if_neg h1, if_neg h1, if_neg h1, bind_apply, sys_apply, thenRun_ok]
    by_cases h2 : (S.rtnlLinkAllocCache (S.nlConnect w).2).1.1 < 0
    · simp only [if_pos h2]
      exact ⟨_, fun _ => h2, rfl⟩
    · simp only [if_neg h2]
      exact ⟨0, nofun, rfl⟩

/-- the next `n` dumps of the link table succeed -/
def DumpsAnswered : Nat → W → Prop
  | 0, _ => True
  | n + 1, w => 0 ≤ (S.rtnlLinkAllocCache w).1.1 ∧ DumpsAnswered n (S.rtnlLinkAllocCache w).2

/-- `get_master` reads the slaves of HSR links only, so its loop ends -/
lemma getMasterLoop_run (slave : UInt32) (links : List LinkObj) (w : W) :
    ∃ master acts, getMasterLoop S slave links w = ⟨.ok master, w, acts⟩ := by
  induction links with
  | nil => exact ⟨none, [], rfl⟩
  | cons link links ih =>
    rw [getMasterLoop]
    by_cases hk : link.isHsr = true
    · have hget1 : rtnlLinkHsrGetSlave1 S link w = ⟨.ok link.hsrSlave1, w, [.hsrGetSlave link]⟩ := by
        simp [rtnlLinkHsrGetSlave1, hk, bind_apply]
      have hget2 : rtnlLinkHsrGetSlave2 S link w = ⟨.ok link.hsrSlave2, w, [.hsrGetSlave link]⟩ := by
        simp [rtnlLinkHsrGetSlave2, hk, bind_apply]
      rw [if_neg (by simp [hk]), bind_apply, hget1, thenRun_ok, bind_apply, hget2, thenRun_ok]
      split
      · exact ⟨some link, _, rfl⟩
      · obtain ⟨master, acts, h⟩ := ih
        rw [h]
        exact ⟨master, _, rfl⟩
    · rw [if_pos (by simpa using hk)]
      exact ih

lemma getMaster_run {w : W} (h : 0 ≤ (S.rtnlLinkAllocCache w).1.1) (slave : UInt32) :
    ∃ master acts, getMaster S slave w = ⟨.ok master, (S.rtnlLinkAllocCache w).2, acts⟩ := by
  obtain ⟨master, acts, hloop⟩ :=
    getMasterLoop_run S slave (S.rtnlLinkAllocCache w).1.2 (S.rtnlLinkAllocCache w).2
  refine ⟨master, acts, ?_⟩
  rw [getMaster, bind_apply, sys_apply, thenRun_ok]
  dsimp only
  rw [if_neg (Int.not_lt.mpr h), hloop]
  rfl

lemma getMaster_unset {w : W} (h : ¬ 0 ≤ (S.rtnlLinkAllocCache w).1.1) (slave : UInt32) :
    getMaster S slave w = ⟨.error .wildPut, (S.rtnlLinkAllocCache w).2, []⟩ := by
  rw [getMaster, bind_apply, sys_apply, thenRun_ok]
  dsimp only
  rw [if_pos (Int.not_le.mp h)]
  rfl

/-! ## the tracked interfaces -/

/-- `change_interface_list` returns: the links are dumped, and the counter of an array that grows
is not negative -/
def ListKept (app : HsrModule) (isAdd : Bool) (w : W) : Prop :=
  dumped S w ≠ none ∧ (isAdd = true → 0 ≤ app.interfacesSize)

lemma length_reallocArray (a : List UInt32) (n : Int) : (reallocArray a n).length = n.toNat := by
  unfold reallocArray
  split
  · rw [List.length_nil]
    omega
  · rw [List.length_append, List.length_take, List.length_replicate]
    omega

/-- what `add_interface` does: it stores the index, or writes outside the array -/
lemma addInterface_run (app : HsrModule) (ifId : UInt32) (w : W) :
    ∃ acts, if 0 ≤ app.interfacesSize
      then ∃ app', addInterface app ifId w = ⟨.ok app', w, acts⟩
      else addInterface app ifId w = ⟨.error .wildStore, w, acts⟩ := by
  refine ⟨[.interfacesStore (app.interfacesSize + 1 - 1)
    (reallocArray app.interfaces (app.interfacesSize + 1)).length], ?_⟩
  have hlen := length_reallocArray app.interfaces (app.interfacesSize + 1)
  rw [addInterface, storeInterface, bind_apply, emit_apply, thenRun_ok]
  dsimp only
  by_cases h : 0 ≤ app.interfacesSize
  · rw [if_pos h, if_pos (by omega)]
    exact ⟨_, rfl⟩
  · rw [if_neg h, if_neg (by omega)]
    rfl

lemma findInterface_size {app : HsrModule} {ifId : UInt32} (h : findInterface app ifId = true) :
    0 ≤ app.interfacesSize := by
  obtain ⟨i, hi, -⟩ := List.any_eq_true.mp h
  have := List.mem_range.mp hi
  omega

lemma changeInterfaceList_world (app : HsrModule) (ifName : CStr) (isAdd : Bool) (w : W) :
    (changeInterfaceList S app ifName isAdd w).world = afterDump S w := by
  obtain ⟨ret, -, heq⟩ := withDump_eq S (fun _ => putUnset) (trackInterface app ifName isAdd) w
  rw [changeInterfaceList, heq]
  cases dumped S w with
  | none => rfl
  | some links =>
    dsimp only
    unfold trackInterface
    cases findInterface app (rtnlLinkName2i links ifName) with
    | true => rfl
    | false =>
      cases isAdd with
      | false => rfl
      | true =>
        obtain ⟨acts, hadd⟩ := addInterface_run app (rtnlLinkName2i links ifName) (afterDump S w)
        split at hadd
        · obtain ⟨app', hadd⟩ := hadd
          show (thenRun (addInterface app _ _) _).world = _
          rw [hadd]
          rfl
        · show (thenRun (addInterface app _ _) _).world = _
          rw [hadd]
          rfl

theorem changeInterfaceList_returns_iff (app : HsrModule) (ifName : CStr) (isAdd : Bool) (w : W) :
    (∃ p, (changeInterfaceList S app ifName isAdd w).val = .ok p) ↔ ListKept S app isAdd w := by
  obtain ⟨ret, -, heq⟩ := withDump_eq S (fun _ => putUnset) (trackInterface app ifName isAdd) w
  rw [changeInterfaceList, heq, ListKept]
  cases dumped S w with
  | none => exact iff_of_false nofun fun h => h.1 rfl
  | some links =>
    dsimp only
    rw [and_iff_right nofun]
    unfold trackInterface
    cases hfind : findInterface app (rtnlLinkName2i links ifName) with
    | true => exact iff_of_true ⟨_, rfl⟩ fun _ => findInterface_size hfind
    | false =>
      cases isAdd with
      | false => exact iff_of_true ⟨_, rfl⟩ nofun
      | true =>
        obtain ⟨acts, hadd⟩ := addInterface_run app (rtnlLinkName2i links ifName) (afterDump S w)
        show (∃ p, (thenRun (addInterface app _ _) _).val = .ok p) ↔ _
        split at hadd
        · rename_i hsize
          obtain ⟨app', hadd⟩ := hadd
          rw [hadd]
          exact iff_of_true ⟨_, rfl⟩ fun _ => hsize
        · rename_i hsize
          rw [hadd]
          exact iff_of_false nofun fun h => hsize (h rfl)

/-! ## acts -/

lemma deref_always {α : Type} (fault : Fault) (a : Option α) :
    Always P (deref fault a : Op W α) := by
  cases a with
  | none => exact always_fail fault
  | some a => exact always_pure a

theorem createHsrInterface_always {ifName : CStr} {slave1 slave2 : Option LinkObj}
    {version : UInt8} (hadd : ∀ link ret, P (.linkAdd ifName link ret)) :
    Always P (createHsrInterface S ifName slave1 slave2 version) := by
  refine always_bind (deref_always _ _) fun s1 => ?_
  refine always_bind (deref_always _ _) fun s2 => ?_
  refine always_bind (always_sys _) fun ret => ?_
  exact always_bind (always_emit (hadd _ _)) fun _ => always_pure _

theorem requestDelete_always {link : LinkObj} (hdel : ∀ ret, P (.linkDelete link ret)) :
    Always P (requestDelete S link) := by
  refine always_bind (always_sys _) fun ret => ?_
  exact always_bind (always_emit (hdel ret)) fun _ => always_pure _

theorem deleteHsrInterface_always {link : LinkObj} (hdel : ∀ ret, P (.linkDelete link ret)) :
    Always P (deleteHsrInterface S link) :=
  always_bind (requestDelete_always S hdel) fun _ => always_pure _

theorem recreateHsrInterface_always {old : LinkObj} {slave1 slave2 : Option LinkObj}
    {version : UInt8} (hdel : ∀ ret, P (.linkDelete old ret))
    (hadd : ∀ link ret, P (.linkAdd old.lName link ret)) :
    Always P (recreateHsrInterface S old slave1 slave2 version) := by
  refine always_bind (deleteHsrInterface_always S hdel) fun ret => ?_
  exact always_ite (fun _ => always_pure _) fun _ => createHsrInterface_always S hadd

theorem withDump_always {α : Type} {onError : Int → Op W α} {k : List LinkObj → Op W α}
    (herr : ∀ ret, Always P (onError ret)) (hk : ∀ cache, Always P (k cache)) :
    Always P (withDump S onError k) := by
  refine always_bind (always_sys _) fun ret => ?_
  refine always_ite (fun _ => herr ret) fun _ => ?_
  refine always_bind (always_sys _) fun ⟨ret, cache⟩ => ?_
  exact always_ite (fun _ => herr ret) fun _ => hk cache

theorem deleteHsrInterfaceByName_always {ifName : CStr}
    (hdel : ∀ link ret, link.lName = ifName → P (.linkDelete link ret)) :
    Always P (deleteHsrInterfaceByName S ifName) := by
  refine withDump_always S (fun _ => always_pure _) fun cache => ?_
  unfold deleteNamed
  split
  · exact always_pure _
  · rename_i link hlink
    have hname := rtnlLinkGetByName_name hlink
    exact always_bind (requestDelete_always S fun ret => hdel link ret hname)
      fun _ => always_pure _

theorem createHifFromWaitlist_always {ifName slave1Name slave2Name : CStr}
    (hdel : ∀ link ret, link.lName = ifName → P (.linkDelete link ret))
    (hadd : ∀ link ret, P (.linkAdd ifName link ret)) :
    Always P (createHifFromWaitlist S ifName slave1Name slave2Name) := by
  refine withDump_always S (fun _ => always_fail _) fun cache => ?_
  unfold createOrRecreate
  split
  · exact createHsrInterface_always S hadd
  · rename_i link hlink
    have hname := rtnlLinkGetByName_name hlink
    refine recreateHsrInterface_always S (fun ret => hdel link ret hname) ?_
    rw [hname]
    exact hadd

theorem rtnlLinkHsrGetSlave1_always {link : LinkObj} (hget : P (.hsrGetSlave link)) :
    Always P (rtnlLinkHsrGetSlave1 S link) := by
  refine always_bind (always_emit hget) fun _ => ?_
  exact always_ite (fun _ => always_fail _) fun _ => always_pure _

theorem rtnlLinkHsrGetSlave2_always {link : LinkObj} (hget : P (.hsrGetSlave link)) :
    Always P (rtnlLinkHsrGetSlave2 S link) := by
  refine always_bind (always_emit hget) fun _ => ?_
  exact always_ite (fun _ => always_fail _) fun _ => always_pure _

theorem getMasterLoop_always {slave : UInt32} {links : List LinkObj}
    (hget : ∀ link, link.isHsr = true → P (.hsrGetSlave link)) :
    Always P (getMasterLoop S slave links) := by
  induction links with
  | nil => exact always_pure _
  | cons link links ih =>
    refine always_ite (fun _ => ih) fun hk => ?_
    have hk : link.isHsr = true := by simpa using hk
    refine always_bind (rtnlLinkHsrGetSlave1_always S (hget link hk)) fun _ => ?_
    refine always_bind (rtnlLinkHsrGetSlave2_always S (hget link hk)) fun _ => ?_
    exact always_ite (fun _ => always_pure _) fun _ => ih

theorem getMaster_always (slave : UInt32)
    (hget : ∀ link, link.isHsr = true → P (.hsrGetSlave link)) :
    Always P (getMaster S slave) := by
  refine always_bind (always_sys _) fun ⟨ret, cache⟩ => ?_
  exact always_ite (fun _ => always_fail _) fun _ => getMasterLoop_always S hget

theorem mainCheckReconfigure_always {i1 i2 : UInt32} {m1 m2 : Option LinkObj} {link : LinkObj}
    {node : WaitListNode} (hget : P (.hsrGetSlave link)) (hdel : ∀ ret, P (.linkDelete link ret)) :
    Always P (mainCheckReconfigure S i1 i2 m1 m2 link node) := by
  have hdelete : Always P (do
      let ret ← deleteHsrInterface S link
      pure (ret, node) : Op W (Int × WaitListNode)) :=
    always_bind (deleteHsrInterface_always S hdel) fun _ => always_pure _
  refine always_bind (rtnlLinkHsrGetSlave1_always S hget) fun sl1 => ?_
  refine always_bind (rtnlLinkHsrGetSlave2_always S hget) fun sl2 => ?_
  refine always_ite (fun _ => hdelete) fun _ => ?_
  refine always_ite (fun _ => always_ite (fun _ => hdelete) fun _ => always_pure _) fun _ => ?_
  refine always_ite (fun _ => always_ite (fun _ => hdelete) fun _ => always_pure _) fun _ => ?_
  refine always_ite (fun _ => hdelete) fun _ => ?_
  exact always_ite (fun _ => always_pure _) fun _ => always_pure _

lemma mainCheckFresh_always {ifName : CStr} {waitList : List WaitListNode}
    {m1 m2 : Option LinkObj} {s1 s2 : LinkObj} {node : WaitListNode}
    (hadd : ∀ link ret, P (.linkAdd ifName link ret)) :
    Always P (mainCheckFresh S waitList ifName m1 m2 s1 s2 node) := by
  refine always_ite (fun _ => ?_) fun _ => ?_
  · refine always_ite (fun _ => ?_) fun _ => always_pure _
    refine always_bind (createHsrInterface_always S hadd) fun ret => ?_
    exact always_ite (fun _ => always_pure _) fun _ => always_pure _
  · refine always_ite (fun _ => always_pure _) fun _ => ?_
    exact always_ite (fun _ => always_pure _) fun _ => always_pure _

theorem mainCheck_always {ifName : CStr} {waitList : List WaitListNode}
    {slave1 slave2 hsrLink : Option LinkObj} {node : WaitListNode}
    (hadd : ∀ link ret, P (.linkAdd ifName link ret))
    (hget : ∀ link, link.isHsr = true → P (.hsrGetSlave link))
    (hlink : ∀ link, hsrLink = some link →
      P (.hsrGetSlave link) ∧ ∀ ret, P (.linkDelete link ret)) :
    Always P (mainCheck S waitList ifName slave1 slave2 hsrLink node) := by
  unfold mainCheck
  split
  · exact always_pure _
  · exact always_bind (getMaster_always S _ hget) fun _ => always_pure _
  · exact always_bind (getMaster_always S _ hget) fun _ => always_pure _
  · refine always_bind (getMaster_always S _ hget) fun m1 => ?_
    refine always_bind (getMaster_always S _ hget) fun m2 => ?_
    split
    · rename_i link
      obtain ⟨h1, h2⟩ := hlink link rfl
      refine always_bind (mainCheckReconfigure_always S h1 h2) fun ⟨ret, node⟩ => ?_
      exact always_ite (fun _ => always_pure _) fun _ => always_pure _
    · exact mainCheckFresh_always S hadd

/-- the acts of a configuration call for `ifName` -/
structure ConfigActs (P : Act → Prop) (ifName : CStr) : Prop where
  linkAdd : ∀ link ret, P (.linkAdd ifName link ret)
  linkDelete : ∀ link ret, link.lName = ifName → P (.linkDelete link ret)
  hsrGetSlave : ∀ link, link.isHsr = true ∨ link.lName = ifName → P (.hsrGetSlave link)
  interfacesStore : ∀ idx len, P (.interfacesStore idx len)

section
variable {ifName : CStr}

theorem initialCheck_always (h : ConfigActs P ifName) {waitList : List WaitListNode}
    {slave1Name slave2Name : CStr} :
    Always P (initialCheck S waitList ifName slave1Name slave2Name) := by
  refine withDump_always S (fun _ => always_fail _) fun cache => ?_
  refine always_bind (always_sys _) fun allocated => ?_
  refine always_ite (fun _ => always_pure _) fun _ => ?_
  refine mainCheck_always S h.linkAdd (fun link hk => h.hsrGetSlave link (.inl hk)) ?_
  intro link hlink
  have hname := rtnlLinkGetByName_name hlink
  exact ⟨h.hsrGetSlave link (.inr hname), fun ret => h.linkDelete link ret hname⟩

theorem changeInterfaceList_always (hstore : ∀ idx len, P (.interfacesStore idx len))
    {app : HsrModule} {isAdd : Bool} : Always P (changeInterfaceList S app ifName isAdd) := by
  refine withDump_always S (fun _ => always_fail _) fun cache => ?_
  refine always_ite (fun _ => always_pure _) fun _ => ?_
  refine always_ite (fun _ => ?_) fun _ => always_pure _
  refine always_bind ?_ fun _ => always_pure _
  refine always_bind (always_emit (hstore _ _)) fun _ => ?_
  exact always_ite (fun _ => always_pure _) fun _ => always_fail _

theorem hsrHandler_always (h : ConfigActs P ifName) {app : HsrModule}
    {cdbData : Option HsrData} :
    Always P (hsrHandler S app (some ifName) cdbData) := by
  unfold hsrHandler
  split
  · exact always_pure _
  · rename_i heq
    obtain rfl := Option.some.inj heq
    split
    · refine always_bind (changeInterfaceList_always S h.interfacesStore) fun ⟨_, app⟩ => ?_
      dsimp only
      split
      · exact always_bind (initialCheck_always S h) fun _ => always_pure _
      · exact always_pure _
    · refine always_bind
        (deleteHsrInterfaceByName_always S h.linkDelete) fun ret => ?_
      refine always_ite (fun _ => always_pure _) fun _ => ?_
      exact always_bind (changeInterfaceList_always S h.interfacesStore) fun _ => always_pure _

end

end Hsr
