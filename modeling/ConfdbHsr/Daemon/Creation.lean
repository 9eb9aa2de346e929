import ConfdbHsr.Daemon.Edits

/-!
# The requests for one device

What `create_hif` sends to the kernel for a waiting node, and what it gets back.

* `createCode`       the code that `create_hif` gets for a node;
* `hsrRequest`       the request that `create_hsr_interface` builds;
* `createCode_absent`, `createCode_present`   a run of `create_hif`, where no link has the name of
                     the device and where one has it;
* `createCode_succeeds_iff`   the code says whether a create request was accepted.
-/

namespace Hsr
open Nl Proc

variable {W : Type} (S : Sys W)

/-- the code that `create_hif` gets for a node -/
def createCode (node : WaitListNode) : Op W Int :=
  createHifFromWaitlist S node.hsrName node.slave1Name node.slave2Name

lemma createHif_val (node : WaitListNode) (w : W) : (createHif S node w).val =
    (createCode S node w).val.map fun ret => if ret < 0 then [node] else [] := by
  rw [createHif, bind_apply, emit_apply, thenRun_ok, bind_apply]
  show (thenRun (createCode S node w) _).val = _
  rcases createCode S node w with ⟨_ | ret, w', l⟩ <;> rfl

lemma createHif_acts (node : WaitListNode) (w : W) :
    (createHif S node w).acts = .createHif node :: (createCode S node w).acts := by
  rw [createHif, bind_apply, emit_apply, thenRun_ok, bind_apply]
  show [Act.createHif node] ++ (thenRun (createCode S node w) _).acts = _
  rcases createCode S node w with ⟨_ | ret, w', l⟩
  · rfl
  · exact congrArg (List.cons _) (List.append_nil l)

/-! ## the requests -/

/-- the request that `create_hsr_interface` builds -/
def hsrRequest (ifName : CStr) (slave1 slave2 : UInt32) (version : UInt8) : RtnlLink :=
  (((rtnlLinkHsrAlloc.setName ifName).hsrSetVersion version).hsrSetSlave1 slave1).hsrSetSlave2
    slave2

lemma hsrRequest_name (ifName : CStr) (slave1 slave2 : UInt32) (version : UInt8) :
    (hsrRequest ifName slave1 slave2 version).lName = ifName.take (IFNAMSIZ - 1) := rfl

lemma hsrRequest_slaves (ifName : CStr) (slave1 slave2 : UInt32) (version : UInt8) :
    (hsrRequest ifName slave1 slave2 version).hsrSlave1 = slave1 ∧
      (hsrRequest ifName slave1 slave2 version).hsrSlave2 = slave2 := ⟨rfl, rfl⟩

lemma hsrRequest_name_iff {ifName : CStr} {slave1 slave2 : UInt32} {version : UInt8} :
    (hsrRequest ifName slave1 slave2 version).lName = ifName ↔ ifName.length < IFNAMSIZ := by
  rw [hsrRequest_name, List.take_eq_self_iff]
  simp only [IFNAMSIZ]
  omega

theorem createHsrInterface_run (ifName : CStr) (slave1 slave2 : LinkObj) (version : UInt8)
    (w : W) :
    createHsrInterface S ifName (some slave1) (some slave2) version w =
      let request := hsrRequest ifName slave1.lIndex slave2.lIndex version
      let answer := S.rtnlLinkAdd request w
      ⟨.ok (if answer.1 < 0 then answer.1 else 0), answer.2, [.linkAdd ifName request answer.1]⟩ :=
  rfl

/-- the kernel refuses to delete a link that it still has -/
def Refused (ret : Int) : Prop := ret < 0 ∧ ret ≠ -NLE_OBJ_NOTFOUND

instance : DecidablePred Refused := fun _ => inferInstanceAs (Decidable (_ ∧ _))

theorem deleteHsrInterface_run (hsrLink : LinkObj) (w : W) :
    deleteHsrInterface S hsrLink w =
      let answer := S.rtnlLinkDelete hsrLink w
      ⟨.ok (if Refused answer.1 then answer.1 else 0), answer.2, [.linkDelete hsrLink answer.1]⟩ :=
  rfl

theorem recreateHsrInterface_run (old slave1 slave2 : LinkObj) (version : UInt8) (w : W) :
    recreateHsrInterface S old (some slave1) (some slave2) version w =
      let answer := S.rtnlLinkDelete old w
      if Refused answer.1 then ⟨.ok answer.1, answer.2, [.linkDelete old answer.1]⟩
      else
        let created := createHsrInterface S old.lName (some slave1) (some slave2) version answer.2
        ⟨created.val, created.world, .linkDelete old answer.1 :: created.acts⟩ := by
  unfold recreateHsrInterface
  rw [bind_apply, deleteHsrInterface_run]
  by_cases h : Refused (S.rtnlLinkDelete old w).1
  · simp only [if_pos h, thenRun_ok, if_pos h.1]
    rfl
  · simp only [if_neg h, thenRun_ok]
    rfl

section
variable {S} {node : WaitListNode} {links : List LinkObj} {slave1 slave2 : LinkObj} {w : W}
  (hdump : dumped S w = some links)
  (h1 : rtnlLinkGetByName links node.slave1Name = some slave1)
  (h2 : rtnlLinkGetByName links node.slave2Name = some slave2)
include hdump h1 h2

/-- no link has the name of the device: one create request -/
theorem createCode_absent (h : rtnlLinkGetByName links node.hsrName = none) :
    createCode S node w =
      createHsrInterface S node.hsrName (some slave1) (some slave2) 1 (afterDump S w) := by
  obtain ⟨ret, -, hrun⟩ := withDump_eq S (fun _ => putUnset)
    (createOrRecreate S node.hsrName node.slave1Name node.slave2Name) w
  rw [hdump] at hrun
  rw [createCode, createHifFromWaitlist, hrun]
  show createOrRecreate S node.hsrName node.slave1Name node.slave2Name links (afterDump S w) = _
  unfold createOrRecreate
  rw [h1, h2, h]

omit h1 in
/-- a link has it: the link is deleted, and the request names the second slave twice -/
theorem createCode_present {old : LinkObj}
    (h : rtnlLinkGetByName links node.hsrName = some old) :
    createCode S node w =
      recreateHsrInterface S old (some slave2) (some slave2) 1 (afterDump S w) := by
  obtain ⟨ret, -, hrun⟩ := withDump_eq S (fun _ => putUnset)
    (createOrRecreate S node.hsrName node.slave1Name node.slave2Name) w
  rw [hdump] at hrun
  rw [createCode, createHifFromWaitlist, hrun]
  show createOrRecreate S node.hsrName node.slave1Name node.slave2Name links (afterDump S w) = _
  unfold createOrRecreate
  rw [h2, h]

end

/-! ## what the code says -/

lemma createHsrInterface_refused (ifName : CStr) (slave1 slave2 : Option LinkObj)
    (version : UInt8) :
    Spec (createHsrInterface S ifName slave1 slave2 version) fun res acts =>
      ∀ ret, res = .ok ret → ret < 0 → ¬ Succeeds ifName acts := by
  cases slave1 with
  | none => exact spec_fail fun _ h => nomatch h
  | some s1 =>
    cases slave2 with
    | none => exact spec_fail fun _ h => nomatch h
    | some s2 =>
      intro w ret hret hneg hsucceeds
      rw [createHsrInterface_run] at hret hsucceeds
      obtain ⟨link, r, hmem, h0⟩ := hsucceeds
      obtain ⟨-, -, rfl⟩ := Act.linkAdd.inj (List.mem_singleton.mp hmem)
      have hcode := Except.ok.inj hret
      rw [if_neg (by omega)] at hcode
      omega

theorem createCode_succeeds_iff (node : WaitListNode) :
    Spec (createCode S node) fun res acts =>
      ∀ ret, res = .ok ret → (0 ≤ ret ↔ Succeeds node.hsrName acts) := by
  intro w ret hret
  refine ⟨createHifFromWaitlist_succeeds S _ _ _ w ret hret, ?_⟩
  suffices hrefused : Spec (createCode S node) fun res acts =>
      ∀ ret, res = .ok ret → ret < 0 → ¬ Succeeds node.hsrName acts by
    intro hsucceeds
    by_contra hneg
    exact hrefused w ret hret (by omega) hsucceeds
  refine withDump_spec S (fun _ _ => spec_fail fun _ h => nomatch h) fun links => ?_
  unfold createOrRecreate
  split
  · exact createHsrInterface_refused S _ _ _ _
  · rename_i old hold
    have hname := rtnlLinkGetByName_name hold
    unfold recreateHsrInterface deleteHsrInterface requestDelete
    simp only [bind_assoc, pure_bind]
    refine spec_sys_bind fun ret => spec_emit_bind ?_
    refine spec_ite (fun _ => spec_pure ?_) fun _ => ?_
    · rintro ret' - - ⟨link, r, hmem, -⟩
      cases List.mem_singleton.mp hmem
    · rw [hname]
      refine (createHsrInterface_refused S node.hsrName _ _ _).mono fun res acts h => ?_
      rintro ret' hret' hneg ⟨link, r, hmem, h0⟩
      rcases List.mem_cons.mp hmem with hmem | hmem
      · cases hmem
      · exact h ret' hret' hneg ⟨link, r, hmem, h0⟩

end Hsr
