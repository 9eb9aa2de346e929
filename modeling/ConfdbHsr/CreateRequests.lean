import ConfdbHsr.Daemon.Creation
import ConfdbHsr.Daemon.Scenario

/-!
# Is a waiting interface created as it was configured?

`create_hif` sends at most one create request for its node: at once if no link has the name of the
device, after the deletion of that link otherwise.

* `CreatedAsConfigured`   the requests carry the name and the slaves of the node, and the node is
                     unlinked iff the last request succeeded;
* `created_as_configured_iff`   when that is so.

The second path passes the second slave for both, and every request cuts the name to the size of
its field.
-/

namespace Hsr
open Nl Proc

/-- the answer to a request -/
def Act.answer : Act → Option Int
  | .linkAdd _ _ ret => some ret
  | .linkDelete _ ret => some ret
  | _ => none

/-- the last request was accepted -/
def LastSucceeds (acts : List Act) : Prop :=
  ∃ ret ∈ (acts.filterMap Act.answer).getLast?, 0 ≤ ret

instance : DecidablePred LastSucceeds := fun _ => inferInstanceAs (Decidable (∃ _ ∈ _, _))

lemma lastSucceeds_concat {act : Act} {ret : Int} (h : act.answer = some ret) (acts : List Act) :
    LastSucceeds (acts ++ [act]) ↔ 0 ≤ ret := by
  have hanswers : (acts ++ [act]).filterMap Act.answer = acts.filterMap Act.answer ++ [ret] := by
    rw [List.filterMap_append, List.filterMap_cons_some h]
    rfl
  rw [LastSucceeds, hanswers, List.getLast?_concat]
  simp

variable {W : Type} (S : Sys W)

structure CreatedAsConfigured (node : WaitListNode) (slave1 slave2 : LinkObj) (w : W) :
    Prop where
  /-- every create request carries the name and the slaves of the node -/
  requests : ∀ ifName link ret, .linkAdd ifName link ret ∈ (createHif S node w).acts →
    link.lName = node.hsrName ∧ link.hsrSlave1 = slave1.lIndex ∧ link.hsrSlave2 = slave2.lIndex
  /-- the node is unlinked iff the last request succeeded -/
  unlinked : ∃ left, (createHif S node w).val = .ok left ∧ (left = [] ∨ left = [node]) ∧
    (left = [] ↔ LastSucceeds (createHif S node w).acts)

section
variable {S} {node : WaitListNode} {slave1 slave2 : LinkObj} {w w' : W}

lemma unlinked_of_code {ret : Int} {acts : List Act}
    (hrun : createCode S node w = ⟨.ok ret, w', acts⟩) (hret : 0 ≤ ret ↔ LastSucceeds acts) :
    ∃ left, (createHif S node w).val = .ok left ∧ (left = [] ∨ left = [node]) ∧
      (left = [] ↔ LastSucceeds (createHif S node w).acts) := by
  refine ⟨if ret < 0 then [node] else [], by rw [createHif_val, hrun]; rfl, ?_, ?_⟩
  · split
    · exact .inr rfl
    · exact .inl rfl
  · have hacts : LastSucceeds (createHif S node w).acts ↔ LastSucceeds acts := by
      rw [createHif_acts, hrun]
      exact Iff.rfl
    rw [hacts, ← hret]
    by_cases h : ret < 0
    · rw [if_pos h]
      exact iff_of_false (List.cons_ne_nil _ _) (by omega)
    · rw [if_neg h]
      exact iff_of_true rfl (by omega)

lemma code_nonneg {ret : Int} : 0 ≤ (if ret < 0 then ret else 0) ↔ 0 ≤ ret := by
  split <;> omega

lemma requests_iff {p : CStr → RtnlLink → Int → Prop} {acts : List Act}
    (hacts : (createCode S node w).acts = acts) :
    (∀ ifName link ret, .linkAdd ifName link ret ∈ (createHif S node w).acts →
      p ifName link ret) ↔
      ∀ ifName link ret, .linkAdd ifName link ret ∈ acts → p ifName link ret := by
  rw [createHif_acts, hacts]
  simp

end

/-- **A waiting interface is created as configured** exactly when its name fits in a request and
no link has it, or when the kernel refuses to delete the link that has it; else both slaves would
have to be one. -/
theorem created_as_configured_iff (node : WaitListNode) (links : List LinkObj)
    (slave1 slave2 : LinkObj) (w : W) (hdump : dumped S w = some links)
    (h1 : rtnlLinkGetByName links node.slave1Name = some slave1)
    (h2 : rtnlLinkGetByName links node.slave2Name = some slave2) :
    CreatedAsConfigured S node slave1 slave2 w ↔
      match rtnlLinkGetByName links node.hsrName with
      | none => node.hsrName.length < IFNAMSIZ
      | some old => Refused (S.rtnlLinkDelete old (afterDump S w)).1 ∨
          (node.hsrName.length < IFNAMSIZ ∧ slave1.lIndex = slave2.lIndex) := by
  cases hold : rtnlLinkGetByName links node.hsrName with
  | none =>
    have hrun := createCode_absent hdump h1 h2 hold
    rw [createHsrInterface_run] at hrun
    constructor
    · intro h
      have hrequest := (requests_iff (congrArg Out.acts hrun)).mp h.requests
      exact hsrRequest_name_iff.mp (hrequest _ _ _ List.mem_cons_self).1
    · intro hfits
      refine ⟨(requests_iff (congrArg Out.acts hrun)).mpr ?_, unlinked_of_code hrun ?_⟩
      · intro ifName link ret hmem
        obtain ⟨-, rfl, -⟩ := Act.linkAdd.inj (List.mem_singleton.mp hmem)
        exact ⟨hsrRequest_name_iff.mpr hfits, hsrRequest_slaves _ _ _ _⟩
      · rw [← List.nil_append [Act.linkAdd _ _ _], lastSucceeds_concat rfl]
        exact code_nonneg
  | some old =>
    have hrun := createCode_present hdump h2 hold
    have hname : old.lName = node.hsrName := rtnlLinkGetByName_name hold
    rw [recreateHsrInterface_run] at hrun
    by_cases hrefused : Refused (S.rtnlLinkDelete old (afterDump S w)).1
    · simp only [if_pos hrefused] at hrun
      refine iff_of_true ⟨(requests_iff (congrArg Out.acts hrun)).mpr ?_, ?_⟩ (.inl hrefused)
      · intro ifName link ret hmem
        cases List.mem_singleton.mp hmem
      · refine unlinked_of_code hrun ?_
        rw [← List.nil_append [Act.linkDelete _ _], lastSucceeds_concat rfl]
    · simp only [if_neg hrefused, createHsrInterface_run] at hrun
      refine Iff.trans ?_ (or_iff_right hrefused).symm
      constructor
      · intro h
        have hrequest := (requests_iff (congrArg Out.acts hrun)).mp h.requests
        obtain ⟨hfits, hslave, -⟩ := hrequest _ _ _ (List.mem_cons_of_mem _ List.mem_cons_self)
        rw [hname] at hfits
        exact ⟨hsrRequest_name_iff.mp hfits, hslave.symm⟩
      · rintro ⟨hfits, hslaves⟩
        refine ⟨(requests_iff (congrArg Out.acts hrun)).mpr ?_, unlinked_of_code hrun ?_⟩
        · intro ifName link ret hmem
          rcases List.mem_cons.mp hmem with hmem | hmem
          · cases hmem
          · obtain ⟨-, rfl, -⟩ := Act.linkAdd.inj (List.mem_singleton.mp hmem)
            rw [hname]
            exact ⟨hsrRequest_name_iff.mpr hfits, hslaves.symm, rfl⟩
        · rw [← List.singleton_append, lastSucceeds_concat rfl]
          exact code_nonneg

/-- `hsr0` does not exist yet -/
theorem fresh_device_is_as_configured :
    CreatedAsConfigured (staticSys [eth0, eth1]) (waiting (cs "hsr0") (cs "eth0") (cs "eth1") 0)
      eth0 eth1 () :=
  (created_as_configured_iff (staticSys [eth0, eth1]) (waiting (cs "hsr0") (cs "eth0") (cs "eth1") 0)
    [eth0, eth1] eth0 eth1 () rfl rfl rfl).mpr (show (cs "hsr0").length < IFNAMSIZ by decide)

/-- `hsr0` exists over other ports: the request after its deletion names `eth1` twice -/
theorem recreated_device_gets_one_port_twice :
    ¬ ∀ (W : Type) (S : Sys W) (node : WaitListNode) (links : List LinkObj)
      (slave1 slave2 : LinkObj) (w : W), node.Distinct → dumped S w = some links →
      rtnlLinkGetByName links node.slave1Name = some slave1 →
      rtnlLinkGetByName links node.slave2Name = some slave2 →
      CreatedAsConfigured S node slave1 slave2 w := by
  intro h
  have hcreated := h Unit (staticSys [eth0, eth1, hsrDevice 5 (cs "hsr0") 7 8])
    (waiting (cs "hsr0") (cs "eth0") (cs "eth1") 0) [eth0, eth1, hsrDevice 5 (cs "hsr0") 7 8]
    eth0 eth1 () (by decide) rfl rfl rfl
  have hrequest := hcreated.requests (cs "hsr0") (hsrRequest (cs "hsr0") 3 3 1) 0 (by decide)
  exact absurd hrequest (by decide)

end Hsr
