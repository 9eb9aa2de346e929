import ConfdbHsr.Daemon.Edits
import ConfdbHsr.Daemon.Scenario

/-!
# Does a failed configuration call lose the interface?

`initial_check` unlinks the waiting node of the interface before it allocates the new one and
before it sends a request; if one of these fails, the new node is not queued either.

* `Fails`              a call that returns a negative code, or ends where `link_cache` is not set;
* `LinksShown`         the socket and the dumps of a call succeed;
* `initialCheck_unset_iff`   the call ends where `link_cache` is not set if one of them fails;
* `failed_call_edits`  a call that returns a negative code leaves the list without the old node;
* `loses_nothing_iff`  when a failed call keeps the list, or the new configuration on it.
-/

namespace Hsr
open Nl Proc

variable {W : Type} (S : Sys W)

/-! ## failures -/

/-- the socket, a dump, the allocation or a request failed: the call returns a negative code, or
ends with the put of a cache that it never got -/
def Fails (out : Out Fault W Act (Int × List WaitListNode)) : Prop :=
  out.val = .error .wildPut ∨ ∃ ret waitList', out.val = .ok (ret, waitList') ∧ ret < 0

/-- the socket and the dumps of the call succeed: its own, and the one of each slave that exists -/
def LinksShown (slaveA slaveB : CStr) (w : W) : Prop :=
  ∃ links, dumped S w = some links ∧ ((S.calloc (afterDump S w)).1 = true →
    DumpsAnswered S ([rtnlLinkGetByName links slaveA, rtnlLinkGetByName links slaveB].countP
      Option.isSome) (S.calloc (afterDump S w)).2)

lemma getMaster_bind_unset_iff {α : Type} {f : Option LinkObj → Op W α} {n : Nat} {w : W}
    (slave : UInt32)
    (hf : ∀ master w, (f master w).val = .error .wildPut ↔ ¬ DumpsAnswered S n w) :
    ((getMaster S slave >>= f) w).val = .error .wildPut ↔ ¬ DumpsAnswered S (n + 1) w := by
  by_cases h : 0 ≤ (S.rtnlLinkAllocCache w).1.1
  · obtain ⟨master, acts, hrun⟩ := getMaster_run S h slave
    rw [bind_apply, hrun, thenRun_ok]
    refine (hf master _).trans (not_congr ?_)
    exact (and_iff_right h).symm
  · rw [bind_apply, getMaster_unset S h]
    exact iff_of_true rfl fun hdumps => h hdumps.1

lemma reconfigure_never_unset (i1 i2 : UInt32) (m1 m2 : Option LinkObj) (link : LinkObj)
    (node : WaitListNode) :
    Faults (· ≠ .wildPut) (mainCheckReconfigure S i1 i2 m1 m2 link node) := by
  have hget : ∀ value : UInt32, Faults (· ≠ Fault.wildPut) (do
      emit (.hsrGetSlave link)
      if !link.isHsr && S.asserts then fail .appBug else pure value : Op W UInt32) := fun _ =>
    faults_bind (faults_emit _) fun _ => faults_ite (fun _ => faults_fail nofun)
      fun _ => faults_pure _
  have hdel : Faults (· ≠ Fault.wildPut) (do
      let ret ← deleteHsrInterface S link
      pure (ret, node) : Op W (Int × WaitListNode)) := by
    refine faults_bind (faults_bind ?_ fun _ => faults_pure _) fun _ => faults_pure _
    exact faults_bind (faults_sys _) fun _ => faults_bind (faults_emit _) fun _ => faults_pure _
  refine faults_bind (hget _) fun sl1 => faults_bind (hget _) fun sl2 => ?_
  refine faults_ite (fun _ => hdel) fun _ => ?_
  refine faults_ite (fun _ => faults_ite (fun _ => hdel) fun _ => faults_pure _) fun _ => ?_
  refine faults_ite (fun _ => faults_ite (fun _ => hdel) fun _ => faults_pure _) fun _ => ?_
  exact faults_ite (fun _ => hdel) fun _ => faults_ite (fun _ => faults_pure _)
    fun _ => faults_pure _

lemma fresh_never_unset (waitList : List WaitListNode) (ifName : CStr) (m1 m2 : Option LinkObj)
    (slave1 slave2 : LinkObj) (node : WaitListNode) :
    Faults (· ≠ .wildPut) (mainCheckFresh S waitList ifName m1 m2 slave1 slave2 node) := by
  refine faults_ite (fun _ => faults_ite (fun _ => ?_) fun _ => faults_pure _) fun _ => ?_
  · have hcreate : Faults (· ≠ Fault.wildPut)
        (createHsrInterface S ifName (some slave1) (some slave2) 1) :=
      faults_bind (faults_pure _) fun _ => faults_bind (faults_pure _) fun _ =>
        faults_bind (faults_sys _) fun _ => faults_bind (faults_emit _) fun _ => faults_pure _
    exact faults_bind hcreate fun _ => faults_ite (fun _ => faults_pure _) fun _ => faults_pure _
  · refine faults_ite (fun _ => faults_pure _) fun _ => ?_
    exact faults_ite (fun _ => faults_pure _) fun _ => faults_pure _

lemma mainCheck_unset_iff (waitList : List WaitListNode) (ifName : CStr)
    (slave1 slave2 hsrLink : Option LinkObj) (node : WaitListNode) (w : W) :
    (mainCheck S waitList ifName slave1 slave2 hsrLink node w).val = .error .wildPut ↔
      ¬ DumpsAnswered S ([slave1, slave2].countP Option.isSome) w := by
  have hdone : ∀ {α : Type} {x : Op W α} (w : W), Faults (· ≠ .wildPut) x →
      ((x w).val = .error .wildPut ↔ ¬ DumpsAnswered S 0 w) := fun w h =>
    iff_of_false (fun he => h w _ he rfl) fun hn => hn trivial
  cases slave1 with
  | none =>
    cases slave2 with
    | none => exact hdone w (faults_pure _)
    | some slave2 => exact getMaster_bind_unset_iff S _ fun _ w => hdone w (faults_pure _)
  | some slave1 =>
    cases slave2 with
    | none => exact getMaster_bind_unset_iff S _ fun _ w => hdone w (faults_pure _)
    | some slave2 =>
      refine getMaster_bind_unset_iff S (n := 1) _ fun m1 w => ?_
      refine getMaster_bind_unset_iff S _ fun m2 w => hdone w ?_
      cases hsrLink with
      | none => exact fresh_never_unset S _ _ _ _ _ _ _
      | some link =>
        refine faults_bind (reconfigure_never_unset S _ _ _ _ _ _) fun _ => ?_
        exact faults_ite (fun _ => faults_pure _) fun _ => faults_pure _

/-- **The error path of a dump** is where the call does not return. -/
theorem initialCheck_unset_iff (waitList : List WaitListNode) (ifName slaveA slaveB : CStr)
    (w : W) :
    (initialCheck S waitList ifName slaveA slaveB w).val = .error .wildPut ↔
      ¬ LinksShown S slaveA slaveB w := by
  obtain ⟨code, -, heq⟩ := withDump_eq S (fun _ => putUnset)
    (checkLinks S waitList ifName slaveA slaveB) w
  rw [initialCheck, heq, LinksShown]
  cases dumped S w with
  | none =>
    refine iff_of_true rfl ?_
    rintro ⟨links, h, -⟩
    cases h
  | some links =>
    have hchecked : (checkLinks S waitList ifName slaveA slaveB links (afterDump S w)).val =
        .error .wildPut ↔ ¬ ((S.calloc (afterDump S w)).1 = true →
          DumpsAnswered S ([rtnlLinkGetByName links slaveA, rtnlLinkGetByName links slaveB].countP
            Option.isSome) (S.calloc (afterDump S w)).2) := by
      unfold checkLinks
      dsimp only
      rw [bind_apply, sys_apply, thenRun_ok]
      cases (S.calloc (afterDump S w)).1 with
      | false => exact iff_of_false nofun fun h => h nofun
      | true =>
        rw [forall_prop_of_true rfl]
        exact mainCheck_unset_iff S _ _ _ _ _ _ _
    rw [hchecked]
    simp

/-! ## what a failed call leaves -/

lemma mainCheck_failed (waitList : List WaitListNode) (ifName : CStr)
    (slave1 slave2 hsrLink : Option LinkObj) (node : WaitListNode) :
    Yields (fun p => p.1 < 0 → p.2 = waitList)
      (mainCheck S waitList ifName slave1 slave2 hsrLink node) := by
  have hadd : ∀ node', Yields (fun p : Int × List WaitListNode => p.1 < 0 → p.2 = waitList)
      (pure (0, addNodeToWaitList node' waitList) : Op W _) :=
    fun node' => yields_pure fun h => absurd h (lt_irrefl (0 : Int))
  unfold mainCheck
  split
  · exact hadd _
  · exact yields_then fun _ => hadd _
  · exact yields_then fun _ => hadd _
  · refine yields_then fun m1 => yields_then fun m2 => ?_
    split
    · refine yields_then fun ⟨ret, node'⟩ => ?_
      exact yields_ite (fun _ => yields_pure fun _ => rfl) fun _ => hadd _
    · unfold mainCheckFresh
      refine yields_ite (fun _ => yields_ite (fun _ => yields_then fun ret => ?_) fun _ => hadd _)
        fun _ => ?_
      · exact yields_ite (fun _ => yields_pure fun _ => rfl) fun _ => yields_pure fun _ => rfl
      · refine yields_ite (fun _ => hadd _) fun _ => ?_
        exact yields_ite (fun _ => hadd _) fun _ => hadd _

theorem failed_call_edits (waitList : List WaitListNode) (ifName slaveA slaveB : CStr) (w : W)
    {ret : Int} {waitList' : List WaitListNode}
    (hrun : (initialCheck S waitList ifName slaveA slaveB w).val = .ok (ret, waitList'))
    (hneg : ret < 0) : waitList' = (deleteWaitListNode waitList ifName).1 := by
  obtain ⟨code, -, heq⟩ := withDump_eq S (fun _ => putUnset)
    (checkLinks S waitList ifName slaveA slaveB) w
  rw [initialCheck, heq] at hrun
  cases hdump : dumped S w with
  | none =>
    rw [hdump] at hrun
    cases hrun
  | some links =>
    rw [hdump] at hrun
    have hfailed : Yields (fun p => p.1 < 0 → p.2 = (deleteWaitListNode waitList ifName).1)
        (checkLinks S waitList ifName slaveA slaveB links) := by
      refine yields_then fun allocated => ?_
      exact yields_ite (fun _ => yields_pure fun _ => rfl) fun _ => mainCheck_failed S _ _ _ _ _ _
    exact hfailed _ _ hrun hneg

/-- the list is as it was, or has a node for the configuration -/
def LosesNothing (waitList waitList' : List WaitListNode) (ifName slaveA slaveB : CStr) : Prop :=
  waitList' = waitList ∨ ∃ node ∈ waitList', node.hsrName = ifName ∧ node.slave1Name = slaveA ∧
    node.slave2Name = slaveB

instance (waitList waitList' : List WaitListNode) (ifName slaveA slaveB : CStr) :
    Decidable (LosesNothing waitList waitList' ifName slaveA slaveB) :=
  inferInstanceAs (Decidable (_ ∨ _))

lemma deleteWaitListNode_eq_iff (waitList : List WaitListNode) (ifName : CStr) :
    (deleteWaitListNode waitList ifName).1 = waitList ↔
      ∀ node ∈ waitList, node.hsrName ≠ ifName := by
  rw [deleteWaitListNode, List.eraseP_eq_self_iff]
  simp

/-- the call returns, and loses nothing -/
def KeptBy (out : Out Fault W Act (Int × List WaitListNode)) (waitList : List WaitListNode)
    (ifName slaveA slaveB : CStr) : Prop :=
  ∃ ret waitList', out.val = .ok (ret, waitList') ∧
    LosesNothing waitList waitList' ifName slaveA slaveB

/-- **A failed call loses nothing** exactly when the socket and its dumps succeed, and no node of the
interface waited, or another node of the list stands for the configuration. -/
theorem loses_nothing_iff (waitList : List WaitListNode) (ifName slaveA slaveB : CStr) (w : W)
    (hfails : Fails (initialCheck S waitList ifName slaveA slaveB w)) :
    KeptBy (initialCheck S waitList ifName slaveA slaveB w) waitList ifName slaveA slaveB ↔
      LinksShown S slaveA slaveB w ∧ ((∀ node ∈ waitList, node.hsrName ≠ ifName) ∨
        ∃ node ∈ (deleteWaitListNode waitList ifName).1, node.hsrName = ifName ∧
          node.slave1Name = slaveA ∧ node.slave2Name = slaveB) := by
  have hunset := initialCheck_unset_iff S waitList ifName slaveA slaveB w
  rcases hfails with hcrash | ⟨ret, waitList', hrun, hneg⟩
  · refine iff_of_false ?_ fun h => hunset.mp hcrash h.1
    rintro ⟨ret, waitList', hrun, -⟩
    cases hcrash.symm.trans hrun
  · have hshown : LinksShown S slaveA slaveB w := by
      by_contra hnot
      cases hrun.symm.trans (hunset.mpr hnot)
    have hkept : KeptBy (initialCheck S waitList ifName slaveA slaveB w) waitList ifName slaveA
        slaveB ↔ LosesNothing waitList waitList' ifName slaveA slaveB := by
      rw [KeptBy, hrun]
      constructor
      · rintro ⟨_, _, h, hkept⟩
        cases h
        exact hkept
      · exact fun h => ⟨ret, waitList', rfl, h⟩
    rw [and_iff_right hshown, hkept, LosesNothing,
      failed_call_edits S waitList ifName slaveA slaveB w hrun hneg, deleteWaitListNode_eq_iff]

/-- the environment that dumps `table` and refuses every create request -/
def refusesCreate (table : List LinkObj) : Sys Unit :=
  { staticSys table with rtnlLinkAdd := fun _ w => (-7, w) }

/-- `hsr0` did not wait before its creation is refused -/
theorem refused_call_keeps_the_others :
    KeptBy (initialCheck (refusesCreate [eth0, eth1]) [] (cs "hsr0") (cs "eth0") (cs "eth1") ()) []
      (cs "hsr0") (cs "eth0") (cs "eth1") :=
  (loses_nothing_iff (refusesCreate [eth0, eth1]) [] (cs "hsr0") (cs "eth0") (cs "eth1") ()
    (.inr ⟨-7, [], rfl, by decide⟩)).mpr
      ⟨⟨[eth0, eth1], rfl, fun _ => ⟨le_rfl, le_rfl, trivial⟩⟩, .inl nofun⟩

/-- `hsr0` waited with other slaves: it is neither created nor on the list any more -/
theorem refused_call_loses_the_interface :
    ¬ ∀ (W : Type) (S : Sys W) (waitList : List WaitListNode) (ifName slaveA slaveB : CStr) (w : W)
      (ret : Int) (waitList' : List WaitListNode),
      (initialCheck S waitList ifName slaveA slaveB w).val = .ok (ret, waitList') → ret < 0 →
      LosesNothing waitList waitList' ifName slaveA slaveB := by
  intro h
  have hkept := h Unit (refusesCreate [eth0, eth1]) [waiting (cs "hsr0") (cs "eth0") (cs "eth2") 0]
    (cs "hsr0") (cs "eth0") (cs "eth1") () (-7) [] rfl (by decide)
  exact absurd hkept (by decide)

end Hsr
