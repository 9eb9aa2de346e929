import ConfdbHsr.Daemon.Attempts

/-!
# What survives the requests of the daemon

The daemon touches its environment through the requests of `Sys` only: what each of them
preserves, every function of the daemon preserves.

* `Closed S P`     no request leads out of the worlds `P`;
* `Stays P x`      a run of `x` from `P` that returns ends in `P`;
* `step_stays`     so does every step of the machine.
-/

namespace Hsr
open Nl Proc Scan

variable {W : Type}

/-- no request leads out of `P` -/
structure Closed (S : Sys W) (P : W → Prop) : Prop where
  connect : ∀ w, P w → P (S.nlConnect w).2
  dump : ∀ w, P w → P (S.rtnlLinkAllocCache w).2
  add : ∀ link w, P w → P (S.rtnlLinkAdd link w).2
  delete : ∀ link w, P w → P (S.rtnlLinkDelete link w).2
  calloc : ∀ w, P w → P (S.calloc w).2

/-- a run from `P` that returns ends in `P` -/
def Stays {α : Type} (P : W → Prop) (x : Op W α) : Prop := Leaves P x fun _ => P

section
variable {α β : Type} {P : W → Prop}

lemma stays_pure (a : α) : Stays P (pure a : Op W α) := leaves_pure fun _ h => h

lemma stays_fail (fault : Fault) : Stays P (fail fault : Op W α) := leaves_fail fault

lemma stays_bind {x : Op W α} {f : α → Op W β} (hx : Stays P x) (hf : ∀ a, Stays P (f a)) :
    Stays P (x >>= f) :=
  leaves_bind _ hx hf

lemma stays_sys {f : W → α × W} (hf : ∀ w, P w → P (f w).2) : Stays P (sys f : Op W α) := by
  intro w hw a _
  exact hf w hw

lemma stays_emit (a : Act) : Stays P (emit a : Op W PUnit) := fun _ hw _ _ => hw

lemma stays_ite {p : Prop} [Decidable p] {x y : Op W α} (hx : p → Stays P x)
    (hy : ¬ p → Stays P y) : Stays P (if p then x else y) :=
  leaves_ite hx hy

lemma stays_map {x : Op W α} {f : α → β} (hx : Stays P x) : Stays P (f <$> x) := leaves_map hx

lemma deref_stays (fault : Fault) (o : Option α) : Stays P (deref fault o : Op W α) := by
  cases o with
  | none => exact stays_fail fault
  | some a => exact stays_pure a

end

/-! ## one lemma for each function -/

section
variable {S : Sys W} {P : W → Prop} (h : Closed S P)
include h

lemma createHsrInterface_stays (ifName : CStr) (slave1 slave2 : Option LinkObj)
    (version : UInt8) : Stays P (createHsrInterface S ifName slave1 slave2 version) := by
  refine stays_bind (deref_stays _ _) fun s1 => stays_bind (deref_stays _ _) fun s2 => ?_
  refine stays_bind (stays_sys (h.add _)) fun ret => ?_
  exact stays_bind (stays_emit _) fun _ => stays_pure _

lemma requestDelete_stays (link : LinkObj) : Stays P (requestDelete S link) := by
  refine stays_bind (stays_sys (h.delete link)) fun ret => ?_
  exact stays_bind (stays_emit _) fun _ => stays_pure _

lemma deleteHsrInterface_stays (link : LinkObj) : Stays P (deleteHsrInterface S link) :=
  stays_bind (requestDelete_stays h link) fun _ => stays_pure _

lemma withDump_stays {α : Type} {onError : Int → Op W α} {k : List LinkObj → Op W α}
    (herr : ∀ ret, Stays P (onError ret)) (hk : ∀ links, Stays P (k links)) :
    Stays P (withDump S onError k) := by
  refine stays_bind (stays_sys h.connect) fun ret => stays_ite (fun _ => herr ret) fun _ => ?_
  refine stays_bind (stays_sys h.dump) fun ⟨ret, links⟩ => ?_
  exact stays_ite (fun _ => herr ret) fun _ => hk links

lemma deleteHsrInterfaceByName_stays (ifName : CStr) :
    Stays P (deleteHsrInterfaceByName S ifName) := by
  refine withDump_stays h (fun _ => stays_pure _) fun links => ?_
  unfold deleteNamed
  split
  · exact stays_pure _
  · exact stays_bind (requestDelete_stays h _) fun _ => stays_pure _

lemma createHifFromWaitlist_stays (ifName slave1Name slave2Name : CStr) :
    Stays P (createHifFromWaitlist S ifName slave1Name slave2Name) := by
  refine withDump_stays h (fun _ => stays_fail _) fun links => ?_
  unfold createOrRecreate recreateHsrInterface
  split
  · exact createHsrInterface_stays h _ _ _ _
  · refine stays_bind (deleteHsrInterface_stays h _) fun ret => ?_
    exact stays_ite (fun _ => stays_pure _) fun _ => createHsrInterface_stays h _ _ _ _

lemma createHif_stays (node : WaitListNode) : Stays P (createHif S node) := by
  refine stays_bind (stays_emit _) fun _ => ?_
  exact stays_bind (createHifFromWaitlist_stays h _ _ _) fun _ => stays_pure _

omit h in
lemma getMasterLoop_stays (slave : UInt32) (links : List LinkObj) :
    Stays P (getMasterLoop S slave links) := by
  have hread : ∀ link (value : UInt32), Stays P (do
      emit (.hsrGetSlave link)
      if !link.isHsr && S.asserts then fail .appBug else pure value : Op W UInt32) := fun _ _ =>
    stays_bind (stays_emit _) fun _ => stays_ite (fun _ => stays_fail _) fun _ => stays_pure _
  induction links with
  | nil => exact stays_pure _
  | cons link links ih =>
    refine stays_ite (fun _ => ih) fun _ => ?_
    refine stays_bind (hread link _) fun _ => stays_bind (hread link _) fun _ => ?_
    exact stays_ite (fun _ => stays_pure _) fun _ => ih

lemma getMaster_stays (slave : UInt32) : Stays P (getMaster S slave) := by
  refine stays_bind (stays_sys h.dump) fun ⟨ret, links⟩ => ?_
  exact stays_ite (fun _ => stays_fail _) fun _ => getMasterLoop_stays slave links

lemma mainCheckReconfigure_stays (i1 i2 : UInt32) (m1 m2 : Option LinkObj) (hsrLink : LinkObj)
    (node : WaitListNode) : Stays P (mainCheckReconfigure S i1 i2 m1 m2 hsrLink node) := by
  have hdel : Stays P (do
      let ret ← deleteHsrInterface S hsrLink
      pure (ret, node) : Op W (Int × WaitListNode)) :=
    stays_bind (deleteHsrInterface_stays h _) fun _ => stays_pure _
  have hget : ∀ value : UInt32, Stays P (do
      emit (.hsrGetSlave hsrLink)
      if !hsrLink.isHsr && S.asserts then fail .appBug else pure value : Op W UInt32) := fun _ =>
    stays_bind (stays_emit _) fun _ => stays_ite (fun _ => stays_fail _) fun _ => stays_pure _
  refine stays_bind (hget _) fun sl1 => stays_bind (hget _) fun sl2 => ?_
  refine stays_ite (fun _ => hdel) fun _ => ?_
  refine stays_ite (fun _ => stays_ite (fun _ => hdel) fun _ => stays_pure _) fun _ => ?_
  refine stays_ite (fun _ => stays_ite (fun _ => hdel) fun _ => stays_pure _) fun _ => ?_
  exact stays_ite (fun _ => hdel) fun _ => stays_ite (fun _ => stays_pure _) fun _ => stays_pure _

lemma mainCheck_stays (waitList : List WaitListNode) (ifName : CStr)
    (slave1 slave2 hsrLink : Option LinkObj) (node : WaitListNode) :
    Stays P (mainCheck S waitList ifName slave1 slave2 hsrLink node) := by
  unfold mainCheck
  split
  · exact stays_pure _
  · exact stays_bind (getMaster_stays h _) fun _ => stays_pure _
  · exact stays_bind (getMaster_stays h _) fun _ => stays_pure _
  · refine stays_bind (getMaster_stays h _) fun m1 => stays_bind (getMaster_stays h _) fun m2 => ?_
    split
    · refine stays_bind (mainCheckReconfigure_stays h _ _ _ _ _ _) fun ⟨ret, node⟩ => ?_
      exact stays_ite (fun _ => stays_pure _) fun _ => stays_pure _
    · refine stays_ite (fun _ => stays_ite (fun _ => ?_) fun _ => stays_pure _) fun _ => ?_
      · refine stays_bind (createHsrInterface_stays h _ _ _ _) fun ret => ?_
        exact stays_ite (fun _ => stays_pure _) fun _ => stays_pure _
      · refine stays_ite (fun _ => stays_pure _) fun _ => ?_
        exact stays_ite (fun _ => stays_pure _) fun _ => stays_pure _

lemma initialCheck_stays (waitList : List WaitListNode) (ifName slave1Name slave2Name : CStr) :
    Stays P (initialCheck S waitList ifName slave1Name slave2Name) := by
  refine withDump_stays h (fun _ => stays_fail _) fun links => ?_
  refine stays_bind (stays_sys h.calloc) fun allocated => ?_
  exact stays_ite (fun _ => stays_pure _) fun _ => mainCheck_stays h _ _ _ _ _ _

lemma changeInterfaceList_stays (app : HsrModule) (ifName : CStr) (isAdd : Bool) :
    Stays P (changeInterfaceList S app ifName isAdd) := by
  refine withDump_stays h (fun _ => stays_fail _) fun links => ?_
  refine stays_ite (fun _ => stays_pure _) fun _ => stays_ite (fun _ => ?_) fun _ => stays_pure _
  refine stays_bind ?_ fun _ => stays_pure _
  refine stays_bind (stays_emit _) fun _ => ?_
  exact stays_ite (fun _ => stays_pure _) fun _ => stays_fail _

lemma hsrHandler_stays (app : HsrModule) (key : Option CStr) (cdbData : Option HsrData) :
    Stays P (hsrHandler S app key cdbData) := by
  unfold hsrHandler
  split
  · exact stays_pure _
  · split
    · refine stays_bind (changeInterfaceList_stays h _ _ _) fun ⟨_, app⟩ => ?_
      dsimp only
      split
      · exact stays_bind (initialCheck_stays h _ _ _ _) fun _ => stays_pure _
      · exact stays_pure _
    · refine stays_bind (deleteHsrInterfaceByName_stays h _) fun ret => ?_
      refine stays_ite (fun _ => stays_pure _) fun _ => ?_
      exact stays_bind (changeInterfaceList_stays h _ _ _) fun _ => stays_pure _

lemma react_stays (waitList : List WaitListNode) (r : Reaction) :
    Stays P (react S waitList r) := by
  rcases react_tries S waitList r with ⟨fault, rfl⟩ | htries
  · exact stays_fail fault
  · exact htries.holds stays_pure fun node edit => stays_map (createHif_stays h node)

theorem step_stays (app : HsrModule) (input : Input) : Stays P (step S app input) := by
  cases input with
  | config key cdbData =>
    exact stays_bind (hsrHandler_stays h app key cdbData) fun _ => stays_pure _
  | link cache note =>
    refine stays_bind ?_ fun _ => stays_pure _
    rw [routeLinkCacheChangeCb_eq]
    exact react_stays h _ _

end

end Hsr
