import ConfdbHsr.Daemon.Edits

/-!
# The wait list over whole runs

* `NamesDistinct`, `EventEdit`   the invariant of the list, and what one event may do to it;
* `step_well_edited`             one step keeps the invariant and edits the list as allowed;
* `wait_list_well_formed`        so does every step of every run from the empty list.
-/

namespace Hsr
open Nl Proc Scan Machine

def NamesDistinct (waitList : List WaitListNode) : Prop :=
  (waitList.map WaitListNode.hsrName).Nodup

/-- the node names neither the notified link nor, for a new HSR device, its lower link in a slave
slot, and its own name is neither the notified link's nor that of the link's old master -/
def Uninvolved (cache : List LinkObj) (note : Note LinkObj) (node : WaitListNode) : Prop :=
  match note with
  | .new n => NotSlave n.lName node ∧ node.hsrName ≠ n.lName ∧
      (n.isHsr = true → ∀ slave, rtnlLinkGet cache n.lLink = some slave →
        NotSlave slave.lName node)
  | .del o => NotSlave o.lName node ∧ node.hsrName ≠ o.lName
  | .change o n _ => NotSlave o.lName node ∧ NotSlave n.lName node ∧ node.hsrName ≠ o.lName ∧
      node.hsrName ≠ n.lName ∧
      ∀ M, rtnlLinkGet cache o.lMaster = some M → node.hsrName ≠ M.lName

/-- what a notification does to a node that stays -/
structure Survives (cache : List LinkObj) (note : Note LinkObj) (a b : WaitListNode) : Prop
    extends SameNames a b where
  status : Uninvolved cache note a → b.status = a.status

/-- what handling an input may do to the list -/
def EventEdit (waitList waitList' : List WaitListNode) (acts : List Act) : Input → Prop
  | .link cache note => Edited (Survives cache note) (Created acts) waitList waitList'
  | .config (some ifName) _ => ConfigEdit ifName waitList waitList'
  | .config none _ => waitList' = waitList

variable {W : Type}

/-- the list is well formed before the input and after it, and was edited as allowed -/
structure WellEdited (h : Handled Fault W Act HsrModule Input) : Prop where
  before : NamesDistinct h.pre.waitList
  attempts : (attempts h.out.acts).length ≤ 1
  after : ∀ app, h.out.val = .ok app →
    NamesDistinct app.waitList ∧ EventEdit h.pre.waitList app.waitList h.out.acts h.input

/-! ## one step -/

lemma uninvolved_aside (cache : List LinkObj) (note : Note LinkObj) {node : WaitListNode}
    (h : Uninvolved cache note node) : Aside (reaction cache note) node := by
  cases note with
  | new n =>
    obtain ⟨h1, -, h3⟩ := h
    show Aside (newReaction cache n) node
    rcases newReaction_cases cache n with hr | hr | ⟨slave, hk, hl, hr⟩ | ⟨fault, -, hr⟩ <;> rw [hr]
    · trivial
    · exact h1
    · exact h3 hk slave hl
    · trivial
  | del o =>
    obtain ⟨h1, h2⟩ := h
    show Aside (delReaction o) node
    rcases delReaction_cases o with hr | hr | hr | hr <;> rw [hr]
    · trivial
    · exact h1
    · exact h2
    · trivial
  | change o n d =>
    obtain ⟨h1, h2, -, -, h3⟩ := h
    show Aside (changeReaction cache o n) node
    rcases changeReaction_cases cache o n with hr | hr | ⟨M, hM, hr | hr | hr⟩ <;> rw [hr]
    · trivial
    · exact h1
    · exact h2
    · exact ⟨h2, h3 M hM⟩
    · trivial

lemma configEdit_distinct {ifName : CStr} {waitList waitList' : List WaitListNode}
    (h : ConfigEdit ifName waitList waitList') (hd : NamesDistinct waitList) :
    NamesDistinct waitList' := by
  have hsub : ((deleteWaitListNode waitList ifName).1.map WaitListNode.hsrName).Nodup :=
    hd.sublist (List.Sublist.map _ List.eraseP_sublist)
  rcases h with rfl | rfl | ⟨node, rfl, rfl⟩
  · exact hd
  · exact hsub
  · -- the old node of that name was taken out first
    have hnot : node.hsrName ∉
        (deleteWaitListNode waitList node.hsrName).1.map WaitListNode.hsrName :=
      deleteWaitListNode_gone _ hd
    show (((deleteWaitListNode waitList node.hsrName).1 ++ [node]).map _).Nodup
    rw [List.map_append, List.nodup_append]
    refine ⟨hsub, List.nodup_singleton _, ?_⟩
    rintro x hx y hy rfl
    rw [List.map_singleton, List.mem_singleton] at hy
    exact hnot (hy ▸ hx)

theorem config_well_edited (S : Sys W) (app : HsrModule) (key : Option CStr)
    (cdbData : Option HsrData) (w : W) {app' : HsrModule}
    (h : (step S app (.config key cdbData) w).val = .ok app') :
    EventEdit app.waitList app'.waitList (step S app (.config key cdbData) w).acts
      (.config key cdbData) := by
  cases key with
  | none =>
    obtain rfl := Except.ok.inj h
    rfl
  | some ifName =>
    have hspec : Yields (fun app' => ConfigEdit ifName app.waitList app'.waitList)
        (step S app (.config (some ifName) cdbData)) :=
      yields_bind (hsrHandler_edits S app ifName cdbData) fun p hp => yields_pure hp
    exact hspec w app' h

theorem link_well_edited (S : Sys W) (app : HsrModule) (cache : List LinkObj)
    (note : Note LinkObj) (w : W) {app' : HsrModule}
    (h : (step S app (.link cache note) w).val = .ok app') :
    EventEdit app.waitList app'.waitList (step S app (.link cache note) w).acts
      (.link cache note) := by
  have hspec : Spec (step S app (.link cache note)) fun res acts => ∀ app', res = .ok app' →
      Edited (Keeps (reaction cache note)) (Created acts) app.waitList app'.waitList := by
    rw [step, routeLinkCacheChangeCb_eq]
    refine spec_bind (react_edits S app.waitList (reaction cache note))
      (fun _ _ _ _ h => nomatch h) fun l acts hl => spec_pure fun app' happ' => ?_
    obtain rfl := Except.ok.inj happ'
    rw [List.append_nil]
    exact hl l rfl
  refine (hspec w app' h).mono (fun a b hab => ?_) fun a ha => ha
  exact ⟨hab.toSameNames, fun hu => hab.status (uninvolved_aside cache note hu)⟩

theorem eventEdit_distinct {waitList waitList' : List WaitListNode} {acts : List Act}
    {input : Input} (h : EventEdit waitList waitList' acts input)
    (hd : NamesDistinct waitList) : NamesDistinct waitList' := by
  cases input with
  | link cache note => exact Edited.nodup h (fun a b hab => hab.hsrName) hd
  | config key cdbData =>
    cases key with
    | none =>
      rw [show waitList' = waitList from h]
      exact hd
    | some ifName => exact configEdit_distinct h hd

/-- **One step** from a list with distinct names. -/
theorem step_well_edited (S : Sys W) (app : HsrModule) (w : W) (input : Input)
    (hd : NamesDistinct app.waitList) : WellEdited ⟨app, w, input, step S app input w⟩ := by
  refine ⟨hd, ?_, fun app' h => ?_⟩
  · show (attempts (step S app input w).acts).length ≤ 1
    rw [step_attempts S app input w]
    exact Option.length_toList_le
  · have hedit : EventEdit app.waitList app'.waitList (step S app input w).acts input := by
      cases input with
      | config key cdbData => exact config_well_edited S app key cdbData w h
      | link cache note => exact link_well_edited S app cache note w h
    exact ⟨eventEdit_distinct hedit hd, hedit⟩

theorem step_distinct (S : Sys W) (app : HsrModule) (w : W) (input : Input) (app' : HsrModule)
    (hd : NamesDistinct app.waitList) (h : (step S app input w).val = .ok app') :
    NamesDistinct app'.waitList :=
  ((step_well_edited S app w input hd).after app' h).1

/-! ## runs -/

lemma init_distinct : NamesDistinct HsrModule.init.waitList := List.nodup_nil

theorem along_distinct (S : Sys W) (w : W) (inputs : List Input) :
    Along (step S) HsrModule.init w inputs fun h => NamesDistinct h.pre.waitList :=
  along_of_inv (fun (app : HsrModule) _ => NamesDistinct app.waitList) (C := fun _ => True)
    init_distinct (fun app w input hd _ => ⟨hd, fun app' h => step_distinct S app w input app' hd h⟩)
    fun _ _ => trivial

/-- **The wait list is well formed over whole runs.** -/
theorem wait_list_well_formed (S : Sys W) (w : W) (inputs : List Input) :
    Along (step S) HsrModule.init w inputs WellEdited := by
  have hout := along_out (step S) HsrModule.init w inputs
  have hdistinct := along_distinct S w inputs
  intro h hh
  have hstep := step_well_edited S h.pre h.world h.input (hdistinct h hh)
  rw [← hout h hh] at hstep
  exact hstep

end Hsr
