import ConfdbHsr.Daemon.Reaction

/-!
# Which node a handler tries to create

A handler of the wait list acts on at most one node; the rest of what it does is an edit of the
list in place.

* `newLink_eq`, `linkChangedReleased_eq`, `hsrLinkDeleted_eq`   each creating handler in the form
                   "find the node, try it, edit the rest";
* `Attempts x l`   every run of `x` calls `create_hif` on the nodes `l`, in this order;
* `target`         the node that a reaction tries, as the result of a search;
* `react_tries`    a reaction tries its target, and otherwise edits the list;
* `hsrHandler_quiet`   a configuration call never calls `create_hif`.
-/

namespace Hsr
open Nl Proc Scan

variable {W : Type} (S : Sys W)

/-! ## the handlers without their loops -/

theorem newLink_eq (waitList : List WaitListNode) (L : LinkObj) :
    newLink S waitList L = match cut id (newLinkReady L.lName) waitList with
      | none => pure (waitList.map (linkPresent L.lName))
      | some c => (fun r => (c.before ++ r ++ c.after).map (linkPresent L.lName)) <$>
          createHif S c.node := by
  rw [newLink, L.getName_eq, deref_some, pure_bind, scan_eq]
  cases cut id (newLinkReady L.lName) waitList with
  | none => simp
  | some c => simp

theorem linkChangedReleased_eq (waitList : List WaitListNode) (L : LinkObj) :
    linkChangedReleased S waitList L = match cut id (releasedReady L.lName) waitList with
      | none => pure (waitList.map (linkFree L.lName))
      | some c => (fun r => c.before ++ r ++ c.after) <$> createUnlessStillExists S c.node := by
  rw [linkChangedReleased, L.getName_eq, deref_some, pure_bind, scan_eq]
  cases cut id (releasedReady L.lName) waitList with
  | none => simp
  | some c => simp

/-- the node of the deleted device that the first loop of `hsr_link_deleted` stops at -/
def ownReady (linkName : CStr) (node : WaitListNode) : Bool :=
  node.hsrName == linkName && slavesReady node

theorem hsrLinkDeleted_eq (waitList : List WaitListNode) (L : LinkObj) :
    hsrLinkDeleted S waitList L =
      match cut (clearStillExists L.lName) (ownReady L.lName) waitList with
      | some c => (fun r => c.before ++ r ++ c.after) <$> createHif S c.node
      | none =>
        match cut id slavesReady (waitList.map (clearStillExists L.lName)) with
        | none => pure (waitList.map (clearStillExists L.lName))
        | some c => (fun r => c.before ++ r ++ c.after) <$> createHif S c.node := by
  rw [hsrLinkDeleted, L.getName_eq, deref_some, pure_bind]
  show (scan (clearStillExists L.lName) (ownReady L.lName) (createHif S) waitList >>= _) = _
  rw [scan_eq]
  cases cut (clearStillExists L.lName) (ownReady L.lName) waitList with
  | some c => simp
  | none =>
    simp only [pure_bind, Bool.false_eq_true, if_false, scan_eq]
    cases cut id slavesReady (waitList.map (clearStillExists L.lName)) with
    | none => simp
    | some c => simp

theorem linkDeleted_eq (waitList : List WaitListNode) (L : LinkObj) :
    (linkDeleted waitList L : Op W _) = pure (waitList.map (linkGone L.lName)) := by
  rw [linkDeleted, L.getName_eq, deref_some, pure_bind]

theorem linkChangedGotBusy_eq (waitList : List WaitListNode) (L : LinkObj) :
    (linkChangedGotBusy waitList (some L) : Op W _) =
      pure (waitList.map (linkBusy L.lName)) := by
  rw [linkChangedGotBusy, deref_some, pure_bind, L.getName_eq, deref_some, pure_bind]

theorem linkReleasedHsrNot_eq (waitList : List WaitListNode) (L M : LinkObj) :
    (linkReleasedHsrNot waitList L M : Op W _) = pure (waitList.map fun node =>
      linkFree L.lName
        (if node.hsrName == M.lName then setStatusFlags node HSR_STILL_EXISTS else node)) := by
  rw [linkReleasedHsrNot, L.getName_eq, M.getName_eq]
  rfl

/-! ## attempts -/

def Act.attempt : Act → Option WaitListNode
  | .createHif node => some node
  | _ => none

/-- the nodes that `create_hif` is called on -/
def attempts (l : List Act) : List WaitListNode := l.filterMap Act.attempt

/-- every run of `x` calls `create_hif` on the nodes `l` -/
def Attempts {α : Type} (x : Op W α) (l : List WaitListNode) : Prop :=
  Spec x fun _ acts => attempts acts = l

/-- no run of `x` calls `create_hif` -/
abbrev Quiet {α : Type} (x : Op W α) : Prop := Always (fun a => a.attempt = none) x

section
variable {α β : Type}

lemma Quiet.attempts {x : Op W α} (h : Quiet x) : Attempts x [] :=
  fun w => List.filterMap_eq_nil_iff.mpr (h w)

lemma Attempts.then_quiet {x : Op W α} {f : α → Op W β} {l : List WaitListNode}
    (hx : Attempts x l) (hf : ∀ a, Quiet (f a)) : Attempts (x >>= f) l := by
  refine spec_bind hx (fun _ _ h => h) fun a acts h => ?_
  refine (hf a).attempts.mono fun _ acts' h' => ?_
  show (acts ++ acts').filterMap Act.attempt = l
  rw [List.filterMap_append]
  show Hsr.attempts acts ++ Hsr.attempts acts' = l
  rw [h, h', List.append_nil]

lemma Attempts.map {x : Op W α} {l : List WaitListNode} (hx : Attempts x l) (f : α → β) :
    Attempts (f <$> x) l := by
  rw [map_eq_pure_bind]
  exact hx.then_quiet fun a => always_pure (f a)

end

lemma createHifFromWaitlist_quiet {ifName slave1Name slave2Name : CStr} :
    Quiet (createHifFromWaitlist S ifName slave1Name slave2Name) :=
  createHifFromWaitlist_always S (fun _ _ _ => rfl) fun _ _ => rfl

lemma createHif_attempts (node : WaitListNode) : Attempts (createHif S node) [node] := by
  intro w
  have hquiet : Quiet (do
      let ret ← createHifFromWaitlist S node.hsrName node.slave1Name node.slave2Name
      pure (if ret < 0 then [node] else []) : Op W (List WaitListNode)) :=
    always_bind (createHifFromWaitlist_quiet S) fun _ => always_pure _
  exact congrArg (List.cons node) (hquiet.attempts w)

theorem hsrHandler_quiet (app : HsrModule) (key : Option CStr) (cdbData : Option HsrData) :
    Quiet (hsrHandler S app key cdbData) := by
  cases key with
  | none => exact always_pure _
  | some ifName =>
    exact hsrHandler_always S
      ⟨fun _ _ => rfl, fun _ _ _ => rfl, fun _ _ => rfl, fun _ _ => rfl⟩

/-! ## the node that is tried -/

lemma find?_eq_cut (hit : WaitListNode → Bool) (waitList : List WaitListNode) :
    waitList.find? hit = (cut id hit waitList).map Cut.node := by
  rw [cut_node, List.map_id]

/-- what `link_changed_released` tries of the first node whose other slave is not busy -/
def releasedTarget (linkName : CStr) (waitList : List WaitListNode) : Option WaitListNode :=
  (waitList.find? (releasedReady linkName)).filter fun node => isClear node HSR_STILL_EXISTS

/-- the node that `hsr_link_deleted` tries: one of the deleted device, else the first one whose
slaves are ready -/
def hsrDeletedTarget (linkName : CStr) (waitList : List WaitListNode) : Option WaitListNode :=
  let waitList := waitList.map (clearStillExists linkName)
  (waitList.find? (ownReady linkName)).or (waitList.find? slavesReady)

/-- the node that a reaction tries to create, if any -/
def target (waitList : List WaitListNode) : Reaction → Option WaitListNode
  | .newLink L => waitList.find? (newLinkReady L.lName)
  | .released L => releasedTarget L.lName waitList
  | .hsrLinkDeleted L => hsrDeletedTarget L.lName waitList
  | _ => none

/-- a run that edits the list, and tries the node if there is one -/
inductive TriesOnly (x : Op W (List WaitListNode)) : Option WaitListNode → Prop
  | edits (l : List WaitListNode) (h : x = pure l) : TriesOnly x none
  | creates (node : WaitListNode) (edit : List WaitListNode → List WaitListNode)
      (h : x = edit <$> createHif S node) : TriesOnly x (some node)

theorem newLink_tries (waitList : List WaitListNode) (L : LinkObj) :
    TriesOnly S (newLink S waitList L) (waitList.find? (newLinkReady L.lName)) := by
  rw [newLink_eq, find?_eq_cut]
  cases cut id (newLinkReady L.lName) waitList with
  | none => exact .edits _ rfl
  | some c => exact .creates c.node _ rfl

theorem linkChangedReleased_tries (waitList : List WaitListNode) (L : LinkObj) :
    TriesOnly S (linkChangedReleased S waitList L) (releasedTarget L.lName waitList) := by
  rw [linkChangedReleased_eq, releasedTarget, find?_eq_cut]
  cases cut id (releasedReady L.lName) waitList with
  | none => exact .edits _ rfl
  | some c =>
    rw [Option.map_some, Option.filter_some]
    dsimp only
    unfold createUnlessStillExists
    split
    · exact .creates c.node _ rfl
    · exact .edits _ (map_pure _ _)

theorem hsrLinkDeleted_tries (waitList : List WaitListNode) (L : LinkObj) :
    TriesOnly S (hsrLinkDeleted S waitList L) (hsrDeletedTarget L.lName waitList) := by
  rw [hsrLinkDeleted_eq, hsrDeletedTarget, ← cut_node, find?_eq_cut]
  cases cut (clearStillExists L.lName) (ownReady L.lName) waitList with
  | some c => exact .creates c.node _ rfl
  | none =>
    cases cut id slavesReady (waitList.map (clearStillExists L.lName)) with
    | none => exact .edits _ rfl
    | some c => exact .creates c.node _ rfl

/-- **A reaction that does not crash tries its target, and no other node.** -/
theorem react_tries (waitList : List WaitListNode) (r : Reaction) :
    (∃ fault, r = .crash fault) ∨ TriesOnly S (react S waitList r) (target waitList r) := by
  cases r with
  | idle => exact .inr (.edits _ rfl)
  | newLink L => exact .inr (newLink_tries S waitList L)
  | linkDeleted L => exact .inr (.edits _ (linkDeleted_eq waitList L))
  | gotBusy L => exact .inr (.edits _ (linkChangedGotBusy_eq waitList L))
  | releasedHsrNot L M => exact .inr (.edits _ (linkReleasedHsrNot_eq waitList L M))
  | released L => exact .inr (linkChangedReleased_tries S waitList L)
  | hsrLinkDeleted L => exact .inr (hsrLinkDeleted_tries S waitList L)
  | crash fault => exact .inl ⟨fault, rfl⟩

variable {S} in
lemma TriesOnly.holds {x : Op W (List WaitListNode)} {o : Option WaitListNode}
    (h : TriesOnly S x o) {P : Op W (List WaitListNode) → Prop} (hedit : ∀ l, P (pure l))
    (htry : ∀ node edit, P (edit <$> createHif S node)) : P x := by
  cases h with
  | edits l h =>
    rw [h]
    exact hedit l
  | creates node edit h =>
    rw [h]
    exact htry node edit

variable {S} in
lemma TriesOnly.attempts {x : Op W (List WaitListNode)} {o : Option WaitListNode}
    (h : TriesOnly S x o) : Attempts x o.toList := by
  cases h with
  | edits l h =>
    rw [h]
    exact Quiet.attempts (always_pure l)
  | creates node edit h =>
    rw [h]
    exact (createHif_attempts S node).map edit

theorem react_attempts (waitList : List WaitListNode) (r : Reaction) :
    Attempts (react S waitList r) (target waitList r).toList := by
  rcases react_tries S waitList r with ⟨fault, rfl⟩ | h
  · exact Quiet.attempts (always_fail fault)
  · exact h.attempts

/-- the nodes that one step of the daemon tries -/
def stepTarget (app : HsrModule) : Input → Option WaitListNode
  | .config _ _ => none
  | .link cache note => target app.waitList (reaction cache note)

theorem step_attempts (app : HsrModule) (input : Input) :
    Attempts (step S app input) (stepTarget app input).toList := by
  cases input with
  | config key cdbData =>
    refine Quiet.attempts ?_
    exact always_bind (hsrHandler_quiet S app key cdbData) fun _ => always_pure _
  | link cache note =>
    refine Attempts.then_quiet ?_ fun _ => always_pure _
    rw [routeLinkCacheChangeCb_eq]
    exact react_attempts S app.waitList (reaction cache note)

end Hsr
