import ConfdbHsr.Daemon.Attempts

/-!
# How the wait list is edited

* `react_edits`        a link notification rewrites flags in place, keeps the names and the order,
                       and takes out at most one node: the one it tried, once created;
* `initialCheck_edits`, `hsrHandler_edits`   a configuration call for `N` takes out the node `N`
                       and may append a new one;
* `react_actsAt`       the acts of a notification are those of the attempt on the node it tries;
* `deletion_always`    the acts of a configuration call that deletes.
-/

namespace Hsr
open Nl Proc Scan

/-! ## nodes -/

structure SameNames (a b : WaitListNode) : Prop where
  hsrName : b.hsrName = a.hsrName
  slave1Name : b.slave1Name = a.slave1Name
  slave2Name : b.slave2Name = a.slave2Name

/-- the node does not name the link in a slave slot -/
def NotSlave (linkName : CStr) (node : WaitListNode) : Prop :=
  node.slave1Name ≠ linkName ∧ node.slave2Name ≠ linkName

lemma SameNames.refl (a : WaitListNode) : SameNames a a := ⟨rfl, rfl, rfl⟩

lemma SameNames.trans {a b c : WaitListNode} (h : SameNames a b) (h' : SameNames b c) :
    SameNames a c :=
  ⟨h'.1.trans h.1, h'.2.trans h.2, h'.3.trans h.3⟩

lemma sameNames_set (a : WaitListNode) (flags : BitVec 8) : SameNames a (setStatusFlags a flags) :=
  ⟨rfl, rfl, rfl⟩

lemma sameNames_reset (a : WaitListNode) (flags : BitVec 8) :
    SameNames a (resetStatusFlags a flags) :=
  ⟨rfl, rfl, rfl⟩

lemma onSlot_ind {α : Type} {P : α → Prop} (linkName : CStr) (node : WaitListNode) {x y z : α}
    (hx : P x) (hy : P y) (hz : P z) : P (onSlot linkName x y z node) := by
  unfold onSlot
  split
  · exact hx
  · split
    · exact hy
    · exact hz

lemma onSlot_of_notSlave {α : Type} {linkName : CStr} {node : WaitListNode}
    (h : NotSlave linkName node) (x y z : α) : onSlot linkName x y z node = z := by
  have h1 : (node.slave1Name == linkName) = false := by simpa using h.1
  have h2 : (node.slave2Name == linkName) = false := by simpa using h.2
  rw [onSlot, h1, h2]
  rfl

section
variable (linkName : CStr) (a : WaitListNode)

lemma sameNames_linkPresent : SameNames a (linkPresent linkName a) :=
  onSlot_ind linkName a (sameNames_reset _ _) (sameNames_reset _ _) (SameNames.refl a)

lemma sameNames_linkGone : SameNames a (linkGone linkName a) :=
  onSlot_ind linkName a ⟨rfl, rfl, rfl⟩ ⟨rfl, rfl, rfl⟩ (SameNames.refl a)

lemma sameNames_linkFree : SameNames a (linkFree linkName a) :=
  onSlot_ind linkName a (sameNames_reset _ _) (sameNames_reset _ _) (SameNames.refl a)

lemma sameNames_linkBusy : SameNames a (linkBusy linkName a) :=
  onSlot_ind linkName a (sameNames_set _ _) (sameNames_set _ _) (SameNames.refl a)

lemma sameNames_clearStillExists : SameNames a (clearStillExists linkName a) := by
  unfold clearStillExists
  split
  · exact sameNames_reset _ _
  · exact SameNames.refl a

end

/-! ## reactions -/

/-- the nodes whose flags a reaction leaves alone -/
def Aside : Reaction → WaitListNode → Prop
  | .newLink L, node => NotSlave L.lName node
  | .linkDeleted L, node => NotSlave L.lName node
  | .released L, node => NotSlave L.lName node
  | .gotBusy L, node => NotSlave L.lName node
  | .releasedHsrNot L M, node => NotSlave L.lName node ∧ node.hsrName ≠ M.lName
  | .hsrLinkDeleted L, node => node.hsrName ≠ L.lName
  | _, _ => True

/-- what a reaction does to a node that stays on the list -/
structure Keeps (r : Reaction) (a b : WaitListNode) : Prop extends SameNames a b where
  status : Aside r a → b.status = a.status

lemma Keeps.refl (r : Reaction) (a : WaitListNode) : Keeps r a a :=
  ⟨SameNames.refl a, fun _ => rfl⟩

/-- a create request for `ifName` was accepted -/
def Succeeds (ifName : CStr) (acts : List Act) : Prop :=
  ∃ link ret, Act.linkAdd ifName link ret ∈ acts ∧ 0 ≤ ret

/-- the node was the only one tried, and its create request was accepted -/
def Created (acts : List Act) (a : WaitListNode) : Prop :=
  ∃ node, attempts acts = [node] ∧ SameNames a node ∧ Succeeds node.hsrName acts

variable {W : Type} (S : Sys W)

lemma createHsrInterface_succeeds (ifName : CStr) (slave1 slave2 : Option LinkObj)
    (version : UInt8) :
    Spec (createHsrInterface S ifName slave1 slave2 version) fun res acts =>
      ∀ ret, res = .ok ret → 0 ≤ ret → Succeeds ifName acts := by
  unfold createHsrInterface
  cases slave1 with
  | none => exact spec_fail fun _ h => nomatch h
  | some s1 =>
    cases slave2 with
    | none => exact spec_fail fun _ h => nomatch h
    | some s2 =>
      simp only [deref_some, pure_bind]
      refine spec_sys_bind fun ret => spec_emit_bind (spec_pure ?_)
      intro ret' hret' h0
      obtain rfl := Except.ok.inj hret'
      refine ⟨_, ret, List.mem_singleton.mpr rfl, ?_⟩
      by_contra hneg
      rw [if_pos (by omega)] at h0
      exact hneg h0

theorem withDump_spec {α : Type} {onError : Int → Op W α} {k : List LinkObj → Op W α}
    {R : Except Fault α → List Act → Prop} (herr : ∀ ret, ret < 0 → Spec (onError ret) R)
    (hk : ∀ links, Spec (k links) R) : Spec (withDump S onError k) R := by
  refine spec_sys_bind fun ret => spec_ite (herr ret) fun _ => ?_
  exact spec_sys_bind fun ⟨ret, links⟩ => spec_ite (herr ret) fun _ => hk links

lemma createHifFromWaitlist_succeeds (ifName slave1Name slave2Name : CStr) :
    Spec (createHifFromWaitlist S ifName slave1Name slave2Name) fun res acts =>
      ∀ ret, res = .ok ret → 0 ≤ ret → Succeeds ifName acts := by
  refine withDump_spec S (fun _ _ => spec_fail fun _ h => nomatch h) fun links => ?_
  unfold createOrRecreate
  split
  · exact createHsrInterface_succeeds S _ _ _ _
  · rename_i old hold
    obtain rfl := rtnlLinkGetByName_name hold
    unfold recreateHsrInterface deleteHsrInterface requestDelete
    simp only [bind_assoc, pure_bind]
    refine spec_sys_bind fun ret => spec_emit_bind ?_
    refine spec_ite (fun hret => spec_pure ?_) fun _ => ?_
    · intro ret' hret' h0
      obtain rfl := Except.ok.inj hret'
      omega
    · refine (createHsrInterface_succeeds S old.lName _ _ _).mono fun res acts h ret' hr h0 => ?_
      obtain ⟨link, r, hmem, hr0⟩ := h ret' hr h0
      exact ⟨link, r, List.mem_cons_of_mem _ hmem, hr0⟩

/-- **A tried node stays on the list, or its create request was accepted.** -/
theorem createHif_edits (node : WaitListNode) :
    Spec (createHif S node) fun res acts =>
      ∀ r, res = .ok r → r = [node] ∨ r = [] ∧ Created acts node := by
  have hspec : Spec (createHif S node) fun res acts =>
      ∀ r, res = .ok r → r = [node] ∨ r = [] ∧ Succeeds node.hsrName acts := by
    refine spec_emit_bind ?_
    refine spec_bind (createHifFromWaitlist_succeeds S _ _ _)
      (fun _ _ _ _ h => nomatch h) fun ret acts hacts => spec_pure fun r hr => ?_
    obtain rfl := Except.ok.inj hr
    by_cases hret : ret < 0
    · exact .inl (if_pos hret)
    · obtain ⟨link, r, hmem, h0⟩ := hacts ret rfl (by omega)
      refine .inr ⟨if_neg hret, link, r, List.mem_cons_of_mem _ ?_, h0⟩
      exact List.mem_append_left _ hmem
  intro w r hr
  rcases hspec w r hr with h | ⟨h, hs⟩
  · exact .inl h
  · exact .inr ⟨h, node, createHif_attempts S node w, SameNames.refl node, hs⟩

/-- a run leaves the list edited as the reaction may, without at most the node it created -/
abbrev EditsKept (r : Reaction) (waitList : List WaitListNode) (x : Op W (List WaitListNode)) :
    Prop :=
  Spec x fun res acts => ∀ l', res = .ok l' → Edited (Keeps r) (Created acts) waitList l'

lemma createHif_cut {r : Reaction} {edit f : WaitListNode → WaitListNode}
    {hit : WaitListNode → Bool} {waitList : List WaitListNode} {c : Cut WaitListNode}
    (hc : cut edit hit waitList = some c) (hedit : ∀ a, Keeps r a (edit a))
    (hf : ∀ a b, Keeps r a b → Keeps r a (f b)) :
    EditsKept r waitList ((fun x => (c.before ++ x ++ c.after).map f) <$> createHif S c.node) := by
  refine spec_map ((createHif_edits S c.node).mono fun res acts h l' hl' => ?_)
  cases res with
  | error e => cases hl'
  | ok x =>
    obtain rfl := Except.ok.inj hl'
    refine Edited.then_map ?_ hf
    refine edited_of_cut hc (h x rfl) hedit (Keeps.refl r) fun a ha => ?_
    obtain ⟨node, hatt, hsame, hs⟩ := ha
    exact ⟨node, hatt, (hedit a).toSameNames.trans hsame, hs⟩

lemma keeps_map {r : Reaction} {f : WaitListNode → WaitListNode} (hf : ∀ a, Keeps r a (f a))
    (waitList : List WaitListNode) : EditsKept r waitList (pure (waitList.map f) : Op W _) := by
  refine spec_pure fun l' hl' => ?_
  obtain rfl := Except.ok.inj hl'
  exact Edited.map hf waitList

lemma keeps_slot {r : Reaction} {linkName : CStr} {f : WaitListNode → WaitListNode}
    (haside : ∀ a, Aside r a → NotSlave linkName a) (hnames : ∀ a, SameNames a (f a))
    (hf : ∀ a, NotSlave linkName a → f a = a) (a b : WaitListNode) (h : Keeps r a b) :
    Keeps r a (f b) := by
  refine ⟨h.toSameNames.trans (hnames b), fun ha => ?_⟩
  have hb : NotSlave linkName b := by
    rw [NotSlave, h.slave1Name, h.slave2Name]
    exact haside a ha
  rw [hf b hb]
  exact h.status ha

section
variable (waitList : List WaitListNode) (L : LinkObj)

lemma newLink_edits : EditsKept (.newLink L) waitList (newLink S waitList L) := by
  have hpresent := keeps_slot (r := .newLink L) (fun _ h => h) (sameNames_linkPresent L.lName)
    fun a h => onSlot_of_notSlave h _ _ a
  rw [newLink_eq]
  cases hc : cut id (newLinkReady L.lName) waitList with
  | none => exact keeps_map (fun a => hpresent a a (Keeps.refl _ a)) waitList
  | some c => exact createHif_cut S hc (Keeps.refl _) hpresent

lemma linkDeleted_edits : EditsKept (.linkDeleted L) waitList (linkDeleted waitList L : Op W _) := by
  have hgone := keeps_slot (r := .linkDeleted L) (fun _ h => h) (sameNames_linkGone L.lName)
    fun a h => onSlot_of_notSlave h _ _ a
  rw [linkDeleted_eq]
  exact keeps_map (fun a => hgone a a (Keeps.refl _ a)) waitList

lemma linkChangedGotBusy_edits :
    EditsKept (.gotBusy L) waitList (linkChangedGotBusy waitList (some L) : Op W _) := by
  have hbusy := keeps_slot (r := .gotBusy L) (fun _ h => h) (sameNames_linkBusy L.lName)
    fun a h => onSlot_of_notSlave h _ _ a
  rw [linkChangedGotBusy_eq]
  exact keeps_map (fun a => hbusy a a (Keeps.refl _ a)) waitList

lemma linkChangedReleased_edits :
    EditsKept (.released L) waitList (linkChangedReleased S waitList L) := by
  have hfree := keeps_slot (r := .released L) (fun _ h => h) (sameNames_linkFree L.lName)
    fun a h => onSlot_of_notSlave h _ _ a
  rw [linkChangedReleased_eq]
  cases hc : cut id (releasedReady L.lName) waitList with
  | none => exact keeps_map (fun a => hfree a a (Keeps.refl _ a)) waitList
  | some c =>
    dsimp only
    unfold createUnlessStillExists
    split
    · have h := createHif_cut (f := id) (r := .released L) S hc (Keeps.refl _) fun _ _ h => h
      simpa using h
    · refine spec_map (spec_pure fun l' hl' => ?_)
      obtain rfl := Except.ok.inj hl'
      exact edited_of_cut hc (.inl rfl) (Keeps.refl _) (Keeps.refl _) fun _ h => h

lemma linkReleasedHsrNot_edits (M : LinkObj) :
    EditsKept (.releasedHsrNot L M) waitList (linkReleasedHsrNot waitList L M : Op W _) := by
  have hfree := keeps_slot (r := .releasedHsrNot L M) (fun _ h => h.1)
    (sameNames_linkFree L.lName) fun a h => onSlot_of_notSlave h _ _ a
  rw [linkReleasedHsrNot_eq]
  refine keeps_map (fun a => hfree a _ ?_) waitList
  split
  · rename_i hm
    refine ⟨sameNames_set a _, fun ha => absurd ?_ ha.2⟩
    simpa using hm
  · exact Keeps.refl _ a

lemma clearStillExists_keeps (a : WaitListNode) :
    Keeps (.hsrLinkDeleted L) a (clearStillExists L.lName a) := by
  refine ⟨sameNames_clearStillExists L.lName a, fun ha => ?_⟩
  have hn : ¬ (a.hsrName == L.lName) = true := fun h => ha (by simpa using h)
  rw [clearStillExists, if_neg hn]

lemma hsrLinkDeleted_edits : EditsKept (.hsrLinkDeleted L) waitList (hsrLinkDeleted S waitList L) := by
  have hclear := clearStillExists_keeps L
  rw [hsrLinkDeleted_eq]
  cases hc : cut (clearStillExists L.lName) (ownReady L.lName) waitList with
  | some c =>
    have h := createHif_cut (f := id) S hc hclear fun _ _ h => h
    simpa using h
  | none =>
    cases hc' : cut id slavesReady (waitList.map (clearStillExists L.lName)) with
    | none => exact keeps_map hclear waitList
    | some c =>
      -- the second loop works on the list that the first one has rewritten
      have h := createHif_cut (f := id) (r := .hsrLinkDeleted L) S hc' (Keeps.refl _)
        fun _ _ h => h
      rw [funext fun x => List.map_id _] at h
      refine h.mono fun res acts hres l' hl' => (hres l' hl').after_map (fun a b hab => ?_) ?_
      · have ha := hclear a
        refine ⟨ha.toSameNames.trans hab.toSameNames, fun haside => ?_⟩
        rw [hab.status, ha.status haside]
        show (clearStillExists L.lName a).hsrName ≠ L.lName
        rw [ha.hsrName]
        exact haside
      · rintro a ⟨node, hatt, hsame, hs⟩
        exact ⟨node, hatt, (hclear a).toSameNames.trans hsame, hs⟩

end

/-- **A reaction edits the list in place and takes out at most the node it created.** -/
theorem react_edits (waitList : List WaitListNode) (r : Reaction) :
    Spec (react S waitList r) fun res acts =>
      ∀ l', res = .ok l' → Edited (Keeps r) (Created acts) waitList l' := by
  cases r with
  | idle =>
    refine spec_pure fun l' hl' => ?_
    obtain rfl := Except.ok.inj hl'
    exact Edited.refl (Keeps.refl _) _
  | newLink L => exact newLink_edits S waitList L
  | linkDeleted L => exact linkDeleted_edits waitList L
  | gotBusy L => exact linkChangedGotBusy_edits waitList L
  | released L => exact linkChangedReleased_edits S waitList L
  | releasedHsrNot L M => exact linkReleasedHsrNot_edits waitList L M
  | hsrLinkDeleted L => exact hsrLinkDeleted_edits S waitList L
  | crash fault => exact spec_fail fun _ h => nomatch h

/-! ## configuration calls -/

lemma deleteWaitListNode_names (waitList : List WaitListNode) (ifName : CStr) :
    (deleteWaitListNode waitList ifName).1.map WaitListNode.hsrName =
      (waitList.map WaitListNode.hsrName).erase ifName := by
  rw [List.erase_eq_eraseP', List.eraseP_map]
  rfl

lemma deleteWaitListNode_gone {waitList : List WaitListNode} (ifName : CStr)
    (hd : (waitList.map WaitListNode.hsrName).Nodup) :
    ifName ∉ (deleteWaitListNode waitList ifName).1.map WaitListNode.hsrName := by
  rw [deleteWaitListNode_names]
  exact hd.not_mem_erase

/-- what a configuration call for `ifName` can do to the list -/
def ConfigEdit (ifName : CStr) (waitList waitList' : List WaitListNode) : Prop :=
  waitList' = waitList ∨ waitList' = (deleteWaitListNode waitList ifName).1 ∨
    ∃ node, node.hsrName = ifName ∧ waitList' = (deleteWaitListNode waitList ifName).1 ++ [node]

lemma mainCheckReconfigure_names (i1 i2 : UInt32) (m1 m2 : Option LinkObj) (hsrLink : LinkObj)
    (node : WaitListNode) :
    Yields (fun p => SameNames node p.2) (mainCheckReconfigure S i1 i2 m1 m2 hsrLink node) := by
  have hsame := SameNames.refl node
  have hdel : Yields (fun p : Int × WaitListNode => SameNames node p.2) (do
      let ret ← deleteHsrInterface S hsrLink
      pure (ret, node)) := yields_then fun _ => yields_pure hsame
  refine yields_then fun sl1 => yields_then fun sl2 => ?_
  refine yields_ite (fun _ => hdel) fun _ => ?_
  refine yields_ite (fun _ => yields_ite (fun _ => hdel) fun _ => yields_pure ?_) fun _ => ?_
  · exact sameNames_set node _
  refine yields_ite (fun _ => yields_ite (fun _ => hdel) fun _ => yields_pure ?_) fun _ => ?_
  · exact sameNames_set node _
  refine yields_ite (fun _ => hdel) fun _ => yields_ite (fun _ => yields_pure ?_) fun _ => ?_
  · exact sameNames_set node _
  · exact yields_pure hsame

theorem mainCheck_edits (waitList : List WaitListNode) (ifName : CStr)
    (slave1 slave2 hsrLink : Option LinkObj) (node : WaitListNode) :
    Yields (fun p => p.2 = waitList ∨ ∃ node', SameNames node node' ∧ p.2 = waitList ++ [node'])
      (mainCheck S waitList ifName slave1 slave2 hsrLink node) := by
  have hadd : ∀ (ret : Int) (node' : WaitListNode), SameNames node node' →
      Yields (fun p : Int × List WaitListNode =>
          p.2 = waitList ∨ ∃ node', SameNames node node' ∧ p.2 = waitList ++ [node'])
        (pure (ret, addNodeToWaitList node' waitList) : Op W _) :=
    fun ret node' h => yields_pure (.inr ⟨node', h, rfl⟩)
  have hsame := SameNames.refl node
  have hset := sameNames_set node
  unfold mainCheck
  split
  · exact hadd _ _ (hset _)
  · refine yields_then fun m => hadd _ _ ?_
    split
    · exact (hset _).trans (sameNames_set _ _)
    · exact hset _
  · refine yields_then fun m => hadd _ _ ?_
    split
    · exact (hset _).trans (sameNames_set _ _)
    · exact hset _
  · refine yields_then fun m1 => yields_then fun m2 => ?_
    split
    · refine yields_bind (mainCheckReconfigure_names S _ _ _ _ _ node) fun p hp => ?_
      exact yields_ite (fun _ => yields_pure (.inl rfl)) fun _ => hadd _ _ hp
    · unfold mainCheckFresh
      refine yields_ite (fun _ => yields_ite (fun _ => ?_) fun _ => hadd _ _ hsame) fun _ => ?_
      · refine yields_then fun ret => ?_
        exact yields_ite (fun _ => yields_pure (.inl rfl)) fun _ => yields_pure (.inl rfl)
      · refine yields_ite (fun _ => hadd _ _ (hset _)) fun _ => ?_
        exact yields_ite (fun _ => hadd _ _ (hset _)) fun _ => hadd _ _ (hset _)

theorem initialCheck_edits (waitList : List WaitListNode) (ifName slave1Name slave2Name : CStr) :
    Yields (fun p => ConfigEdit ifName waitList p.2)
      (initialCheck S waitList ifName slave1Name slave2Name) := by
  refine withDump_spec S (fun _ _ => yields_fail _) fun links => ?_
  refine yields_then fun allocated => yields_ite (fun _ => yields_pure (.inr (.inl rfl))) fun _ => ?_
  refine (mainCheck_edits S _ _ _ _ _ _).mono fun p hp => ?_
  rcases hp with hp | ⟨node, hsame, hp⟩
  · exact .inr (.inl hp)
  · exact .inr (.inr ⟨node, hsame.hsrName, hp⟩)

lemma changeInterfaceList_waitList (app : HsrModule) (ifName : CStr) (isAdd : Bool) :
    Yields (fun p => p.2.waitList = app.waitList) (changeInterfaceList S app ifName isAdd) := by
  refine withDump_spec S (fun _ _ => yields_fail _) fun links => ?_
  refine yields_ite (fun _ => yields_pure rfl) fun _ => ?_
  refine yields_ite (fun _ => ?_) fun _ => yields_pure rfl
  refine yields_bind (Q := fun app' => app'.waitList = app.waitList) ?_
    fun app' h => yields_pure h
  refine yields_then fun _ => ?_
  exact yields_ite (fun _ => yields_pure rfl) fun _ => yields_fail _

/-- **A configuration call for `N` touches no other node.** -/
theorem hsrHandler_edits (app : HsrModule) (ifName : CStr) (cdbData : Option HsrData) :
    Yields (fun p => ConfigEdit ifName app.waitList p.2.waitList)
      (hsrHandler S app (some ifName) cdbData) := by
  unfold hsrHandler
  cases cdbData with
  | none =>
    refine yields_then fun ret => yields_ite (fun _ => yields_pure (.inr (.inl rfl))) fun _ => ?_
    exact yields_bind (changeInterfaceList_waitList S app ifName false)
      fun p hp => yields_pure (.inl hp)
  | some cdbData =>
    refine yields_bind (changeInterfaceList_waitList S app ifName true) fun p hp => ?_
    dsimp only
    split
    · refine yields_bind (initialCheck_edits S p.2.waitList ifName _ _) fun q hq => yields_pure ?_
      rw [hp] at hq
      exact hq
    · exact yields_pure (.inl hp)

/-! ## the acts of a step -/

section
variable {P : Act → Prop}

/-- the acts of an attempt to create the node -/
structure NodeActs (P : Act → Prop) (node : WaitListNode) : Prop where
  createHif : P (.createHif node)
  linkAdd : ∀ link ret, P (.linkAdd node.hsrName link ret)
  linkDelete : ∀ link ret, link.lName = node.hsrName → P (.linkDelete link ret)

lemma createHif_always {node : WaitListNode} (h : NodeActs P node) :
    Always P (createHif S node) := by
  refine always_bind (always_emit h.createHif) fun _ => ?_
  refine always_bind ?_ fun _ => always_pure _
  exact createHifFromWaitlist_always S h.linkDelete h.linkAdd

variable {S} in
lemma TriesOnly.actsAt {x : Op W (List WaitListNode)} {o : Option WaitListNode}
    (h : TriesOnly S x o) (w : W) :
    ActsAt P x w ↔ ∀ node, o = some node → ActsAt P (createHif S node) w := by
  cases h with
  | edits l h =>
    rw [h]
    exact iff_of_true (always_pure l w) nofun
  | creates node edit h =>
    rw [h, actsAt_map]
    constructor
    · intro hacts node' hnode'
      obtain rfl := Option.some.inj hnode'
      exact hacts
    · intro hacts
      exact hacts node rfl

/-- **The acts of a reaction are those of the attempt on its target.** -/
theorem react_actsAt (waitList : List WaitListNode) (r : Reaction) (w : W) :
    ActsAt P (react S waitList r) w ↔
      ∀ node, target waitList r = some node → ActsAt P (createHif S node) w := by
  rcases react_tries S waitList r with ⟨fault, rfl⟩ | h
  · exact iff_of_true (always_fail fault w) nofun
  · exact h.actsAt w

theorem react_always {waitList : List WaitListNode} {r : Reaction}
    (h : ∀ node, target waitList r = some node → NodeActs P node) :
    Always P (react S waitList r) :=
  fun w => (react_actsAt S waitList r w).mpr fun node hnode => createHif_always S (h node hnode) w

theorem target_mem {waitList : List WaitListNode} {r : Reaction} {node : WaitListNode}
    (h : target waitList r = some node) : ∃ a ∈ waitList, SameNames a node := by
  cases r with
  | newLink L => exact ⟨node, List.mem_of_find?_eq_some h, SameNames.refl node⟩
  | released L =>
    rw [target, releasedTarget, Option.filter_eq_some_iff] at h
    exact ⟨node, List.mem_of_find?_eq_some h.1, SameNames.refl node⟩
  | hsrLinkDeleted L =>
    have hmem : node ∈ waitList.map (clearStillExists L.lName) := by
      rw [target, hsrDeletedTarget] at h
      rcases Option.or_eq_some_iff.mp h with h | ⟨-, h⟩
      · exact List.mem_of_find?_eq_some h
      · exact List.mem_of_find?_eq_some h
    obtain ⟨a, ha, rfl⟩ := List.mem_map.mp hmem
    exact ⟨a, ha, sameNames_clearStillExists L.lName a⟩
  | _ => cases h

theorem deletion_always {ifName : CStr} {app : HsrModule}
    (hdel : ∀ link ret, link.lName = ifName → P (.linkDelete link ret)) :
    Always P (hsrHandler S app (some ifName) none) := by
  refine always_bind (deleteHsrInterfaceByName_always S hdel) fun ret => ?_
  refine always_ite (fun _ => always_pure _) fun _ => ?_
  refine always_bind ?_ fun _ => always_pure _
  refine withDump_always S (fun _ => always_fail _) fun links => ?_
  refine always_ite (fun _ => always_pure _) fun _ => ?_
  exact always_ite (fun h => nomatch h) fun _ => always_pure _

end

end Hsr
