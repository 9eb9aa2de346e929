import ConfdbHsr.Daemon.Dump
import ConfdbHsr.NodeCache

/-!
# Updates that are lost at start-up

Between the dump of an interface and the join of the multicast groups nobody tells the daemon that
a node appears or disappears, and joining does not dump again.  Such a change is missed, until the
node changes back or changes once more after the join.

* `history`          the pairs that are missed, from the order of the events alone;
* `Inv`              the cache, once the pending messages are handled, differs from the kernel in
                     the missed pairs exactly;
* `startup_mirrors_iff`   the cache ends up equal to the kernel iff no pair is missed.
-/

namespace Hsr
open Nl Proc

/-! ## the history of the events -/

/-- the steps that the daemon has taken, and the pairs it has missed -/
structure History where
  steps : Nat
  missed : NodePair → Bool

/-- The first steps dump the interfaces, the next joins the groups.  A change before the dump is in
the answer; a change after the join is announced; a change between the two is missed, or makes
up for one that was. -/
def History.step (ifaces : List UInt32) (h : History) : StartEvent → History
  | .node p =>
    { h with missed := Function.update h.missed p.pair (
        if ifaces.length < h.steps then false
        else if p.1 ∈ ifaces.take h.steps then !h.missed p.pair
        else h.missed p.pair) }
  | .daemon => { h with steps := h.steps + 1 }

def history (ifaces : List UInt32) (events : List StartEvent) : History :=
  events.foldl (History.step ifaces) ⟨0, fun _ => false⟩

/-- on the given interfaces the cache holds the nodes that the kernel knows -/
def Mirrors (ifaces : List UInt32) (s : StartUp) : Prop :=
  ∀ pair : NodePair, pair.1 ∈ ifaces →
    (pair ∈ s.cache.map nodePair ↔ pair ∈ s.kernel.nodes.map EthPair.pair)

/-! ## the kernel -/

lemma mem_toggle (table : NodeTable) (p : EthPair) (pair : NodePair) :
    pair ∈ (table.toggle p).nodes.map EthPair.pair ↔
      if pair = p.pair then pair ∉ table.nodes.map EthPair.pair
      else pair ∈ table.nodes.map EthPair.pair := by
  by_cases hp : p ∈ table.nodes
  · have hnodes : (table.toggle p).nodes = table.nodes.erase p := by rw [NodeTable.toggle, dif_pos hp]
    rw [hnodes]
    split
    · rename_i heq
      rw [heq, mem_pairs, mem_pairs, table.nodup.mem_erase_iff]
      simp [hp]
    · rename_i hne
      constructor
      · intro h
        obtain ⟨q, hq, rfl⟩ := List.mem_map.mp h
        exact List.mem_map_of_mem (List.mem_of_mem_erase hq)
      · intro h
        obtain ⟨q, hq, rfl⟩ := List.mem_map.mp h
        refine List.mem_map_of_mem ((table.nodup.mem_erase_iff).mpr ⟨?_, hq⟩)
        rintro rfl
        exact hne rfl
  · have hnodes : (table.toggle p).nodes = table.nodes ++ [p] := by
      rw [NodeTable.toggle, dif_neg hp]
    rw [hnodes, List.map_append, List.mem_append, List.map_singleton, List.mem_singleton]
    split
    · rename_i heq
      rw [heq, mem_pairs]
      simp [hp]
    · rename_i hne
      simp [hne]

lemma announce_apply (table : NodeTable) (p : EthPair) (s : Finset NodePair) (pair : NodePair) :
    pair ∈ SetEdit.run s (announce table p).edits ↔
      if pair = p.pair then pair ∉ table.nodes.map EthPair.pair else pair ∈ s := by
  rw [announce, nodeMsg_edits, List.map_singleton, SetEdit.run_cons, SetEdit.run_nil]
  by_cases hp : p ∈ table.nodes
  · rw [if_pos hp]
    show pair ∈ s.erase p.pair ↔ _
    rw [Finset.mem_erase]
    split
    · rename_i heq
      rw [heq, mem_pairs]
      simp [hp]
    · rename_i hne
      simp [hne]
  · rw [if_neg hp]
    show pair ∈ insert p.pair s ↔ _
    rw [Finset.mem_insert]
    split
    · rename_i heq
      rw [heq, mem_pairs]
      simp [hp]
    · rename_i hne
      simp [hne]

/-! ## the invariant -/

/-- the pairs the cache will hold when the messages of the queue are handled -/
def afterQueue (queue : List NodeNotification) (known : Finset NodePair) : Finset NodePair :=
  SetEdit.run known (queue.flatMap NodeNotification.edits)

/-- The cache, once the pending messages are handled, differs from the kernel in the missed pairs
of the interfaces that have been dumped. -/
structure Inv (ifaces : List UInt32) (h : History) (s : StartUp) : Prop where
  todo : s.todo = ifaces.drop h.steps
  joined : s.joined = true ↔ ifaces.length < h.steps
  quiet : s.joined = false → s.queue = []
  missed : ∀ pair, pair.1 ∉ ifaces.take h.steps → h.missed pair = false
  cache : ∃ known, HoldsNodes s.cache known ∧
    (s.joined = false → ∀ pair ∈ known, pair.1 ∈ ifaces.take h.steps) ∧
    ∀ pair, pair.1 ∈ ifaces.take h.steps →
      (pair ∈ afterQueue s.queue known ↔
        (pair ∈ s.kernel.nodes.map EthPair.pair ↔ h.missed pair = false))

variable {ifaces : List UInt32} {h : History} {s : StartUp}

lemma inv_node_unheard (hinv : Inv ifaces h s) (p : EthPair) (hj : s.joined = false) :
    Inv ifaces (h.step ifaces (.node p)) { s with kernel := s.kernel.toggle p } := by
  have hsteps : ¬ ifaces.length < h.steps := fun hlt => by
    rw [hinv.joined.mpr hlt] at hj
    cases hj
  have hmissed : ∀ pair, (h.step ifaces (.node p)).missed pair =
      if pair = p.pair ∧ p.1 ∈ ifaces.take h.steps then !h.missed pair else h.missed pair := by
    intro pair
    simp only [History.step, if_neg hsteps]
    by_cases hpair : pair = p.pair
    · subst hpair
      rw [Function.update_self]
      simp
    · rw [Function.update_of_ne hpair]
      simp [hpair]
  obtain ⟨known, hholds, hdumped, hknown⟩ := hinv.cache
  refine ⟨hinv.todo, hinv.joined, hinv.quiet, fun pair hpair => ?_, known, hholds, hdumped,
    fun pair hpair => ?_⟩
  · rw [hmissed, if_neg]
    · exact hinv.missed pair hpair
    · rintro ⟨rfl, hmem⟩
      exact hpair hmem
  · have hbefore := hknown pair hpair
    show pair ∈ afterQueue s.queue known ↔ (_ ↔ _)
    rw [hbefore, mem_toggle, hmissed]
    by_cases heq : pair = p.pair
    · subst heq
      have hmem : p.1 ∈ ifaces.take h.steps := hpair
      simp only [if_true, true_and, hmem]
      cases h.missed p.pair with
      | false => simp
      | true => simp
    · simp [heq]

lemma inv_node_heard (hinv : Inv ifaces h s) (p : EthPair) (hj : s.joined = true) :
    Inv ifaces (h.step ifaces (.node p))
      { s with kernel := s.kernel.toggle p, queue := s.queue ++ [announce s.kernel p] } := by
  have hsteps : ifaces.length < h.steps := hinv.joined.mp hj
  have hmissed : ∀ pair, (h.step ifaces (.node p)).missed pair =
      if pair = p.pair then false else h.missed pair := by
    intro pair
    simp only [History.step, if_pos hsteps]
    by_cases hpair : pair = p.pair
    · subst hpair
      rw [Function.update_self, if_pos rfl]
    · rw [Function.update_of_ne hpair, if_neg hpair]
  have hnotyet : s.joined ≠ false := by
    rw [hj]
    decide
  obtain ⟨known, hholds, -, hknown⟩ := hinv.cache
  refine ⟨hinv.todo, hinv.joined, fun hq => absurd hq hnotyet, fun pair hpair => ?_, known, hholds,
    fun hq => absurd hq hnotyet, fun pair hpair => ?_⟩
  · rw [hmissed]
    split
    · rfl
    · exact hinv.missed pair hpair
  · have hbefore := hknown pair hpair
    have hqueue : pair ∈ afterQueue (s.queue ++ [announce s.kernel p]) known ↔
        if pair = p.pair then pair ∉ s.kernel.nodes.map EthPair.pair
        else pair ∈ afterQueue s.queue known := by
      rw [afterQueue, List.flatMap_append, SetEdit.run_append, List.flatMap_singleton,
        announce_apply]
      exact Iff.rfl
    rw [hqueue, mem_toggle, hmissed]
    by_cases heq : pair = p.pair
    · simp [heq]
    · rw [if_neg heq, if_neg heq, if_neg heq, hbefore]

/-- the interface that is dumped next is none of those that were dumped -/
lemma Inv.next (hnodup : ifaces.Nodup) (hinv : Inv ifaces h s) {ifindex : UInt32}
    {todo : List UInt32} (htodo : s.todo = ifindex :: todo) :
    ifaces.drop (h.steps + 1) = todo ∧
      ifaces.take (h.steps + 1) = ifaces.take h.steps ++ [ifindex] ∧
      ifindex ∉ ifaces.take h.steps := by
  have hdrop : ifaces.drop h.steps = ifindex :: todo := hinv.todo.symm.trans htodo
  have hparts : ifaces.take h.steps ++ ifindex :: todo = ifaces := by
    rw [← hdrop, List.take_append_drop]
  have hnext : ifaces[h.steps]? = some ifindex := by
    rw [← List.head?_drop, hdrop, List.head?_cons]
  refine ⟨?_, ?_, ?_⟩
  · rw [← List.drop_drop, hdrop]
    rfl
  · rw [List.take_add_one, hnext]
    rfl
  · rw [← hparts] at hnodup
    intro hmem
    exact (List.nodup_append.mp hnodup).2.2 _ hmem _ List.mem_cons_self rfl

/-- the groups are not joined while interfaces are left -/
lemma Inv.not_joined (hinv : Inv ifaces h s) (htodo : s.todo ≠ []) : s.joined = false := by
  rw [Bool.eq_false_iff]
  intro hj
  have hlt := hinv.joined.mp hj
  rw [hinv.todo, List.drop_eq_nil_of_le (Nat.le_of_lt hlt)] at htodo
  exact htodo rfl

lemma inv_dump (hnodup : ifaces.Nodup) (hinv : Inv ifaces h s) {ifindex : UInt32}
    {todo : List UInt32} (htodo : s.todo = ifindex :: todo) :
    Inv ifaces (h.step ifaces .daemon)
      { s with todo := todo, cache := s.cache ++ reported s.kernel ifindex } := by
  obtain ⟨hdrop, htake, hnew⟩ := hinv.next hnodup htodo
  have hnotjoined : s.joined = false := hinv.not_joined (by rw [htodo]; exact List.cons_ne_nil _ _)
  have hqueue : s.queue = [] := hinv.quiet hnotjoined
  obtain ⟨known, hholds, hdumped, hknown⟩ := hinv.cache
  have hfresh : ∀ pair ∈ (reported s.kernel ifindex).map nodePair, pair ∉ known := by
    intro pair hpair hmem
    have hindex := (mem_reported s.kernel ifindex pair).mp hpair
    have htaken := hdumped hnotjoined pair hmem
    rw [hindex.1] at htaken
    exact hnew htaken
  have hfrom : ∀ node ∈ reported s.kernel ifindex, FromNodeList node := by
    intro node hnode
    obtain ⟨p, -, rfl⟩ := List.mem_map.mp hnode
    exact ⟨_, _, _, rfl⟩
  have hjoin : (s.joined = true ↔ ifaces.length < h.steps + 1) := by
    rw [hnotjoined]
    refine iff_of_false Bool.false_ne_true fun hlt => hnew ?_
    have hmem : ifindex ∈ ifaces.drop h.steps := by
      rw [← hinv.todo, htodo]
      exact List.mem_cons_self
    rw [List.take_of_length_le (Nat.le_of_lt_succ hlt)]
    exact List.mem_of_mem_drop hmem
  refine ⟨hdrop.symm, hjoin, hinv.quiet, fun pair hpair => ?_,
    known ∪ ((reported s.kernel ifindex).map nodePair).toFinset,
    Holds.append hholds hfrom (reported_nodup _ _) hfresh, fun _ pair hpair => ?_,
    fun pair hpair => ?_⟩
  · refine hinv.missed pair fun hmem => hpair ?_
    show pair.1 ∈ ifaces.take (h.steps + 1)
    rw [htake]
    exact List.mem_append_left _ hmem
  · show pair.1 ∈ ifaces.take (h.steps + 1)
    rw [htake]
    rcases Finset.mem_union.mp hpair with hmem | hmem
    · exact List.mem_append_left _ (hdumped hnotjoined pair hmem)
    · rw [List.mem_toFinset] at hmem
      rw [((mem_reported _ _ _).mp hmem).1]
      simp
  · have hpair' : pair.1 ∈ ifaces.take (h.steps + 1) := hpair
    rw [htake, List.mem_append, List.mem_singleton] at hpair'
    have hempty : ∀ k, afterQueue s.queue k = k := by
      intro k
      rw [hqueue]
      rfl
    rw [hempty, Finset.mem_union, List.mem_toFinset, mem_reported]
    rcases hpair' with hold | hindex
    · have hbefore := hknown pair hold
      rw [hempty] at hbefore
      have hne : pair.1 ≠ ifindex := fun heq => hnew (heq ▸ hold)
      simp only [hne, false_and, or_false]
      exact hbefore
    · have hunknown : pair ∉ known := fun hmem => hnew (hindex ▸ hdumped hnotjoined pair hmem)
      have hmiss : (h.step ifaces .daemon).missed pair = false :=
        hinv.missed pair (hindex ▸ hnew)
      simp [hunknown, hindex, hmiss]

lemma steps_of_done (hinv : Inv ifaces h s) (htodo : s.todo = []) : ifaces.length ≤ h.steps :=
  List.drop_eq_nil_iff.mp (hinv.todo.symm.trans htodo)

lemma take_succ_of_done (hdone : ifaces.length ≤ h.steps) :
    ifaces.take (h.steps + 1) = ifaces.take h.steps := by
  rw [List.take_of_length_le hdone, List.take_of_length_le (Nat.le_succ_of_le hdone)]

/-- a step of the daemon after the dumps: the groups are joined, or a message is handled -/
lemma inv_after_dumps (hinv : Inv ifaces h s) (htodo : s.todo = []) {queue : List NodeNotification}
    {cache : List HsrNode}
    (hcache : ∀ known, HoldsNodes s.cache known →
      ∃ known', HoldsNodes cache known' ∧ afterQueue queue known' = afterQueue s.queue known) :
    Inv ifaces (h.step ifaces .daemon)
      { s with joined := true, queue := queue, cache := cache } := by
  have hdone := steps_of_done hinv htodo
  obtain ⟨known, hholds, -, hknown⟩ := hinv.cache
  obtain ⟨known', hholds', heq⟩ := hcache known hholds
  have htake : ifaces.take (h.step ifaces .daemon).steps = ifaces.take h.steps :=
    take_succ_of_done hdone
  refine ⟨?_, ?_, nofun, fun pair hpair => ?_, known', hholds', nofun, fun pair hpair => ?_⟩
  · show s.todo = ifaces.drop (h.steps + 1)
    rw [htodo, List.drop_eq_nil_of_le (Nat.le_succ_of_le hdone)]
  · exact iff_of_true rfl (Nat.lt_succ_of_le hdone)
  · rw [htake] at hpair
    exact hinv.missed pair hpair
  · rw [htake] at hpair
    rw [heq]
    exact hknown pair hpair

/-! ## steps and runs -/

variable {W : Type} (S : Sys W) (app : HsrModule)

/-- a run of `x` ends in `Q`, or, where an interface is tracked, the callback ends it -/
def Ends {α : Type} (Q : α → Prop) (x : Op W α) : Prop :=
  Spec x fun r _ => (∃ a, r = .ok a ∧ Q a) ∨ (∃ fault, r = .error fault) ∧ 0 < app.interfacesSize

lemma ends_pure {α : Type} {Q : α → Prop} {a : α} (h : Q a) : Ends app Q (pure a : Op W α) :=
  spec_pure (.inl ⟨a, rfl, h⟩)

lemma ends_bind {α β : Type} {Q : α → Prop} {R : β → Prop} {x : Op W α} {f : α → Op W β}
    (hx : Ends app Q x) (hf : ∀ a, Q a → Ends app R (f a)) : Ends app R (x >>= f) := by
  refine spec_bind hx (fun fault _ h => .inr ⟨⟨fault, rfl⟩, ?_⟩) fun a _ h => ?_
  · rcases h with ⟨a, ha, -⟩ | h
    · cases ha
    · exact h.2
  · rcases h with ⟨b, hb, hq⟩ | ⟨⟨fault, hfault⟩, -⟩
    · obtain rfl := Except.ok.inj hb
      exact hf a hq
    · cases hfault

lemma forM_publish_ends (notes : List (Note HsrNode)) :
    Ends app (fun _ => True) (forM notes (publish S app)) := by
  by_cases hopen : app.interfacesSize > 0
  · intro w
    cases hval : (forM notes (publish S app) w).val with
    | error fault => exact .inr ⟨⟨fault, rfl⟩, hopen⟩
    | ok a => exact .inl ⟨a, rfl, trivial⟩
  · induction notes with
    | nil => exact ends_pure app trivial
    | cons note notes ih =>
      rw [List.forM_cons, publish_closed S hopen]
      exact spec_emit_bind ih

theorem startStep_inv (hnodup : ifaces.Nodup) (hinv : Inv ifaces h s) (event : StartEvent) :
    Ends app (Inv ifaces (h.step ifaces event)) (startStep S app s event) := by
  obtain ⟨kernel, queue, todo, joined, cache⟩ := s
  cases event with
  | node p =>
    cases joined with
    | false => exact ends_pure app (inv_node_unheard hinv p rfl)
    | true => exact ends_pure app (inv_node_heard hinv p rfl)
  | daemon =>
    cases todo with
    | cons ifindex todo =>
      simp only [startStep]
      rw [dumpInterface_eq, pure_bind]
      exact ends_pure app (inv_dump hnodup hinv rfl)
    | nil =>
      have hsame : ∀ known, HoldsNodes cache known →
          ∃ known', HoldsNodes cache known' ∧ afterQueue queue known' = afterQueue queue known :=
        fun known hk => ⟨known, hk, rfl⟩
      cases joined with
      | false => exact ends_pure app (inv_after_dumps hinv rfl hsame)
      | true =>
        cases queue with
        | nil => exact ends_pure app (inv_after_dumps hinv rfl hsame)
        | cons n queue =>
          obtain ⟨known, hholds, -, -⟩ := hinv.cache
          obtain ⟨notes, cache', heq, hcache', -⟩ :=
            eventInput_tracks (hnodeCacheChangeCb_leaves S app) n hholds
          have hevent : Ends app (fun r : Int × List HsrNode =>
              HoldsNodes r.2 (SetEdit.run known n.edits))
              (eventInput (hnodeCacheChangeCb S app) cache n.msg) := by
            rw [heq]
            exact ends_bind app (forM_publish_ends S app notes) fun _ _ => ends_pure app hcache'
          refine ends_bind app hevent fun ⟨err, cache'⟩ hcache' => ends_pure app ?_
          refine inv_after_dumps hinv rfl fun known' hknown' => ⟨_, hcache', ?_⟩
          have heq : known' = known := by
            ext pair
            rw [← hknown'.mem, hholds.mem]
          rw [heq, afterQueue, afterQueue, List.flatMap_cons, SetEdit.run_append]

theorem startRun_inv (hnodup : ifaces.Nodup) (hinv : Inv ifaces h s) (events : List StartEvent) :
    Ends app (Inv ifaces (events.foldl (History.step ifaces) h)) (startRun S app s events) := by
  rw [startRun]
  induction events generalizing h s with
  | nil => exact ends_pure app hinv
  | cons event events ih =>
    rw [List.foldlM_cons, List.foldl_cons]
    exact ends_bind app (startStep_inv S app hnodup hinv event) fun s' hinv' => ih hinv'

lemma startUp_inv (linkCache : List LinkObj) (kernel : NodeTable) :
    Inv (hsrInterfaces linkCache) ⟨0, fun _ => false⟩ (startUp linkCache kernel) := by
  refine ⟨rfl, ?_, fun _ => rfl, fun _ _ => rfl, ∅, ⟨nofun, List.nodup_nil, ?_⟩, nofun, nofun⟩
  · exact iff_of_false nofun (Nat.not_lt_zero _)
  · intro pair
    exact iff_of_false nofun (Finset.notMem_empty pair)

/-- **No update is lost at start-up exactly when none is missed.**  Every interleaving of the
kernel and the daemon leads, once the groups are joined and the messages are handled, to a cache
that mirrors the kernel iff no pair of the interfaces was left changed between its dump and the
join; and the run returns, unless an interface is tracked already. -/
theorem startup_mirrors_iff (linkCache : List LinkObj) (kernel : NodeTable)
    (events : List StartEvent) (w : W) :
    (app.interfacesSize ≤ 0 →
        ∃ s, (startRun S app (startUp linkCache kernel) events w).val = .ok s) ∧
      ∀ s, (startRun S app (startUp linkCache kernel) events w).val = .ok s →
        s.joined = true ∧ s.queue = [] →
          (Mirrors (hsrInterfaces linkCache) s ↔
            ∀ pair, (history (hsrInterfaces linkCache) events).missed pair = false) := by
  have hnodup : (hsrInterfaces linkCache).Nodup :=
    hsrInterfacesLoop_nodup linkCache List.nodup_nil
  have hends : Ends app (Inv (hsrInterfaces linkCache) (history (hsrInterfaces linkCache) events))
      (startRun S app (startUp linkCache kernel) events) :=
    startRun_inv S app hnodup (startUp_inv linkCache kernel) events
  rcases hends w with ⟨s', hs', hinv⟩ | ⟨⟨fault, hfault⟩, hopen⟩
  swap
  · refine ⟨fun hclosed => absurd hopen (not_lt.mpr hclosed), fun s hs => ?_⟩
    cases hfault.symm.trans hs
  refine ⟨fun _ => ⟨s', hs'⟩, fun s hs ⟨hj, hqueue⟩ => ?_⟩
  obtain rfl := Except.ok.inj (hs'.symm.trans hs)
  have hall : (hsrInterfaces linkCache).take (history (hsrInterfaces linkCache) events).steps =
      hsrInterfaces linkCache := List.take_of_length_le (hinv.joined.mp hj).le
  have hmissed := hinv.missed
  obtain ⟨known, hholds, -, hknown⟩ := hinv.cache
  rw [hall] at hknown hmissed
  have hempty : afterQueue s'.queue known = known := by
    rw [hqueue]
    rfl
  rw [hempty] at hknown
  constructor
  · intro hmirrors pair
    by_cases hpair : pair.1 ∈ hsrInterfaces linkCache
    · have hiff := (hknown pair hpair).symm.trans
        ((hholds.mem pair).symm.trans (hmirrors pair hpair))
      by_cases hk : pair ∈ s'.kernel.nodes.map EthPair.pair
      · exact (hiff.mpr hk).mp hk
      · by_contra hmiss
        exact hk (hiff.mp (iff_of_false hk hmiss))
    · exact hmissed pair hpair
  · intro hnone pair hpair
    rw [hholds.mem, hknown pair hpair]
    exact iff_true_right (hnone pair)

/-! ## a node that appears too early

The only HSR interface has been dumped when the node appears; the groups are joined afterwards. -/

def earlyNode : EthPair := (3, ⟨[2, 0, 0, 0, 0, 7], rfl⟩)

theorem node_before_join_is_lost :
    ∃ s, (startRun (staticSys []) HsrModule.init
        (startUp [hsrDevice 3 (cs "hsr0") 1 2] ⟨[], List.nodup_nil⟩)
        [.daemon, .node earlyNode, .daemon] ()).val = .ok s ∧
      s.joined = true ∧ s.queue = [] ∧
      ¬ Mirrors (hsrInterfaces [hsrDevice 3 (cs "hsr0") 1 2]) s := by
  refine ⟨⟨⟨[earlyNode], List.nodup_singleton _⟩, [], [], true, []⟩, rfl, rfl, rfl, ?_⟩
  intro h
  have hmem := (h earlyNode.pair (by decide)).mpr (by decide)
  cases hmem

end Hsr
