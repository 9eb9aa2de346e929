import ConfdbHsr.Daemon.Acts
import ConfdbHsr.Daemon.Callbacks
import ConfdbHsr.Daemon.Scenario

/-!
# The managed cache of nodes refines a set of (interface, address) pairs

A node list message adds its pairs to the set, a node-down message takes them out.  However the
messages repeat themselves and each other, the managed cache holds one node for each pair of the
set, and the callback is called for exactly those edits of the set that take effect.

* `LeavesCache`        a change callback that leaves the cache alone, unless it is told of a change;
* `Tracks`             a computation is nothing but the calls of the callback for the edits that take
                       effect, and leaves a cache over the edited set;
* `eventInputs_tracks` any sequence of notifications tracks its edits;
* `hnodeCacheChangeCb_leaves`   the callback of the daemon is one of these.
-/

namespace Hsr
open Nl Proc

/-! ## tracking a set -/

section
variable {W A : Type}

/-- told of a node that is new or gone, the callback does `tell` and leaves the cache alone -/
def LeavesCache (changeCb : ChangeCb W A) (tell : Note HsrNode → Proc Fault W A PUnit) : Prop :=
  ∀ cache note, (∀ oObj nObj diff, note ≠ .change oObj nObj diff) →
    changeCb cache note = do
      tell note
      pure cache

/-- `x` does `tell` for some notes, which report the edits of `s` that take effect, and returns a
cache over the edited set -/
def Tracks (tell : Note HsrNode → Proc Fault W A PUnit) (x : Proc Fault W A (Int × List HsrNode))
    (s : Finset NodePair) (es : List (SetEdit NodePair)) : Prop :=
  ∃ (notes : List (Note HsrNode)) (cache : List HsrNode),
    (x = do
      forM notes tell
      pure (0, cache)) ∧
    HoldsNodes cache (SetEdit.run s es) ∧
    List.Forall₂ (Note.Reports FromNodeList nodePair) notes (SetEdit.effective s es)

variable {tell : Note HsrNode → Proc Fault W A PUnit} {s : Finset NodePair}

lemma tracks_pure {cache : List HsrNode} (h : HoldsNodes cache s) :
    Tracks tell (pure (0, cache)) s [] :=
  ⟨[], cache, (pure_bind _ _).symm, h, .nil⟩

lemma tracks_bind {x : Proc Fault W A (Int × List HsrNode)} {es es' : List (SetEdit NodePair)}
    (hx : Tracks tell x s es) {f : Int × List HsrNode → Proc Fault W A (Int × List HsrNode)}
    (hf : ∀ cache, HoldsNodes cache (SetEdit.run s es) →
      Tracks tell (f (0, cache)) (SetEdit.run s es) es') :
    Tracks tell (x >>= f) s (es ++ es') := by
  obtain ⟨notes, cache, rfl, hcache, hnotes⟩ := hx
  obtain ⟨notes', cache', heq, hcache', hnotes'⟩ := hf cache hcache
  refine ⟨notes ++ notes', cache', ?_, ?_, ?_⟩
  · rw [bind_assoc, pure_bind, heq, List.forM_append, bind_assoc]
  · rw [SetEdit.run_append]
    exact hcache'
  · rw [SetEdit.effective_append]
    exact List.rel_append hnotes hnotes'

end

/-! ## one message -/

section
variable {W A : Type} {changeCb : ChangeCb W A} {tell : Note HsrNode → Proc Fault W A PUnit}
  (hcb : LeavesCache changeCb tell)
include hcb

lemma foldlM_cb_eq (cache : List HsrNode) {notes : List (Note HsrNode)}
    {es : List (SetEdit NodePair)}
    (h : List.Forall₂ (Note.Reports FromNodeList nodePair) notes es) :
    notes.foldlM changeCb cache = (do
      forM notes tell
      pure cache) := by
  induction h with
  | nil => exact (pure_bind _ _).symm
  | @cons note e notes es hnote _ ih =>
    have hfirst := hcb cache note fun oObj nObj diff hchange => by
      rw [hchange] at hnote
      exact hnote.elim
    rw [List.foldlM_cons, hfirst, bind_assoc, pure_bind, ih, List.forM_cons, bind_assoc]

theorem includeCb_tracks (cmd : NodeCmd) (ifindex : UInt32) (nla : Nlattr) {cache : List HsrNode}
    {s : Finset NodePair} (h : HoldsNodes cache s) :
    Tracks tell (includeCb changeCb cache (listNode cmd.cId ifindex nla)) s
      [cmd.edit (ifindex, nla.payload)] := by
  have hfrom : FromNodeList (listNode cmd.cId ifindex nla) := ⟨_, _, _, rfl⟩
  -- the action of the message type, and what the inclusion does
  obtain ⟨act, htype, hholds, hnotes⟩ : ∃ act, (hsrNodeOps.coMsgtypes.find? fun type =>
      type.1 == hsrNodeOps.ceMsgtype (listNode cmd.cId ifindex nla)).map Prod.snd = some act ∧
      HoldsNodes (hsrNodeOps.cacheInclude cache (listNode cmd.cId ifindex nla) act).1
        ((cmd.edit (ifindex, nla.payload)).apply s) ∧
      List.Forall₂ (Note.Reports FromNodeList nodePair)
        (hsrNodeOps.cacheInclude cache (listNode cmd.cId ifindex nla) act).2
        (SetEdit.effective s [cmd.edit (ifindex, nla.payload)]) := by
    cases cmd with
    | setNodeList => exact ⟨.new, rfl, cacheInclude_new hsrNode_keyed h hfrom⟩
    | nodeDown => exact ⟨.del, rfl, cacheInclude_del hsrNode_keyed h hfrom⟩
  obtain ⟨type, hfind, rfl⟩ := Option.map_eq_some_iff.mp htype
  refine ⟨_, _, ?_, hholds, hnotes⟩
  rw [includeCb, nlCacheIncludeV2, hfind]
  dsimp only
  rw [foldlM_cb_eq hcb _ hnotes, bind_assoc, pure_bind]

theorem handNodes_tracks (cmd : NodeCmd) (ifindex : UInt32) (addrs : List Nlattr)
    {cache : List HsrNode} {s : Finset NodePair} (h : HoldsNodes cache s) :
    Tracks tell (handNodes (includeCb changeCb) cmd.cId ifindex addrs cache) s
      (addrs.map fun nla => cmd.edit (ifindex, nla.payload)) := by
  induction addrs generalizing cache s with
  | nil => exact tracks_pure h
  | cons nla addrs ih =>
    have hfirst := includeCb_tracks hcb cmd ifindex nla h
    rw [handNodes, List.map_cons, ← List.singleton_append]
    exact tracks_bind hfirst fun cache' hcache' => ih hcache'

theorem eventInput_tracks (n : NodeNotification) {cache : List HsrNode} {s : Finset NodePair}
    (h : HoldsNodes cache s) : Tracks tell (eventInput changeCb cache n.msg) s n.edits := by
  have hnodes := handNodes_tracks hcb n.cmd n.ifindex n.addrs h
  have hparse : cmdMsgParser Fault.badAttr false (includeCb changeCb) n.cmd.cId n.stream cache =
      handNodes (includeCb changeCb) n.cmd.cId n.ifindex n.addrs cache :=
    cmdMsgParser_notification n cache
  have happend : n.edits = n.edits ++ [] := (List.append_nil _).symm
  rw [eventInput, nlCacheParse, happend]
  show Tracks tell
    (cmdMsgParser .badAttr false (includeCb changeCb) n.cmd.cId n.stream cache >>= _) s _
  rw [hparse]
  exact tracks_bind hnodes fun cache' hcache' => tracks_pure hcache'

theorem eventInputs_tracks (ns : List NodeNotification) {cache : List HsrNode}
    {s : Finset NodePair} (h : HoldsNodes cache s) :
    Tracks tell (eventInputs changeCb cache (ns.map NodeNotification.msg)) s
      (ns.flatMap NodeNotification.edits) := by
  induction ns generalizing cache s with
  | nil => exact tracks_pure h
  | cons n ns ih =>
    have hfirst := eventInput_tracks hcb n h
    rw [List.map_cons, eventInputs, List.flatMap_cons]
    exact tracks_bind hfirst fun cache' hcache' => ih hcache'

/-- **The managed cache of nodes refines a set.**  From a cache of parsed nodes with distinct pairs,
any sequence of notifications leaves one node for each pair of the edited set, and does nothing
but call the callback, in order, for exactly the edits that take effect. -/
theorem node_cache_refines_set (cache : List HsrNode) (hparsed : ∀ node ∈ cache, FromNodeList node)
    (hdistinct : (cache.map nodePair).Nodup) (ns : List NodeNotification) :
    ∃ (notes : List (Note HsrNode)) (cache' : List HsrNode),
      (eventInputs changeCb cache (ns.map NodeNotification.msg) = do
        forM notes tell
        pure (0, cache')) ∧
      (cache'.map nodePair).Nodup ∧
      (cache'.map nodePair).toFinset =
        SetEdit.run (cache.map nodePair).toFinset (ns.flatMap NodeNotification.edits) ∧
      notes.map (Note.edit nodePair) =
        (SetEdit.effective (cache.map nodePair).toFinset
          (ns.flatMap NodeNotification.edits)).map some := by
  have hholds : HoldsNodes cache (cache.map nodePair).toFinset :=
    ⟨hparsed, hdistinct, fun _ => List.mem_toFinset.symm⟩
  obtain ⟨notes, cache', hval, hcache', hnotes⟩ := eventInputs_tracks hcb ns hholds
  refine ⟨notes, cache', hval, hcache'.nodup, ?_, reports_edits hnotes⟩
  ext pair
  rw [List.mem_toFinset]
  exact hcache'.mem pair

end

/-! ## the callback of the daemon -/

variable {W : Type} (S : Sys W) (app : HsrModule)

lemma hnodeCacheChangeCb_leaves : LeavesCache (hnodeCacheChangeCb S app) (publish S app) := by
  intro cache note hnote
  rw [hnodeCacheChangeCb_eq]
  cases note with
  | change oObj nObj diff => exact absurd rfl (hnote oObj nObj diff)
  | _ => rfl

/-! ## a node that comes and goes -/

/-- a message about one node of the interface 3 -/
def aboutNode (cmd : NodeCmd) : NodeNotification where
  cmd := cmd
  attrs := [⟨2, [3, 0, 0, 0]⟩, ⟨1, [2, 0, 0, 0, 0, 7]⟩]
  fits := by decide
  valid := by decide
  hasIfindex := by decide

/-- the node is known; it goes down, twice, and comes back -/
theorem known_node_goes_down_and_comes_back :
    ∃ (notes : List (Note HsrNode)) (cache' : List HsrNode),
      (eventInputs (hnodeCacheChangeCb (staticSys []) HsrModule.init)
          [listNode HSR_C_SET_NODE_LIST 3 ⟨1, [2, 0, 0, 0, 0, 7]⟩]
          ([aboutNode .nodeDown, aboutNode .nodeDown, aboutNode .setNodeList].map
            NodeNotification.msg) = do
        forM notes (publish (staticSys []) HsrModule.init)
        pure (0, cache')) ∧
      (cache'.map nodePair).Nodup ∧
      (cache'.map nodePair).toFinset = {(3, [2, 0, 0, 0, 0, 7])} ∧
      notes.map (Note.edit nodePair) =
        [some (.erase (3, [2, 0, 0, 0, 0, 7])), some (.insert (3, [2, 0, 0, 0, 0, 7]))] :=
  node_cache_refines_set (hnodeCacheChangeCb_leaves (staticSys []) HsrModule.init)
    [listNode HSR_C_SET_NODE_LIST 3 ⟨1, [2, 0, 0, 0, 0, 7]⟩]
    (fun _ h => ⟨_, _, _, List.mem_singleton.mp h⟩) (List.nodup_singleton _)
    [aboutNode .nodeDown, aboutNode .nodeDown, aboutNode .setNodeList]

end Hsr
