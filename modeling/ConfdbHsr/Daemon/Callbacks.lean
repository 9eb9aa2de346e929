import ConfdbHsr.Lib.Script
import ConfdbHsr.Daemon.EventLoop

/-!
# What the notifications make the callback do

`hnode_cache_change_cb` edits the managed cache and publishes the node.  What it makes of the cache
does not depend on how the publishing ends, so the notifications of a turn are a script of calls
of the callback, which is then carried out.

* `publish`, `cbCache`   the two halves of the callback;
* `quietCb`              the callback that only logs its calls;
* `dataReady_perform`    reading what has arrived carries out the script of `quietCb`.
-/

namespace Nl
open Proc

/-! ## parsing calls the callback only -/

section
variable {ε W A B σ : Type} {badRead : ε} {strict : Bool} {p : B → Proc ε W A PUnit}

lemma perform_nlaGetU32 (attr : Option Nlattr) :
    perform p (nlaGetU32 badRead attr) = nlaGetU32 badRead attr := by
  cases attr with
  | none => exact perform_fail _
  | some nla =>
    unfold nlaGetU32
    rw [perform_ite, perform_fail, perform_pure]

lemma perform_nlaGetU16 (attr : Option Nlattr) :
    perform p (nlaGetU16 badRead attr) = nlaGetU16 badRead attr := by
  cases attr with
  | none => exact perform_fail _
  | some nla =>
    unfold nlaGetU16
    rw [perform_ite, perform_fail, perform_pure]

lemma perform_addrAllocAttr (attr : Option Nlattr) :
    perform p (addrAllocAttr badRead attr) = addrAllocAttr badRead attr := by
  cases attr with
  | none => exact perform_fail _
  | some nla => exact perform_pure _

lemma perform_infoField {β : Type} (attr : Option Nlattr) (bit : Mask)
    {read : Option Nlattr → Proc ε Unit B β} {read' : Option Nlattr → Proc ε W A β}
    (hread : ∀ attr, perform p (read attr) = read' attr) (set : HsrNode → β → HsrNode)
    (node : HsrNode) :
    perform p (infoField attr bit read set node) = infoField attr bit read' set node := by
  unfold infoField
  rw [perform_ite, perform_pure, perform_bind, hread]
  simp only [perform_pure]

lemma perform_hnodeInfoParse (node : HsrNode) (tb : AttrTable) :
    perform p (hnodeInfoParse badRead node tb) = hnodeInfoParse badRead node tb := by
  simp only [hnodeInfoParse, perform_bind, perform_infoField _ _ perform_nlaGetU32,
    perform_infoField _ _ perform_nlaGetU16, perform_infoField _ _ perform_addrAllocAttr]

section
variable {ppCb : σ → HsrNode → Proc ε Unit B (Int × σ)} {ppCb' : σ → HsrNode → Proc ε W A (Int × σ)}
  (hcb : ∀ arg node, perform p (ppCb arg node) = ppCb' arg node)
include hcb

lemma perform_nodeListLoop (cmd : GenlCmd) (ifindex : UInt32) (attrs : List Nlattr) (arg : σ) :
    perform p (nodeListLoop ppCb cmd ifindex attrs arg) =
      nodeListLoop ppCb' cmd ifindex attrs arg := by
  induction attrs generalizing arg with
  | nil => exact perform_pure _
  | cons nla attrs ih =>
    simp only [nodeListLoop, perform_ite, perform_bind, perform_pure, hcb, ih]

lemma perform_runParser (parser : MsgParser) (cmd : GenlCmd) (info : GenlInfo) (arg : σ) :
    perform p (runParser badRead strict ppCb parser cmd info arg) =
      runParser badRead strict ppCb' parser cmd info arg := by
  cases parser with
  | error =>
    have hprint : ∀ attr, perform p (nlaPrintU32 badRead strict attr) =
        nlaPrintU32 badRead strict attr := by
      intro attr
      cases attr with
      | none => exact perform_fail _
      | some nla =>
        unfold nlaPrintU32
        rw [perform_ite, perform_fail, perform_pure]
    simp only [runParser, hnodeMsgErrorParser, perform_bind, perform_pure, hprint]
  | nodeList =>
    simp only [runParser, hnodeMsgNodeListParser, perform_ite, perform_bind, perform_pure,
      perform_nlaGetU32, perform_nodeListLoop hcb]
  | nodeStatus =>
    simp only [runParser, hnodeMsgNodeStatusParser, perform_ite, perform_bind, perform_pure,
      perform_hnodeInfoParse, hcb]

/-- **Parsing a message does nothing but hand over its nodes.** -/
theorem perform_nlCacheParse (cmdId : UInt8) (stream : List UInt8) (arg : σ) :
    perform p (nlCacheParse badRead strict ppCb cmdId stream arg) =
      nlCacheParse badRead strict ppCb' cmdId stream arg := by
  have hparser : perform p (cmdMsgParser badRead strict ppCb cmdId stream arg) =
      cmdMsgParser badRead strict ppCb' cmdId stream arg := by
    unfold cmdMsgParser
    cases lookupCmd cmdId with
    | none => exact perform_pure _
    | some cmd =>
      dsimp only
      cases cmd.cMsgParser with
      | none => exact perform_pure _
      | some parser =>
        dsimp only
        cases nlaParse cmd.cMaxattr cmd.cAttrPolicy stream with
        | error err => exact perform_pure _
        | ok tb => exact perform_runParser hcb parser cmd _ arg
  rw [nlCacheParse, nlCacheParse, perform_bind, hparser]
  simp only [perform_pure]

end

end

end Nl

namespace Hsr
open Nl Proc

/-! ## reading what has arrived -/

section
variable {W A B : Type} {p : B → Proc Fault W A PUnit} {quiet : ChangeCb Unit B}
  {changeCb : ChangeCb W A} (hcb : ∀ cache note, perform p (quiet cache note) = changeCb cache note)
include hcb

lemma perform_includeCb (cache : List HsrNode) (node : HsrNode) :
    perform p (includeCb quiet cache node) = includeCb changeCb cache node := by
  unfold includeCb nlCacheIncludeV2
  split
  · exact perform_pure _
  · simp only [perform_bind, perform_foldlM, perform_pure, hcb]

lemma perform_eventInput (cache : List HsrNode) (msg : HsrMsg) :
    perform p (eventInput quiet cache msg) = eventInput changeCb cache msg :=
  perform_nlCacheParse (perform_includeCb hcb) _ _ _

lemma perform_recvmsgs (nrecv : Int) (cache : List HsrNode) (msgs : List HsrMsg) :
    perform p (recvmsgs quiet nrecv cache msgs) = recvmsgs changeCb nrecv cache msgs := by
  induction msgs generalizing nrecv cache with
  | nil => exact perform_pure _
  | cons msg msgs ih =>
    simp only [recvmsgs, perform_bind, perform_ite, perform_pure, perform_eventInput hcb, ih]

/-- **What has arrived is a script for the callback**, which reading it carries out. -/
theorem dataReady_perform (nread : Int) (cache : List HsrNode) (datagrams : List Datagram) :
    nlCacheMngrDataReady changeCb nread cache datagrams =
      perform p (nlCacheMngrDataReady quiet nread cache datagrams) := by
  induction datagrams generalizing nread cache with
  | nil => exact (perform_pure _).symm
  | cons datagram datagrams ih =>
    simp only [nlCacheMngrDataReady, perform_bind, perform_ite, perform_pure, perform_recvmsgs hcb,
      ih]

end

/-! ## the callback of the daemon -/

variable {W : Type} (S : Sys W) (app : HsrModule)

/-- what `hnode_cache_change_cb` does besides its edits of the cache -/
def publish (note : Note HsrNode) : Op W PUnit := do
  emit (.nodeNote note)
  if app.interfacesSize > 0 then
    match note with
    | .new nObj => do
      let _ ← addNodeToList S nObj
      pure ⟨⟩
    | .del oObj => do
      let _ ← deleteNodeFromList S oObj
      pure ⟨⟩
    | .change _ _ _ => pure ⟨⟩
  else pure ⟨⟩

/-- what it makes of the cache -/
def cbCache (cache : List HsrNode) : Note HsrNode → List HsrNode
  | .change oObj _ _ => if app.interfacesSize > 0 then ObjectOps.cacheAdd cache oObj else cache
  | _ => cache

lemma hnodeCacheChangeCb_eq (cache : List HsrNode) (note : Note HsrNode) :
    hnodeCacheChangeCb S app cache note = (do
      publish S app note
      pure (cbCache app cache note)) := by
  unfold hnodeCacheChangeCb publish
  rw [bind_assoc]
  refine congrArg _ (funext fun _ => ?_)
  by_cases hopen : app.interfacesSize > 0
  · rw [if_pos hopen, if_pos hopen]
    cases note with
    | new nObj => rw [bind_assoc]; rfl
    | del oObj => rw [bind_assoc]; rfl
    | change oObj nObj diff => rw [cbCache, if_pos hopen, pure_bind]
  · rw [if_neg hopen, if_neg hopen, pure_bind]
    cases note with
    | change oObj nObj diff => rw [cbCache, if_neg hopen]
    | _ => rfl

/-- the callback that only logs its calls -/
def quietCb (cache : List HsrNode) (note : Note HsrNode) :
    Proc Fault Unit (Note HsrNode) (List HsrNode) := do
  emit note
  pure (cbCache app cache note)

lemma perform_quietCb (cache : List HsrNode) (note : Note HsrNode) :
    perform (publish S app) (quietCb app cache note) = hnodeCacheChangeCb S app cache note := by
  rw [quietCb, perform_bind, perform_emit, hnodeCacheChangeCb_eq]
  simp only [perform_pure]

/-- while no interface is tracked, the callback only hears of the node -/
lemma publish_closed {app : HsrModule} (h : ¬ app.interfacesSize > 0) (note : Note HsrNode) :
    publish S app note = emit (.nodeNote note) := by
  unfold publish
  rw [if_neg h]
  exact bind_pure _

end Hsr
