import ConfdbHsr.Daemon.Acts
import ConfdbHsr.Daemon.Callbacks
import ConfdbHsr.Daemon.Scenario
import ConfdbHsr.NodeStatus

/-!
# Messages that cannot be parsed

What becomes of the daemon when a message arrives that the parsers of the family refuse.

* `parsable`          a message that they accept;
* `eventInput_parsable`, `eventInput_unparsable`   the code that `event_input` returns;
* `StaysUp`           the daemon stays in its loop, and its cache is the one that it would have
                      without the messages that cannot be parsed;
* `CallbacksAnswered` every callback that looks for the name of an interface finds the link table;
* `stays_up_iff`      it does if there is no such message and the callbacks are answered: otherwise
                      the code of the parser goes through `recvmsgs` and `nl_cache_mngr_data_ready`
                      to `main`, which exits, or the callback puts a cache that it never had.
-/

namespace Nl

/-- the message is one that the parsers of the family accept: its command is known and has a
parser, its attributes meet the policy, and there is an `HSR_A_IFINDEX` to read -/
def parsable (msg : HsrMsg) : Bool :=
  match lookupCmd msg.cmd with
  | none => false
  | some cmd => cmd.cMsgParser.isSome &&
    match nlaParse cmd.cMaxattr cmd.cAttrPolicy msg.stream with
    | .error _ => false
    | .ok tb => (tb HSR_A_IFINDEX).isSome

/-- the entries of `genl_cmds` that have a parser -/
inductive Parses : GenlCmd → MsgParser → Prop where
  | error : Parses ⟨HSR_C_RING_ERROR, HSR_A_MAX, none, some .error⟩ .error
  | nodeList (cmd : NodeCmd) : Parses cmd.genlCmd .nodeList
  | nodeStatus :
    Parses ⟨HSR_C_SET_NODE_STATUS, HSR_A_MAX, some hnodePolicy, some .nodeStatus⟩ .nodeStatus

lemma lookupCmd_parses {cmdId : UInt8} {cmd : GenlCmd} {parser : MsgParser}
    (hcmd : lookupCmd cmdId = some cmd) (hparser : cmd.cMsgParser = some parser) :
    Parses cmd parser := by
  have hmem : cmd ∈ genlCmds := List.mem_of_find?_eq_some hcmd
  simp only [genlCmds, List.mem_cons, List.not_mem_nil, or_false] at hmem
  rcases hmem with rfl | rfl | rfl | rfl | rfl | rfl
  · obtain rfl := Option.some.inj hparser
    exact .error
  · obtain rfl := Option.some.inj hparser
    exact .nodeList .nodeDown
  · cases hparser
  · obtain rfl := Option.some.inj hparser
    exact .nodeStatus
  · cases hparser
  · obtain rfl := Option.some.inj hparser
    exact .nodeList .setNodeList

lemma nlaParse_policyMet {stream : List UInt8} {tb : AttrTable}
    (h : nlaParse HSR_A_MAX (some hnodePolicy) stream = .ok tb) : PolicyMet tb :=
  nlaParseLoop_met (fun _ nla hnla => absurd hnla (Option.not_mem_none nla)) h

end Nl

namespace Hsr
open Nl Proc

/-- the messages of the datagram that can be parsed, if there are any -/
def Datagram.parsablePart (datagram : Datagram) : Option Datagram :=
  if h : datagram.msgs.filter parsable ≠ [] then some ⟨datagram.msgs.filter parsable, h⟩ else none

/-- the turn without the messages that cannot be parsed -/
def Turn.parsablePart {W : Type} (turn : Turn W) : Turn W :=
  { turn with arrived := turn.arrived.filterMap Datagram.parsablePart }

/-! ## the codes of `event_input` -/

section
variable {W A α : Type} {x : Proc Fault W A (Int × List HsrNode)}
  {f : Int × List HsrNode → Proc Fault W A α} {Q : α → Prop} (hx : Delivers (fun p => p.1 = 0) x)
include hx

lemma delivers_zero_bind (hf : ∀ cache, Delivers Q (f (0, cache))) : Delivers Q (x >>= f) := by
  refine delivers_bind hx fun p hp => ?_
  obtain ⟨err, cache⟩ := p
  obtain rfl : err = 0 := hp
  exact hf cache

lemma yields_zero_bind (hf : ∀ cache, Yields Q (f (0, cache))) : Yields Q (x >>= f) := by
  refine yields_bind hx.yields fun p hp => ?_
  obtain ⟨err, cache⟩ := p
  obtain rfl : err = 0 := hp
  exact hf cache

end

section
variable {W A : Type} {changeCb : ChangeCb W A}

/-- a callback that returns -/
def Returns (changeCb : ChangeCb W A) : Prop :=
  ∀ cache note, Delivers (fun _ => True) (changeCb cache note)

variable (hcb : Returns changeCb)
include hcb

/-- the cache knows the message types that the parsers give to nodes -/
lemma includeCb_includes {node : HsrNode} (h : node.ceMsgtype ∈ [GENL_ID_HSR, 1, 2])
    (cache : List HsrNode) : Delivers (fun p => p.1 = 0) (includeCb changeCb cache node) := by
  have hfind : (hsrNodeOps.coMsgtypes.find? fun type =>
      type.1 == hsrNodeOps.ceMsgtype node).isSome := by
    show (hsrNodeOps.coMsgtypes.find? fun type => type.1 == node.ceMsgtype).isSome
    simp only [List.mem_cons, List.not_mem_nil, or_false] at h
    rcases h with h | h | h
    · rw [h]
      rfl
    · rw [h]
      rfl
    · rw [h]
      rfl
  obtain ⟨type, htype⟩ := Option.isSome_iff_exists.mp hfind
  rw [includeCb, nlCacheIncludeV2, htype]
  have hnotes := delivers_foldlM hcb
  exact delivers_bind (hnotes _ _) fun _ _ => delivers_pure rfl

lemma nodeListLoop_includes (cmd : NodeCmd) (ifindex : UInt32) (attrs : List Nlattr)
    (cache : List HsrNode) : Delivers (fun p => p.1 = 0)
      (nodeListLoop (includeCb changeCb) cmd.genlCmd ifindex attrs cache) := by
  induction attrs generalizing cache with
  | nil => exact delivers_pure rfl
  | cons nla attrs ih =>
    have htype : (listNode cmd.cId ifindex nla).ceMsgtype ∈ [GENL_ID_HSR, 1, 2] := by
      cases cmd with
      | setNodeList =>
        show 2 ∈ [GENL_ID_HSR, 1, 2]
        decide
      | nodeDown =>
        show 1 ∈ [GENL_ID_HSR, 1, 2]
        decide
    refine delivers_ite (fun _ => ih cache) fun _ => delivers_ite (fun _ => ?_) fun _ => ih cache
    exact delivers_zero_bind (includeCb_includes hcb htype cache) ih

variable {cmd : GenlCmd} {parser : MsgParser} (hcmd : Parses cmd parser) {stream : List UInt8}
  {tb : AttrTable} (hparse : nlaParse cmd.cMaxattr cmd.cAttrPolicy stream = .ok tb)
include hcmd hparse

lemma runParser_reads {nla : Nlattr} (hnla : tb HSR_A_IFINDEX = some nla) (cache : List HsrNode) :
    Delivers (fun p => p.1 = 0)
      (runParser .badAttr false (includeCb changeCb) parser cmd ⟨GENL_ID_HSR, stream, tb⟩
        cache) := by
  have hsome : tb HSR_A_IFINDEX ≠ none := by
    rw [hnla]
    exact nofun
  have hread : PolicyMet tb → (nlaGetU32 Fault.badAttr (tb HSR_A_IFINDEX) : Proc Fault W A UInt32) =
      pure (u32Of nla.payload) := by
    intro hmet
    have hlen : 4 ≤ nla.len := hmet.minlen (by decide) hnla
    rw [hnla]
    exact if_neg (Nat.not_lt.mpr hlen)
  cases hcmd with
  | error =>
    rw [runParser, hnodeMsgErrorParser]
    dsimp only
    rw [hnla]
    exact delivers_pure rfl
  | nodeList cmd =>
    rw [runParser, hnodeMsgNodeListParser]
    dsimp only
    rw [if_neg hsome, hread (nlaParse_policyMet hparse), pure_bind]
    exact nodeListLoop_includes hcb cmd _ _ _
  | nodeStatus =>
    rw [runParser, hnodeMsgNodeStatusParser]
    dsimp only
    rw [if_neg hsome, hnodeInfoParse_eq (nlaParse_policyMet hparse), pure_bind]
    exact includeCb_includes hcb List.mem_cons_self cache

omit hcb in
/-- without an index, a parser with a policy says so; a notification of an error is read anyway -/
lemma runParser_refuses (hno : tb HSR_A_IFINDEX = none) (cache : List HsrNode) :
    Yields (fun p => p.1 = -NLE_MISSING_ATTR)
      (runParser .badAttr false (includeCb changeCb) parser cmd ⟨GENL_ID_HSR, stream, tb⟩
        cache) := by
  cases hcmd with
  | error =>
    rw [runParser, hnodeMsgErrorParser]
    dsimp only
    rw [hno]
    exact yields_bind (yields_fail Fault.badAttr) fun _ (h : False) => h.elim
  | nodeList cmd =>
    rw [runParser, hnodeMsgNodeListParser]
    dsimp only
    rw [if_pos hno]
    exact yields_pure rfl
  | nodeStatus =>
    rw [runParser, hnodeMsgNodeStatusParser]
    dsimp only
    rw [if_pos hno]
    exact yields_pure rfl

end

/-- a code of `event_input` that takes the daemon down -/
def Fatal (err : Int) : Prop := err < 0 ∧ err ≠ -NLE_AGAIN

instance (err : Int) : Decidable (Fatal err) := inferInstanceAs (Decidable (_ ∧ _))

section
variable {W A : Type} {changeCb : ChangeCb W A}

lemma yields_fatal {err : Int} (h : Fatal err) (cache : List HsrNode) :
    Yields (fun p => Fatal p.1) (pure (err, cache) : Proc Fault W A (Int × List HsrNode)) :=
  yields_pure h

theorem eventInput_unparsable {msg : HsrMsg} (h : parsable msg = false) (cache : List HsrNode) :
    Yields (fun p => Fatal p.1) (eventInput changeCb cache msg) := by
  rw [eventInput, nlCacheParse]
  rw [parsable] at h
  have hparsed : Yields (fun p => Fatal p.1)
      (cmdMsgParser .badAttr false (includeCb changeCb) msg.cmd msg.stream cache) := by
    rw [cmdMsgParser]
    cases hcmd : lookupCmd msg.cmd with
    | none => exact yields_fatal (by decide) cache
    | some cmd =>
      rw [hcmd] at h
      dsimp only at h ⊢
      cases hparser : cmd.cMsgParser with
      | none => exact yields_fatal (by decide) cache
      | some parser =>
        rw [hparser, Option.isSome_some, Bool.true_and] at h
        dsimp only
        cases hparse : nlaParse cmd.cMaxattr cmd.cAttrPolicy msg.stream with
        | error err =>
          rcases nlaParseLoop_error hparse with rfl | rfl
          · exact yields_fatal (by decide) cache
          · exact yields_fatal (by decide) cache
        | ok tb =>
          rw [hparse] at h
          have hno : tb HSR_A_IFINDEX = none := Option.isNone_iff_eq_none.mp (by simpa using h)
          refine Yields.mono (runParser_refuses (lookupCmd_parses hcmd hparser) hparse hno cache) ?_
          intro p hp
          rw [hp]
          decide
  refine yields_bind hparsed fun p hp => ?_
  obtain ⟨err, cache'⟩ := p
  dsimp only
  by_cases hcode : err = -NLE_OPNOTSUPP
  · rw [if_pos hcode]
    exact yields_fatal (by decide) cache'
  · rw [if_neg hcode]
    exact yields_fatal hp cache'

variable (hcb : Returns changeCb)
include hcb

theorem eventInput_parsable {msg : HsrMsg} (h : parsable msg = true) (cache : List HsrNode) :
    Delivers (fun p => p.1 = 0) (eventInput changeCb cache msg) := by
  rw [eventInput, nlCacheParse]
  rw [parsable] at h
  have hparsed : Delivers (fun p => p.1 = 0)
      (cmdMsgParser .badAttr false (includeCb changeCb) msg.cmd msg.stream cache) := by
    rw [cmdMsgParser]
    cases hcmd : lookupCmd msg.cmd with
    | none =>
      rw [hcmd] at h
      cases h
    | some cmd =>
      rw [hcmd] at h
      dsimp only at h ⊢
      obtain ⟨hparser, hindex⟩ := Bool.and_eq_true_iff.mp h
      obtain ⟨parser, hparser⟩ := Option.isSome_iff_exists.mp hparser
      rw [hparser]
      dsimp only
      cases hparse : nlaParse cmd.cMaxattr cmd.cAttrPolicy msg.stream with
      | error err =>
        rw [hparse] at hindex
        cases hindex
      | ok tb =>
        rw [hparse] at hindex
        obtain ⟨nla, hnla⟩ := Option.isSome_iff_exists.mp hindex
        exact runParser_reads hcb (lookupCmd_parses hcmd hparser) hparse hnla cache
  exact delivers_zero_bind hparsed fun _ => delivers_pure rfl

/-! ## from the messages to the manager -/

lemma recvmsgs_parsable (nrecv : Int) {msgs : List HsrMsg} (h : ∀ msg ∈ msgs, parsable msg = true)
    (cache : List HsrNode) :
    Delivers (fun p => p.1 = nrecv + msgs.length) (recvmsgs changeCb nrecv cache msgs) := by
  induction msgs generalizing nrecv cache with
  | nil => exact delivers_pure (by simp)
  | cons msg msgs ih =>
    have hmsg := eventInput_parsable hcb (h msg List.mem_cons_self) cache
    refine delivers_zero_bind hmsg fun cache' => ?_
    have hlen : nrecv + (msg :: msgs).length = nrecv + 1 + msgs.length := by
      rw [List.length_cons]
      omega
    rw [hlen]
    exact ih (nrecv + 1) (fun m hm => h m (List.mem_cons_of_mem msg hm)) cache'

/-- the first message that cannot be parsed ends the reading of its datagram -/
lemma recvmsgs_unparsable (nrecv : Int) {msgs : List HsrMsg}
    (h : ∃ msg ∈ msgs, parsable msg = false) (cache : List HsrNode) :
    Yields (fun p => Fatal p.1) (recvmsgs changeCb nrecv cache msgs) := by
  induction msgs generalizing nrecv cache with
  | nil => simp at h
  | cons msg msgs ih =>
    rw [recvmsgs]
    cases hmsg : parsable msg with
    | true =>
      have hrest : ∃ msg ∈ msgs, parsable msg = false := by
        obtain ⟨bad, hbad, hno⟩ := h
        rcases List.mem_cons.mp hbad with rfl | hbad
        · rw [hmsg] at hno
          cases hno
        · exact ⟨bad, hbad, hno⟩
      exact yields_zero_bind (eventInput_parsable hcb hmsg cache) (ih (nrecv + 1) hrest)
    | false =>
      refine yields_bind (eventInput_unparsable hmsg cache) fun p hp => ?_
      obtain ⟨err, cache'⟩ := p
      obtain ⟨hneg, hagain⟩ : Fatal err := hp
      have hcontinue : ¬ (err = NL_OK ∨ err = NL_SKIP) := by
        simp only [NL_OK, NL_SKIP]
        omega
      have hstop : ¬ err = NL_STOP := by
        simp only [NL_STOP]
        omega
      dsimp only
      rw [if_neg hcontinue, if_neg hstop]
      exact yields_pure ⟨hneg, hagain⟩

/-- all messages of the datagrams can be parsed -/
def AllParsable (datagrams : List Datagram) : Prop :=
  ∀ datagram ∈ datagrams, ∀ msg ∈ datagram.msgs, parsable msg = true

lemma dataReady_parsable {nread : Int} (hnread : 0 ≤ nread) {datagrams : List Datagram}
    (h : AllParsable datagrams) (cache : List HsrNode) :
    Delivers (fun p => 0 ≤ p.1) (nlCacheMngrDataReady changeCb nread cache datagrams) := by
  induction datagrams generalizing nread cache with
  | nil => exact delivers_pure hnread
  | cons datagram datagrams ih =>
    have hmsgs := recvmsgs_parsable hcb 0 (h datagram List.mem_cons_self) cache
    refine delivers_bind hmsgs fun p hp => ?_
    obtain ⟨err, cache'⟩ := p
    have hpos : err > 0 := by
      have hlen := List.length_pos_iff.mpr datagram.nonempty
      have herr : err = 0 + datagram.msgs.length := hp
      omega
    dsimp only
    rw [if_pos hpos]
    exact ih (by omega) (fun d hd => h d (List.mem_cons_of_mem datagram hd)) cache'

lemma dataReady_unparsable {nread : Int} {datagrams : List Datagram} (h : ¬ AllParsable datagrams)
    (cache : List HsrNode) :
    Yields (fun p => p.1 < 0) (nlCacheMngrDataReady changeCb nread cache datagrams) := by
  induction datagrams generalizing nread cache with
  | nil => exact absurd nofun h
  | cons datagram datagrams ih =>
    by_cases hfirst : ∀ msg ∈ datagram.msgs, parsable msg = true
    · have hrest : ¬ AllParsable datagrams :=
        fun hrest => h (List.forall_mem_cons.mpr ⟨hfirst, hrest⟩)
      have hmsgs := recvmsgs_parsable hcb 0 hfirst cache
      refine yields_bind hmsgs.yields fun p hp => ?_
      obtain ⟨err, cache'⟩ := p
      have hpos : err > 0 := by
        have hlen := List.length_pos_iff.mpr datagram.nonempty
        have herr : err = 0 + datagram.msgs.length := hp
        omega
      dsimp only
      rw [if_pos hpos]
      exact ih hrest cache'
    · have hbad : ∃ msg ∈ datagram.msgs, parsable msg = false := by
        simpa using hfirst
      refine yields_bind (recvmsgs_unparsable hcb 0 hbad cache) fun p hp => ?_
      obtain ⟨err, cache'⟩ := p
      obtain ⟨hneg, hagain⟩ : Fatal err := hp
      dsimp only
      rw [if_neg (by omega), if_pos ⟨hneg, hagain⟩]
      exact yields_pure hneg

end

/-! ## the callbacks -/

section
variable {W : Type} (S : Sys W) (app : HsrModule)

lemma quietCb_returns : Returns (quietCb app) :=
  fun _ _ => delivers_emit_bind (delivers_pure trivial)

/-- the callback looks for the name of the interface of the node -/
def Looks : Note HsrNode → Prop
  | .new _ => app.interfacesSize > 0
  | .del _ => app.interfacesSize > 0
  | .change _ _ _ => False

/-- every callback that looks for a name finds the link table -/
def NotesAnswered : List (Note HsrNode) → W → Prop
  | [], _ => True
  | note :: notes, w =>
    (Looks app note → dumped S w ≠ none) ∧ NotesAnswered notes (publish S app note w).world

lemma editNode_returns (op : CdbOp) (onError : Int → Int) (node : HsrNode)
    (links : List LinkObj) : Delivers (fun _ => True) (editNode S op onError node links) := by
  unfold editNode
  split
  · exact delivers_pure trivial
  · exact delivers_bind (delivers_sys_bind fun ret => delivers_emit_bind (delivers_pure trivial))
      fun ret _ => delivers_pure trivial

lemma editDumped_returns_iff (op : CdbOp) (onError : Int → Int) (node : HsrNode) (w : W) :
    ((do
      let _ ← withDump S (fun _ => putUnset) (editNode S op onError node)
      pure ⟨⟩ : Op W PUnit) w).val = .ok ⟨⟩ ↔ dumped S w ≠ none := by
  obtain ⟨ret, -, heq⟩ := withDump_eq S (fun _ => putUnset) (editNode S op onError node) w
  cases hdump : dumped S w with
  | none =>
    rw [hdump] at heq
    have hval := congrArg Out.val heq
    rw [bind_val_of_error hval]
    exact iff_of_false nofun fun h => h rfl
  | some links =>
    rw [hdump] at heq
    obtain ⟨ret, hret, -⟩ := editNode_returns S op onError node links (afterDump S w)
    rw [bind_val_of_ok ((congrArg Out.val heq).trans hret)]
    exact iff_of_true rfl nofun

lemma publish_returns_iff (note : Note HsrNode) (w : W) :
    (publish S app note w).val = .ok ⟨⟩ ↔ (Looks app note → dumped S w ≠ none) := by
  by_cases hopen : app.interfacesSize > 0
  · unfold publish
    rw [if_pos hopen]
    cases note with
    | new nObj =>
      have hlooks : Looks app (.new nObj) := hopen
      rw [forall_prop_of_true hlooks]
      exact editDumped_returns_iff S _ _ nObj w
    | del oObj =>
      have hlooks : Looks app (.del oObj) := hopen
      rw [forall_prop_of_true hlooks]
      exact editDumped_returns_iff S _ _ oObj w
    | change oObj nObj diff => exact iff_of_true rfl nofun
  · rw [publish_closed S hopen]
    refine iff_of_true rfl fun hlooks => ?_
    cases note with
    | new nObj => exact absurd hlooks hopen
    | del oObj => exact absurd hlooks hopen
    | change oObj nObj diff => exact hlooks.elim

lemma notesAnswered_iff (notes : List (Note HsrNode)) (w : W) :
    (forM notes (publish S app) w).val = .ok ⟨⟩ ↔ NotesAnswered S app notes w := by
  induction notes generalizing w with
  | nil => exact iff_of_true rfl trivial
  | cons note notes ih =>
    rw [List.forM_cons, NotesAnswered, ← publish_returns_iff, ← ih]
    cases hval : (publish S app note w).val with
    | error e =>
      rw [bind_val_of_error hval]
      exact iff_of_false nofun fun h => nomatch h.1
    | ok u =>
      rw [bind_val_of_ok hval, and_iff_right rfl]

/-- what has arrived, read by the callback that only logs its calls -/
def turnRun (mngrHnodeCache : List HsrNode) (arrived : List Datagram) :
    Out Fault Unit (Note HsrNode) (Int × List HsrNode) :=
  nlCacheMngrDataReady (quietCb app) 0 mngrHnodeCache arrived ()

/-- the cache after a turn -/
def turnCache (mngrHnodeCache : List HsrNode) (arrived : List Datagram) : List HsrNode :=
  match (turnRun app mngrHnodeCache arrived).val with
  | .ok (_, cache) => cache
  | .error _ => mngrHnodeCache

/-- the callbacks of all turns are answered, each in the world in which it is called -/
def CallbacksAnswered : List HsrNode → List (Turn W) → W → Prop
  | _, [], _ => True
  | mngrHnodeCache, turn :: later, w =>
    let app := (turn.rest w).1
    let notes := (turnRun app mngrHnodeCache turn.arrived).acts
    NotesAnswered S app notes (turn.rest w).2 ∧
      CallbacksAnswered (turnCache app mngrHnodeCache turn.arrived) later
        (forM notes (publish S app) (turn.rest w).2).world

/-- one turn: when everything that has arrived can be parsed, it is read with success iff the
callbacks are answered -/
lemma turn_run (mngrHnodeCache : List HsrNode) {arrived : List Datagram} (h : AllParsable arrived)
    (w : W) : ∃ ret : Int, 0 ≤ ret ∧
      ((NotesAnswered S app (turnRun app mngrHnodeCache arrived).acts w ∧
        (nlCacheMngrDataReady (hnodeCacheChangeCb S app) 0 mngrHnodeCache arrived w).val =
          .ok (ret, turnCache app mngrHnodeCache arrived)) ∨
      (¬ NotesAnswered S app (turnRun app mngrHnodeCache arrived).acts w ∧ ∃ e,
        (nlCacheMngrDataReady (hnodeCacheChangeCb S app) 0 mngrHnodeCache arrived w).val =
          .error e)) := by
  obtain ⟨⟨ret, cache⟩, hval, hret⟩ :=
    dataReady_parsable (quietCb_returns app) le_rfl h mngrHnodeCache ()
  have hcache : turnCache app mngrHnodeCache arrived = cache := by
    rw [turnCache, turnRun, hval]
  refine ⟨ret, hret, ?_⟩
  rw [dataReady_perform (perform_quietCb S app), hcache, ← notesAnswered_iff]
  by_cases hans : (forM (turnRun app mngrHnodeCache arrived).acts (publish S app) w).val = .ok ⟨⟩
  · exact .inl ⟨hans, perform_ok_iff.mpr ⟨hans, hval⟩⟩
  · refine .inr ⟨hans, ?_⟩
    cases hrun : (perform (publish S app)
        (nlCacheMngrDataReady (quietCb app) 0 mngrHnodeCache arrived) w).val with
    | error e => exact ⟨e, rfl⟩
    | ok p => exact absurd (perform_ok_iff.mp hrun).1 hans

/-! ## the daemon without the messages -/

/-- the daemon stays in its loop, and its cache is the one that it would have if the messages that
cannot be parsed had not arrived -/
def StaysUp (mngrHnodeCache : List HsrNode) (turns : List (Turn W)) (w : W) : Prop :=
  ∃ final, (mainLoop S mngrHnodeCache turns w).val = .ok (some final) ∧
    (mainLoop S mngrHnodeCache (turns.map Turn.parsablePart) w).val = .ok (some final)

lemma mainLoop_parsable {turns : List (Turn W)} (h : ∀ turn ∈ turns, AllParsable turn.arrived)
    (mngrHnodeCache : List HsrNode) (w : W) :
    (∃ final, (mainLoop S mngrHnodeCache turns w).val = .ok (some final)) ↔
      CallbacksAnswered S mngrHnodeCache turns w := by
  induction turns generalizing mngrHnodeCache w with
  | nil => exact iff_of_true ⟨mngrHnodeCache, rfl⟩ trivial
  | cons turn later ih =>
    have hlater : ∀ turn ∈ later, AllParsable turn.arrived :=
      fun t ht => h t (List.mem_cons_of_mem turn ht)
    have hworld : (nlCacheMngrDataReady (hnodeCacheChangeCb S (turn.rest w).1) 0 mngrHnodeCache
        turn.arrived (turn.rest w).2).world =
        (forM (turnRun (turn.rest w).1 mngrHnodeCache turn.arrived).acts
          (publish S (turn.rest w).1) (turn.rest w).2).world := by
      rw [dataReady_perform (perform_quietCb S (turn.rest w).1), perform_world]
      rfl
    obtain ⟨ret, hret, ⟨hans, hval⟩ | ⟨hans, e, herr⟩⟩ :=
      turn_run S (turn.rest w).1 mngrHnodeCache (h turn List.mem_cons_self) (turn.rest w).2
    · rw [mainLoop, sys_bind_val, bind_val_of_ok hval, CallbacksAnswered, and_iff_right hans,
        ← hworld]
      dsimp only
      rw [if_neg (by omega)]
      exact ih hlater _ _
    · rw [mainLoop, sys_bind_val, bind_val_of_error herr, CallbacksAnswered]
      exact iff_of_false nofun fun h => hans h.1

lemma mainLoop_unparsable {turns : List (Turn W)}
    (h : ¬ ∀ turn ∈ turns, AllParsable turn.arrived) (mngrHnodeCache : List HsrNode) :
    Yields (fun final => final = none) (mainLoop S mngrHnodeCache turns) := by
  induction turns generalizing mngrHnodeCache with
  | nil => exact absurd nofun h
  | cons turn later ih =>
    rw [mainLoop]
    refine yields_then fun app => ?_
    by_cases hturn : AllParsable turn.arrived
    · have hlater : ¬ ∀ turn ∈ later, AllParsable turn.arrived := fun hlater =>
        h (List.forall_mem_cons.mpr ⟨hturn, hlater⟩)
      refine yields_then fun p => ?_
      exact yields_ite (fun _ => yields_pure rfl) fun _ => ih hlater p.2
    · rw [dataReady_perform (perform_quietCb S app)]
      have hquiet : Yields (fun p => p.1 < 0)
          (nlCacheMngrDataReady (quietCb app) 0 mngrHnodeCache turn.arrived) :=
        dataReady_unparsable (quietCb_returns app) hturn mngrHnodeCache
      refine yields_bind (yields_perform hquiet) fun p hp => ?_
      obtain ⟨ret, cache'⟩ := p
      dsimp only at hp ⊢
      rw [if_pos hp]
      exact yields_pure rfl

lemma parsablePart_eq {datagrams : List Datagram} (h : AllParsable datagrams) :
    datagrams.filterMap Datagram.parsablePart = datagrams := by
  induction datagrams with
  | nil => rfl
  | cons datagram datagrams ih =>
    have hfilter : datagram.msgs.filter parsable = datagram.msgs :=
      List.filter_eq_self.mpr (h datagram List.mem_cons_self)
    have hpart : datagram.parsablePart = some datagram := by
      rw [Datagram.parsablePart]
      simp only [hfilter]
      exact dif_pos datagram.nonempty
    rw [List.filterMap_cons_some hpart]
    rw [ih fun d hd => h d (List.mem_cons_of_mem datagram hd)]

/-- **One bad message takes the daemon down.**  Whatever arrives, the daemon stays in its loop with
the cache that it would have without the messages that cannot be parsed exactly when all messages
can be parsed, and every callback that looks for the name of an interface gets the link table. -/
theorem stays_up_iff (mngrHnodeCache : List HsrNode) (turns : List (Turn W)) (w : W) :
    StaysUp S mngrHnodeCache turns w ↔
      (∀ turn ∈ turns, ∀ datagram ∈ turn.arrived, ∀ msg ∈ datagram.msgs, parsable msg = true) ∧
        CallbacksAnswered S mngrHnodeCache turns w := by
  by_cases h : ∀ turn ∈ turns, AllParsable turn.arrived
  · have hpart : ∀ turn ∈ turns, turn.parsablePart = turn := by
      intro turn hturn
      rw [Turn.parsablePart, parsablePart_eq (h turn hturn)]
    have hsame : turns.map Turn.parsablePart = turns := by
      rw [List.map_congr_left hpart]
      exact List.map_id turns
    have hloop := mainLoop_parsable S h mngrHnodeCache w
    unfold StaysUp
    rw [hsame]
    simp only [and_self]
    exact hloop.trans (and_iff_right h).symm
  · refine iff_of_false ?_ fun hall => h hall.1
    rintro ⟨final, hfinal, -⟩
    cases mainLoop_unparsable S h mngrHnodeCache w _ hfinal

/-- a turn in which nothing happens but the arrival of a request for the list of nodes -/
def requestTurn : Turn Unit where
  rest := fun w => (HsrModule.init, w)
  arrived := [⟨[⟨HSR_C_GET_NODE_LIST, []⟩], nofun⟩]

/-- the command of the request is in `genl_cmds`, but has no parser -/
theorem request_takes_the_daemon_down :
    ¬ ∀ (W : Type) (S : Sys W) (mngrHnodeCache : List HsrNode) (turns : List (Turn W)) (w : W),
      StaysUp S mngrHnodeCache turns w := by
  intro h
  obtain ⟨final, hfinal, -⟩ := h Unit (staticSys []) [] [requestTurn] ()
  exact nomatch hfinal

end

end Hsr
