import ConfdbHsr.BadMessages

/-!
# What the parsers of the family read

Two of the three parsers look whether the index of the interface is there, and their commands have
a policy that says how long it is.  The parser of `HSR_C_RING_ERROR` does not look, and its command
has no policy.

* `HasIfindex`         the index that the table of a stream holds is there and has four bytes;
* `ring_error_reads`   what the parser of ring errors reads;
* `parser_safe_iff`    a message is parsed without reading a missing or short attribute iff it is
                       not a ring error or has such an index.
-/

namespace Nl
open Proc

/-- the last `HSR_A_IFINDEX` of a stream of attributes exists, and has four bytes at least -/
def HasIfindex (stream : List UInt8) : Prop :=
  ∃ nla, lastOfType (nlattrs stream) HSR_A_IFINDEX = some nla ∧ 4 ≤ nla.len

section
variable {ε W A σ : Type} {badRead : ε} {ppCb : σ → HsrNode → Proc ε W A (Int × σ)}

/-! ## the parsers that look first -/

section
variable (hcb : ∀ arg node, Delivers (fun _ => True) (ppCb arg node))
include hcb

lemma nodeListLoop_returns (cmd : GenlCmd) (ifindex : UInt32) (attrs : List Nlattr) (arg : σ) :
    Delivers (fun _ => True) (nodeListLoop ppCb cmd ifindex attrs arg) := by
  induction attrs generalizing arg with
  | nil => exact delivers_pure trivial
  | cons nla attrs ih =>
    refine delivers_ite (fun _ => ih arg) fun _ => delivers_ite (fun _ => ?_) fun _ => ih arg
    refine delivers_bind (hcb arg _) fun r _ => ?_
    obtain ⟨err, arg⟩ := r
    exact delivers_ite (fun _ => delivers_pure trivial) fun _ => ih arg

/-- an index that the parser of node lists finds is one that the policy has checked -/
lemma nodeListParser_returns {tb : AttrTable} (hmet : PolicyMet tb) (cmd : GenlCmd)
    (stream : List UInt8) (arg : σ) :
    Delivers (fun _ => True)
      (hnodeMsgNodeListParser badRead ppCb cmd ⟨GENL_ID_HSR, stream, tb⟩ arg) := by
  rw [hnodeMsgNodeListParser]
  dsimp only
  refine delivers_ite (fun _ => delivers_pure trivial) fun hsome => ?_
  obtain ⟨nla, hnla⟩ := Option.ne_none_iff_exists'.mp hsome
  have hlen : 4 ≤ nla.len := hmet.minlen (by decide) hnla
  rw [hnla, nlaGetU32, if_neg (Nat.not_lt.mpr hlen), pure_bind]
  exact nodeListLoop_returns hcb cmd _ _ arg

lemma nodeStatusParser_returns {tb : AttrTable} (hmet : PolicyMet tb) (stream : List UInt8)
    (arg : σ) :
    Delivers (fun _ => True)
      (hnodeMsgNodeStatusParser badRead ppCb ⟨GENL_ID_HSR, stream, tb⟩ arg) := by
  rw [hnodeMsgNodeStatusParser]
  dsimp only
  refine delivers_ite (fun _ => delivers_pure trivial) fun _ => ?_
  rw [hnodeInfoParse_eq hmet, pure_bind]
  exact hcb arg _

theorem cmdMsgParser_returns {cmdId : UInt8} (hcmdId : cmdId ≠ HSR_C_RING_ERROR)
    (stream : List UInt8) (arg : σ) :
    Delivers (fun _ => True) (cmdMsgParser badRead true ppCb cmdId stream arg) := by
  rw [cmdMsgParser]
  cases hcmd : lookupCmd cmdId with
  | none => exact delivers_pure trivial
  | some cmd =>
    have hid : cmd.cId = cmdId := by simpa using List.find?_some hcmd
    dsimp only
    cases hparser : cmd.cMsgParser with
    | none => exact delivers_pure trivial
    | some parser =>
      dsimp only
      cases hparse : nlaParse cmd.cMaxattr cmd.cAttrPolicy stream with
      | error err => exact delivers_pure trivial
      | ok tb =>
        cases lookupCmd_parses hcmd hparser with
        | error => exact absurd hid.symm hcmdId
        | nodeList cmd =>
          exact nodeListParser_returns hcb (nlaParse_policyMet hparse) _ stream arg
        | nodeStatus => exact nodeStatusParser_returns hcb (nlaParse_policyMet hparse) stream arg

end

/-! ## the parser that does not -/

/-- the parser of ring errors returns if there is an index to read, and otherwise reads all the
same -/
theorem ring_error_reads (stream : List UInt8) (arg : σ) :
    (HasIfindex stream →
      cmdMsgParser badRead true ppCb HSR_C_RING_ERROR stream arg = pure (0, arg)) ∧
    (¬ HasIfindex stream →
      ∀ w, (cmdMsgParser badRead true ppCb HSR_C_RING_ERROR stream arg w).val = .error badRead) := by
  obtain ⟨tb, hparse, htb⟩ := @nlaParse_none HSR_A_MAX stream
  have hindex : tb HSR_A_IFINDEX = lastOfType (nlattrs stream) HSR_A_IFINDEX := htb _ (by decide)
  have hlookup : lookupCmd HSR_C_RING_ERROR =
      some ⟨HSR_C_RING_ERROR, HSR_A_MAX, none, some .error⟩ := rfl
  have hrun : cmdMsgParser badRead true ppCb HSR_C_RING_ERROR stream arg =
      hnodeMsgErrorParser badRead true ⟨GENL_ID_HSR, stream, tb⟩ arg := by
    rw [cmdMsgParser, hlookup]
    dsimp only
    rw [hparse]
    rfl
  rw [hrun, hnodeMsgErrorParser]
  dsimp only
  rw [hindex]
  constructor
  · rintro ⟨nla, hnla, hlen⟩
    rw [hnla, nlaPrintU32, if_neg (by simpa using hlen), pure_bind]
  · intro hno w
    cases hnla : lastOfType (nlattrs stream) HSR_A_IFINDEX with
    | none => rfl
    | some nla =>
      have hshort : nla.len < 4 := by
        by_contra hlen
        exact hno ⟨nla, hnla, Nat.not_lt.mp hlen⟩
      rw [nlaPrintU32, if_pos (by simpa using hshort)]
      rfl

/-! ## all of them -/

/-- **A message is parsed without reading a missing or short attribute iff it is not a ring error,
or its last `HSR_A_IFINDEX` is there and long enough.** -/
theorem parser_safe_iff (badRead : ε) (ppCb : σ → HsrNode → Proc ε W A (Int × σ))
    (hcb : ∀ arg node, Delivers (fun _ => True) (ppCb arg node)) (cmdId : UInt8)
    (stream : List UInt8) (arg : σ) (w : W) :
    (∃ r, (cmdMsgParser badRead true ppCb cmdId stream arg w).val = .ok r) ↔
      (cmdId = HSR_C_RING_ERROR → HasIfindex stream) := by
  constructor
  · rintro ⟨r, hr⟩ rfl
    by_contra hno
    rw [(ring_error_reads stream arg).2 hno w] at hr
    cases hr
  · intro hsafe
    by_cases hcmdId : cmdId = HSR_C_RING_ERROR
    · rw [hcmdId, (ring_error_reads stream arg).1 (hsafe hcmdId)]
      exact ⟨_, rfl⟩
    · have hreturns : Delivers (fun _ => True) (cmdMsgParser badRead true ppCb cmdId stream arg) :=
        cmdMsgParser_returns hcb hcmdId stream arg
      obtain ⟨r, hr, -⟩ := hreturns w
      exact ⟨r, hr⟩

end

/-- a ring error on the interface 5 -/
theorem ring_error_with_index :
    ∃ r, (cmdMsgParser () true (fun arg _ => (pure (0, arg) : Proc Unit Unit Unit (Int × Unit)))
      HSR_C_RING_ERROR [8, 0, 2, 0, 5, 0, 0, 0] () ()).val = .ok r :=
  (parser_safe_iff () (fun arg _ => pure (0, arg)) (fun _ _ => delivers_pure trivial)
    HSR_C_RING_ERROR [8, 0, 2, 0, 5, 0, 0, 0] () ()).mpr
    fun _ => ⟨⟨2, [5, 0, 0, 0]⟩, by decide, by decide⟩

/-- a ring error without attributes -/
theorem ring_error_without_index :
    (cmdMsgParser () true (fun arg _ => (pure (0, arg) : Proc Unit Unit Unit (Int × Unit)))
      HSR_C_RING_ERROR [] () ()).val = .error () := by
  rfl

end Nl
