import ConfdbHsr.Lib.Owners
import ConfdbHsr.Libnl.HsrLink

/-!
# HSR links and their copies

`nl_object_clone` and `nl_object_put` of `lib/object.c`, with `link_clone` and `release_link_info`
of `lib/route/link.c`, for links of kind `hsr`: each link refers to its `struct hsr_info`, which
is a cell of a store.  Memory does not run out.

* `LinkOp`, `linkStep`   what a program does with HSR links;
* `RunIndependent`       in every state of a run no info has two links and none was freed twice,
                         and no setter is seen through another link;
* `linkStep_owned`       every operation but the copy of a link keeps single owners;
* `run_independent_iff`  a run is independent iff it copies no link.
-/

namespace Nl
open Owners

/-- `struct rtnl_link` of kind `hsr`: its references, and the cell that `l_info` points to -/
structure HsrLinkRef where
  ceRefcnt : Nat
  lInfo : Nat
  deriving DecidableEq, Repr

abbrev LinkStore := Store HsrLinkRef FullHsrInfo

/-- `io_clone` of `hsr_info_ops`: there is none -/
def hsrIoClone : Option (LinkStore → HsrLinkRef → HsrLinkRef × LinkStore) := none

/-- `rtnl_link_hsr_alloc`, with `hsr_alloc` -/
def hsrLinkAlloc (s : LinkStore) : LinkStore := s.alloc (HsrLinkRef.mk 1) FullHsrInfo.zero

/-- `nl_object_clone`: all data are copied, also the pointer `l_info`; then `link_clone` calls
`io_clone`, if the kind has it -/
def nlLinkClone (s : LinkStore) (link : HsrLinkRef) : LinkStore :=
  let new := { link with ceRefcnt := 1 }
  match hsrIoClone with
  | none => s.share new
  | some ioClone =>
    let (new, s) := ioClone s new
    s.share new

/-- `rtnl_link_put`: the last reference frees the link, and `hsr_free` its info -/
def nlLinkPut (s : LinkStore) (i : Nat) (link : HsrLinkRef) : LinkStore :=
  let refcnt := link.ceRefcnt - 1
  if refcnt = 0 then (s.put i none).free link.lInfo
  else s.put i (some { link with ceRefcnt := refcnt })

/-- what a program does with HSR links; a link is told by its slot -/
inductive LinkOp where
  | hsrAlloc
  | clone (link : Nat)
  | setSlave1 (link : Nat) (id : UInt32)
  | setSlave2 (link : Nat) (id : UInt32)
  | setVersion (link : Nat) (version : UInt16)
  | put (link : Nat)
  deriving DecidableEq, Repr

/-- the change that a setter makes in the info of a link -/
def LinkOp.set : LinkOp → Option (Nat × (FullHsrInfo → FullHsrInfo))
  | .setSlave1 link id => some (link, fun vi =>
      { vi with slave1Id := id, viMask := vi.viMask ||| HSR_HAS_SLAVE1_ID })
  | .setSlave2 link id => some (link, fun vi =>
      { vi with slave2Id := id, viMask := vi.viMask ||| HSR_HAS_SLAVE2_ID })
  | .setVersion link version => some (link, fun vi =>
      { vi with viHsrVersion := version.toUInt8, viMask := vi.viMask ||| HSR_HAS_VERSION })
  | _ => none

/-- an operation; it needs a link that was not freed -/
def linkStep (s : LinkStore) (op : LinkOp) : Option LinkStore :=
  match op with
  | .hsrAlloc => some (hsrLinkAlloc s)
  | .clone i => (s.live i).map (nlLinkClone s)
  | .put i => (s.live i).map (nlLinkPut s i)
  | .setSlave1 i _ | .setSlave2 i _ | .setVersion i _ =>
    op.set.bind fun (_, f) => (s.live i).map fun link => s.update link.lInfo f

def linkRun (s : LinkStore) : List LinkOp → Option LinkStore
  | [] => some s
  | op :: ops => (linkStep s op).bind fun s => linkRun s ops

/-! ## reading a link -/

/-- `rtnl_link_hsr_get_slave1` -/
def hsrGetSlave1 (s : LinkStore) (i : Nat) : Option UInt32 :=
  (s.value HsrLinkRef.lInfo i).map fun vi => vi.slave1Id

/-- `rtnl_link_hsr_get_slave2` -/
def hsrGetSlave2 (s : LinkStore) (i : Nat) : Option UInt32 :=
  (s.value HsrLinkRef.lInfo i).map fun vi => vi.slave2Id

/-- `rtnl_link_hsr_get_version` -/
def hsrGetVersion (s : LinkStore) (i : Nat) : Option UInt8 :=
  (s.value HsrLinkRef.lInfo i).map fun vi =>
    if vi.has HSR_HAS_VERSION then vi.viHsrVersion else 0

/-- the two stores answer the same about a link -/
structure SameAnswers (s s' : LinkStore) (i : Nat) : Prop where
  slave1 : hsrGetSlave1 s' i = hsrGetSlave1 s i
  slave2 : hsrGetSlave2 s' i = hsrGetSlave2 s i
  version : hsrGetVersion s' i = hsrGetVersion s i

/-! ## runs -/

/-- every info has at most one link and was freed at most once, in all states; a setter changes no
answer about another link -/
def RunIndependent (s : LinkStore) : List LinkOp → Prop
  | [] => SingleOwners HsrLinkRef.lInfo s
  | op :: ops => SingleOwners HsrLinkRef.lInfo s ∧ ∀ s', linkStep s op = some s' →
      (∀ i f, op.set = some (i, f) → ∀ j ≠ i, SameAnswers s s' j) ∧ RunIndependent s' ops

def LinkOp.IsClone (op : LinkOp) : Prop := ∃ i, op = .clone i

section
variable {s s' : LinkStore} {op : LinkOp}

lemma linkStep_set {i : Nat} {f : FullHsrInfo → FullHsrInfo} (hset : op.set = some (i, f)) :
    linkStep s op = (s.live i).map fun link => s.update link.lInfo f := by
  cases op with
  | hsrAlloc => cases hset
  | clone => cases hset
  | put => cases hset
  | setSlave1 j id => cases hset; rfl
  | setSlave2 j id => cases hset; rfl
  | setVersion j version => cases hset; rfl

/-- **Every operation but the copy of a link keeps single owners.** -/
theorem linkStep_owned (h : Owned HsrLinkRef.lInfo s) (hop : ¬ op.IsClone)
    (hstep : linkStep s op = some s') : Owned HsrLinkRef.lInfo s' := by
  cases hset : op.set with
  | some change =>
    obtain ⟨i, f⟩ := change
    rw [linkStep_set hset] at hstep
    obtain ⟨link, -, rfl⟩ := Option.map_eq_some_iff.mp hstep
    exact owned_update h link.lInfo f
  | none =>
    cases op with
    | hsrAlloc =>
      obtain rfl := Option.some.inj hstep
      exact owned_alloc h (HsrLinkRef.mk 1) rfl FullHsrInfo.zero
    | clone i => exact absurd ⟨i, rfl⟩ hop
    | put i =>
      obtain ⟨link, hlink, rfl⟩ := Option.map_eq_some_iff.mp hstep
      rw [nlLinkPut]
      split
      · exact owned_release h hlink
      · exact owned_replace h hlink rfl
    | setSlave1 => cases hset
    | setSlave2 => cases hset
    | setVersion => cases hset

/-- where owners are single, a setter is not seen through another link -/
theorem linkStep_answers (h : SingleOwners HsrLinkRef.lInfo s) {i : Nat}
    {f : FullHsrInfo → FullHsrInfo} (hset : op.set = some (i, f))
    (hstep : linkStep s op = some s') {j : Nat} (hji : j ≠ i) : SameAnswers s s' j := by
  rw [linkStep_set hset] at hstep
  obtain ⟨link, hlink, rfl⟩ := Option.map_eq_some_iff.mp hstep
  have hvalue := value_update_ne h hlink hji f
  constructor
  · rw [hsrGetSlave1, hvalue, hsrGetSlave1]
  · rw [hsrGetSlave2, hvalue, hsrGetSlave2]
  · rw [hsrGetVersion, hvalue, hsrGetVersion]

theorem clone_not_owners {i : Nat} (hstep : linkStep s (.clone i) = some s') :
    ¬ SingleOwners HsrLinkRef.lInfo s' := by
  obtain ⟨link, hlink, rfl⟩ := Option.map_eq_some_iff.mp hstep
  exact not_owners_share hlink rfl

lemma RunIndependent.owners {ops : List LinkOp} (h : RunIndependent s ops) :
    SingleOwners HsrLinkRef.lInfo s := by
  cases ops with
  | nil => exact h
  | cons op ops => exact h.1

theorem runIndependent_of_no_clone {ops : List LinkOp} (h : Owned HsrLinkRef.lInfo s)
    (hops : ∀ op ∈ ops, ¬ op.IsClone) : RunIndependent s ops := by
  induction ops generalizing s with
  | nil => exact h.toSingleOwners
  | cons op ops ih =>
    refine ⟨h.toSingleOwners, fun s' hstep => ⟨fun i f hset j hji => ?_, ?_⟩⟩
    · exact linkStep_answers h.toSingleOwners hset hstep hji
    · have howned := linkStep_owned h (hops op List.mem_cons_self) hstep
      exact ih howned fun op' hop' => hops op' (List.mem_cons_of_mem op hop')

theorem no_clone_of_runIndependent {ops : List LinkOp} (hrun : linkRun s ops = some s')
    (h : RunIndependent s ops) : ∀ op ∈ ops, ¬ op.IsClone := by
  induction ops generalizing s with
  | nil => exact fun op hop => absurd hop List.not_mem_nil
  | cons op ops ih =>
    obtain ⟨s₁, hstep, hrest⟩ := Option.bind_eq_some_iff.mp hrun
    obtain ⟨-, hnext⟩ := h
    have hind := (hnext s₁ hstep).2
    intro op' hop'
    rcases List.mem_cons.mp hop' with rfl | hmem
    · rintro ⟨i, rfl⟩
      exact clone_not_owners hstep hind.owners
    · exact ih hrest hind op' hmem

/-- **HSR links are independent in a run iff it copies no link.** -/
theorem run_independent_iff {ops : List LinkOp} (hrun : linkRun Store.empty ops = some s') :
    RunIndependent Store.empty ops ↔ ∀ op ∈ ops, ¬ op.IsClone :=
  ⟨no_clone_of_runIndependent hrun, runIndependent_of_no_clone owned_empty⟩

end

/-- two links, both set, and one released -/
theorem run_independent_two_links :
    RunIndependent Store.empty
      [.hsrAlloc, .hsrAlloc, .setSlave1 0 2, .setVersion 1 1, .put 0, .setSlave2 1 3] := by
  refine (run_independent_iff rfl).mpr ?_
  rintro op hop ⟨i, rfl⟩
  simp at hop

/-- a link and its copy are both released, and the info is freed twice; a port that is set in the
link is the port of the copy -/
theorem clone_freed_twice :
    ¬ RunIndependent Store.empty [.hsrAlloc, .clone 0, .put 0, .put 1] ∧
      linkRun Store.empty [.hsrAlloc, .clone 0, .put 0, .put 1] =
        some ⟨[none, none], [⟨FullHsrInfo.zero, 2⟩]⟩ ∧
      (linkRun Store.empty [.hsrAlloc, .clone 0, .setSlave1 0 5]).bind (hsrGetSlave1 · 1) =
        some 5 := by
  refine ⟨fun h => ?_, rfl, rfl⟩
  exact no_clone_of_runIndependent rfl h (.clone 0) (by decide) ⟨0, rfl⟩

end Nl
