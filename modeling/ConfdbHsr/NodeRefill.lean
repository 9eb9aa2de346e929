import ConfdbHsr.Daemon.NodeCaches
import ConfdbHsr.Lib.Run

/-!
# Refilling caches of nodes

* `CacheCall`, `cacheStep`   a program builds caches of nodes and refills them, in any order;
* `AsksOwn`                  a refill asks for the interfaces that its cache was built from;
* `refills_iff`              in a run all of them do iff each refilled cache was built from just the
                             interface to which `add_interface_ifindex` was set last;
* `refill_after_build`       as when nothing is built in between.
-/

namespace Hsr.NodeCaches
open Nl Proc Machine

/-- a cache of nodes, and the interfaces that it was built from -/
structure BuiltCache where
  interfaces : List UInt32
  items : List HsrNode

/-- a call of the library, with what the kernel answers meanwhile; caches are told by their
number -/
inductive CacheCall where
  | allocCache (kernel : UInt32 → Reply) (linkCache : List LinkObj)
  | allocCacheForInterface (kernel : UInt32 → Reply) (ifindex : Int32)
  | refill (kernel : UInt32 → Reply) (cache : Nat)

/-- one call; a cache that cannot be built is not kept -/
def cacheStep (caches : List BuiltCache) : CacheCall → NodeOp (List BuiltCache)
  | .allocCache kernel linkCache => do
    let (ret, items) ← hnodeAllocCache kernel linkCache
    pure (if ret < 0 then caches else caches ++ [⟨hsrIfindexes linkCache, items⟩])
  | .allocCacheForInterface kernel ifindex => do
    let filled ← hnodeAllocCacheForInterface kernel ifindex
    match filled with
    | .error _ => pure caches
    | .ok items => pure (caches ++ [⟨[ifindex.toUInt32], items⟩])
  | .refill kernel k =>
    match caches[k]? with
    | none => pure caches
    | some cache => do
      let (_, items) ← nlCacheRefill kernel
      pure (caches.set k { cache with items := items })

abbrev HandledCall := Handled Fault HnodeVars GetNodeList (List BuiltCache) CacheCall

/-- all of these interfaces are asked for, and no other -/
structure Asks (interfaces : List UInt32) (requests : List GetNodeList) : Prop where
  all : ∀ ifindex ∈ interfaces, ⟨ifindex⟩ ∈ requests
  only : ∀ request ∈ requests, request.hsrAIfindex ∈ interfaces

/-- a refill asks for the interfaces of its cache -/
def AsksOwn (h : HandledCall) : Prop :=
  ∀ kernel k cache, h.input = .refill kernel k → h.pre[k]? = some cache →
    Asks cache.interfaces h.out.acts

/-- the cache of a refill was built from an interface, and from none but the one that the variable
was set to last -/
def LastSet (h : HandledCall) : Prop :=
  ∀ kernel k cache, h.input = .refill kernel k → h.pre[k]? = some cache →
    cache.interfaces ≠ [] ∧ ∀ ifindex ∈ cache.interfaces, ifindex = h.world.addInterfaceIfindex

section
variable {caches : List BuiltCache} {kernel : UInt32 → Reply} {k : Nat} {cache : BuiltCache}

lemma refill_acts (hk : caches[k]? = some cache) (vars : HnodeVars) (ifindex : UInt32) :
    ⟨ifindex⟩ ∈ (cacheStep caches (.refill kernel k) vars).acts ↔
      ifindex = vars.addInterfaceIfindex := by
  have hspec : SpecIn (At vars) (cacheStep caches (.refill kernel k))
      fun _ l => AsksFor vars l := by
    rw [cacheStep, hk]
    refine specIn_bind (nlCacheRefill_spec vars kernel) (fun _ _ h => h) fun a l hl => ?_
    refine specIn_pure ?_
    rw [List.append_nil]
    exact hl
  exact mem_asksFor vars (hspec vars rfl).2 ifindex

end

/-- in a run, a refill asks for the interfaces of its cache iff that is the one in the variable -/
lemma asksOwn_iff {h : HandledCall} (hout : h.out = cacheStep h.pre h.input h.world) :
    AsksOwn h ↔ LastSet h := by
  refine forall₅_congr fun kernel k cache hinput hk => ?_
  have hmem (ifindex : UInt32) : ⟨ifindex⟩ ∈ h.out.acts ↔ ifindex = h.world.addInterfaceIfindex := by
    rw [hout, hinput]
    exact refill_acts hk h.world ifindex
  constructor
  · intro hasks
    refine ⟨?_, fun ifindex hown => (hmem ifindex).mp (hasks.all ifindex hown)⟩
    -- a cache that was built from nothing asks for the one in the variable, too
    exact List.ne_nil_of_mem (hasks.only _ ((hmem h.world.addInterfaceIfindex).mpr rfl))
  · rintro ⟨hne, hlast⟩
    refine ⟨fun ifindex hown => (hmem ifindex).mpr (hlast ifindex hown), fun request hreq => ?_⟩
    obtain ⟨ifindex, hown⟩ := List.exists_mem_of_ne_nil _ hne
    have hindex : request.hsrAIfindex = ifindex :=
      ((hmem request.hsrAIfindex).mp hreq).trans (hlast ifindex hown).symm
    rw [hindex]
    exact hown

/-- **Every refill of a run asks for the interfaces of its cache iff each cache that is refilled
was built from the interface to which the variable was set last, and from no other.** -/
theorem refills_iff (calls : List CacheCall) (vars : HnodeVars) :
    Along cacheStep [] vars calls AsksOwn ↔ Along cacheStep [] vars calls LastSet := by
  have hout := along_out cacheStep [] vars calls
  constructor
  · intro h
    exact (h.and hout).mono fun r hr => (asksOwn_iff hr.2).mp hr.1
  · intro h
    exact (h.and hout).mono fun r hr => (asksOwn_iff hr.2).mpr hr.1

/-- a kernel that knows no nodes -/
def noNodes (_ : UInt32) : Reply := ⟨[], ⟨[], 0⟩, ⟨[], 0⟩, by decide⟩

/-- a cache for the interface 1, one for the interface 2, and a refill of the first: it asks for
the interface 2 -/
theorem refill_asks_other :
    ¬ Along cacheStep [] ⟨0⟩ [.allocCacheForInterface noNodes 1, .allocCacheForInterface noNodes 2,
      .refill noNodes 0] AsksOwn := by
  intro h
  have h₁ := (along_cons.mp h).2 [⟨[1], []⟩] rfl
  have h₂ := (along_cons.mp h₁).2 [⟨[1], []⟩, ⟨[2], []⟩] rfl
  have hasks := (along_cons.mp h₂).1 noNodes 0 ⟨[1], []⟩ rfl rfl
  have hone := hasks.all 1 List.mem_cons_self
  revert hone
  decide

/-! ## a refill right after the cache was built -/

section
variable {caches caches' : List BuiltCache} {kernel : UInt32 → Reply} {ifindex : Int32}
  {vars : HnodeVars}

lemma build_sets
    (hval : (cacheStep caches (.allocCacheForInterface kernel ifindex) vars).val = .ok caches')
    (hnew : caches' ≠ caches) :
    (∃ items, caches' = caches ++ [⟨[ifindex.toUInt32], items⟩]) ∧
      (cacheStep caches (.allocCacheForInterface kernel ifindex) vars).world =
        ⟨ifindex.toUInt32⟩ := by
  rw [cacheStep, bind_apply] at hval ⊢
  by_cases hneg : ifindex < 1
  · rw [hnodeAllocCacheForInterface, if_pos hneg] at hval
    exact absurd (Except.ok.inj hval).symm hnew
  · have hfill : SpecIn (At ⟨ifindex.toUInt32⟩) (nlCacheAllocAndFill kernel) fun _ _ => True :=
      specIn_bind (nlCacheRefill_spec _ kernel) (fun _ _ _ => trivial)
        fun _ _ _ => specIn_pure trivial
    have hrun : hnodeAllocCacheForInterface kernel ifindex vars =
        nlCacheAllocAndFill kernel ⟨ifindex.toUInt32⟩ := by
      rw [hnodeAllocCacheForInterface, if_neg hneg]
      rfl
    obtain ⟨hworld, -⟩ := hfill ⟨ifindex.toUInt32⟩ rfl
    rw [hrun] at hval ⊢
    cases hout : nlCacheAllocAndFill kernel ⟨ifindex.toUInt32⟩ with
    | mk filled world acts =>
      rw [hout] at hworld hval
      cases filled with
      | error fault => cases hval
      | ok filled =>
        cases filled with
        | error err => exact absurd (Except.ok.inj hval).symm hnew
        | ok items => exact ⟨⟨items, (Except.ok.inj hval).symm⟩, hworld⟩

/-- **A cache that was just built for an interface is refilled from it.** -/
theorem refill_after_build
    (hval : (cacheStep caches (.allocCacheForInterface kernel ifindex) vars).val = .ok caches')
    (hnew : caches' ≠ caches) (kernel' : UInt32 → Reply) (asked : UInt32) :
    ⟨asked⟩ ∈ (cacheStep caches' (.refill kernel' caches.length)
        (cacheStep caches (.allocCacheForInterface kernel ifindex) vars).world).acts ↔
      asked = ifindex.toUInt32 := by
  obtain ⟨⟨items, rfl⟩, hworld⟩ := build_sets hval hnew
  rw [hworld]
  exact refill_acts (List.getElem?_concat_length) _ asked

end

end Hsr.NodeCaches
