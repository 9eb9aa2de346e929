import ConfdbHsr.Lib.Run
import ConfdbHsr.Daemon.Scenario
import Mathlib.Algebra.Group.Int.Defs
import Mathlib.Data.List.Nodup

/-!
# The list of tracked interfaces

`change_interface_list` keeps an array and a signed counter.  The test for a negative index never
holds, and the removal of an id stands in the branch for ids that are not in the list.

* `IsSet`               the counter counts the array, and no id is in it twice;
* `SetStep`             what a call that edits a set does;
* `AddsResolved`        the call adds a name that resolves, and the counter has room;
* `setStep_iff`         on a set, a call edits it as a set iff it is such a call;
* `tracked_set_iff`     a run of calls edits a set throughout iff all its calls are such calls.
-/

namespace Hsr
open Nl Proc Machine

/-- a call of `change_interface_list`, with the links that its dump reports -/
structure ListCall where
  interfaceName : CStr
  isAdd : Bool
  linkCache : List LinkObj
  deriving DecidableEq, Repr

/-- the link that the name of a call resolves to -/
def ListCall.link (call : ListCall) : Option LinkObj :=
  rtnlLinkGetByName call.linkCache call.interfaceName

section
variable {W : Type}

def ListCall.run (call : ListCall) (app : HsrModule) : Op W (Int × HsrModule) :=
  trackInterface app call.interfaceName call.isAdd call.linkCache

/-- one call after the other -/
def listStep (app : HsrModule) (call : ListCall) : Op W HsrModule := do
  let (_, app) ← call.run app
  pure app

/-- the counter is an `int` that counts the ids of the array, which are distinct -/
structure IsSet (app : HsrModule) : Prop where
  size : app.interfacesSize = app.interfaces.length
  int : app.interfacesSize < 2 ^ 31
  nodup : app.interfaces.Nodup

/-- a call that edits a set: every write is inside the array; the id of a name that resolves is a
member afterwards iff the call is an addition, and no other id is touched; a name that does not
resolve is refused -/
structure SetStep (call : ListCall) (app : HsrModule)
    (out : Out Fault W Act (Int × HsrModule)) : Prop where
  stores : ∀ idx len, Act.interfacesStore idx len ∈ out.acts → 0 ≤ idx ∧ idx < len
  ends : ∃ ret app', out.val = .ok (ret, app') ∧ IsSet app' ∧
    match call.link with
    | some link => ∀ id, findInterface app' id =
        if id = link.lIndex then call.isAdd else findInterface app id
    | none => app' = app ∧ ret < 0

/-- the call adds a name that resolves, and the counter can count one id more or need not -/
def AddsResolved (call : ListCall) (app : HsrModule) : Prop :=
  call.isAdd = true ∧ ∃ link, call.link = some link ∧
    (findInterface app link.lIndex = true ∨ app.interfacesSize + 1 < 2 ^ 31)

/-! ## one call -/

lemma findInterface_iff {app : HsrModule} (h : app.interfacesSize = app.interfaces.length)
    (id : UInt32) : findInterface app id = true ↔ id ∈ app.interfaces := by
  rw [findInterface, h, Int.toNat_natCast, List.any_eq_true]
  constructor
  · rintro ⟨i, hi, heq⟩
    rw [List.mem_range] at hi
    rw [List.getElem?_eq_getElem hi, Option.getD_some, beq_iff_eq] at heq
    rw [← heq]
    exact List.getElem_mem hi
  · intro hmem
    obtain ⟨i, hi, heq⟩ := List.getElem_of_mem hmem
    refine ⟨i, List.mem_range.mpr hi, ?_⟩
    rw [List.getElem?_eq_getElem hi, Option.getD_some, heq]
    exact beq_self_eq_true id

/-- on a list whose counter is right, an addition appends the id -/
lemma addInterface_eq {app : HsrModule} (h : app.interfacesSize = app.interfaces.length)
    (id : UInt32) (w : W) :
    addInterface app id w = ⟨.ok { app with
      interfacesSize := app.interfacesSize + 1
      interfaces := app.interfaces ++ [id] }, w,
      [.interfacesStore app.interfacesSize (app.interfaces.length + 1)]⟩ := by
  have hsize : app.interfacesSize + 1 = (app.interfaces.length + 1 : Nat) := by
    rw [h]
    push_cast
    rfl
  have hgrow : reallocArray app.interfaces (app.interfacesSize + 1) = app.interfaces ++ [0] := by
    rw [hsize, reallocArray, if_neg (by omega), Int.toNat_natCast,
      List.take_of_length_le (by omega), Nat.add_sub_cancel_left]
    rfl
  have hidx : app.interfacesSize + 1 - 1 = (app.interfaces.length : Nat) := by omega
  have hset : (app.interfaces ++ [0]).set app.interfaces.length id = app.interfaces ++ [id] := by
    rw [List.set_append_right _ _ le_rfl, Nat.sub_self]
    rfl
  rw [addInterface]
  have hin : 0 ≤ (app.interfaces.length : Int) ∧
      (app.interfaces.length : Int) < (app.interfaces ++ [0]).length := by
    rw [List.length_append, List.length_singleton]
    omega
  simp only [storeInterface, hgrow, hidx, bind_apply, emit_apply, thenRun_ok]
  rw [if_pos hin, Int.toNat_natCast, hset, h]
  simp

lemma name2i_of_link {call : ListCall} {link : LinkObj} (h : call.link = some link) :
    rtnlLinkName2i call.linkCache call.interfaceName = link.lIndex := by
  have hname : rtnlLinkGetByName call.linkCache call.interfaceName = some link := h
  rw [rtnlLinkName2i, hname]

/-- the module with one id more -/
def HsrModule.track (app : HsrModule) (id : UInt32) : HsrModule :=
  { app with interfaces := app.interfaces ++ [id], interfacesSize := app.interfacesSize + 1 }

/-- what a call does to a list whose counter is right: the edits, of either kind, are made only for
an id that is not in the list -/
lemma listCall_run_eq (call : ListCall) {app : HsrModule}
    (h : app.interfacesSize = app.interfaces.length) (w : W) :
    call.run app w =
      if findInterface app (rtnlLinkName2i call.linkCache call.interfaceName) then
        ⟨.ok (0, app), w, []⟩
      else if call.isAdd then
        ⟨.ok (0, app.track (rtnlLinkName2i call.linkCache call.interfaceName)), w,
          [.interfacesStore app.interfacesSize (app.interfaces.length + 1)]⟩
      else ⟨.ok (0, deleteInterface app), w, []⟩ := by
  rw [ListCall.run, trackInterface]
  split
  · rfl
  · split
    · rw [bind_apply, addInterface_eq h, thenRun_ok, pure_apply]
      rfl
    · rfl

lemma IsSet.track {app : HsrModule} (h : IsSet app) {id : UInt32}
    (hnew : findInterface app id = false) (hint : app.interfacesSize + 1 < 2 ^ 31) :
    IsSet (app.track id) := by
  refine ⟨?_, hint, ?_⟩
  · rw [HsrModule.track, h.size, List.length_append, List.length_singleton]
    push_cast
    rfl
  · have hmem : id ∉ app.interfaces := by
      intro hmem
      rw [(findInterface_iff h.size id).mpr hmem] at hnew
      cases hnew
    exact h.nodup.append (List.nodup_singleton id) (by simpa using hmem)

lemma findInterface_track {app : HsrModule} {id : UInt32} (h : IsSet app)
    (h' : IsSet (app.track id)) (id' : UInt32) :
    findInterface (app.track id) id' = if id' = id then true else findInterface app id' := by
  have hiff : findInterface (app.track id) id' = true ↔ findInterface app id' = true ∨ id' = id := by
    rw [findInterface_iff h'.size, findInterface_iff h.size, HsrModule.track, List.mem_append,
      List.mem_singleton]
  rw [Bool.eq_iff_iff]
  split
  · rename_i heq
    simpa [heq] using hiff
  · rename_i hne
    simpa [hne] using hiff

/-- a removal leaves an array that is longer than the counter says -/
lemma not_isSet_deleteInterface {app : HsrModule} (h : IsSet app) :
    ¬ IsSet (deleteInterface app) := by
  intro hset
  have hsize : app.interfacesSize - 1 =
      (reallocArray app.interfaces app.interfacesSize).length := hset.size
  rw [reallocArray, h.size, if_neg (by omega), Int.toNat_natCast, List.take_length, Nat.sub_self,
    List.replicate_zero, List.append_nil] at hsize
  omega

lemma SetStep.addsResolved {call : ListCall} {app : HsrModule} {w : W} (hset : IsSet app)
    (h : SetStep call app (call.run app w)) : AddsResolved call app := by
  obtain ⟨-, ret, app', hval, hset', hlink⟩ := h
  rw [listCall_run_eq call hset.size] at hval
  cases hl : call.link with
  | none =>
    rw [hl] at hlink
    have hret : ret = 0 := by
      split at hval
      · cases hval; rfl
      · split at hval
        · cases hval; rfl
        · cases hval; rfl
    omega
  | some link =>
    rw [hl] at hlink
    rw [name2i_of_link hl] at hval
    split at hval
    · rename_i hfound
      cases hval
      have hadd := hlink link.lIndex
      rw [if_pos rfl, hfound] at hadd
      exact ⟨hadd.symm, link, hl, .inl hfound⟩
    · split at hval
      · rename_i hadd
        cases hval
        exact ⟨hadd, link, hl, .inr hset'.int⟩
      · cases hval
        exact absurd hset' (not_isSet_deleteInterface hset)

lemma AddsResolved.setStep {call : ListCall} {app : HsrModule} (hset : IsSet app)
    (h : AddsResolved call app) (w : W) : SetStep call app (call.run app w) := by
  obtain ⟨hadd, link, hl, hroom⟩ := h
  rw [listCall_run_eq call hset.size, name2i_of_link hl, hadd]
  cases hfound : findInterface app link.lIndex with
  | true =>
    refine ⟨by simp, 0, app, rfl, hset, ?_⟩
    rw [hl, hadd]
    intro id
    split
    · rename_i heq
      rw [heq, hfound]
    · rfl
  | false =>
    have hint : app.interfacesSize + 1 < 2 ^ 31 := by
      rcases hroom with hroom | hroom
      · rw [hfound] at hroom
        cases hroom
      · exact hroom
    have htrack := hset.track hfound hint
    refine ⟨?_, 0, app.track link.lIndex, rfl, htrack, ?_⟩
    · intro idx len hmem
      have hsize := hset.size
      cases List.mem_singleton.mp hmem
      omega
    · rw [hl, hadd]
      exact findInterface_track hset htrack

/-- **On a set, a call edits it as a set iff it adds a name that resolves.** -/
theorem setStep_iff (call : ListCall) {app : HsrModule} (h : IsSet app) (w : W) :
    SetStep call app (call.run app w) ↔ AddsResolved call app :=
  ⟨fun hstep => hstep.addsResolved h, fun hcall => hcall.setStep h w⟩

/-! ## runs -/

lemma listStep_val (app : HsrModule) (call : ListCall) (w : W) :
    (listStep app call w).val = (call.run app w).val.map Prod.snd :=
  map_val (call.run app) Prod.snd w

lemma SetStep.isSet {call : ListCall} {app app' : HsrModule} {w : W}
    (h : SetStep call app (call.run app w)) (hstep : (listStep app call w).val = .ok app') :
    IsSet app' := by
  obtain ⟨-, ret, app'', hval, hset, -⟩ := h
  rw [listStep_val, hval] at hstep
  cases hstep
  exact hset

lemma isSet_init : IsSet HsrModule.init := ⟨rfl, by decide, List.nodup_nil⟩

/-- **A run of calls edits a set throughout iff every one of them adds a name that resolves.** -/
theorem tracked_set_iff (calls : List ListCall) (w : W) :
    Along listStep HsrModule.init w calls
        (fun h => SetStep h.input h.pre (h.input.run h.pre h.world)) ↔
      Along listStep HsrModule.init w calls fun h => AddsResolved h.input h.pre := by
  have hset := isSet_init
  revert hset
  generalize HsrModule.init = app
  intro hset
  induction calls generalizing app w with
  | nil => simp
  | cons call calls ih =>
    rw [along_cons, along_cons, setStep_iff call hset w]
    refine and_congr_right fun hcall => forall_congr' fun app' => imp_congr_right fun hstep => ?_
    exact ih _ app' (((setStep_iff call hset w).mpr hcall).isSet hstep)

end

/-- a device that is added and then removed, by the same name and with the same links, is still
in the list -/
theorem tracked_set_delete :
    ¬ Along (listStep (W := Unit)) HsrModule.init ()
      [⟨cs "hsr0", true, [hsrDevice 5 (cs "hsr0") 2 3]⟩,
        ⟨cs "hsr0", false, [hsrDevice 5 (cs "hsr0") 2 3]⟩]
      fun h => SetStep h.input h.pre (h.input.run h.pre h.world) := by
  intro h
  have hdelete := (along_cons.mp ((along_cons.mp h).2 ⟨[], [5], 1⟩ rfl)).1
  obtain ⟨-, ret, app', hval, -, hlink⟩ := hdelete
  obtain rfl : (⟨[], [5], 1⟩ : HsrModule) = app' := (Prod.mk.inj (Except.ok.inj hval)).2
  have hfive : findInterface ⟨[], [5], 1⟩ 5 = if (5 : UInt32) = 5 then false else _ := hlink 5
  exact absurd hfive (by decide)

end Hsr
