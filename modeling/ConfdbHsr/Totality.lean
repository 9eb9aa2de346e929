import ConfdbHsr.Daemon.Attempts
import ConfdbHsr.Daemon.Scenario

/-!
# Absent kinds, masters and lower links

No notification should make a handler pass a missing kind, name or link to `strcmp`,
`rtnl_link_get_name` or `rtnl_link_get_type`.

* `NullFree`, `Guarded`   the property of one outcome, and the condition on the notification and the
                     managed cache;
* `null_free_iff`    they agree, for every wait list, cache, notification and kernel;
* `physical_port_crashes`   the notification of a port without a kind.

`link_changed_handler` replaces a missing kind of the link by the empty string;
`link_new_handler` and `link_deleted_handler` compare it as it is, and so is the kind of the old
master compared.  `link_new_handler` takes the lower link of an HSR device to be in the cache.
-/

namespace Hsr
open Nl Proc Scan

/-- a crash on an absent kind, name or link in `strcmp`, `rtnl_link_get_name` or
`rtnl_link_get_type` -/
def Fault.OnAbsent (fault : Fault) : Prop :=
  fault = .nullStrcmp ∨ fault = .nullGetName ∨ fault = .nullGetType

variable {W : Type}

def NullFree {α : Type} (out : Out Fault W Act α) : Prop :=
  ∀ fault, out.val = .error fault → ¬ fault.OnAbsent

/-- what the handlers take for granted about a notification and the cache -/
def Guarded (cache : List LinkObj) : Note LinkObj → Prop
  -- a kind, and for an HSR device a lower link in the cache
  | .new n => n.isEther = true → n.lInfoKind.isSome = true ∧
      (n.isHsr = true → (rtnlLinkGet cache n.lLink).isSome = true)
  | .del o => o.isEther = true → o.lInfoKind.isSome = true
  -- a kind of the master that a link other than an HSR device is released from
  | .change o n _ => o.isEther = true → o.isHsr = false → ∀ M,
      rtnlLinkGet cache o.lMaster = some M → rtnlLinkGet cache n.lMaster = none →
        M.lInfoKind.isSome = true

/-! ## reactions -/

def Reaction.Crashes : Reaction → Prop
  | .crash _ => True
  | _ => False

lemma byKind_crashes (link : LinkObj) (notHsr hsr : Reaction) :
    (byKind link notHsr hsr).Crashes ↔ link.lInfoKind.isSome = false ∨
      (link.isHsr = true ∧ hsr.Crashes) ∨
      (link.lInfoKind.isSome = true ∧ link.isHsr = false ∧ notHsr.Crashes) := by
  unfold byKind RtnlLink.isHsr
  cases link.lInfoKind with
  | none => simp [Reaction.Crashes]
  | some kind => by_cases h : kind = cs "hsr" <;> simp [h]

theorem reaction_crashes_iff (cache : List LinkObj) (note : Note LinkObj) :
    (reaction cache note).Crashes ↔ ¬ Guarded cache note := by
  cases note with
  | new n =>
    show (newReaction cache n).Crashes ↔ ¬ (n.isEther = true → n.lInfoKind.isSome = true ∧
      (n.isHsr = true → (rtnlLinkGet cache n.lLink).isSome = true))
    unfold newReaction
    cases n.isEther with
    | false => simp [Reaction.Crashes]
    | true =>
      rw [if_pos rfl, byKind_crashes]
      cases rtnlLinkGet cache n.lLink <;> cases n.lInfoKind.isSome <;> cases n.isHsr <;>
        simp [Reaction.Crashes]
  | del o =>
    show (delReaction o).Crashes ↔ ¬ (o.isEther = true → o.lInfoKind.isSome = true)
    unfold delReaction
    cases o.isEther with
    | false => simp [Reaction.Crashes]
    | true =>
      rw [if_pos rfl, byKind_crashes]
      simp [Reaction.Crashes]
  | change o n d =>
    show (changeReaction cache o n).Crashes ↔ ¬ (o.isEther = true → o.isHsr = false → ∀ M,
      rtnlLinkGet cache o.lMaster = some M → rtnlLinkGet cache n.lMaster = none →
        M.lInfoKind.isSome = true)
    unfold changeReaction
    cases o.isEther with
    | false => simp [Reaction.Crashes]
    | true =>
      cases o.isHsr with
      | true => simp [Reaction.Crashes]
      | false =>
        simp only [Bool.not_false, Bool.and_true, if_true]
        cases rtnlLinkGet cache o.lMaster with
        | none => cases rtnlLinkGet cache n.lMaster <;> simp [Reaction.Crashes]
        | some M =>
          cases rtnlLinkGet cache n.lMaster with
          | some _ => simp [Reaction.Crashes]
          | none =>
            dsimp only
            rw [byKind_crashes]
            simp [Reaction.Crashes]

lemma reaction_crash_onAbsent (cache : List LinkObj) (note : Note LinkObj) {fault : Fault}
    (h : reaction cache note = .crash fault) : fault.OnAbsent := by
  cases note with
  | new n =>
    rcases newReaction_cases cache n with hr | hr | ⟨slave, -, -, hr⟩ | ⟨fault', hf, hr⟩
    · cases hr.symm.trans h
    · cases hr.symm.trans h
    · cases hr.symm.trans h
    · obtain rfl := Reaction.crash.inj (hr.symm.trans h)
      exact hf.imp id .inl
  | del o =>
    rcases delReaction_cases o with hr | hr | hr | hr
    · cases hr.symm.trans h
    · cases hr.symm.trans h
    · cases hr.symm.trans h
    · exact .inl (Reaction.crash.inj (h.symm.trans hr))
  | change o n d =>
    rcases changeReaction_cases cache o n with hr | hr | ⟨M, -, hr | hr | hr⟩
    · cases hr.symm.trans h
    · cases hr.symm.trans h
    · cases hr.symm.trans h
    · cases hr.symm.trans h
    · exact .inl (Reaction.crash.inj (h.symm.trans hr))

/-! ## the faults of an attempt -/

section
variable (S : Sys W)

/-- a fault other than those on absent kinds, names and links -/
abbrev Elsewhere (fault : Fault) : Prop := ¬ fault.OnAbsent

lemma createHsrInterface_faults (ifName : CStr) (slave1 slave2 : Option LinkObj)
    (version : UInt8) :
    Faults Elsewhere (createHsrInterface S ifName slave1 slave2 version) := by
  have hderef : ∀ slave : Option LinkObj,
      Faults Elsewhere (deref .nullGetIfindex slave : Op W LinkObj) := by
    intro slave
    cases slave with
    | none => exact faults_fail (by simp [Elsewhere, Fault.OnAbsent])
    | some s => exact faults_pure s
  refine faults_bind (hderef _) fun s1 => faults_bind (hderef _) fun s2 => ?_
  refine faults_bind (faults_sys _) fun ret => ?_
  exact faults_bind (faults_emit _) fun _ => faults_pure _

lemma createHif_faults (node : WaitListNode) : Faults Elsewhere (createHif S node) := by
  refine faults_bind (faults_emit _) fun _ => ?_
  refine faults_bind ?_ fun _ => faults_pure _
  have hunset : Faults Elsewhere (putUnset : Op W Int) :=
    faults_fail (by simp [Elsewhere, Fault.OnAbsent])
  refine faults_bind (faults_sys _) fun ret => faults_ite (fun _ => hunset) fun _ => ?_
  refine faults_bind (faults_sys _) fun ⟨ret, links⟩ => ?_
  refine faults_ite (fun _ => hunset) fun _ => ?_
  unfold createOrRecreate
  split
  · exact createHsrInterface_faults S _ _ _ _
  · refine faults_bind ?_ fun ret => ?_
    · refine faults_bind ?_ fun _ => faults_pure _
      exact faults_bind (faults_sys _) fun ret =>
        faults_bind (faults_emit _) fun _ => faults_pure _
    · exact faults_ite (fun _ => faults_pure _) fun _ => createHsrInterface_faults S _ _ _ _

lemma react_faults (waitList : List WaitListNode) {r : Reaction} (hr : ¬ r.Crashes) :
    Faults Elsewhere (react S waitList r) := by
  rcases react_tries S waitList r with ⟨fault, rfl⟩ | htries
  · exact absurd trivial hr
  · exact htries.holds faults_pure fun node edit => faults_map (createHif_faults S node) edit

end

/-! ## every notification -/

/-- **Totality of the link notifications.**  For every wait list, every content of the managed
cache, every notification and every kernel, handling the notification is free of crashes on an
absent kind, name or link exactly when the notification is guarded. -/
theorem null_free_iff (S : Sys W) (waitList : List WaitListNode) (cache : List LinkObj)
    (note : Note LinkObj) (w : W) :
    NullFree (routeLinkCacheChangeCb S waitList cache note w) ↔ Guarded cache note := by
  have hiff := reaction_crashes_iff cache note
  rw [routeLinkCacheChangeCb_eq]
  constructor
  · intro hfree
    by_contra hguard
    have hcrash := hiff.mpr hguard
    cases hr : reaction cache note with
    | crash fault =>
      rw [hr] at hfree
      exact hfree fault rfl (reaction_crash_onAbsent cache note hr)
    | _ =>
      rw [hr] at hcrash
      exact hcrash
  · intro hguard fault hfault
    exact react_faults S waitList (fun hc => hiff.mp hc hguard) w fault hfault

/-! ## a notification that crashes

A physical Ethernet port comes without `IFLA_LINKINFO`.  When one appears, `cache_include` delivers
`NEW`, whatever the objects of the cache compare. -/

def physicalPort : LinkObj := etherLink 2 (cs "eth0") none 0 0

theorem physical_port_crashes :
    linkMsgParser ⟨AF_UNSPEC, ARPHRD_ETHER, 2, 0, 0⟩ ⟨some (cs "eth0"), none, none, none, none, none⟩ =
      .ok physicalPort ∧
    (∀ ops : ObjectOps LinkObj,
      ops.cacheInclude [] physicalPort .new = ([physicalPort], [.new physicalPort])) ∧
    ¬ ∀ (W : Type) (S : Sys W) (waitList : List WaitListNode) (cache : List LinkObj)
      (note : Note LinkObj) (w : W), NullFree (routeLinkCacheChangeCb S waitList cache note w) := by
  refine ⟨by decide, fun ops => rfl, fun h => ?_⟩
  have hfree := h Unit (staticSys [physicalPort]) [] [physicalPort] (.new physicalPort) ()
  exact hfree .nullStrcmp rfl (.inl rfl)

end Hsr
