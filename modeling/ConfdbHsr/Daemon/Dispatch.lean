import ConfdbHsr.Daemon.Reaction
import ConfdbHsr.Libnl.LinkTable

/-!
# The reactions to the messages of a kernel

Where the links of the cache are well formed, the lookups of the handlers in the cache are decided
by the notified link alone.

* `newReaction_eq`, `delReaction_eq`, `changeReaction_eq`   what a notification that does not
                 crash the daemon leads to.
-/

namespace Hsr
open Nl

lemma byKind_eq {link : LinkObj} {notHsr hsr : Reaction}
    (hc : ∀ fault, byKind link notHsr hsr ≠ .crash fault) :
    link.lInfoKind ≠ none ∧ ((link.isHsr = true ∧ byKind link notHsr hsr = hsr) ∨
      (link.isHsr = false ∧ byKind link notHsr hsr = notHsr)) := by
  constructor
  · intro hkind
    apply hc .nullStrcmp
    rw [byKind, hkind]
  · rcases byKind_cases link notHsr hsr with h | h | h
    · exact absurd h (hc _)
    · exact .inl h
    · exact .inr h

lemma newReaction_eq {cache : List LinkObj} {L : LinkObj}
    (hc : ∀ fault, newReaction cache L ≠ .crash fault) :
    (L.isEther = false ∧ newReaction cache L = .idle) ∨
      (L.isEther = true ∧ L.lInfoKind ≠ none ∧
        ((L.isHsr = false ∧ newReaction cache L = .newLink L) ∨
          (L.isHsr = true ∧ ∃ slave, rtnlLinkGet cache L.lLink = some slave ∧
            newReaction cache L = .gotBusy slave))) := by
  unfold newReaction at hc ⊢
  cases he : L.isEther with
  | false => exact .inl ⟨rfl, rfl⟩
  | true =>
    rw [he, if_pos rfl] at hc
    rw [if_pos rfl]
    obtain ⟨hkind, ⟨hhsr, h⟩ | ⟨hhsr, h⟩⟩ := byKind_eq hc
    · refine .inr ⟨rfl, hkind, .inr ⟨hhsr, ?_⟩⟩
      rw [h] at hc
      rw [h]
      cases hl : rtnlLinkGet cache L.lLink with
      | none =>
        rw [hl] at hc
        exact absurd rfl (hc .nullGetName)
      | some slave => exact ⟨slave, rfl, rfl⟩
    · exact .inr ⟨rfl, hkind, .inl ⟨hhsr, h⟩⟩

lemma delReaction_eq {o : LinkObj} (hc : ∀ fault, delReaction o ≠ .crash fault) :
    (o.isEther = false ∧ delReaction o = .idle) ∨
      (o.isEther = true ∧ o.lInfoKind ≠ none ∧
        ((o.isHsr = false ∧ delReaction o = .linkDeleted o) ∨
          (o.isHsr = true ∧ delReaction o = .hsrLinkDeleted o))) := by
  unfold delReaction at hc ⊢
  cases he : o.isEther with
  | false => exact .inl ⟨rfl, rfl⟩
  | true =>
    rw [he, if_pos rfl] at hc
    rw [if_pos rfl]
    obtain ⟨hkind, h⟩ := byKind_eq hc
    exact .inr ⟨rfl, hkind, h.symm⟩

/-! ## lookups of masters -/

lemma rtnlLinkGet_zero {links : List LinkObj} (h : WellFormed links) :
    rtnlLinkGet links 0 = none := by
  refine List.find?_eq_none.mpr fun link hlink => ?_
  simpa using h.index_ne link hlink

lemma rtnlLinkGet_some {links : List LinkObj} {link : LinkObj} (h : link ∈ links) :
    ∃ M, rtnlLinkGet links link.lIndex = some M := by
  rw [← Option.isSome_iff_exists]
  exact List.find?_isSome.mpr ⟨link, h, by simp⟩

/-- a change leads to nothing; or the link got a master; or it lost its one -/
def ChangeCases (cache : List LinkObj) (o L : LinkObj) : Prop :=
  (changeReaction cache o L = .idle ∧
      (o.isEther = false ∨ o.isHsr = true ∨ (o.lMaster = 0 ↔ L.lMaster = 0))) ∨
    (o.isEther = true ∧ o.isHsr = false ∧ o.lMaster = 0 ∧ L.lMaster ≠ 0 ∧
      changeReaction cache o L = .gotBusy o) ∨
    (o.isEther = true ∧ o.isHsr = false ∧ o.lMaster ≠ 0 ∧ L.lMaster = 0 ∧
      ∃ M, rtnlLinkGet cache o.lMaster = some M ∧
        ((M.isHsr = false ∧ changeReaction cache o L = .released L) ∨
          (M.isHsr = true ∧ changeReaction cache o L = .releasedHsrNot L M)))

section
variable {pre post : List LinkObj} {o L : LinkObj} (hsame : SameLink o L)
  (h : WellFormed (pre ++ o :: post)) (h' : WellFormed (pre ++ post ++ [L]))
include hsame h h'

omit h' in
lemma oldMaster_some (hm : o.lMaster ≠ 0) :
    ∃ M, rtnlLinkGet (pre ++ post ++ [L]) o.lMaster = some M := by
  obtain ⟨-, m, hmem, hindex⟩ := h.master o (by simp) hm
  rw [← hindex]
  rcases mem_devices_middle.mp hmem with hrest | ⟨rfl, -⟩
  · exact rtnlLinkGet_some (List.mem_append_left _ (mem_devices.mp hrest).1)
  · rw [hsame.1]
    exact rtnlLinkGet_some (by simp)

omit hsame h in
lemma newMaster_some (hm : L.lMaster ≠ 0) :
    ∃ M, rtnlLinkGet (pre ++ post ++ [L]) L.lMaster = some M := by
  obtain ⟨-, m, hmem, hindex⟩ := h'.master L (by simp) hm
  rw [← hindex]
  exact rtnlLinkGet_some (mem_devices.mp hmem).1

/-- what a change leads to, by the masters of the link before and after -/
theorem changeReaction_eq
    (hc : ∀ fault, changeReaction (pre ++ post ++ [L]) o L ≠ .crash fault) :
    ChangeCases (pre ++ post ++ [L]) o L := by
  unfold ChangeCases
  unfold changeReaction at hc ⊢
  cases he : o.isEther with
  | false => exact .inl ⟨rfl, .inl rfl⟩
  | true =>
    cases hh : o.isHsr with
    | true => exact .inl ⟨rfl, .inr (.inl rfl)⟩
    | false =>
      rw [he, hh] at hc
      have hcond : (true && !false) = true := rfl
      rw [if_pos hcond] at hc ⊢
      by_cases hom : o.lMaster = 0
      · rw [hom, rtnlLinkGet_zero h']
        by_cases hLm : L.lMaster = 0
        · rw [hLm, rtnlLinkGet_zero h']
          exact .inl ⟨rfl, .inr (.inr (by simp))⟩
        · obtain ⟨M, hM⟩ := newMaster_some h' hLm
          rw [hM]
          exact .inr (.inl ⟨rfl, rfl, rfl, hLm, rfl⟩)
      · obtain ⟨M, hM⟩ := oldMaster_some hsame h hom
        rw [hM] at hc ⊢
        by_cases hLm : L.lMaster = 0
        · rw [hLm, rtnlLinkGet_zero h'] at hc ⊢
          obtain ⟨-, ⟨hhsr, hr⟩ | ⟨hhsr, hr⟩⟩ := byKind_eq hc
          · exact .inr (.inr ⟨rfl, rfl, hom, rfl, M, rfl, .inr ⟨hhsr, hr⟩⟩)
          · exact .inr (.inr ⟨rfl, rfl, hom, rfl, M, rfl, .inl ⟨hhsr, hr⟩⟩)
        · obtain ⟨M', hM'⟩ := newMaster_some h' hLm
          rw [hM']
          exact .inl ⟨rfl, .inr (.inr (by simp [hom, hLm]))⟩

end

end Hsr
