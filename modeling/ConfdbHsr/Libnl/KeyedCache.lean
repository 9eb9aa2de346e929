import ConfdbHsr.Lib.SetEdits
import ConfdbHsr.Libnl.Cache
import Mathlib.Data.List.Nodup
import Mathlib.Data.Finset.Dedup

/-!
# A cache of objects with a key refines a set of keys

Let the objects of a cache be told apart by a key: two of them are identical for libnl exactly
when their keys are equal, and then they do not differ in any attribute.  Such a cache never holds
two objects with the same key; including a `NEW` or `DEL` notification edits the set of its keys;
and the callback is called exactly for the edits that take effect.

* `Keyed ops Good key`        the key tells the objects of `Good` apart;
* `Holds Good key cache s`    `cache` holds one object for each key of `s`, and no others;
* `cacheInclude_new`, `cacheInclude_del`   one inclusion is one edit of the set.
-/

namespace Nl
variable {α κ : Type} [DecidableEq κ]

/-- `key` tells the objects of `Good` apart -/
structure Keyed (ops : ObjectOps α) (Good : α → Prop) (key : α → κ) : Prop where
  ident : ∀ a b, Good a → Good b → (ops.objectIdentical a b = true ↔ key a = key b)
  diff : ∀ a b, Good a → Good b → key a = key b → ops.objectDiff64 a b = 0

/-- `cache` holds one object for each key of `s`, and no others -/
structure Holds (Good : α → Prop) (key : α → κ) (cache : List α) (s : Finset κ) : Prop where
  good : ∀ a ∈ cache, Good a
  nodup : (cache.map key).Nodup
  mem : ∀ k, k ∈ cache.map key ↔ k ∈ s

/-- the edit of the set of keys that a callback reports; a change reports none -/
def Note.edit (key : α → κ) : Note α → Option (SetEdit κ)
  | .new nObj => some (.insert (key nObj))
  | .del oObj => some (.erase (key oObj))
  | .change _ _ _ => none

/-- the callback reports an edit, with an object of `Good` -/
def Note.Reports (Good : α → Prop) (key : α → κ) : Note α → SetEdit κ → Prop
  | .new nObj, e => Good nObj ∧ e = .insert (key nObj)
  | .del oObj, e => Good oObj ∧ e = .erase (key oObj)
  | .change _ _ _, _ => False

omit [DecidableEq κ] in
lemma Note.Reports.edit_eq {Good : α → Prop} {key : α → κ} {note : Note α} {e : SetEdit κ}
    (h : note.Reports Good key e) : note.edit key = some e := by
  cases note with
  | new nObj => exact congrArg some h.2.symm
  | del oObj => exact congrArg some h.2.symm
  | change oObj nObj diff => exact h.elim

omit [DecidableEq κ] in
lemma reports_edits {Good : α → Prop} {key : α → κ} {notes : List (Note α)}
    {es : List (SetEdit κ)} (h : List.Forall₂ (Note.Reports Good key) notes es) :
    notes.map (Note.edit key) = es.map some := by
  induction h with
  | nil => rfl
  | cons hnote _ ih => rw [List.map_cons, List.map_cons, hnote.edit_eq, ih]

variable {ops : ObjectOps α} {Good : α → Prop} {key : α → κ} {cache : List α} {s : Finset κ}
  {obj : α}

section
variable (hk : Keyed ops Good key) (hgood : ∀ a ∈ cache, Good a) (hobj : Good obj)
include hk hgood hobj

omit [DecidableEq κ] in
lemma cacheSearch_key :
    (∃ old ∈ cache, key old = key obj ∧ ops.cacheSearch cache obj = some old) ∨
      (key obj ∉ cache.map key ∧ ops.cacheSearch cache obj = none) := by
  cases hfind : ops.cacheSearch cache obj with
  | some old =>
    have hmem := List.mem_of_find?_eq_some hfind
    have hident := List.find?_some hfind
    exact .inl ⟨old, hmem, (hk.ident old obj (hgood old hmem) hobj).mp hident, rfl⟩
  | none =>
    refine .inr ⟨fun hmem => ?_, rfl⟩
    obtain ⟨old, hold, heq⟩ := List.mem_map.mp hmem
    have hne := List.find?_eq_none.mp hfind old hold
    exact hne ((hk.ident old obj (hgood old hold) hobj).mpr heq)

lemma map_cacheRemove : (ops.cacheRemove cache obj).map key = (cache.map key).erase (key obj) := by
  induction cache with
  | nil => rfl
  | cons a cache ih =>
    have ha := hk.ident a obj (hgood a List.mem_cons_self) hobj
    have hrest := ih fun b hb => hgood b (List.mem_cons_of_mem a hb)
    by_cases h : key a = key obj
    · have hhit : ops.cacheRemove (a :: cache) obj = cache := List.eraseP_cons_of_pos (ha.mpr h)
      rw [hhit, List.map_cons, h, List.erase_cons_head]
    · have hmiss : ops.cacheRemove (a :: cache) obj = a :: ops.cacheRemove cache obj :=
        List.eraseP_cons_of_neg (mt ha.mp h)
      rw [hmiss, List.map_cons, List.map_cons, hrest, List.erase_cons_tail (by simpa using h)]

end

lemma mem_cacheRemove {a : α} (h : a ∈ ops.cacheRemove cache obj) : a ∈ cache :=
  List.mem_of_mem_eraseP h

lemma Holds.append {l : List α} (hholds : Holds Good key cache s) (hgood : ∀ a ∈ l, Good a)
    (hnodup : (l.map key).Nodup) (hnew : ∀ k ∈ l.map key, k ∉ s) :
    Holds Good key (cache ++ l) (s ∪ (l.map key).toFinset) := by
  constructor
  · intro a ha
    rcases List.mem_append.mp ha with ha | ha
    · exact hholds.good a ha
    · exact hgood a ha
  · rw [List.map_append]
    refine List.Nodup.append hholds.nodup hnodup ?_
    intro k hk hk'
    exact hnew k hk' ((hholds.mem k).mp hk)
  · intro k
    rw [List.map_append, List.mem_append, hholds.mem, Finset.mem_union, List.mem_toFinset]

section
variable (hk : Keyed ops Good key) (hholds : Holds Good key cache s) (hobj : Good obj)
include hk hholds hobj

lemma holds_cacheRemove : Holds Good key (ops.cacheRemove cache obj) (s.erase (key obj)) := by
  have hmap := map_cacheRemove hk hholds.good hobj
  constructor
  · intro a ha
    exact hholds.good a (mem_cacheRemove ha)
  · rw [hmap]
    exact hholds.nodup.erase _
  · intro k
    rw [hmap, hholds.nodup.mem_erase_iff, Finset.mem_erase, hholds.mem]

omit hk in
lemma holds_append (hnew : key obj ∉ s) : Holds Good key (cache ++ [obj]) (insert (key obj) s) := by
  have happend := Holds.append hholds (l := [obj]) (by simpa using hobj) (by simp) (by simpa using hnew)
  have hset : s ∪ ([obj].map key).toFinset = insert (key obj) s := by
    ext k
    simp
  rw [hset] at happend
  exact happend

theorem cacheInclude_new :
    Holds Good key (ops.cacheInclude cache obj .new).1 (insert (key obj) s) ∧
      List.Forall₂ (Note.Reports Good key) (ops.cacheInclude cache obj .new).2
        (SetEdit.effective s [.insert (key obj)]) := by
  rw [SetEdit.effective_insert]
  rcases cacheSearch_key hk hholds.good hobj with ⟨old, hold, hkey, hfind⟩ | ⟨hnew, hfind⟩
  · have hmem : key obj ∈ s := (hholds.mem _).mp (hkey ▸ List.mem_map_of_mem hold)
    have hdiff := hk.diff old obj (hholds.good old hold) hobj hkey
    have hremoved := holds_cacheRemove hk hholds hobj
    have happend := holds_append hremoved hobj (Finset.notMem_erase _ _)
    rw [Finset.insert_erase hmem] at happend
    rw [Finset.insert_eq_of_mem hmem, if_pos hmem]
    simp only [ObjectOps.cacheInclude, hfind, hdiff]
    exact ⟨happend, .nil⟩
  · have hnot : key obj ∉ s := fun h => hnew ((hholds.mem _).mpr h)
    rw [if_neg hnot]
    simp only [ObjectOps.cacheInclude, hfind]
    exact ⟨holds_append hholds hobj hnot, .cons ⟨hobj, rfl⟩ .nil⟩

theorem cacheInclude_del :
    Holds Good key (ops.cacheInclude cache obj .del).1 (s.erase (key obj)) ∧
      List.Forall₂ (Note.Reports Good key) (ops.cacheInclude cache obj .del).2
        (SetEdit.effective s [.erase (key obj)]) := by
  rw [SetEdit.effective_erase]
  rcases cacheSearch_key hk hholds.good hobj with ⟨old, hold, hkey, hfind⟩ | ⟨hnew, hfind⟩
  · have hmem : key obj ∈ s := (hholds.mem _).mp (hkey ▸ List.mem_map_of_mem hold)
    rw [if_pos hmem]
    simp only [ObjectOps.cacheInclude, hfind]
    exact ⟨holds_cacheRemove hk hholds hobj, .cons ⟨hholds.good old hold, by rw [hkey]⟩ .nil⟩
  · have hnot : key obj ∉ s := fun h => hnew ((hholds.mem _).mpr h)
    rw [if_neg hnot, Finset.erase_eq_of_notMem hnot]
    simp only [ObjectOps.cacheInclude, hfind]
    exact ⟨hholds, .nil⟩

end

end Nl
