import Mathlib.Data.Finset.Basic
import Mathlib.Data.Finset.Image
import Mathlib.Data.Finset.Dedup
import Mathlib.Tactic.Lemma

/-!
# Edits of a finite set, and which of them take effect

* `SetEdit κ`     put an element into a set, or take it out;
* `SetEdit.run`   the set after a sequence of edits;
* `SetEdit.effective`   the edits of a sequence that changed the set: its history, in which an
                  element enters only when it is absent and leaves only when it is present;
* `image_run_insert`, `image_run_erase_iff`   when the image of the set is edited as the set is, if
                  the history of the set is what the edits of the image are made of;
* `image_union_eq_iff`, `image_sdiff_eq_iff`   and when it stays as it is.
-/

inductive SetEdit (κ : Type) where
  | insert (k : κ)
  | erase (k : κ)
  deriving DecidableEq, Repr

namespace SetEdit
variable {κ : Type} [DecidableEq κ]

def apply (s : Finset κ) : SetEdit κ → Finset κ
  | .insert k => Insert.insert k s
  | .erase k => s.erase k

/-- the element an edit is about -/
def elem : SetEdit κ → κ
  | .insert k => k
  | .erase k => k

/-- the set after the edits -/
def run (s : Finset κ) (es : List (SetEdit κ)) : Finset κ := es.foldl apply s

/-- the edits that changed the set -/
def effective (s : Finset κ) : List (SetEdit κ) → List (SetEdit κ)
  | [] => []
  | e :: es => if e.apply s = s then effective s es else e :: effective (e.apply s) es

lemma apply_insert (s : Finset κ) (k : κ) : (SetEdit.insert k).apply s = Insert.insert k s := rfl

lemma apply_erase (s : Finset κ) (k : κ) : (SetEdit.erase k).apply s = s.erase k := rfl

@[simp] lemma run_nil (s : Finset κ) : run s [] = s := rfl

@[simp] lemma run_cons (s : Finset κ) (e : SetEdit κ) (es : List (SetEdit κ)) :
    run s (e :: es) = run (e.apply s) es := rfl

lemma run_append (s : Finset κ) (es es' : List (SetEdit κ)) :
    run s (es ++ es') = run (run s es) es' :=
  List.foldl_append

lemma effective_cons (s : Finset κ) (e : SetEdit κ) (es : List (SetEdit κ)) :
    effective s (e :: es) = effective s [e] ++ effective (e.apply s) es := by
  by_cases h : e.apply s = s
  · simp [effective, h]
  · simp [effective, h]

lemma effective_append (s : Finset κ) (es es' : List (SetEdit κ)) :
    effective s (es ++ es') = effective s es ++ effective (run s es) es' := by
  induction es generalizing s with
  | nil => rfl
  | cons e es ih => rw [List.cons_append, effective_cons, ih, effective_cons s e es, run_cons,
      List.append_assoc]

lemma effective_insert (s : Finset κ) (k : κ) :
    effective s [.insert k] = if k ∈ s then [] else [.insert k] := by
  simp only [effective, apply_insert, Finset.insert_eq_self]

lemma effective_erase (s : Finset κ) (k : κ) :
    effective s [.erase k] = if k ∈ s then [.erase k] else [] := by
  by_cases h : k ∈ s
  · simp [effective, apply_erase, h]
  · simp [effective, apply_erase, h]

lemma effective_sublist (s : Finset κ) (es : List (SetEdit κ)) :
    (effective s es).Sublist es := by
  induction es generalizing s with
  | nil => exact .slnil
  | cons e es ih =>
    rw [effective]
    split
    · exact (ih s).cons e
    · exact (ih _).cons_cons e

/-! ## edits of one kind -/

lemma run_insert (s : Finset κ) (l : List κ) : run s (l.map .insert) = s ∪ l.toFinset := by
  induction l generalizing s with
  | nil => simp
  | cons k l ih =>
    rw [List.map_cons, run_cons, ih, apply_insert, List.toFinset_cons]
    ext x
    simp only [Finset.mem_union, Finset.mem_insert]
    tauto

lemma run_erase (s : Finset κ) (l : List κ) : run s (l.map .erase) = s \ l.toFinset := by
  induction l generalizing s with
  | nil => simp
  | cons k l ih =>
    rw [List.map_cons, run_cons, ih, apply_erase, List.toFinset_cons]
    ext x
    simp only [Finset.mem_sdiff, Finset.mem_erase, Finset.mem_insert]
    tauto

/-- what enters -/
lemma effective_insert_all (s : Finset κ) (l : List κ) :
    ∃ l' : List κ, effective s (l.map .insert) = l'.map .insert ∧ l'.toFinset = l.toFinset \ s := by
  induction l generalizing s with
  | nil => exact ⟨[], rfl, by simp⟩
  | cons k l ih =>
    rw [List.map_cons, effective_cons, effective_insert, apply_insert]
    by_cases hk : k ∈ s
    · obtain ⟨l', heq, hl'⟩ := ih s
      refine ⟨l', ?_, ?_⟩
      · rw [if_pos hk, Finset.insert_eq_of_mem hk, heq, List.nil_append]
      · rw [hl', List.toFinset_cons, Finset.insert_sdiff_of_mem _ hk]
    · obtain ⟨l', heq, hl'⟩ := ih (Insert.insert k s)
      refine ⟨k :: l', ?_, ?_⟩
      · rw [if_neg hk, heq, List.map_cons, List.singleton_append]
      · rw [List.toFinset_cons, hl', List.toFinset_cons]
        ext x
        simp only [Finset.mem_insert, Finset.mem_sdiff, not_or]
        by_cases hx : x = k
        · simp [hx, hk]
        · simp [hx]

/-- what leaves -/
lemma effective_erase_all (s : Finset κ) (l : List κ) :
    ∃ l' : List κ, effective s (l.map .erase) = l'.map .erase ∧ l'.toFinset = l.toFinset ∩ s := by
  induction l generalizing s with
  | nil => exact ⟨[], rfl, by simp⟩
  | cons k l ih =>
    rw [List.map_cons, effective_cons, effective_erase, apply_erase]
    by_cases hk : k ∈ s
    · obtain ⟨l', heq, hl'⟩ := ih (s.erase k)
      refine ⟨k :: l', ?_, ?_⟩
      · rw [if_pos hk, heq, List.map_cons, List.singleton_append]
      · rw [List.toFinset_cons, hl', List.toFinset_cons]
        ext x
        simp only [Finset.mem_insert, Finset.mem_inter, Finset.mem_erase]
        by_cases hx : x = k
        · simp [hx, hk]
        · simp [hx]
    · obtain ⟨l', heq, hl'⟩ := ih s
      refine ⟨l', ?_, ?_⟩
      · rw [if_neg hk, Finset.erase_eq_of_notMem hk, heq, List.nil_append]
      · rw [hl', List.toFinset_cons, Finset.insert_inter_of_notMem hk]

/-! ## the image of a set -/

section
variable {ι : Type} [DecidableEq ι] (f : κ → ι)

/-- the edit of the image of an element -/
def map : SetEdit κ → SetEdit ι
  | .insert k => .insert (f k)
  | .erase k => .erase (f k)

variable (s : Finset κ) (l : List κ)

lemma toFinset_map_image : (l.map f).toFinset = l.toFinset.image f := by
  ext x
  simp

lemma image_parts : s.image f = (l.toFinset ∩ s).image f ∪ (s \ l.toFinset).image f := by
  rw [← Finset.image_union]
  congr 1
  ext x
  simp only [Finset.mem_union, Finset.mem_inter, Finset.mem_sdiff]
  tauto

/-- **What enters the set enters its image.** -/
theorem image_run_insert :
    run (s.image f) ((effective s (l.map .insert)).map (map f)) = (s ∪ l.toFinset).image f := by
  obtain ⟨l', heq, hl'⟩ := effective_insert_all s l
  have hmap : (l'.map SetEdit.insert).map (map f) = (l'.map f).map .insert := by
    rw [List.map_map, List.map_map]
    rfl
  rw [heq, hmap, run_insert, toFinset_map_image, ← Finset.image_union, hl',
    Finset.union_sdiff_self_eq_union]

/-- **What leaves the set leaves its image**, unless something that stays has the same image. -/
theorem image_run_erase_iff :
    run (s.image f) ((effective s (l.map .erase)).map (map f)) = (s \ l.toFinset).image f ↔
      ∀ k ∈ l.toFinset ∩ s, f k ∉ (s \ l.toFinset).image f := by
  obtain ⟨l', heq, hl'⟩ := effective_erase_all s l
  have hmap : (l'.map SetEdit.erase).map (map f) = (l'.map f).map .erase := by
    rw [List.map_map, List.map_map]
    rfl
  rw [heq, hmap, run_erase, toFinset_map_image, hl', image_parts f s l, Finset.union_sdiff_left,
    Finset.sdiff_eq_self_iff_disjoint, Finset.disjoint_right, Finset.forall_mem_image]

/-- what enters leaves the image as it is iff its images are there already -/
theorem image_union_eq_iff :
    (s ∪ l.toFinset).image f = s.image f ↔ ∀ k ∈ l.toFinset \ s, f k ∈ s.image f := by
  rw [← Finset.union_sdiff_self_eq_union, Finset.image_union, Finset.union_eq_left,
    Finset.image_subset_iff]

/-- what leaves does iff something that stays has the same image -/
theorem image_sdiff_eq_iff : (s \ l.toFinset).image f = s.image f ↔
    ∀ k ∈ l.toFinset ∩ s, f k ∈ (s \ l.toFinset).image f := by
  rw [image_parts f s l, eq_comm, Finset.union_eq_right, Finset.image_subset_iff]

end

end SetEdit
