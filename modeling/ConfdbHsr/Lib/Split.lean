import Mathlib.Data.List.Basic
import Mathlib.Tactic.Lemma

/-!
# Splitting a list at separators

`List.splitOnP p l` cuts `l` at the elements that meet `p`.

* `splitOnP_step`       the first piece, and the split of what follows the first separator;
* `length_splitOnP`     one piece more than there are separators;
* `reinsert`            the separators put back between the pieces;
* `reinsert_splitOnP`   which gives the list again.
-/

namespace Split
variable {α : Type} {p : α → Bool}

lemma splitOnP_step (p : α → Bool) (l : List α) :
    l.splitOnP p = l.takeWhile (fun a => !p a) ::
      match l.dropWhile fun a => !p a with
      | [] => []
      | _ :: rest => rest.splitOnP p := by
  induction l with
  | nil => simp
  | cons a l ih =>
    rw [List.splitOnP_cons_eq_if_modifyHead]
    cases ha : p a with
    | true => simp [ha]
    | false =>
      rw [ih]
      simp [ha]

lemma length_splitOnP (p : α → Bool) (l : List α) :
    (l.splitOnP p).length = 1 + (l.filter p).length := by
  induction l with
  | nil => simp
  | cons a l ih =>
    rw [List.splitOnP_cons_eq_if_modifyHead]
    cases ha : p a with
    | true =>
      simp only [if_true, List.length_cons, List.filter_cons, ha]
      omega
    | false => simpa [ha] using ih

lemma not_sep_of_mem {l piece : List α} (h : piece ∈ l.splitOnP p) : ∀ a ∈ piece, p a = false := by
  induction l generalizing piece with
  | nil =>
    rw [List.splitOnP_nil, List.mem_singleton] at h
    subst h
    simp
  | cons a l ih =>
    rw [List.splitOnP_cons_eq_if_modifyHead] at h
    cases ha : p a with
    | true =>
      rw [if_pos ha] at h
      rcases List.mem_cons.mp h with rfl | h
      · simp
      · exact ih h
    | false =>
      obtain ⟨first, pieces, hsplit⟩ := List.exists_cons_of_ne_nil (List.splitOnP_ne_nil p l)
      rw [ha, if_neg Bool.false_ne_true, hsplit, List.modifyHead_cons] at h
      rcases List.mem_cons.mp h with rfl | h
      · have hfirst : ∀ a ∈ first, p a = false := ih (by simp [hsplit])
        exact List.forall_mem_cons.mpr ⟨ha, hfirst⟩
      · exact ih (by simp [hsplit, h])

/-- the separators in their order, one after each piece but the last -/
def reinsert : List (List α) → List α → List α
  | [], _ => []
  | [piece], _ => piece
  | piece :: pieces, sep :: seps => piece ++ sep :: reinsert pieces seps
  | piece :: pieces, [] => piece ++ reinsert pieces []

lemma reinsert_cons_head (a : α) (first : List α) (pieces : List (List α)) (seps : List α) :
    reinsert ((a :: first) :: pieces) seps = a :: reinsert (first :: pieces) seps := by
  cases pieces with
  | nil => rfl
  | cons piece pieces =>
    cases seps with
    | nil => rfl
    | cons sep seps => rfl

/-- **Splitting loses nothing.** -/
theorem reinsert_splitOnP (p : α → Bool) (l : List α) :
    reinsert (l.splitOnP p) (l.filter p) = l := by
  induction l with
  | nil => simp [reinsert]
  | cons a l ih =>
    obtain ⟨first, pieces, hsplit⟩ := List.exists_cons_of_ne_nil (List.splitOnP_ne_nil p l)
    rw [hsplit] at ih
    rw [List.splitOnP_cons_eq_if_modifyHead, hsplit, List.filter_cons]
    cases ha : p a with
    | true =>
      rw [if_pos rfl, if_pos rfl]
      show [] ++ a :: reinsert (first :: pieces) (l.filter p) = a :: l
      rw [ih, List.nil_append]
    | false =>
      rw [if_neg Bool.false_ne_true, if_neg Bool.false_ne_true, List.modifyHead_cons,
        reinsert_cons_head, ih]

end Split
