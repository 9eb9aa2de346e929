import Mathlib.Data.List.Forall2
import Mathlib.Data.List.Nodup
import Mathlib.Tactic.Lemma

/-!
# Loops that edit a list in place and stop at a hit

A loop over a linked list may rewrite each element it passes and, at the first element that
meets a condition, run an action that leaves or unlinks that element, and stop.

* `scan edit hit act l`   such a loop in any monad: the list it leaves, and whether it met a hit;
* `cut edit hit l`        where it stops: the elements before, the hit itself, the elements after;
* `scan_eq`               a scan acts once, at the cut, and otherwise only edits;
* `Edited R gone l l'`    `l'` is `l` with at most one element, a `gone` one, taken out and all
                          others rewritten in place along `R`;
* `First R l a`           `a` is in the list, and no element before it is related to it.
-/

universe v

namespace Scan
variable {α κ : Type}

/-- edit each element up to the first hit, and there run the action and stop -/
def scan {m : Type → Type v} [Monad m] (edit : α → α) (hit : α → Bool) (act : α → m (List α)) :
    List α → m (List α × Bool)
  | [] => pure ([], false)
  | a :: l =>
    if hit (edit a) then do
      let r ← act (edit a)
      pure (r ++ l, true)
    else do
      let (l', met) ← scan edit hit act l
      pure (edit a :: l', met)

/-- the place where a scan stops: the edited elements before it, the hit, the rest -/
structure Cut (α : Type) where
  before : List α
  node : α
  after : List α

def cut (edit : α → α) (hit : α → Bool) : List α → Option (Cut α)
  | [] => none
  | a :: l =>
    if hit (edit a) then some ⟨[], edit a, l⟩
    else (cut edit hit l).map fun c => ⟨edit a :: c.before, c.node, c.after⟩

section
variable {edit : α → α} {hit : α → Bool}

/-- **A scan acts once, at the cut.** -/
theorem scan_eq {m : Type → Type v} [Monad m] [LawfulMonad m] (act : α → m (List α))
    (l : List α) :
    scan edit hit act l = (match cut edit hit l with
      | none => pure (l.map edit, false)
      | some c => (fun r => (c.before ++ r ++ c.after, true)) <$> act c.node) := by
  induction l with
  | nil => rfl
  | cons a l ih =>
    rw [scan, cut]
    split
    · simp
    · rw [ih]
      cases cut edit hit l with
      | none => simp
      | some c => simp

/-- the element a scan acts on is the first edited one that is a hit -/
theorem cut_node (l : List α) : (cut edit hit l).map Cut.node = (l.map edit).find? hit := by
  induction l with
  | nil => rfl
  | cons a l ih =>
    rw [cut, List.map_cons, List.find?_cons]
    cases hit (edit a) with
    | true => rfl
    | false =>
      rw [← ih]
      cases cut edit hit l <;> rfl

theorem cut_eq_none {l : List α} : cut edit hit l = none ↔ ∀ a ∈ l, hit (edit a) = false := by
  rw [← Option.map_eq_none_iff (f := Cut.node), cut_node, List.find?_eq_none]
  simp

theorem cut_append {pre post : List α} {a : α} (hpre : ∀ b ∈ pre, hit (edit b) = false)
    (ha : hit (edit a) = true) :
    cut edit hit (pre ++ a :: post) = some ⟨pre.map edit, edit a, post⟩ := by
  induction pre with
  | nil =>
    rw [List.nil_append, cut, if_pos ha]
    rfl
  | cons b pre ih =>
    have hb := hpre b List.mem_cons_self
    rw [List.cons_append, cut, hb, ih fun b' hb' => hpre b' (List.mem_cons_of_mem b hb')]
    rfl

theorem cut_eq_some {l : List α} {c : Cut α} (h : cut edit hit l = some c) :
    ∃ pre a, l = pre ++ a :: c.after ∧ c.before = pre.map edit ∧ c.node = edit a ∧
      hit c.node = true ∧ ∀ b ∈ pre, hit (edit b) = false := by
  induction l generalizing c with
  | nil => cases h
  | cons a l ih =>
    rw [cut] at h
    split at h
    · rename_i ha
      obtain rfl := Option.some.inj h
      exact ⟨[], a, rfl, rfl, rfl, ha, by simp⟩
    · rename_i ha
      obtain ⟨c', hc', rfl⟩ := Option.map_eq_some_iff.mp h
      obtain ⟨pre, b, rfl, hb, hn, hh, hpre⟩ := ih hc'
      refine ⟨a :: pre, b, rfl, by simp [hb], hn, hh, ?_⟩
      simpa [ha] using hpre

end

theorem cut_id_eq_some {hit : α → Bool} {l : List α} {c : Cut α} (h : cut id hit l = some c) :
    l = c.before ++ c.node :: c.after ∧ hit c.node = true ∧ ∀ b ∈ c.before, hit b = false := by
  obtain ⟨pre, a, hl, hbefore, rfl, hhit, hmiss⟩ := cut_eq_some h
  rw [List.map_id] at hbefore
  subst hbefore
  exact ⟨hl, hhit, hmiss⟩

/-! ## edited lists -/

/-- `l'` is `l` with at most one element, a `gone` one, taken out and the others rewritten in
place along `R` -/
def Edited (R : α → α → Prop) (gone : α → Prop) (l l' : List α) : Prop :=
  List.Forall₂ R l l' ∨
    ∃ pre a post, l = pre ++ a :: post ∧ gone a ∧ List.Forall₂ R (pre ++ post) l'

section
variable {R R' : α → α → Prop} {gone gone' : α → Prop} {l l' : List α}

theorem Edited.mono (h : Edited R gone l l') (hR : ∀ a b, R a b → R' a b)
    (hg : ∀ a, gone a → gone' a) : Edited R' gone' l l' := by
  rcases h with h | ⟨pre, a, post, hl, ha, h⟩
  · exact .inl (h.imp hR)
  · exact .inr ⟨pre, a, post, hl, hg a ha, h.imp hR⟩

theorem Edited.refl (hR : ∀ a, R a a) (l : List α) : Edited R gone l l :=
  .inl (List.forall₂_same.mpr fun a _ => hR a)

theorem Edited.map {f : α → α} (hf : ∀ a, R a (f a)) (l : List α) : Edited R gone l (l.map f) :=
  .inl (List.forall₂_map_right_iff.mpr (List.forall₂_same.mpr fun a _ => hf a))

theorem Edited.then_map (h : Edited R gone l l') {f : α → α}
    (hf : ∀ a b, R a b → R' a (f b)) : Edited R' gone l (l'.map f) := by
  rcases h with h | ⟨pre, a, post, hl, ha, h⟩
  · exact .inl (List.forall₂_map_right_iff.mpr (h.imp hf))
  · exact .inr ⟨pre, a, post, hl, ha, List.forall₂_map_right_iff.mpr (h.imp hf)⟩

theorem Edited.after_map {f : α → α} (h : Edited R gone (l.map f) l')
    (hR : ∀ a b, R (f a) b → R' a b) (hg : ∀ a, gone (f a) → gone' a) :
    Edited R' gone' l l' := by
  rcases h with h | ⟨pre, a, post, hl, ha, h⟩
  · exact .inl ((List.forall₂_map_left_iff.mp h).imp fun a b => hR a b)
  · obtain ⟨pre', rest, rfl, rfl, hrest⟩ := List.map_eq_append_iff.mp hl
    obtain ⟨a', post', rfl, rfl, rfl⟩ := List.map_eq_cons_iff.mp hrest
    rw [← List.map_append] at h
    refine .inr ⟨pre', a', post', rfl, hg a' ha, ?_⟩
    exact (List.forall₂_map_left_iff.mp h).imp fun a b => hR a b

lemma exists_left_of_mem {m m' : List α} (h : List.Forall₂ R m m') {b : α} (hb : b ∈ m') :
    ∃ a ∈ m, R a b := by
  induction h with
  | nil => cases hb
  | @cons a b' m m' hab _ ih =>
    rcases List.mem_cons.mp hb with rfl | hb
    · exact ⟨a, List.mem_cons_self, hab⟩
    · obtain ⟨a', ha', hR⟩ := ih hb
      exact ⟨a', List.mem_cons_of_mem a ha', hR⟩

theorem Edited.exists_of_mem (h : Edited R gone l l') {b : α} (hb : b ∈ l') :
    ∃ a ∈ l, R a b := by
  rcases h with h | ⟨pre, a, post, rfl, -, h⟩
  · exact exists_left_of_mem h hb
  · obtain ⟨a', ha', hR⟩ := exists_left_of_mem h hb
    refine ⟨a', ?_, hR⟩
    rcases List.mem_append.mp ha' with ha' | ha'
    · exact List.mem_append_left _ ha'
    · exact List.mem_append_right pre (List.mem_cons_of_mem a ha')

/-- the list that a scan leaves: the hit stays as edited, or it is taken out -/
theorem edited_of_cut {edit : α → α} {hit : α → Bool} {c : Cut α} {r : List α}
    (hc : cut edit hit l = some c) (hr : r = [c.node] ∨ r = [] ∧ gone' c.node)
    (hR : ∀ a, R a (edit a)) (hid : ∀ a, R a a) (hg : ∀ a, gone' (edit a) → gone a) :
    Edited R gone l (c.before ++ r ++ c.after) := by
  obtain ⟨pre, a, rfl, hbefore, hnode, -, -⟩ := cut_eq_some hc
  have hpre : List.Forall₂ R pre c.before := by
    rw [hbefore]
    exact List.forall₂_map_right_iff.mpr (List.forall₂_same.mpr fun b _ => hR b)
  have hpost : List.Forall₂ R c.after c.after := List.forall₂_same.mpr fun b _ => hid b
  rcases hr with rfl | ⟨rfl, hgone⟩
  · left
    rw [List.append_assoc]
    refine List.rel_append hpre (List.Forall₂.cons ?_ hpost)
    rw [hnode]
    exact hR a
  · right
    rw [hnode] at hgone
    refine ⟨pre, a, c.after, rfl, hg a hgone, ?_⟩
    rw [List.append_nil]
    exact List.rel_append hpre hpost

/-- **A key that edits keep stays distinct.** -/
theorem Edited.nodup {key : α → κ} (h : Edited R gone l l') (hR : ∀ a b, R a b → key b = key a)
    (hl : (l.map key).Nodup) : (l'.map key).Nodup := by
  have keys : ∀ {m m' : List α}, List.Forall₂ R m m' → m'.map key = m.map key := by
    intro m m' hm
    induction hm with
    | nil => rfl
    | cons hab _ ih => rw [List.map_cons, List.map_cons, ih, hR _ _ hab]
  rcases h with h | ⟨pre, a, post, rfl, -, h⟩
  · rw [keys h]
    exact hl
  · rw [keys h]
    refine hl.sublist (List.Sublist.map key ?_)
    exact List.Sublist.append_left (List.sublist_cons_self a post) pre

end

/-! ## elements that nothing before them stands in the way of -/

section
variable {R Q : α → α → Prop} {l l' : List α} {a b : α}

/-- `a` is in the list, and no element before it is related to it -/
def First (R : α → α → Prop) : List α → α → Prop
  | [], _ => False
  | b :: l, a => b = a ∨ (¬ R b a ∧ First R l a)

instance decidableFirst [DecidableEq α] [DecidableRel R] :
    (l : List α) → (a : α) → Decidable (First R l a)
  | [], _ => .isFalse id
  | b :: l, a =>
    have := decidableFirst l a
    inferInstanceAs (Decidable (b = a ∨ (¬ R b a ∧ First R l a)))

lemma First.mem (h : First R l a) : a ∈ l := by
  induction l with
  | nil => exact h.elim
  | cons b l ih =>
    rcases h with rfl | ⟨-, h⟩
    · exact List.mem_cons_self
    · exact List.mem_cons_of_mem b (ih h)

/-- one element more stands in the way of those that it is related to -/
lemma First.insert {pre post : List α} (h : First R (pre ++ post) a) :
    First R (pre ++ b :: post) a ∨ R b a := by
  induction pre with
  | nil =>
    by_cases hb : R b a
    · exact .inr hb
    · exact .inl (.inr ⟨hb, h⟩)
  | cons c pre ih =>
    rcases h with rfl | ⟨hc, h⟩
    · exact .inl (.inl rfl)
    · rcases ih h with h | h
      · exact .inl (.inr ⟨hc, h⟩)
      · exact .inr h

lemma First.last (h : First R (l ++ [b]) a) :
    First R l a ∨ (b = a ∧ ∀ c ∈ l, ¬ R c b) := by
  induction l with
  | nil =>
    rcases h with rfl | ⟨-, h⟩
    · exact .inr ⟨rfl, by simp⟩
    · exact h.elim
  | cons c l ih =>
    rcases h with rfl | ⟨hc, h⟩
    · exact .inl (.inl rfl)
    · rcases ih h with h | ⟨rfl, hnone⟩
      · exact .inl (.inr ⟨hc, h⟩)
      · exact .inr ⟨rfl, List.forall_mem_cons.mpr ⟨hc, hnone⟩⟩

lemma First.of_forall₂ (hl : List.Forall₂ Q l l')
    (hR : ∀ {b b' a a'}, Q b b' → Q a a' → R b a → R b' a') (h : First R l' a) :
    ∃ a₀, First R l a₀ ∧ Q a₀ a := by
  induction hl with
  | nil => exact h.elim
  | @cons b b' l l' hb _ ih =>
    rcases h with rfl | ⟨hb', h⟩
    · exact ⟨b, .inl rfl, hb⟩
    · obtain ⟨a₀, hfirst, hq⟩ := ih h
      exact ⟨a₀, .inr ⟨fun hr => hb' (hR hb hq hr), hfirst⟩, hq⟩

end

end Scan
