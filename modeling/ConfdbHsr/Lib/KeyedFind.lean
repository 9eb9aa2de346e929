import Mathlib.Data.List.Nodup
import Mathlib.Tactic.Lemma

/-!
# Searching a list by a key

Where the keys of a list are distinct, the first element with a key is the element with that key:
a search depends on the elements of the list only, not on their order.

* `upsert`   edit the element with a key, or add one; the keys stay distinct.
-/

namespace KeyedFind
variable {α κ : Type} [BEq κ] [LawfulBEq κ] {key : α → κ} {l l' : List α} {k : κ} {a : α}

theorem find_iff (hl : (l.map key).Nodup) :
    l.find? (fun x => key x == k) = some a ↔ a ∈ l ∧ key a = k := by
  constructor
  · intro h
    have hkey := List.find?_some h
    exact ⟨List.mem_of_find?_eq_some h, by simpa using hkey⟩
  · rintro ⟨ha, rfl⟩
    cases hfind : l.find? fun x => key x == key a with
    | none =>
      have hne := List.find?_eq_none.mp hfind a ha
      simp at hne
    | some b =>
      have hb := List.mem_of_find?_eq_some hfind
      have hkey : key b = key a := by simpa using List.find?_some hfind
      rw [List.inj_on_of_nodup_map hl hb ha hkey]

theorem find_none_iff : l.find? (fun x => key x == k) = none ↔ ∀ a ∈ l, key a ≠ k := by
  simp [List.find?_eq_none]

theorem find_congr (hl : (l.map key).Nodup) (hl' : (l'.map key).Nodup)
    (h : ∀ a, key a = k → (a ∈ l ↔ a ∈ l')) :
    l.find? (fun x => key x == k) = l'.find? (fun x => key x == k) := by
  apply Option.ext
  intro a
  rw [find_iff hl, find_iff hl']
  constructor
  · rintro ⟨ha, hk⟩
    exact ⟨(h a hk).mp ha, hk⟩
  · rintro ⟨ha, hk⟩
    exact ⟨(h a hk).mpr ha, hk⟩

/-! ## editing by a key -/

section
variable {edit : α → α} {fresh : α}

/-- edit the elements with the key, or append one where there is none -/
def upsert (key : α → κ) (k : κ) (edit : α → α) (fresh : α) (l : List α) : List α :=
  if l.any fun x => key x == k then l.map fun x => if key x == k then edit x else x
  else l ++ [fresh]

theorem upsert_nodup (hl : (l.map key).Nodup) (hedit : ∀ x, key (edit x) = key x)
    (hfresh : key fresh = k) : ((upsert key k edit fresh l).map key).Nodup := by
  unfold upsert
  split
  · have hkeys : (l.map fun x => if key x == k then edit x else x).map key = l.map key := by
      rw [List.map_map]
      refine List.map_congr_left fun x _ => ?_
      show key (if key x == k then edit x else x) = key x
      split
      · exact hedit x
      · rfl
    rw [hkeys]
    exact hl
  · rename_i hnone
    rw [List.map_append, List.map_singleton, hfresh]
    refine List.nodup_append.mpr ⟨hl, List.nodup_singleton k, ?_⟩
    rintro _ hmem _ hk rfl
    obtain ⟨a, ha, hkey⟩ := List.mem_map.mp hmem
    refine hnone (List.any_eq_true.mpr ⟨a, ha, ?_⟩)
    rw [hkey, List.mem_singleton.mp hk]
    exact beq_self_eq_true k

/-- an element of the edited list has another key and was there before, or it is the edited or
the added one -/
theorem mem_upsert {b : α} (h : b ∈ upsert key k edit fresh l) :
    (b ∈ l ∧ key b ≠ k) ∨ (∃ a ∈ l, key a = k ∧ b = edit a) ∨ b = fresh := by
  unfold upsert at h
  split at h
  · obtain ⟨a, ha, rfl⟩ := List.mem_map.mp h
    split
    · rename_i hkey
      exact .inr (.inl ⟨a, ha, beq_iff_eq.mp hkey, rfl⟩)
    · rename_i hkey
      exact .inl ⟨ha, fun hk => hkey (beq_iff_eq.mpr hk)⟩
  · rename_i hnone
    rcases List.mem_append.mp h with hmem | hmem
    · refine .inl ⟨hmem, fun hk => hnone (List.any_eq_true.mpr ⟨b, hmem, ?_⟩)⟩
      exact beq_iff_eq.mpr hk
    · exact .inr (.inr (List.mem_singleton.mp hmem))

theorem mem_upsert_of_ne (ha : a ∈ l) (hk : key a ≠ k) : a ∈ upsert key k edit fresh l := by
  unfold upsert
  split
  · refine List.mem_map.mpr ⟨a, ha, if_neg ?_⟩
    simpa using hk
  · exact List.mem_append_left _ ha

theorem exists_upsert (hedit : ∀ x, key (edit x) = key x) (hfresh : key fresh = k) :
    ∃ b ∈ upsert key k edit fresh l, key b = k ∧ ((∃ x, b = edit x) ∨ b = fresh) := by
  unfold upsert
  split
  · rename_i hany
    obtain ⟨x, hx, hkey⟩ := List.any_eq_true.mp hany
    refine ⟨edit x, List.mem_map.mpr ⟨x, hx, if_pos hkey⟩, ?_, .inl ⟨x, rfl⟩⟩
    rw [hedit]
    exact beq_iff_eq.mp hkey
  · exact ⟨fresh, List.mem_append_right _ List.mem_cons_self, hfresh, .inr rfl⟩

end

end KeyedFind
