import ConfdbHsr.Lib.KeyedFind

/-!
# Chained hash tables

A table of chains next to the list of its elements.  Where the keys of the list are distinct, a
search in the chain of a key finds what a search of the list finds.

* `find`, `push`, `erase`   the operations on the chain of a key;
* `Indexes`                 the chains hold the elements of the list, each in the bucket of its key;
* `Indexes.find_eq`         a search of the chain is a search of the list;
* `Indexes.push`, `Indexes.erase`   an element more, and an element less.
-/

namespace Chains
variable {α κ : Type} [BEq κ] [LawfulBEq κ] {n : Nat}

/-! ## a list without the element with a key -/

section
variable {key : α → κ} {items : List α}

omit [BEq κ] [LawfulBEq κ] in
lemma nodup_eraseP (h : (items.map key).Nodup) (p : α → Bool) :
    ((items.eraseP p).map key).Nodup :=
  h.sublist (List.eraseP_sublist.map key)

lemma mem_eraseP_key (h : (items.map key).Nodup) (k : κ) (a : α) :
    a ∈ items.eraseP (fun x => key x == k) ↔ a ∈ items ∧ key a ≠ k := by
  induction items with
  | nil => simp
  | cons b items ih =>
    rw [List.map_cons, List.nodup_cons] at h
    by_cases hb : key b = k
    · have hpos : (key b == k) = true := beq_iff_eq.mpr hb
      rw [List.eraseP_cons, hpos, cond_true, List.mem_cons]
      constructor
      · intro ha
        refine ⟨Or.inr ha, fun hk => h.1 ?_⟩
        rw [hb, ← hk]
        exact List.mem_map_of_mem ha
      · rintro ⟨rfl | ha, hk⟩
        · exact absurd hb hk
        · exact ha
    · have hneg : (key b == k) = false := beq_eq_false_iff_ne.mpr hb
      rw [List.eraseP_cons, hneg, cond_false, List.mem_cons, List.mem_cons, ih h.2]
      constructor
      · rintro (rfl | ⟨ha, hk⟩)
        · exact ⟨Or.inl rfl, hb⟩
        · exact ⟨Or.inr ha, hk⟩
      · rintro ⟨rfl | ha, hk⟩
        · exact Or.inl rfl
        · exact Or.inr ⟨ha, hk⟩

lemma find_eraseP (h : (items.map key).Nodup) (k k' : κ) :
    (items.eraseP fun x => key x == k').find? (fun x => key x == k) =
      if k' == k then none else items.find? fun x => key x == k := by
  split
  · rename_i heq
    obtain rfl := eq_of_beq heq
    exact KeyedFind.find_none_iff.mpr fun a ha => ((mem_eraseP_key h k' a).mp ha).2
  · rename_i hne
    refine KeyedFind.find_congr (nodup_eraseP h _) h fun a ha => ?_
    rw [mem_eraseP_key h]
    refine and_iff_left fun hk => hne ?_
    rw [← hk, ha]
    exact beq_self_eq_true k

end

/-! ## the table -/

section
variable (key : α → κ) (bucket : κ → Fin n)

/-- the first element with the key in its chain -/
def find (table : Vector (List α) n) (k : κ) : Option α :=
  table[bucket k].find? fun x => key x == k

/-- the element at the head of its chain -/
def push (table : Vector (List α) n) (a : α) : Vector (List α) n :=
  table.set (bucket (key a)) (a :: table[bucket (key a)])

/-- the chain of the key without its first element with the key -/
def erase (table : Vector (List α) n) (k : κ) : Vector (List α) n :=
  table.set (bucket k) (table[bucket k].eraseP fun x => key x == k)

/-- the chains hold the elements of a list with distinct keys, each in the bucket of its key -/
structure Indexes (table : Vector (List α) n) (items : List α) : Prop where
  keys : (items.map key).Nodup
  chain : ∀ i : Fin n, (table[i].map key).Nodup
  mem : ∀ (i : Fin n) (a : α), a ∈ table[i] ↔ a ∈ items ∧ bucket (key a) = i

end

namespace Indexes
variable {key : α → κ} {bucket : κ → Fin n} {table : Vector (List α) n} {items : List α}

omit [BEq κ] [LawfulBEq κ] in
lemma empty : Indexes key bucket (Vector.replicate n []) [] := by
  constructor
  · exact List.nodup_nil
  · intro i
    simp
  · intro i a
    simp

/-- **A search of the chain is a search of the list.** -/
theorem find_eq (h : Indexes key bucket table items) (k : κ) :
    find key bucket table k = items.find? fun x => key x == k := by
  refine KeyedFind.find_congr (h.chain (bucket k)) h.keys fun a ha => ?_
  rw [h.mem, ha]
  exact and_iff_left rfl

lemma getElem_set {i j : Fin n} (chain : List α) :
    (table.set i chain)[j] = if i = j then chain else table[j] := by
  by_cases hij : i = j
  · subst hij
    rw [if_pos rfl]
    exact Vector.getElem_set_self i.isLt
  · rw [if_neg hij]
    exact Vector.getElem_set_ne i.isLt j.isLt fun heq => hij (Fin.ext heq)

omit [BEq κ] [LawfulBEq κ] in
theorem push (h : Indexes key bucket table items) {a : α} (hnew : ∀ b ∈ items, key b ≠ key a) :
    Indexes key bucket (push key bucket table a) (items ++ [a]) := by
  have hmap : key a ∉ items.map key := by
    intro hmem
    obtain ⟨b, hb, hkey⟩ := List.mem_map.mp hmem
    exact hnew b hb hkey
  constructor
  · rw [List.map_append, List.map_singleton]
    refine h.keys.append (List.nodup_singleton _) ?_
    intro k hk hk'
    rw [List.mem_singleton] at hk'
    exact hmap (hk' ▸ hk)
  · intro i
    rw [Chains.push, getElem_set]
    split
    · rw [List.map_cons, List.nodup_cons]
      refine ⟨?_, h.chain _⟩
      intro hmem
      obtain ⟨b, hb, hkey⟩ := List.mem_map.mp hmem
      exact hnew b ((h.mem _ b).mp hb).1 hkey
    · exact h.chain i
  · intro i b
    rw [Chains.push, getElem_set, List.mem_append, List.mem_singleton]
    split
    · rename_i hi
      subst hi
      rw [List.mem_cons, h.mem]
      constructor
      · rintro (rfl | ⟨hb, hbucket⟩)
        · exact ⟨Or.inr rfl, rfl⟩
        · exact ⟨Or.inl hb, hbucket⟩
      · rintro ⟨hb | rfl, hbucket⟩
        · exact Or.inr ⟨hb, hbucket⟩
        · exact Or.inl rfl
    · rename_i hi
      rw [h.mem]
      constructor
      · rintro ⟨hb, hbucket⟩
        exact ⟨Or.inl hb, hbucket⟩
      · rintro ⟨hb | rfl, hbucket⟩
        · exact ⟨hb, hbucket⟩
        · exact absurd hbucket hi

theorem erase (h : Indexes key bucket table items) (k : κ) :
    Indexes key bucket (erase key bucket table k) (items.eraseP fun x => key x == k) := by
  constructor
  · exact nodup_eraseP h.keys _
  · intro i
    rw [Chains.erase, getElem_set]
    split
    · exact nodup_eraseP (h.chain _) _
    · exact h.chain i
  · intro i a
    rw [Chains.erase, getElem_set, mem_eraseP_key h.keys]
    split
    · rename_i hi
      subst hi
      rw [mem_eraseP_key (h.chain _), h.mem]
      exact and_right_comm
    · rename_i hi
      rw [h.mem]
      constructor
      · rintro ⟨ha, hbucket⟩
        refine ⟨⟨ha, ?_⟩, hbucket⟩
        rintro rfl
        exact hi hbucket
      · rintro ⟨⟨ha, -⟩, hbucket⟩
        exact ⟨ha, hbucket⟩

end Indexes

end Chains
