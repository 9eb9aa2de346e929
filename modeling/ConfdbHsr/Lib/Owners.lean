import Mathlib.Data.List.Basic
import Mathlib.Tactic.Lemma

/-!
# Objects that own cells

Objects stand in slots, and each of them refers to a cell with a value.

* `Store`          the slots, empty once the object is gone, and the cells, each with how often it
                   was freed;
* `SingleOwners`   no cell has two objects, and none was freed twice;
* `Owned`          and the cells of the objects were not freed: what can be kept;
* `owned_alloc`, `owned_update`, `owned_replace`, `owned_release`   operations that keep it;
* `value_update_ne`   an update of one object's cell is not seen through another;
* `not_owners_share`  a second object with the cell of the first.
-/

namespace Owners

structure Cell (γ : Type) where
  value : γ
  frees : Nat
  deriving DecidableEq, Repr

structure Store (δ γ : Type) where
  slots : List (Option δ)
  cells : List (Cell γ)
  deriving DecidableEq, Repr

variable {δ γ : Type}

namespace Store

def empty : Store δ γ := ⟨[], []⟩

/-- the object in a slot -/
def live (s : Store δ γ) (i : Nat) : Option δ := s.slots[i]?.join

/-- a new object with a new cell -/
def alloc (s : Store δ γ) (obj : Nat → δ) (value : γ) : Store δ γ :=
  ⟨s.slots ++ [some (obj s.cells.length)], s.cells ++ [⟨value, 0⟩]⟩

/-- a new object that refers to a cell which is there -/
def share (s : Store δ γ) (obj : δ) : Store δ γ := { s with slots := s.slots ++ [some obj] }

def update (s : Store δ γ) (c : Nat) (f : γ → γ) : Store δ γ :=
  { s with cells := s.cells.modify c fun cell => { cell with value := f cell.value } }

def free (s : Store δ γ) (c : Nat) : Store δ γ :=
  { s with cells := s.cells.modify c fun cell => { cell with frees := cell.frees + 1 } }

def put (s : Store δ γ) (i : Nat) (obj : Option δ) : Store δ γ :=
  { s with slots := s.slots.set i obj }

/-- the value that the object in a slot refers to -/
def value (ref : δ → Nat) (s : Store δ γ) (i : Nat) : Option γ :=
  (s.live i).bind fun obj => s.cells[ref obj]?.map Cell.value

end Store

structure SingleOwners (ref : δ → Nat) (s : Store δ γ) : Prop where
  owner : ∀ i j a b, s.live i = some a → s.live j = some b → ref a = ref b → i = j
  freedOnce : ∀ cell ∈ s.cells, cell.frees ≤ 1

structure Owned (ref : δ → Nat) (s : Store δ γ) : Prop extends SingleOwners ref s where
  unfreed : ∀ i a, s.live i = some a → ∃ cell, s.cells[ref a]? = some cell ∧ cell.frees = 0

/-! ## slots -/

section
variable {s : Store δ γ} {i j : Nat} {a b : δ}

lemma lt_of_live (h : s.live i = some a) : i < s.slots.length := by
  by_contra hlt
  rw [Store.live, List.getElem?_eq_none (Nat.not_lt.mp hlt)] at h
  cases h

lemma live_append (slots : List (Option δ)) (cells : List (Cell γ)) (obj : δ) (i : Nat) :
    (Store.mk (slots ++ [some obj]) cells).live i =
      if i = slots.length then some obj else slots[i]?.join := by
  rw [Store.live, List.getElem?_append]
  by_cases hlt : i < slots.length
  · rw [if_pos hlt, if_neg (Nat.ne_of_lt hlt)]
  · rw [if_neg hlt, List.getElem?_eq_none (Nat.not_lt.mp hlt)]
    by_cases heq : i = slots.length
    · subst heq
      rw [Nat.sub_self, if_pos rfl]
      rfl
    · rw [if_neg heq, List.getElem?_eq_none (by rw [List.length_singleton]; omega)]

lemma live_put (h : s.live i = some a) (obj : Option δ) (j : Nat) :
    (s.put i obj).live j = if j = i then obj else s.live j := by
  rw [Store.put, Store.live]
  by_cases heq : j = i
  · subst heq
    rw [List.getElem?_set_self (lt_of_live h), if_pos rfl]
    rfl
  · rw [List.getElem?_set_ne (Ne.symm heq), if_neg heq, Store.live]

/-! ## cells -/

lemma getElem?_modify_ite (cells : List (Cell γ)) (c k : Nat) (g : Cell γ → Cell γ) :
    (cells.modify c g)[k]? = if c = k then cells[k]?.map g else cells[k]? := by
  rw [List.getElem?_modify]
  split
  · rfl
  · exact Option.map_id'

lemma getElem?_modify_other {cells : List (Cell γ)} {c k : Nat} (hne : c ≠ k)
    (g : Cell γ → Cell γ) : (cells.modify c g)[k]? = cells[k]? := by
  rw [getElem?_modify_ite, if_neg hne]

lemma mem_modify {cells : List (Cell γ)} {c : Nat} {g : Cell γ → Cell γ} {cell : Cell γ}
    (h : cell ∈ cells.modify c g) :
    cell ∈ cells ∨ ∃ old, cells[c]? = some old ∧ cell = g old := by
  obtain ⟨k, hk⟩ := List.mem_iff_getElem?.mp h
  rw [getElem?_modify_ite] at hk
  split at hk
  · rename_i hck
    obtain ⟨old, hold, rfl⟩ := Option.map_eq_some_iff.mp hk
    exact .inr ⟨old, hck ▸ hold, rfl⟩
  · exact .inl (List.mem_of_getElem? hk)

/-! ## operations that keep single owners -/

variable {ref : δ → Nat}

lemma owned_empty : Owned ref (Store.empty : Store δ γ) where
  owner _ _ _ _ hi := by cases hi
  freedOnce _ hcell := by cases hcell
  unfreed _ _ hi := by cases hi

theorem owned_alloc (h : Owned ref s) (obj : Nat → δ) (hobj : ref (obj s.cells.length) =
    s.cells.length) (value : γ) : Owned ref (s.alloc obj value) := by
  have hlive (i : Nat) : (s.alloc obj value).live i =
      if i = s.slots.length then some (obj s.cells.length) else s.live i := live_append _ _ _ i
  have hbound {i : Nat} {a : δ} (hi : s.live i = some a) : ref a < s.cells.length := by
    obtain ⟨cell, hcell, -⟩ := h.unfreed i a hi
    exact (List.getElem?_eq_some_iff.mp hcell).1
  refine { owner := ?_, freedOnce := ?_, unfreed := ?_ }
  · intro i j a b hi hj hab
    rw [hlive] at hi hj
    split at hi <;> split at hj
    · rename_i hi' hj'
      rw [hi', hj']
    · obtain rfl := Option.some.inj hi
      have hlt := hbound hj
      omega
    · obtain rfl := Option.some.inj hj
      have hlt := hbound hi
      omega
    · exact h.owner i j a b hi hj hab
  · intro cell hcell
    rcases List.mem_append.mp hcell with hold | hnew
    · exact h.freedOnce cell hold
    · rw [List.mem_singleton.mp hnew]
      exact Nat.zero_le 1
  · intro i a hi
    rw [hlive] at hi
    split at hi
    · obtain rfl := Option.some.inj hi
      refine ⟨⟨value, 0⟩, ?_, rfl⟩
      rw [hobj]
      exact List.getElem?_concat_length
    · obtain ⟨cell, hcell, hfrees⟩ := h.unfreed i a hi
      refine ⟨cell, ?_, hfrees⟩
      rw [Store.alloc, List.getElem?_append_left (hbound hi)]
      exact hcell

theorem owned_update (h : Owned ref s) (c : Nat) (f : γ → γ) : Owned ref (s.update c f) := by
  refine { owner := h.owner, freedOnce := ?_, unfreed := ?_ }
  · intro cell hcell
    rcases mem_modify hcell with hold | ⟨old, hold, rfl⟩
    · exact h.freedOnce cell hold
    · exact h.freedOnce old (List.mem_of_getElem? hold)
  · intro i a hi
    obtain ⟨cell, hcell, hfrees⟩ := h.unfreed i a hi
    show ∃ cell, (s.cells.modify c _)[ref a]? = some cell ∧ cell.frees = 0
    rw [getElem?_modify_ite, hcell]
    split
    · exact ⟨{ cell with value := f cell.value }, rfl, hfrees⟩
    · exact ⟨cell, rfl, hfrees⟩

theorem owned_replace (h : Owned ref s) (ha : s.live i = some a) (hb : ref b = ref a) :
    Owned ref (s.put i (some b)) := by
  have hlive := live_put ha (some b)
  -- every object of the new store has the cell of the one that was in its slot
  have hold {j : Nat} {d : δ} (hj : (s.put i (some b)).live j = some d) :
      ∃ old, s.live j = some old ∧ ref old = ref d := by
    rw [hlive] at hj
    split at hj
    · rename_i hji
      obtain rfl := Option.some.inj hj
      exact ⟨a, hji ▸ ha, hb.symm⟩
    · exact ⟨d, hj, rfl⟩
  refine { owner := ?_, freedOnce := h.freedOnce, unfreed := ?_ }
  · intro j k d e hj hk hde
    obtain ⟨oldj, hoj, hrj⟩ := hold hj
    obtain ⟨oldk, hok, hrk⟩ := hold hk
    exact h.owner j k oldj oldk hoj hok (by rw [hrj, hrk, hde])
  · intro j d hj
    obtain ⟨old, hoj, hrj⟩ := hold hj
    rw [← hrj]
    exact h.unfreed j old hoj

theorem owned_release (h : Owned ref s) (ha : s.live i = some a) :
    Owned ref ((s.put i none).free (ref a)) := by
  have hlive (j : Nat) : ((s.put i none).free (ref a)).live j =
      if j = i then none else s.live j := live_put ha none j
  have hold {j : Nat} {d : δ} (hj : ((s.put i none).free (ref a)).live j = some d) :
      j ≠ i ∧ s.live j = some d := by
    rw [hlive] at hj
    split at hj
    · cases hj
    · exact ⟨‹j ≠ i›, hj⟩
  refine { owner := ?_, freedOnce := ?_, unfreed := ?_ }
  · intro j k d e hj hk hde
    exact h.owner j k d e (hold hj).2 (hold hk).2 hde
  · intro cell hcell
    rcases mem_modify hcell with hmem | ⟨old, hcell', rfl⟩
    · exact h.freedOnce cell hmem
    · obtain ⟨own, hown, hfrees⟩ := h.unfreed i a ha
      obtain rfl := Option.some.inj (hown.symm.trans hcell')
      show own.frees + 1 ≤ 1
      omega
  · intro j d hj
    obtain ⟨hji, hd⟩ := hold hj
    obtain ⟨cell, hcell, hfrees⟩ := h.unfreed j d hd
    have hne : ref a ≠ ref d := fun heq => hji (h.owner j i d a hd ha heq.symm)
    exact ⟨cell, (getElem?_modify_other hne _).trans hcell, hfrees⟩

/-- an update through one object is not seen through another -/
theorem value_update_ne (h : SingleOwners ref s) (ha : s.live i = some a) (hji : j ≠ i)
    (f : γ → γ) : (s.update (ref a) f).value ref j = s.value ref j := by
  have hlive : (s.update (ref a) f).live j = s.live j := rfl
  rw [Store.value, Store.value, hlive]
  cases hj : s.live j with
  | none => rfl
  | some b =>
    have hne : ref a ≠ ref b := fun heq => hji (h.owner j i b a hj ha heq.symm)
    exact congrArg (Option.map Cell.value) (getElem?_modify_other hne _)

/-! ## sharing -/

/-- a second object with the cell of one that is there -/
theorem not_owners_share (ha : s.live i = some a) (hb : ref b = ref a) :
    ¬ SingleOwners ref (s.share b) := by
  intro h
  have hlive (j : Nat) : (s.share b).live j =
      if j = s.slots.length then some b else s.live j := live_append _ _ _ j
  have hlt := lt_of_live ha
  have hold : (s.share b).live i = some a := by
    rw [hlive, if_neg (Nat.ne_of_lt hlt)]
    exact ha
  have hnew : (s.share b).live s.slots.length = some b := by rw [hlive, if_pos rfl]
  have heq := h.owner i s.slots.length a b hold hnew hb.symm
  omega

end

end Owners
