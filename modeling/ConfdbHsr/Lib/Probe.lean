import Mathlib.Data.Int.GCD
import Mathlib.Logic.Function.Iterate
import Mathlib.Tactic.Ring

/-!
# Probing places in strides

A search tries one place after the other and takes the first that is free.

* `probe`         at most so many places, each found from the one before;
* `stride`        steps of a fixed length around a ring;
* `probe_stride_none`   steps whose length has no divisor in common with the ring leave no place
                  out: the search fails only where all places are taken;
* `strideUp`      the same ring with its places numbered from one.
-/

namespace Probe

/-- the first free place among the `k` places that follow `b` -/
def probe {β : Type} (next : β → β) (free : β → Bool) : Nat → β → Option β
  | 0, _ => none
  | k + 1, b => if free (next b) then some (next b) else probe next free k (next b)

section
variable {β : Type} (next : β → β) (free : β → Bool)

theorem probe_eq_none (k : Nat) (b : β) :
    probe next free k b = none ↔ ∀ j < k, free (next^[j + 1] b) = false := by
  induction k generalizing b with
  | zero => simp [probe]
  | succ k ih =>
    rw [probe]
    by_cases hfree : free (next b) = true
    · rw [if_pos hfree]
      refine ⟨fun h => by simp at h, fun h => ?_⟩
      have := h 0 (Nat.succ_pos k)
      rw [Function.iterate_one] at this
      simp [hfree] at this
    · rw [if_neg hfree, ih]
      constructor
      · intro h j hj
        cases j with
        | zero => simpa using hfree
        | succ j => exact h j (by omega)
      · intro h j hj
        exact h (j + 1) (by omega)

theorem probe_eq_some {k : Nat} {b c : β} (h : probe next free k b = some c) :
    free c = true ∧ ∃ j < k, c = next^[j + 1] b := by
  induction k generalizing b with
  | zero => simp [probe] at h
  | succ k ih =>
    rw [probe] at h
    by_cases hfree : free (next b) = true
    · rw [if_pos hfree, Option.some.injEq] at h
      subst h
      exact ⟨hfree, 0, Nat.succ_pos k, rfl⟩
    · rw [if_neg hfree] at h
      obtain ⟨hc, j, hj, rfl⟩ := ih h
      exact ⟨hc, j + 1, by omega, rfl⟩

end

/-! ## rings -/

/-- a step of length `s` around the places below `m` -/
def stride (s m b : Nat) : Nat := (b + s) % m

theorem stride_iterate (s m b j : Nat) : (stride s m)^[j + 1] b = (b + s * (j + 1)) % m := by
  induction j generalizing b with
  | zero => simp [stride]
  | succ j ih =>
    rw [Function.iterate_succ_apply, ih, stride, Nat.mod_add_mod]
    congr 1
    ring

/-- strides without a common divisor with the ring come to every place -/
theorem stride_covers {s m : Nat} (hs : s.Coprime m) (b : Nat) {r : Nat} (hr : r < m) :
    ∃ j < m, (stride s m)^[j + 1] b = r := by
  have hm : m ≠ 0 := by omega
  -- one step is made before the first place is tried
  obtain ⟨j, hj, hmod⟩ := Nat.exists_mul_mod_eq_of_coprime (r + (m - (b + s) % m)) hs hm
  refine ⟨j, hj, ?_⟩
  have hlt : (b + s) % m < m := Nat.mod_lt _ (Nat.pos_of_ne_zero hm)
  calc (stride s m)^[j + 1] b = (b + s + s * j) % m := by
        rw [stride_iterate]
        congr 1
        ring
    _ = ((b + s) % m + (r + (m - (b + s) % m)) % m) % m := by rw [Nat.add_mod, hmod]
    _ = (r + m) % m := by
        rw [Nat.add_mod_mod]
        congr 1
        omega
    _ = r := by rw [Nat.add_mod_right, Nat.mod_eq_of_lt hr]

theorem stride_lt {s m b : Nat} (hm : 0 < m) : stride s m b < m := Nat.mod_lt _ hm

/-- one round of coprime strides fails only where no place is free -/
theorem probe_stride_none {s m : Nat} (hs : s.Coprime m) (free : Nat → Bool) (b : Nat) :
    probe (stride s m) free m b = none ↔ ∀ r < m, free r = false := by
  rw [probe_eq_none]
  constructor
  · intro h r hr
    obtain ⟨j, hj, rfl⟩ := stride_covers hs b hr
    exact h j hj
  · intro h j hj
    rw [Function.iterate_succ_apply']
    exact h _ (stride_lt (by omega))

/-- a step of length `s + 1` around the places `1, …, m` -/
def strideUp (s m b : Nat) : Nat := (b + s) % m + 1

theorem strideUp_iterate (s m b j : Nat) :
    (strideUp s m)^[j + 1] b = (stride (s + 1) m)^[j] ((b + s) % m) + 1 := by
  induction j generalizing b with
  | zero => rfl
  | succ j ih =>
    rw [Function.iterate_succ_apply, ih, Function.iterate_succ_apply]
    congr 2
    show ((b + s) % m + 1 + s) % m = ((b + s) % m + (s + 1)) % m
    congr 1
    omega

theorem strideUp_covers {s m : Nat} (hs : (s + 1).Coprime m) (b : Nat) {r : Nat} (hr : 0 < r)
    (hrm : r ≤ m) : ∃ j < m, (strideUp s m)^[j + 1] b = r := by
  -- the first step of `strideUp` is a step of `stride` from one place further back
  have hfirst : ∀ j, (strideUp s m)^[j + 1] b = (stride (s + 1) m)^[j + 1] (b + (m - 1)) + 1 := by
    intro j
    rw [strideUp_iterate, Function.iterate_succ_apply]
    congr 2
    show (b + s) % m = (b + (m - 1) + (s + 1)) % m
    have hsum : b + (m - 1) + (s + 1) = b + s + m := by omega
    rw [hsum, Nat.add_mod_right]
  obtain ⟨j, hj, heq⟩ := stride_covers hs (b + (m - 1)) (r := r - 1) (by omega)
  exact ⟨j, hj, by rw [hfirst, heq]; omega⟩

end Probe
