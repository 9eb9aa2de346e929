import ConfdbHsr.Lib.Proc

/-!
# Runs of a machine that handles one input after the other

A machine is a step function `step : σ → ι → Proc ε W A σ`: from a state it handles one input
against the world and leaves the next state, unless it crashes.

* `Handled`         one handled input: the state and world it found, and what handling it left;
* `trace step`      the inputs a run handles, in order; a crash ends it;
* `Along step C`    a run all of whose handled inputs satisfy `C`;
* `along_of_inv`    the induction rule: an invariant of the steps gives a property of every run.
-/

universe u v w

namespace Machine
variable {ε : Type u} {W : Type v} {A : Type w} {σ ι : Type}

/-- one handled input -/
structure Handled (ε : Type u) (W : Type v) (A : Type w) (σ ι : Type) where
  pre : σ
  world : W
  input : ι
  out : Out ε W A σ

/-- the inputs a run from `s` handles; a crash is the end of the run -/
def trace (step : σ → ι → Proc ε W A σ) (s : σ) (w : W) : List ι → List (Handled ε W A σ ι)
  | [] => []
  | i :: is =>
    ⟨s, w, i, step s i w⟩ ::
      match (step s i w).val with
      | .ok s' => trace step s' (step s i w).world is
      | .error _ => []

/-- every input handled in the run satisfies `C` -/
def Along (step : σ → ι → Proc ε W A σ) (s : σ) (w : W) (is : List ι)
    (C : Handled ε W A σ ι → Prop) : Prop :=
  ∀ h ∈ trace step s w is, C h

instance (step : σ → ι → Proc ε W A σ) (s : σ) (w : W) (is : List ι)
    (C : Handled ε W A σ ι → Prop) [DecidablePred C] : Decidable (Along step s w is C) :=
  inferInstanceAs (Decidable (∀ h ∈ trace step s w is, C h))

section
variable {step : σ → ι → Proc ε W A σ} {C D : Handled ε W A σ ι → Prop}

@[simp] lemma along_nil (s : σ) (w : W) : Along step s w [] C := by
  intro h hh
  cases hh

lemma along_cons {s : σ} {w : W} {i : ι} {is : List ι} :
    Along step s w (i :: is) C ↔ C ⟨s, w, i, step s i w⟩ ∧
      ∀ s', (step s i w).val = .ok s' → Along step s' (step s i w).world is C := by
  rw [Along, trace]
  cases (step s i w).val with
  | error e => simp
  | ok s' => simp [Along]

lemma Along.mono {s : σ} {w : W} {is : List ι} (h : Along step s w is C)
    (hCD : ∀ r, C r → D r) : Along step s w is D :=
  fun r hr => hCD r (h r hr)

lemma Along.and {s : σ} {w : W} {is : List ι} (h : Along step s w is C)
    (h' : Along step s w is D) : Along step s w is fun r => C r ∧ D r :=
  fun r hr => ⟨h r hr, h' r hr⟩

variable (step) in
lemma along_out (s : σ) (w : W) (is : List ι) :
    Along step s w is fun h => h.out = step h.pre h.input h.world := by
  induction is generalizing s w with
  | nil => exact along_nil s w
  | cons i is ih => exact along_cons.mpr ⟨rfl, fun s' _ => ih s' _⟩

lemma along_inputs {P : ι → Prop} {is : List ι} (h : ∀ i ∈ is, P i) (s : σ) (w : W) :
    Along step s w is fun r => P r.input := by
  induction is generalizing s w with
  | nil => exact along_nil s w
  | cons i is ih =>
    have hrest := ih fun j hj => h j (List.mem_cons_of_mem i hj)
    exact along_cons.mpr ⟨h i List.mem_cons_self, fun s' _ => hrest s' _⟩

/-- **The induction rule for runs.**  Let `Inv` hold at the start and let every step from a state
and a world in `Inv` that satisfies the side condition `C` establish `D` and lead back into `Inv`.
Then in a run all of whose steps satisfy `C` every step satisfies `D`. -/
theorem along_of_inv (Inv : σ → W → Prop) {s : σ} {w : W} {is : List ι} (h0 : Inv s w)
    (hstep : ∀ s w i, Inv s w → C ⟨s, w, i, step s i w⟩ →
      D ⟨s, w, i, step s i w⟩ ∧ ∀ s', (step s i w).val = .ok s' → Inv s' (step s i w).world)
    (hC : Along step s w is C) : Along step s w is D := by
  induction is generalizing s w with
  | nil => exact along_nil s w
  | cons i is ih =>
    obtain ⟨hc, hrest⟩ := along_cons.mp hC
    obtain ⟨hd, hinv⟩ := hstep s w i h0 hc
    exact along_cons.mpr ⟨hd, fun s' hs' => ih (hinv s' hs') (hrest s' hs')⟩

end

end Machine
