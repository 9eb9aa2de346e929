import Mathlib.Data.List.Basic
import Mathlib.Tactic.Lemma

/-!
# Computations against an outside world, with a log of what they do

A program that talks to its environment reads a world, changes it, may crash, and on the way
performs acts an observer can see.

* `Out ε W A α`        what a run leaves: a value or a fault, the world, the acts in order;
* `Proc ε W A α`       a computation, `W → Out ε W A α`, a lawful monad;
* `Proc.emit`, `Proc.fail`, `Proc.sys`   one act, a crash, one call into the environment;
* `Proc.mapLog x f`    the result of `x` combined with what it did;
* `Proc.Spec x R`      every run of `x` ends with a result and a log related by `R`;
* `Proc.SpecIn P x R`  the same for the runs from worlds in `P`, which `x` does not leave;
* `Proc.SpecFrom P x R`   every run of `x` from a world in `P` ends related by `R`, in any world;
* `Proc.Always P x`    every act of every run of `x` satisfies `P`;
* `Proc.Yields Q x`    every value that a run of `x` returns satisfies `Q`;
* `Proc.Delivers Q x`  every run of `x` returns, and its value satisfies `Q`;
* `Proc.Faults F x`    every fault that ends a run of `x` satisfies `F`;
* `Proc.ActsAt P x w`  every act of the run of `x` from `w` satisfies `P`;
* `Proc.Leaves P x Q`  the Hoare triple: from `P` a run of `x` that returns ends in `Q`.

The rules of all follow the structure of the computation: one for each
constructor, one for `bind`, one for a case distinction.
-/

universe u v w z

/-- what a run of a computation leaves behind -/
structure Out (ε : Type u) (W : Type v) (A : Type w) (α : Type z) where
  val : Except ε α
  world : W
  acts : List A

/-- a computation over a world `W` that may fault with `ε` and logs acts `A` -/
def Proc (ε : Type u) (W : Type v) (A : Type w) (α : Type z) : Type (max u v w z) :=
  W → Out ε W A α

namespace Proc
variable {ε : Type u} {W : Type v} {A : Type w} {α β : Type z}

/-- run the continuation of a computation that ended in `o` -/
def thenRun (o : Out ε W A α) (f : α → Proc ε W A β) : Out ε W A β :=
  match o.val with
  | .ok a => { f a o.world with acts := o.acts ++ (f a o.world).acts }
  | .error e => ⟨.error e, o.world, o.acts⟩

instance : Monad (Proc ε W A) where
  pure a := fun w => ⟨.ok a, w, []⟩
  bind x f := fun w => thenRun (x w) f

/-- log one act -/
def emit (a : A) : Proc ε W A PUnit := fun w => ⟨.ok ⟨⟩, w, [a]⟩

/-- crash -/
def fail (e : ε) : Proc ε W A α := fun w => ⟨.error e, w, []⟩

/-- one call into the environment -/
def sys (f : W → α × W) : Proc ε W A α := fun w => ⟨.ok (f w).1, (f w).2, []⟩

/-- the result of `x` combined with its log -/
def mapLog (x : Proc ε W A α) (f : α → List A → β) : Proc ε W A β :=
  fun w => ⟨(x w).val.map fun a => f a (x w).acts, (x w).world, (x w).acts⟩

/-! ## running -/

@[simp] lemma pure_apply (a : α) (w : W) : (pure a : Proc ε W A α) w = ⟨.ok a, w, []⟩ := rfl

lemma bind_apply (x : Proc ε W A α) (f : α → Proc ε W A β) (w : W) :
    (x >>= f) w = thenRun (x w) f := rfl

@[simp] lemma emit_apply (a : A) (w : W) :
    (emit a : Proc ε W A PUnit) w = ⟨.ok ⟨⟩, w, [a]⟩ := rfl

@[simp] lemma sys_apply (f : W → α × W) (w : W) :
    (sys f : Proc ε W A α) w = ⟨.ok (f w).1, (f w).2, []⟩ := rfl

@[simp] lemma thenRun_ok (a : α) (w : W) (l : List A) (f : α → Proc ε W A β) :
    thenRun ⟨.ok a, w, l⟩ f = ⟨(f a w).val, (f a w).world, l ++ (f a w).acts⟩ := rfl

lemma sys_bind_val (f : W → α × W) (g : α → Proc ε W A β) (w : W) :
    ((sys f >>= g) w).val = (g (f w).1 (f w).2).val := rfl

lemma bind_val_of_ok {x : Proc ε W A α} {w : W} {a : α} (h : (x w).val = .ok a)
    (f : α → Proc ε W A β) : ((x >>= f) w).val = (f a (x w).world).val := by
  rw [bind_apply, thenRun, h]

lemma bind_val_of_error {x : Proc ε W A α} {w : W} {e : ε} (h : (x w).val = .error e)
    (f : α → Proc ε W A β) : ((x >>= f) w).val = .error e := by
  rw [bind_apply, thenRun, h]

lemma bind_run {x : Proc ε W A α} {f : α → Proc ε W A β} {w w₁ w₂ : W} {a : α} {b : β}
    {l₁ l₂ : List A} (hx : x w = ⟨.ok a, w₁, l₁⟩) (hf : f a w₁ = ⟨.ok b, w₂, l₂⟩) :
    (x >>= f) w = ⟨.ok b, w₂, l₁ ++ l₂⟩ := by
  rw [bind_apply, hx, thenRun_ok, hf]

lemma mapLog_ok_iff {x : Proc ε W A α} {f : α → List A → β} {w : W} {b : β} :
    (mapLog x f w).val = .ok b ↔ ∃ a, (x w).val = .ok a ∧ f a (x w).acts = b := by
  show (x w).val.map _ = .ok b ↔ _
  cases (x w).val with
  | error e => simp [Except.map]
  | ok a => simp [Except.map]

lemma mem_acts_bind {x : Proc ε W A α} {f : α → Proc ε W A β} {w : W} {a : A} :
    a ∈ ((x >>= f) w).acts ↔ a ∈ (x w).acts ∨
      ∃ b, (x w).val = .ok b ∧ a ∈ (f b (x w).world).acts := by
  rw [bind_apply]
  rcases x w with ⟨_ | b, w', l⟩
  · simp [thenRun]
  · rw [thenRun_ok, List.mem_append]
    simp

lemma acts_prefix_bind (x : Proc ε W A α) (f : α → Proc ε W A β) (w : W) :
    (x w).acts <+: ((x >>= f) w).acts := by
  rw [bind_apply]
  rcases x w with ⟨_ | a, w', l⟩
  · exact List.prefix_rfl
  · exact List.prefix_append _ _

lemma map_val (x : Proc ε W A α) (f : α → β) (w : W) :
    ((f <$> x) w).val = (x w).val.map f := by
  show (thenRun (x w) fun a => pure (f a)).val = _
  rcases x w with ⟨_ | a, w', l⟩
  · rfl
  · rfl

lemma map_acts (x : Proc ε W A α) (f : α → β) (w : W) : ((f <$> x) w).acts = (x w).acts := by
  show (thenRun (x w) fun a => pure (f a)).acts = _
  rcases x w with ⟨_ | a, w', l⟩
  · rfl
  · exact List.append_nil l

/-! ## the monad laws -/

private lemma id_map_run (x : Proc ε W A α) : id <$> x = x := by
  funext w
  show thenRun (x w) _ = x w
  rcases x w with ⟨_ | a, w', l⟩
  · rfl
  · simp [Function.comp]

private lemma pure_bind_run (a : α) (f : α → Proc ε W A β) : pure a >>= f = f a := by
  funext w
  show thenRun ⟨.ok a, w, []⟩ f = f a w
  simp

private lemma bind_assoc_run {γ : Type z} (x : Proc ε W A α) (f : α → Proc ε W A β)
    (g : β → Proc ε W A γ) : x >>= f >>= g = x >>= fun a => f a >>= g := by
  funext w
  show thenRun (thenRun (x w) f) g = thenRun (x w) fun a => f a >>= g
  rcases x w with ⟨_ | a, w', l⟩
  · rfl
  · rw [thenRun_ok, thenRun_ok, bind_apply]
    rcases f a w' with ⟨_ | b, w'', l'⟩
    · rfl
    · simp

instance : LawfulMonad (Proc ε W A) :=
  LawfulMonad.mk' _ id_map_run pure_bind_run bind_assoc_run

/-! ## results and logs -/

/-- every run of `x` ends with a result and a log related by `R` -/
def Spec (x : Proc ε W A α) (R : Except ε α → List A → Prop) : Prop :=
  ∀ w, R (x w).val (x w).acts

/-- consequence -/
theorem Spec.mono {x : Proc ε W A α} {R R' : Except ε α → List A → Prop} (h : Spec x R)
    (hR : ∀ r l, R r l → R' r l) : Spec x R' :=
  fun w => hR _ _ (h w)

theorem spec_pure {a : α} {R : Except ε α → List A → Prop} (h : R (.ok a) []) :
    Spec (pure a : Proc ε W A α) R :=
  fun _ => h

theorem spec_emit {a : A} {R : Except ε PUnit → List A → Prop} (h : R (.ok ⟨⟩) [a]) :
    Spec (emit a : Proc ε W A PUnit) R :=
  fun _ => h

theorem spec_fail {e : ε} {R : Except ε α → List A → Prop} (h : R (.error e) []) :
    Spec (fail e : Proc ε W A α) R :=
  fun _ => h

theorem spec_sys {f : W → α × W} {R : Except ε α → List A → Prop} (h : ∀ a, R (.ok a) []) :
    Spec (sys f : Proc ε W A α) R :=
  fun w => h (f w).1

/-- the first part is run against the rest of the computation as its postcondition -/
theorem spec_bind {x : Proc ε W A α} {f : α → Proc ε W A β} {R : Except ε β → List A → Prop}
    {Q : Except ε α → List A → Prop} (hx : Spec x Q) (he : ∀ e l, Q (.error e) l → R (.error e) l)
    (hf : ∀ a l, Q (.ok a) l → Spec (f a) fun r l' => R r (l ++ l')) : Spec (x >>= f) R := by
  intro w
  have h := hx w
  rw [bind_apply]
  rcases hw : x w with ⟨e | a, w', l⟩
  · rw [hw] at h
    exact he e l h
  · rw [hw] at h
    exact hf a l h w'

theorem spec_sys_bind {f : W → α × W} {g : α → Proc ε W A β} {R : Except ε β → List A → Prop}
    (h : ∀ a, Spec (g a) R) : Spec (sys f >>= g) R :=
  fun w => h (f w).1 (f w).2

theorem spec_emit_bind {a : A} {g : PUnit → Proc ε W A β} {R : Except ε β → List A → Prop}
    (h : Spec (g ⟨⟩) fun r l => R r (a :: l)) : Spec (emit a >>= g) R :=
  h

theorem spec_map {x : Proc ε W A α} {f : α → β} {R : Except ε β → List A → Prop}
    (h : Spec x fun r l => R (f <$> r) l) : Spec (f <$> x) R := by
  rw [map_eq_pure_bind]
  refine spec_bind h (fun _ _ h => h) fun a l h => spec_pure ?_
  rw [List.append_nil]
  exact h

theorem spec_ite {p : Prop} [Decidable p] {x y : Proc ε W A α} {R : Except ε α → List A → Prop}
    (hx : p → Spec x R) (hy : ¬ p → Spec y R) : Spec (if p then x else y) R := by
  split
  · exact hx ‹_›
  · exact hy ‹_›

/-! ## results and logs in a kind of worlds -/

/-- from every world in `P`, `x` ends in a world in `P`, with a result and a log related by `R` -/
def SpecIn (P : W → Prop) (x : Proc ε W A α) (R : Except ε α → List A → Prop) : Prop :=
  ∀ w, P w → P (x w).world ∧ R (x w).val (x w).acts

section
variable {P : W → Prop} {R : Except ε β → List A → Prop}

theorem SpecIn.mono {x : Proc ε W A β} {R' : Except ε β → List A → Prop} (h : SpecIn P x R)
    (hR : ∀ r l, R r l → R' r l) : SpecIn P x R' :=
  fun w hw => ⟨(h w hw).1, hR _ _ (h w hw).2⟩

theorem specIn_pure {b : β} (h : R (.ok b) []) : SpecIn P (pure b : Proc ε W A β) R :=
  fun _ hw => ⟨hw, h⟩

theorem specIn_bind {x : Proc ε W A α} {f : α → Proc ε W A β} {Q : Except ε α → List A → Prop}
    (hx : SpecIn P x Q) (he : ∀ e l, Q (.error e) l → R (.error e) l)
    (hf : ∀ a l, Q (.ok a) l → SpecIn P (f a) fun r l' => R r (l ++ l')) :
    SpecIn P (x >>= f) R := by
  intro w hw
  have h := hx w hw
  rw [bind_apply]
  rcases hxw : x w with ⟨e | a, w', l⟩
  · rw [hxw] at h
    exact ⟨h.1, he e l h.2⟩
  · rw [hxw] at h
    exact hf a l h.2 w' h.1

theorem specIn_bind_ok {x : Proc ε W A α} {f : α → Proc ε W A β} {Q : α → List A → Prop}
    (hx : SpecIn P x fun r l => ∃ a, r = .ok a ∧ Q a l)
    (hf : ∀ a l, Q a l → SpecIn P (f a) fun r l' => R r (l ++ l')) : SpecIn P (x >>= f) R := by
  refine specIn_bind hx (fun e l h => ?_) fun a l h => ?_
  · obtain ⟨_, he, -⟩ := h
    cases he
  · obtain ⟨_, ha, hq⟩ := h
    obtain rfl := Except.ok.inj ha
    exact hf a l hq

theorem specIn_bind_val {x : Proc ε W A α} {f : α → Proc ε W A β} {a : α} {Q : List A → Prop}
    (hx : SpecIn P x fun r l => r = .ok a ∧ Q l)
    (hf : ∀ l, Q l → SpecIn P (f a) fun r l' => R r (l ++ l')) : SpecIn P (x >>= f) R := by
  have hok : SpecIn P x fun r l => ∃ b, r = .ok b ∧ b = a ∧ Q l :=
    hx.mono fun r l h => ⟨a, h.1, rfl, h.2⟩
  refine specIn_bind_ok hok fun b l h => ?_
  obtain ⟨rfl, hq⟩ := h
  exact hf l hq

/-- the environment answers from a world in `P` with an answer in `Q`, and stays in `P` -/
theorem specIn_sys_bind {f : W → α × W} {g : α → Proc ε W A β} {Q : α → Prop}
    (hf : ∀ w, P w → P (f w).2 ∧ Q (f w).1) (hg : ∀ a, Q a → SpecIn P (g a) R) :
    SpecIn P (sys f >>= g) R :=
  fun w hw => hg (f w).1 (hf w hw).2 (f w).2 (hf w hw).1

theorem specIn_emit_bind {a : A} {g : PUnit → Proc ε W A β}
    (h : SpecIn P (g ⟨⟩) fun r l => R r (a :: l)) : SpecIn P (emit a >>= g) R :=
  h

theorem specIn_ite {p : Prop} [Decidable p] {x y : Proc ε W A β} (hx : p → SpecIn P x R)
    (hy : ¬ p → SpecIn P y R) : SpecIn P (if p then x else y) R := by
  split
  · exact hx ‹_›
  · exact hy ‹_›

end

/-! ## results and logs from a kind of worlds -/

/-- from every world in `P`, `x` ends with a result and a log related by `R` -/
def SpecFrom (P : W → Prop) (x : Proc ε W A α) (R : Except ε α → List A → Prop) : Prop :=
  ∀ w, P w → R (x w).val (x w).acts

section
variable {P : W → Prop} {R : Except ε β → List A → Prop}

theorem SpecFrom.mono {x : Proc ε W A β} {R' : Except ε β → List A → Prop} (h : SpecFrom P x R)
    (hR : ∀ r l, R r l → R' r l) : SpecFrom P x R' :=
  fun w hw => hR _ _ (h w hw)

theorem specFrom_pure {b : β} (h : R (.ok b) []) : SpecFrom P (pure b : Proc ε W A β) R :=
  fun _ _ => h

theorem specFrom_fail {e : ε} (h : R (.error e) []) :
    SpecFrom P (fail e : Proc ε W A β) R :=
  fun _ _ => h

/-- the first part stays in `P`, the second need not -/
theorem specFrom_bind {x : Proc ε W A α} {f : α → Proc ε W A β} {Q : Except ε α → List A → Prop}
    (hx : SpecIn P x Q) (he : ∀ e l, Q (.error e) l → R (.error e) l)
    (hf : ∀ a l, Q (.ok a) l → SpecFrom P (f a) fun r l' => R r (l ++ l')) :
    SpecFrom P (x >>= f) R := by
  intro w hw
  have h := hx w hw
  rw [bind_apply]
  rcases hxw : x w with ⟨e | a, w', l⟩
  · rw [hxw] at h
    exact he e l h.2
  · rw [hxw] at h
    exact hf a l h.2 w' h.1

theorem specFrom_bind_ok {x : Proc ε W A α} {f : α → Proc ε W A β} {Q : α → List A → Prop}
    (hx : SpecIn P x fun r l => ∃ a, r = .ok a ∧ Q a l)
    (hf : ∀ a l, Q a l → SpecFrom P (f a) fun r l' => R r (l ++ l')) : SpecFrom P (x >>= f) R := by
  refine specFrom_bind hx (fun e l h => ?_) fun a l h => ?_
  · obtain ⟨_, he, -⟩ := h
    cases he
  · obtain ⟨_, ha, hq⟩ := h
    obtain rfl := Except.ok.inj ha
    exact hf a l hq

theorem specFrom_bind_val {x : Proc ε W A α} {f : α → Proc ε W A β} {a : α} {Q : List A → Prop}
    (hx : SpecIn P x fun r l => r = .ok a ∧ Q l)
    (hf : ∀ l, Q l → SpecFrom P (f a) fun r l' => R r (l ++ l')) : SpecFrom P (x >>= f) R := by
  have hok : SpecIn P x fun r l => ∃ b, r = .ok b ∧ b = a ∧ Q l :=
    hx.mono fun r l h => ⟨a, h.1, rfl, h.2⟩
  refine specFrom_bind_ok hok fun b l h => ?_
  obtain ⟨rfl, hq⟩ := h
  exact hf l hq

/-- the first part ends anywhere, the second does not look at the world -/
theorem specFrom_then {x : Proc ε W A α} {f : α → Proc ε W A β} {Q : Except ε α → List A → Prop}
    (hx : SpecFrom P x Q) (he : ∀ e l, Q (.error e) l → R (.error e) l)
    (hf : ∀ a l, Q (.ok a) l → Spec (f a) fun r l' => R r (l ++ l')) : SpecFrom P (x >>= f) R := by
  intro w hw
  have h := hx w hw
  rw [bind_apply]
  rcases hxw : x w with ⟨e | a, w', l⟩
  · rw [hxw] at h
    exact he e l h
  · rw [hxw] at h
    exact hf a l h w'

theorem specFrom_sys_bind {f : W → α × W} {g : α → Proc ε W A β} {Q : α → Prop}
    (hf : ∀ w, P w → P (f w).2 ∧ Q (f w).1) (hg : ∀ a, Q a → SpecFrom P (g a) R) :
    SpecFrom P (sys f >>= g) R :=
  fun w hw => hg (f w).1 (hf w hw).2 (f w).2 (hf w hw).1

theorem specFrom_ite {p : Prop} [Decidable p] {x y : Proc ε W A β} (hx : p → SpecFrom P x R)
    (hy : ¬ p → SpecFrom P y R) : SpecFrom P (if p then x else y) R := by
  split
  · exact hx ‹_›
  · exact hy ‹_›

end

/-! ## acts -/

/-- every act of every run of `x` satisfies `P` -/
def Always (P : A → Prop) (x : Proc ε W A α) : Prop :=
  Spec x fun _ l => ∀ a ∈ l, P a

section
variable {P : A → Prop}

theorem Always.mono {P' : A → Prop} {x : Proc ε W A α} (h : Always P x) (hP : ∀ a, P a → P' a) :
    Always P' x :=
  fun w a ha => hP a (h w a ha)

theorem always_pure (a : α) : Always P (pure a : Proc ε W A α) :=
  spec_pure (by simp)

theorem always_emit {a : A} (h : P a) : Always P (emit a : Proc ε W A PUnit) :=
  spec_emit (by simpa using h)

theorem always_fail (e : ε) : Always P (fail e : Proc ε W A α) :=
  spec_fail (by simp)

theorem always_sys (f : W → α × W) : Always P (sys f : Proc ε W A α) :=
  spec_sys (by simp)

theorem always_bind {x : Proc ε W A α} {f : α → Proc ε W A β} (hx : Always P x)
    (hf : ∀ a, Always P (f a)) : Always P (x >>= f) := by
  refine spec_bind hx (fun _ _ h => h) fun a l hl => Spec.mono (hf a) fun r l' hl' b hb => ?_
  rcases List.mem_append.mp hb with hb | hb
  · exact hl b hb
  · exact hl' b hb

theorem always_ite {p : Prop} [Decidable p] {x y : Proc ε W A α} (hx : p → Always P x)
    (hy : ¬ p → Always P y) : Always P (if p then x else y) :=
  spec_ite hx hy

end

/-! ## values -/

/-- every value that a run of `x` returns satisfies `Q` -/
def Yields (Q : α → Prop) (x : Proc ε W A α) : Prop :=
  Spec x fun r _ => ∀ a, r = .ok a → Q a

/-- every run of `x` returns, with a value that satisfies `Q` -/
def Delivers (Q : α → Prop) (x : Proc ε W A α) : Prop :=
  Spec x fun r _ => ∃ a, r = .ok a ∧ Q a

theorem Delivers.yields {Q : α → Prop} {x : Proc ε W A α} (h : Delivers Q x) : Yields Q x :=
  Spec.mono h fun _ _ ⟨_, hr, hq⟩ _ ha => Except.ok.inj (hr.symm.trans ha) ▸ hq

theorem delivers_pure {Q : α → Prop} {a : α} (h : Q a) : Delivers Q (pure a : Proc ε W A α) :=
  spec_pure ⟨a, rfl, h⟩

theorem delivers_emit_bind {a : A} {Q : α → Prop} {f : PUnit → Proc ε W A α}
    (h : Delivers Q (f ⟨⟩)) : Delivers Q (emit a >>= f) :=
  spec_emit_bind h

theorem delivers_sys_bind {g : W → α × W} {Q : β → Prop} {f : α → Proc ε W A β}
    (h : ∀ a, Delivers Q (f a)) : Delivers Q (sys g >>= f) :=
  spec_sys_bind h

theorem delivers_bind {Q : α → Prop} {R : β → Prop} {x : Proc ε W A α} {f : α → Proc ε W A β}
    (hx : Delivers Q x) (hf : ∀ a, Q a → Delivers R (f a)) : Delivers R (x >>= f) :=
  spec_bind hx (fun _ _ h => nomatch h) fun _ _ ⟨_, ha, hq⟩ => Except.ok.inj ha ▸ hf _ hq

theorem delivers_ite {Q : α → Prop} {p : Prop} [Decidable p] {x y : Proc ε W A α}
    (hx : p → Delivers Q x) (hy : ¬ p → Delivers Q y) : Delivers Q (if p then x else y) :=
  spec_ite hx hy

theorem delivers_foldlM {f : α → β → Proc ε W A α} (h : ∀ a b, Delivers (fun _ => True) (f a b))
    (bs : List β) (a : α) : Delivers (fun _ => True) (bs.foldlM f a) := by
  induction bs generalizing a with
  | nil => exact delivers_pure trivial
  | cons b bs ih =>
    rw [List.foldlM_cons]
    exact delivers_bind (h a b) fun a' _ => ih a'

theorem Yields.mono {Q R : α → Prop} {x : Proc ε W A α} (h : Yields Q x) (hQ : ∀ a, Q a → R a) :
    Yields R x :=
  Spec.mono h fun _ _ hr a ha => hQ a (hr a ha)

theorem Yields.and {Q R : α → Prop} {x : Proc ε W A α} (h : Yields Q x) (h' : Yields R x) :
    Yields (fun a => Q a ∧ R a) x :=
  fun w a ha => ⟨h w a ha, h' w a ha⟩

theorem yields_pure {Q : α → Prop} {a : α} (h : Q a) : Yields Q (pure a : Proc ε W A α) :=
  spec_pure fun _ ha => Except.ok.inj ha ▸ h

theorem yields_fail {Q : α → Prop} (e : ε) : Yields Q (fail e : Proc ε W A α) :=
  spec_fail fun _ h => nomatch h

theorem yields_bind {Q : α → Prop} {R : β → Prop} {x : Proc ε W A α} {f : α → Proc ε W A β}
    (hx : Yields Q x) (hf : ∀ a, Q a → Yields R (f a)) : Yields R (x >>= f) :=
  spec_bind hx (fun _ _ _ _ h => nomatch h) fun a _ h => hf a (h a rfl)

theorem yields_then {R : β → Prop} {x : Proc ε W A α} {f : α → Proc ε W A β}
    (hf : ∀ a, Yields R (f a)) : Yields R (x >>= f) :=
  yields_bind (fun _ _ _ => trivial) fun a (_ : True) => hf a

theorem yields_map {Q : β → Prop} {x : Proc ε W A α} {f : α → β}
    (hx : Yields (fun a => Q (f a)) x) : Yields Q (f <$> x) := by
  rw [map_eq_pure_bind]
  exact yields_bind hx fun a ha => yields_pure ha

theorem yields_ite {Q : α → Prop} {p : Prop} [Decidable p] {x y : Proc ε W A α}
    (hx : p → Yields Q x) (hy : ¬ p → Yields Q y) : Yields Q (if p then x else y) :=
  spec_ite hx hy

/-! ## the acts of one run -/

/-- the acts of the run of `x` from `w` satisfy `P` -/
def ActsAt (P : A → Prop) (x : Proc ε W A α) (w : W) : Prop := ∀ a ∈ (x w).acts, P a

section
variable {P : A → Prop} {w : W}

theorem actsAt_sys_bind {g : W → α × W} {f : α → Proc ε W A β} :
    ActsAt P (sys g >>= f) w ↔ ActsAt P (f (g w).1) (g w).2 :=
  Iff.rfl

theorem actsAt_emit_bind {a : A} {f : PUnit → Proc ε W A β} :
    ActsAt P (emit a >>= f) w ↔ P a ∧ ActsAt P (f ⟨⟩) w :=
  List.forall_mem_cons

theorem actsAt_bind_left {x : Proc ε W A α} {f : α → Proc ε W A β} (hf : ∀ a, Always P (f a)) :
    ActsAt P (x >>= f) w ↔ ActsAt P x w := by
  constructor
  · intro h a ha
    exact h a (mem_acts_bind.mpr (.inl ha))
  · intro h a ha
    rcases mem_acts_bind.mp ha with ha | ⟨b, -, ha⟩
    · exact h a ha
    · exact hf b _ a ha

theorem actsAt_bind_right {x : Proc ε W A α} {f : α → Proc ε W A β} {b : α} (hx : Always P x)
    (hb : (x w).val = .ok b) : ActsAt P (x >>= f) w ↔ ActsAt P (f b) (x w).world := by
  constructor
  · intro h a ha
    exact h a (mem_acts_bind.mpr (.inr ⟨b, hb, ha⟩))
  · intro h a ha
    rcases mem_acts_bind.mp ha with ha | ⟨b', hb', ha⟩
    · exact hx w a ha
    · obtain rfl := Except.ok.inj (hb.symm.trans hb')
      exact h a ha

theorem actsAt_bind_fault {x : Proc ε W A α} {f : α → Proc ε W A β} {e : ε}
    (he : (x w).val = .error e) : ActsAt P (x >>= f) w ↔ ActsAt P x w := by
  unfold ActsAt
  refine forall_congr' fun a => imp_congr_left ?_
  rw [mem_acts_bind, or_iff_left]
  rintro ⟨b, hb, -⟩
  cases he.symm.trans hb

theorem actsAt_map {x : Proc ε W A α} (f : α → β) :
    ActsAt P (f <$> x) w ↔ ActsAt P x w := by
  rw [map_eq_pure_bind]
  exact actsAt_bind_left fun a => always_pure (f a)

end

/-! ## Hoare triples -/

/-- if `x` returns from a world in `P`, its value and the world it leaves are in `Q` -/
def Leaves (P : W → Prop) (x : Proc ε W A α) (Q : α → W → Prop) : Prop :=
  ∀ w, P w → ∀ a, (x w).val = .ok a → Q a (x w).world

section
variable {P : W → Prop} {Q : β → W → Prop}

theorem Leaves.mono {x : Proc ε W A β} {P' : W → Prop} {Q' : β → W → Prop} (h : Leaves P x Q)
    (hP : ∀ w, P' w → P w) (hQ : ∀ b w, Q b w → Q' b w) : Leaves P' x Q' :=
  fun w hw b hb => hQ _ _ (h w (hP w hw) b hb)

theorem Leaves.and {x : Proc ε W A β} {R : β → W → Prop} (h : Leaves P x Q) (h' : Leaves P x R) :
    Leaves P x fun b w => Q b w ∧ R b w :=
  fun w hw b hb => ⟨h w hw b hb, h' w hw b hb⟩

theorem Yields.leaves {x : Proc ε W A β} {R : β → Prop} (h : Yields R x) :
    Leaves P x fun b _ => R b :=
  fun w _ b hb => h w b hb

theorem leaves_pure {b : β} (h : ∀ w, P w → Q b w) : Leaves P (pure b : Proc ε W A β) Q := by
  intro w hw b' hb
  obtain rfl := Except.ok.inj hb
  exact h w hw

theorem leaves_fail (e : ε) : Leaves P (fail e : Proc ε W A β) Q :=
  fun _ _ _ h => nomatch h

theorem leaves_bind {x : Proc ε W A α} {f : α → Proc ε W A β} (R : α → W → Prop)
    (hx : Leaves P x R) (hf : ∀ a, Leaves (R a) (f a) Q) : Leaves P (x >>= f) Q := by
  intro w hw b hb
  have h := hx w hw
  rw [bind_apply] at hb ⊢
  rcases hxw : x w with ⟨e | a, w', l⟩
  · rw [hxw] at hb
    cases hb
  · rw [hxw] at h hb
    exact hf a w' (h a rfl) b hb

/-- a fact about values is taken out of the precondition -/
theorem leaves_given {x : Proc ε W A β} {p : Prop} (h : p → Leaves P x Q) :
    Leaves (fun w => P w ∧ p) x Q :=
  fun w hw b hb => h hw.2 w hw.1 b hb

theorem leaves_sys_bind {f : W → α × W} {g : α → Proc ε W A β} (R : α → W → Prop)
    (hf : ∀ w, P w → R (f w).1 (f w).2) (hg : ∀ a, Leaves (R a) (g a) Q) :
    Leaves P (sys f >>= g) Q :=
  fun w hw b hb => hg (f w).1 (f w).2 (hf w hw) b hb

theorem leaves_emit_bind {a : A} {g : PUnit → Proc ε W A β} (h : Leaves P (g ⟨⟩) Q) :
    Leaves P (emit a >>= g) Q :=
  fun w hw b hb => h w hw b hb

theorem leaves_map {x : Proc ε W A α} {f : α → β} (h : Leaves P x fun a w => Q (f a) w) :
    Leaves P (f <$> x) Q := by
  rw [map_eq_pure_bind]
  exact leaves_bind _ h fun a => leaves_pure fun _ hw => hw

theorem leaves_ite {p : Prop} [Decidable p] {x y : Proc ε W A β} (hx : p → Leaves P x Q)
    (hy : ¬ p → Leaves P y Q) : Leaves P (if p then x else y) Q := by
  split
  · exact hx ‹_›
  · exact hy ‹_›

end

/-! ## faults -/

/-- every fault that ends a run of `x` satisfies `F` -/
def Faults (F : ε → Prop) (x : Proc ε W A α) : Prop :=
  Spec x fun r _ => ∀ e, r = .error e → F e

section
variable {F : ε → Prop}

theorem faults_pure (a : α) : Faults F (pure a : Proc ε W A α) :=
  spec_pure nofun

theorem faults_emit (a : A) : Faults F (emit a : Proc ε W A PUnit) :=
  spec_emit nofun

theorem faults_sys (f : W → α × W) : Faults F (sys f : Proc ε W A α) :=
  spec_sys fun _ => nofun

theorem faults_fail {e : ε} (h : F e) : Faults F (fail e : Proc ε W A α) :=
  spec_fail fun _ he => Except.error.inj he ▸ h

theorem faults_bind {x : Proc ε W A α} {f : α → Proc ε W A β} (hx : Faults F x)
    (hf : ∀ a, Faults F (f a)) : Faults F (x >>= f) :=
  spec_bind hx (fun _ _ h e he => h e (congrArg _ (Except.error.inj he)))
    fun a _ _ => hf a

theorem faults_map {x : Proc ε W A α} (hx : Faults F x) (f : α → β) : Faults F (f <$> x) := by
  rw [map_eq_pure_bind]
  exact faults_bind hx fun a => faults_pure (f a)

theorem faults_ite {p : Prop} [Decidable p] {x y : Proc ε W A α} (hx : p → Faults F x)
    (hy : ¬ p → Faults F y) : Faults F (if p then x else y) :=
  spec_ite hx hy

end

end Proc
