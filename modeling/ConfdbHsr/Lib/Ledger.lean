import ConfdbHsr.Lib.Proc
import ConfdbHsr.Lib.Scan

/-!
# Computations that keep an account of what they hold

A program takes resources and gives them back.  Beside the world, the computation carries a
ledger; the plain computation is the one without it.

* `Ledger.lift x`      the plain computation `x`, which leaves the ledger alone;
* `Ledger.charge c`    an entry in the ledger;
* `Moves R x`          if `x` returns `a`, it takes the ledger along `R a`;
* `Follows E P x y`    from a ledger in `P`, `x` does what the plain `y` does, unless it stops on the
                       way with a fault and a ledger in `E`.
-/

universe u v w z

namespace Ledger
open Proc Scan

variable {ε : Type u} {W : Type v} {A : Type w} {G : Type v} {α β : Type z}

def lift (x : Proc ε W A α) : Proc ε (W × G) A α :=
  fun w => ⟨(x w.1).val, ((x w.1).world, w.2), (x w.1).acts⟩

def charge (c : G → G) : Proc ε (W × G) A PUnit := sys fun w => (⟨⟩, (w.1, c w.2))

/-! ## the way of the ledger -/

/-- if `x` returns `a`, it takes the ledger along `R a` -/
def Moves (R : α → G → G → Prop) (x : Proc ε (W × G) A α) : Prop :=
  ∀ w a, (x w).val = .ok a → R a w.2 (x w).world.2

section
variable {R : α → G → G → Prop} {T : β → G → G → Prop}

theorem Moves.mono {x : Proc ε (W × G) A α} {R' : α → G → G → Prop} (h : Moves R x)
    (hR : ∀ a g g', R a g g' → R' a g g') : Moves R' x :=
  fun w a ha => hR _ _ _ (h w a ha)

theorem moves_pure {a : α} (h : ∀ g, R a g g) : Moves R (pure a : Proc ε (W × G) A α) := by
  intro w a' ha
  obtain rfl := Except.ok.inj ha
  exact h w.2

theorem moves_fail (e : ε) : Moves R (fail e : Proc ε (W × G) A α) :=
  fun _ _ h => nomatch h

theorem moves_emit {T : PUnit → G → G → Prop} (a : A) (h : ∀ g, T ⟨⟩ g g) :
    Moves T (emit a : Proc ε (W × G) A PUnit) :=
  fun w _ _ => h w.2

theorem moves_sys {f : W × G → α × (W × G)} (h : ∀ w, R (f w).1 w.2 (f w).2.2) :
    Moves R (sys f : Proc ε (W × G) A α) := by
  intro w a ha
  obtain rfl := Except.ok.inj ha
  exact h w

theorem moves_charge {T : PUnit → G → G → Prop} {c : G → G} (h : ∀ g, T ⟨⟩ g (c g)) :
    Moves T (charge c : Proc ε (W × G) A PUnit) :=
  moves_sys fun w => h w.2

theorem moves_lift {x : Proc ε W A α} (h : ∀ a g, R a g g) :
    Moves R (lift x : Proc ε (W × G) A α) :=
  fun w a _ => h a w.2

/-- what the second part does, whatever way the first part took -/
theorem moves_bind {x : Proc ε (W × G) A α} {f : α → Proc ε (W × G) A β} (hx : Moves R x)
    (hf : ∀ a, Moves (fun b g' g'' => ∀ g, R a g g' → T b g g'') (f a)) : Moves T (x >>= f) := by
  intro w b hb
  have h := hx w
  rw [bind_apply] at hb ⊢
  rcases hxw : x w with ⟨e | a, w', l⟩
  · rw [hxw] at hb
    cases hb
  · rw [hxw] at h hb
    exact hf a w' b hb w.2 (h a rfl)

theorem moves_map {x : Proc ε (W × G) A α} {k : α → β} (hx : Moves (fun a => T (k a)) x) :
    Moves T (k <$> x) := by
  rw [map_eq_pure_bind]
  exact moves_bind hx fun a => moves_pure fun g' g h => h

theorem moves_ite {p : Prop} [Decidable p] {x y : Proc ε (W × G) A α} (hx : p → Moves R x)
    (hy : ¬ p → Moves R y) : Moves R (if p then x else y) := by
  split
  · exact hx ‹_›
  · exact hy ‹_›

theorem moves_scan {κ : Type} {A' : Type w} {N : G → G → Prop} {edit : κ → κ} {hit : κ → Bool}
    {act : κ → Proc ε (W × G) A' (List κ)} (hN : ∀ g, N g g)
    (hact : ∀ a, Moves (fun _ => N) (act a)) (l : List κ) : Moves (fun _ => N) (scan edit hit act l) := by
  rw [scan_eq]
  split
  · exact moves_pure hN
  · exact moves_map (hact _)

end

/-! ## the plain computation -/

/-- from a ledger in `P`, `x` does what the plain `y` does, unless it stops on the way with a fault
and a ledger in `E` -/
def Follows (E : ε → G → Prop) (P : G → Prop) (x : Proc ε (W × G) A α) (y : Proc ε W A α) : Prop :=
  ∀ w g, P g → (∃ e, (x (w, g)).val = .error e ∧ E e (x (w, g)).world.2 ∧
      (x (w, g)).acts <+: (y w).acts) ∨
    (x (w, g)).val = (y w).val ∧ (x (w, g)).world.1 = (y w).world ∧ (x (w, g)).acts = (y w).acts

section
variable {E : ε → G → Prop} {P : G → Prop}

theorem Follows.mono {P' : G → Prop} {x : Proc ε (W × G) A α} {y : Proc ε W A α}
    (h : Follows E P x y) (hP : ∀ g, P' g → P g) : Follows E P' x y :=
  fun w g hg => h w g (hP g hg)

theorem Follows.exact {x : Proc ε (W × G) A α} {y : Proc ε W A α}
    (h : Follows (fun _ _ => False) P x y) {w : W} {g : G} (hg : P g) :
    (x (w, g)).val = (y w).val ∧ (x (w, g)).world.1 = (y w).world ∧
      (x (w, g)).acts = (y w).acts := by
  rcases h w g hg with ⟨_, _, hf, _⟩ | h
  · exact hf.elim
  · exact h

theorem follows_pure (a : α) : Follows E P (pure a : Proc ε (W × G) A α) (pure a) :=
  fun _ _ _ => .inr ⟨rfl, rfl, rfl⟩

theorem follows_emit (a : A) : Follows E P (emit a : Proc ε (W × G) A PUnit) (emit a) :=
  fun _ _ _ => .inr ⟨rfl, rfl, rfl⟩

theorem follows_lift (x : Proc ε W A α) : Follows E P (lift x : Proc ε (W × G) A α) x :=
  fun _ _ _ => .inr ⟨rfl, rfl, rfl⟩

/-- the second part starts from the ledgers that the first part leads to -/
theorem follows_bind {x : Proc ε (W × G) A α} {y : Proc ε W A α} {R : α → G → G → Prop}
    {k : α → Proc ε (W × G) A β} {k' : α → Proc ε W A β} (hx : Follows E P x y)
    (hR : Moves R x) (hk : ∀ a, Follows E (fun g' => ∃ g, P g ∧ R a g g') (k a) (k' a)) :
    Follows E P (x >>= k) (y >>= k') := by
  intro w g hg
  have hmove := hR (w, g)
  have h := hx w g hg
  have hprefix := acts_prefix_bind y k' w
  rw [bind_apply] at hprefix ⊢
  rw [bind_apply]
  rcases hxw : x (w, g) with ⟨r, ⟨w', g'⟩, l⟩
  rw [hxw] at hmove h
  rcases h with ⟨e, he, hE, hl⟩ | ⟨hval, hworld, hacts⟩
  · dsimp only at he
    subst he
    exact .inl ⟨e, rfl, hE, hl.trans hprefix⟩
  rcases hyw : y w with ⟨r', v, l'⟩
  rw [hyw] at hval hworld hacts
  dsimp only at hval hworld hacts
  subst hval hworld hacts
  cases r with
  | error e => exact .inr ⟨rfl, rfl, rfl⟩
  | ok a =>
    rcases hk a w' g' ⟨g, hg, hmove a rfl⟩ with ⟨e, he, hE, hl⟩ | ⟨h1, h2, h3⟩
    · exact .inl ⟨e, he, hE, List.prefix_append_right_inj _ |>.mpr hl⟩
    · right
      show (k a (w', g')).val = _ ∧ (k a (w', g')).world.1 = _ ∧ l ++ (k a (w', g')).acts = _
      rw [h1, h2, h3]
      exact ⟨rfl, rfl, rfl⟩

theorem follows_then {x : Proc ε (W × G) A α} {y : Proc ε W A α} {k : α → Proc ε (W × G) A α}
    (hx : Follows E P x y) (hk : ∀ a, Follows E (fun _ => True) (k a) (pure a)) :
    Follows E P (x >>= k) y := by
  rw [← bind_pure y]
  exact follows_bind (R := fun _ _ _ => True) hx (fun _ _ _ => trivial)
    fun a => (hk a).mono fun _ _ => trivial

/-- an entry in the ledger is invisible -/
theorem follows_charge_bind {Q : G → Prop} {c : G → G} {k : PUnit → Proc ε (W × G) A α}
    {y : Proc ε W A α} (hc : ∀ g, P g → Q (c g)) (hk : Follows E Q (k ⟨⟩) y) :
    Follows E P (charge c >>= k) y :=
  fun w g hg => hk w (c g) (hc g hg)

theorem follows_sys_bind {Q : α → G → Prop} {s : W × G → α × (W × G)} {s' : W → α × W}
    {k : α → Proc ε (W × G) A β} {k' : α → Proc ε W A β}
    (hs : ∀ w g, P g → (s (w, g)).1 = (s' w).1 ∧ (s (w, g)).2.1 = (s' w).2 ∧
      Q (s' w).1 (s (w, g)).2.2)
    (hk : ∀ a, Follows E (Q a) (k a) (k' a)) :
    Follows E P (sys s >>= k) (sys s' >>= k') := by
  intro w g hg
  obtain ⟨h1, h2, h3⟩ := hs w g hg
  have h := hk (s' w).1 (s' w).2 (s (w, g)).2.2 h3
  rw [bind_apply, bind_apply, sys_apply, sys_apply, thenRun_ok, thenRun_ok, h1]
  rw [show (s (w, g)).2 = ((s' w).2, (s (w, g)).2.2) from Prod.ext h2 rfl]
  exact h

theorem follows_ite {p : Prop} [Decidable p] {x y : Proc ε (W × G) A α} {x' y' : Proc ε W A α}
    (hx : p → Follows E P x x') (hy : ¬ p → Follows E P y y') :
    Follows E P (if p then x else y) (if p then x' else y') := by
  split
  · exact hx ‹_›
  · exact hy ‹_›

theorem follows_map {x : Proc ε (W × G) A α} {y : Proc ε W A α} (hx : Follows E P x y)
    (k : α → β) : Follows E P (k <$> x) (k <$> y) := by
  rw [map_eq_pure_bind, map_eq_pure_bind]
  exact follows_bind (R := fun _ _ _ => True) hx (fun _ _ _ => trivial) fun a => follows_pure _

theorem follows_scan {κ : Type} {A' : Type w} {edit : κ → κ} {hit : κ → Bool}
    {act : κ → Proc ε (W × G) A' (List κ)} {act' : κ → Proc ε W A' (List κ)}
    (hact : ∀ a, Follows E P (act a) (act' a)) (l : List κ) :
    Follows E P (scan edit hit act l) (scan edit hit act' l) := by
  rw [scan_eq, scan_eq]
  split
  · exact follows_pure _
  · exact follows_map (hact _) _

end

end Ledger
