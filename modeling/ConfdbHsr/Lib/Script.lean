import ConfdbHsr.Lib.Proc

/-!
# Carrying out a log

A computation over the world `Unit` looks at nothing: all that it does besides its result is to log
some requests.

* `Proc.perform p x`   makes the requests that `x` logs with `p`, in their order, and ends as `x` does;
* `perform_pure`, `perform_bind`, `perform_emit`   a morphism of monads, which sends the log of a
                       request to the request;
* `perform_ok_iff`     it returns iff `x` does and all requests return.
-/

namespace Proc
variable {ε W A B α β : Type}

/-- end with a given result -/
def finish : Except ε α → Proc ε W A α
  | .ok a => pure a
  | .error e => fail e

/-- make the requests that `x` logs, and end as `x` does -/
def perform (p : B → Proc ε W A PUnit) (x : Proc ε Unit B α) : Proc ε W A α := do
  forM (x ()).acts p
  finish (x ()).val

variable {p : B → Proc ε W A PUnit}

lemma perform_pure (a : α) : perform p (pure a : Proc ε Unit B α) = pure a := pure_bind _ _

lemma perform_fail (e : ε) : perform p (fail e : Proc ε Unit B α) = fail e := pure_bind _ _

lemma perform_emit (b : B) : perform p (emit b : Proc ε Unit B PUnit) = p b := by
  show (do forM [b] p; pure ⟨⟩ : Proc ε W A PUnit) = p b
  rw [bind_pure, List.forM_cons, List.forM_nil]
  exact bind_pure _

theorem perform_bind (x : Proc ε Unit B α) (f : α → Proc ε Unit B β) :
    perform p (x >>= f) = perform p x >>= fun a => perform p (f a) := by
  unfold perform
  rw [bind_assoc, bind_apply]
  rcases x () with ⟨e | a, w, l⟩
  · rfl
  · rw [thenRun_ok, List.forM_append, bind_assoc]
    exact congrArg _ (funext fun _ => (pure_bind a fun a => perform p (f a)).symm)

lemma perform_ite (c : Prop) [Decidable c] (x y : Proc ε Unit B α) :
    perform p (if c then x else y) = if c then perform p x else perform p y :=
  apply_ite _ _ _ _

theorem perform_foldlM (f : α → β → Proc ε Unit B α) (bs : List β) (a : α) :
    perform p (bs.foldlM f a) = bs.foldlM (fun a b => perform p (f a b)) a := by
  induction bs generalizing a with
  | nil => exact perform_pure a
  | cons b bs ih =>
    rw [List.foldlM_cons, List.foldlM_cons, perform_bind]
    exact congrArg _ (funext ih)

theorem perform_ok_iff {x : Proc ε Unit B α} {w : W} {a : α} :
    (perform p x w).val = .ok a ↔ (forM (x ()).acts p w).val = .ok ⟨⟩ ∧ (x ()).val = .ok a := by
  unfold perform
  rw [bind_apply]
  rcases forM (x ()).acts p w with ⟨e | _, w', l⟩
  · exact iff_of_false nofun nofun
  · rw [thenRun_ok, and_iff_right rfl]
    cases (x ()).val with
    | error e => exact iff_of_false nofun nofun
    | ok b => rfl

theorem yields_perform {x : Proc ε Unit B α} {Q : α → Prop} (h : Yields Q x) :
    Yields Q (perform p x : Proc ε W A α) :=
  fun _ a ha => h () a (perform_ok_iff.mp ha).2

lemma perform_world (x : Proc ε Unit B α) (w : W) :
    (perform p x w).world = (forM (x ()).acts p w).world := by
  unfold perform
  rw [bind_apply]
  rcases forM (x ()).acts p w with ⟨e | _, w', l⟩
  · rfl
  · rw [thenRun_ok]
    cases (x ()).val with
    | error e => rfl
    | ok b => rfl

end Proc
