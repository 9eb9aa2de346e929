import Mathlib.Data.List.Basic
import Mathlib.Tactic.Lemma

/-!
# Answers in line

Requests are numbered, and their answers come one after the other on one line.  A reader reads the
answer at the front; it is its own only if nothing of the answers before is left.

* `Hearing`        what a reader makes of an answer, and what it leaves of it;
* `State`          the answers under way;
* `put`, `read`    a request gets its answer on the line; the front of the line is read;
* `run_own`        readers that leave nothing get their own answers;
* `run_late`       behind an answer that was left over, each gets the answer before its own;
* `run_missing`    where the end of an answer is waited for in vain, no reader gets an answer, and none
                   waits;
* `run_after_own`  what happens after readers that left nothing is what happens on an empty line.
-/

namespace Line

/-- what one reading leaves of the answer that it is about -/
inductive Left (R : Type) where
  | nothing
  | rest (r : R)
  /-- no more of the answer comes, but its end was not met -/
  | lost
  deriving DecidableEq, Repr

/-- how readers `I` with outcomes `O` take answers `R` -/
structure Hearing (R I O : Type) where
  hear : I → R → O × Left R
  /-- so many pieces an answer comes in -/
  pieces : R → Nat
  /-- a reader that waits for another answer makes nothing of a piece -/
  mismatch : I → O

/-- the answers under way, `none` for one whose end does not come; or, where that one is waited for,
so many pieces -/
inductive State (R : Type) where
  | inStep (pending : List (Option R))
  | broken (pieces : Nat)
  deriving DecidableEq, Repr

inductive Call (R I : Type) where
  | ask (answer : R) (reader : I)
  /-- a request that does not reach the other side -/
  | unsent
  /-- a reading without a request -/
  | read (reader : I)

section
variable {R I O : Type} (H : Hearing R I O)

def Left.toList : Left R → List (Option R)
  | nothing => []
  | rest r => [some r]
  | lost => [none]

def countPieces : List (Option R) → Nat
  | [] => 0
  | none :: pending => countPieces pending
  | some r :: pending => H.pieces r + countPieces pending

def settle : State R → State R
  | .inStep (none :: pending) => .broken (countPieces H pending)
  | line => line

def put (answer : Option R) : State R → State R
  | .inStep pending => .inStep (pending ++ [answer])
  | .broken n => .broken (n + countPieces H [answer])

/-- the front of the line is read; where there is nothing to read, the reader waits -/
def read (reader : I) (line : State R) : Option (O × State R) :=
  match settle H line with
  | .inStep (some r :: pending) =>
    some ((H.hear reader r).1, .inStep ((H.hear reader r).2.toList ++ pending))
  | .inStep _ => none
  | .broken 0 => none
  | .broken (n + 1) => some (H.mismatch reader, .broken n)

/-- one call, and the outcome that its reader gets -/
def step (line : State R) : Call R I → Option (List O × State R)
  | .ask answer reader => (read H reader (put H (some answer) line)).map fun p => ([p.1], p.2)
  | .unsent => some ([], put H none line)
  | .read reader => (read H reader line).map fun p => ([p.1], p.2)

def run (line : State R) : List (Call R I) → Option (List O × State R)
  | [] => some ([], line)
  | call :: calls =>
    (step H line call).bind fun p => (run p.2 calls).map fun q => (p.1 ++ q.1, q.2)

theorem run_append {line line' : State R} {calls : List (Call R I)} {os : List O}
    (h : run H line calls = some (os, line')) (calls' : List (Call R I)) :
    run H line (calls ++ calls') = (run H line' calls').map fun p => (os ++ p.1, p.2) := by
  induction calls generalizing line os with
  | nil =>
    cases h
    rw [List.nil_append]
    cases run H line' calls' with
    | none => rfl
    | some p => rfl
  | cons call calls ih =>
    rw [run] at h
    cases hstep : step H line call with
    | none => simp [hstep] at h
    | some p =>
      rw [hstep, Option.bind_some, Option.map_eq_some_iff] at h
      obtain ⟨⟨os', line''⟩, hrun, heq⟩ := h
      cases heq
      rw [List.cons_append, run, hstep, Option.bind_some, ih hrun, Option.map_map]
      congr 1
      funext q
      simp

/-! ## requests whose answers are waited for -/

abbrev Ask (R I : Type) := R × I

def Ask.call (a : Ask R I) : Call R I := .ask a.1 a.2

/-- what the reader makes of the answer to its own request -/
def Ask.own (a : Ask R I) : O := (H.hear a.2 a.1).1

lemma read_inStep (reader : I) (r : R) (pending : List (Option R)) :
    read H reader (.inStep (some r :: pending)) =
      some ((H.hear reader r).1, .inStep ((H.hear reader r).2.toList ++ pending)) :=
  rfl

lemma step_own {a : Ask R I} (h : (H.hear a.2 a.1).2 = .nothing) :
    step H (.inStep []) a.call = some ([a.own H], .inStep []) := by
  have hput : put H (some a.1) (.inStep []) = .inStep [some a.1] := rfl
  rw [Ask.call, step, hput, read_inStep, h]
  rfl

/-- **Readers that leave nothing of their answers get their own answers.** -/
theorem run_own {asks : List (Ask R I)} (h : ∀ a ∈ asks, (H.hear a.2 a.1).2 = .nothing) :
    run H (.inStep []) (asks.map Ask.call) = some (asks.map (Ask.own H), .inStep []) := by
  induction asks with
  | nil => rfl
  | cons a asks ih =>
    rw [List.map_cons, run, step_own H (h a List.mem_cons_self), Option.bind_some,
      ih fun b hb => h b (List.mem_cons_of_mem a hb)]
    rfl

/-- what comes after readers that left nothing meets an empty line -/
lemma run_after_own {asks : List (Ask R I)} (h : ∀ a ∈ asks, (H.hear a.2 a.1).2 = .nothing)
    (calls : List (Call R I)) :
    run H (.inStep []) (asks.map Ask.call ++ calls) =
      (run H (.inStep []) calls).map fun p => (asks.map (Ask.own H) ++ p.1, p.2) :=
  run_append H (run_own H h) calls

/-- the requests with the answer that came before their own -/
def late (r : R) : List (Ask R I) → List (Ask R I)
  | [] => []
  | a :: asks => (r, a.2) :: late a.1 asks

/-- the answer that is left over in the end -/
def lastAnswer (r : R) : List (Ask R I) → R
  | [] => r
  | a :: asks => lastAnswer a.1 asks

lemma late_take (r : R) (asks : List (Ask R I)) (k : Nat) :
    late r (asks.take k) = (late r asks).take k := by
  induction asks generalizing r k with
  | nil => simp [late]
  | cons a asks ih =>
    cases k with
    | zero => rfl
    | succ k =>
      rw [List.take_succ_cons, late, late, List.take_succ_cons, ih]

lemma step_late {r : R} {a : Ask R I} (h : (H.hear a.2 r).2 = .nothing) :
    step H (.inStep [some r]) a.call = some ([Ask.own H (r, a.2)], .inStep [some a.1]) := by
  have hput : put H (some a.1) (.inStep [some r]) = .inStep [some r, some a.1] := rfl
  rw [Ask.call, step, hput, read_inStep, h]
  rfl

/-- **Where an answer is left over, each reader gets the answer before its own.** -/
theorem run_late {r : R} {asks : List (Ask R I)}
    (h : ∀ a ∈ late r asks, (H.hear a.2 a.1).2 = .nothing) :
    run H (.inStep [some r]) (asks.map Ask.call) =
      some ((late r asks).map (Ask.own H), .inStep [some (lastAnswer r asks)]) := by
  induction asks generalizing r with
  | nil => rfl
  | cons a asks ih =>
    have hfirst : (H.hear a.2 r).2 = .nothing := h (r, a.2) List.mem_cons_self
    rw [List.map_cons, run, step_late H hfirst, Option.bind_some,
      ih fun b hb => h b (List.mem_cons_of_mem _ hb)]
    rfl

lemma step_rest {a : Ask R I} {r : R} (h : (H.hear a.2 a.1).2 = .rest r) :
    step H (.inStep []) a.call = some ([a.own H], .inStep [some r]) := by
  have hput : put H (some a.1) (.inStep []) = .inStep [some a.1] := rfl
  rw [Ask.call, step, hput, read_inStep, h]
  rfl

/-! ## lines that are broken -/

/-- on a broken line nobody waits who asks -/
theorem run_broken_asks (hpieces : ∀ r, 0 < H.pieces r) (n : Nat) (asks : List (Ask R I)) :
    ∃ m, run H (.broken n) (asks.map Ask.call) =
      some (asks.map fun a => H.mismatch a.2, .broken m) := by
  induction asks generalizing n with
  | nil => exact ⟨n, rfl⟩
  | cons a asks ih =>
    obtain ⟨k, hk⟩ := Nat.exists_eq_add_of_lt (hpieces a.1)
    obtain ⟨m, hm⟩ := ih (n + k)
    have hstep : step H (.broken n) a.call = some ([H.mismatch a.2], .broken (n + k)) := by
      show (read H a.2 (.broken (n + (H.pieces a.1 + 0)))).map _ = _
      have hsum : n + (H.pieces a.1 + 0) = n + k + 1 := by omega
      rw [hsum]
      rfl
    refine ⟨m, ?_⟩
    rw [List.map_cons, run, hstep, Option.bind_some, hm]
    rfl

lemma countPieces_append (pending later : List (Option R)) :
    countPieces H (pending ++ later) = countPieces H pending + countPieces H later := by
  induction pending with
  | nil => rw [List.nil_append, countPieces, Nat.zero_add]
  | cons a pending ih =>
    cases a with
    | none => exact ih
    | some r =>
      rw [List.cons_append, countPieces, countPieces, ih]
      omega

/-- a request behind an answer without an end meets a broken line -/
lemma step_missing (pending : List (Option R)) (a : Ask R I) :
    step H (.inStep (none :: pending)) a.call =
      step H (.broken (countPieces H pending)) a.call := by
  have hput : settle H (put H (some a.1) (.inStep (none :: pending))) =
      put H (some a.1) (.broken (countPieces H pending)) := by
    show State.broken (countPieces H (pending ++ [some a.1])) = _
    rw [countPieces_append]
    rfl
  rw [Ask.call, step, step, read, read, hput]
  rfl

/-- **Behind an answer without an end nobody gets an answer.** -/
theorem run_missing (hpieces : ∀ r, 0 < H.pieces r) (asks : List (Ask R I)) :
    ∃ line, run H (.inStep [none]) (asks.map Ask.call) =
      some (asks.map fun a => H.mismatch a.2, line) := by
  cases asks with
  | nil => exact ⟨_, rfl⟩
  | cons a asks =>
    obtain ⟨m, hm⟩ := run_broken_asks H hpieces 0 (a :: asks)
    rw [List.map_cons, run] at hm ⊢
    rw [step_missing]
    exact ⟨_, hm⟩

end

end Line
