import Mathlib.Data.Set.Basic
import Mathlib.Logic.Function.Basic
import Mathlib.Logic.Relation

/-!
# A copy that catches up with its source

A reader copies a table that goes on changing.  It first subscribes to the changes, then copies the
entries, in one or several rounds each of which lists some of them, and at last replays the changes
that have come meanwhile.  A round may start anew; an entry that the reader has already is not
copied again.

* `State`        the source, the changes since the subscription, the copy, and the phase;
* `Step`         one step of the source or of the reader;
* `latest`       the last change of a key;
* `Inv`          either the last change of a key gives its value, or the copy is right, or the
                 entry is still to be copied;
* `caught_up`    a reader that replays has a copy of the source, but for the changes it has not
                 come to yet.
-/

namespace CatchUp
variable {K V : Type}

inductive Phase (K V : Type) where
  | unsubscribed
  /-- a round, the entries it has still to copy, and the later rounds -/
  | copying (listed : V → Prop) (todo : Set K) (later : List (V → Prop))
  | replaying

structure State (K V : Type) where
  source : K → Option V
  log : List (K × Option V)
  copy : K → Option V
  phase : Phase K V

/-- the keys of the entries that a round lists -/
def listing (source : K → Option V) (listed : V → Prop) : Set K :=
  {k | ∃ v, source k = some v ∧ listed v}

/-- an entry that a round has still to copy -/
def Phase.Owes (phase : Phase K V) (k : K) (v : V) : Prop :=
  match phase with
  | .copying listed todo later => (k ∈ todo ∧ listed v) ∨ ∃ round ∈ later, round v
  | _ => False

section
variable [DecidableEq K]

/-- the last change of a key -/
def latest (k : K) : List (K × Option V) → Option (Option V)
  | [] => none
  | e :: log => (latest k log).or (if e.1 = k then some e.2 else none)

lemma latest_append (k : K) (log : List (K × Option V)) (e : K × Option V) :
    latest k (log ++ [e]) = (if e.1 = k then some e.2 else none).or (latest k log) := by
  induction log with
  | nil => simp [latest]
  | cons a log ih => rw [List.cons_append, latest, ih, latest, Option.or_assoc]

lemma latest_eq_none {k : K} {log : List (K × Option V)} (h : ∀ e ∈ log, e.1 ≠ k) :
    latest k log = none := by
  induction log with
  | nil => rfl
  | cons e log ih =>
    have htail := ih fun e' he' => h e' (List.mem_cons_of_mem e he')
    rw [latest, htail, if_neg (h e List.mem_cons_self)]
    rfl

/-- one step; the copying takes the given rounds -/
inductive Step (rounds : List (V → Prop)) (s : State K V) : State K V → Prop
  /-- a change that nobody is told of -/
  | silent (k : K) (v : Option V) (hphase : s.phase = .unsubscribed) :
      Step rounds s { s with source := Function.update s.source k v }
  | change (k : K) (v : Option V) (hphase : s.phase ≠ .unsubscribed) :
      Step rounds s { s with source := Function.update s.source k v, log := s.log ++ [(k, v)] }
  | start {listed : V → Prop} {later : List (V → Prop)} (hphase : s.phase = .unsubscribed)
      (hrounds : rounds = listed :: later) :
      Step rounds s { s with phase := .copying listed (listing s.source listed) later }
  /-- the entry is copied, unless the reader has one -/
  | visit (k : K) {v : V} {listed : V → Prop} {todo : Set K} {later : List (V → Prop)}
      (hphase : s.phase = .copying listed todo later) (hsource : s.source k = some v) :
      Step rounds s { s with
        copy := Function.update s.copy k ((s.copy k).or (some v))
        phase := .copying listed (todo \ {k}) later }
  /-- the entry is not listed any more -/
  | skip (k : K) {listed : V → Prop} {todo : Set K} {later : List (V → Prop)}
      (hphase : s.phase = .copying listed todo later)
      (hsource : ∀ v, s.source k = some v → ¬ listed v) :
      Step rounds s { s with phase := .copying listed (todo \ {k}) later }
  /-- the round starts anew -/
  | again {listed : V → Prop} {todo : Set K} {later : List (V → Prop)}
      (hphase : s.phase = .copying listed todo later) :
      Step rounds s { s with phase := .copying listed (listing s.source listed) later }
  | next {listed listed' : V → Prop} {later : List (V → Prop)}
      (hphase : s.phase = .copying listed ∅ (listed' :: later)) :
      Step rounds s { s with phase := .copying listed' (listing s.source listed') later }
  | finish {listed : V → Prop} (hphase : s.phase = .copying listed ∅ []) :
      Step rounds s { s with phase := .replaying }
  | replay {k : K} {v : Option V} {log : List (K × Option V)} (hphase : s.phase = .replaying)
      (hlog : s.log = (k, v) :: log) :
      Step rounds s { s with log := log, copy := Function.update s.copy k v }

/-- a reader that has not begun -/
def State.init (source : K → Option V) : State K V := ⟨source, [], fun _ => none, .unsubscribed⟩

/-- the entry at a key is none, or one that some round lists -/
def Listed (rounds : List (V → Prop)) (source : K → Option V) (k : K) : Prop :=
  ∀ v, source k = some v → ∃ round ∈ rounds, round v

/-- the last change of a key gives its value; where there was none, the value is copied or still to
be copied -/
def Known (rounds : List (V → Prop)) (s : State K V) (k : K) : Prop :=
  match latest k s.log with
  | some v => s.source k = v
  | none => Listed rounds s.source k →
      s.copy k = s.source k ∨ s.copy k = none ∧ ∃ v, s.source k = some v ∧ s.phase.Owes k v

structure Inv (rounds : List (V → Prop)) (s : State K V) : Prop where
  unsubscribed : s.phase = .unsubscribed → s.log = [] ∧ ∀ k, s.copy k = none
  known : s.phase ≠ .unsubscribed → ∀ k, Known rounds s k

variable {rounds : List (V → Prop)} {s s' : State K V}

lemma inv_init (source : K → Option V) : Inv rounds (State.init source) :=
  ⟨fun _ => ⟨rfl, fun _ => rfl⟩, fun h => absurd rfl h⟩

lemma latest_change (k k' : K) (v : Option V) (log : List (K × Option V)) :
    latest k (log ++ [(k', v)]) = if k' = k then some v else latest k log := by
  rw [latest_append]
  by_cases h : k' = k
  · simp [h]
  · simp [h]

/-- a step that changes neither the source nor the log need only look at the copy and at what is
owed -/
lemma Known.of_debt {k : K} {copy : K → Option V} {phase : Phase K V} (h : Known rounds s k)
    (hdebt :
      s.copy k = s.source k ∨ s.copy k = none ∧ (∃ v, s.source k = some v ∧ s.phase.Owes k v) →
      copy k = s.source k ∨ copy k = none ∧ ∃ v, s.source k = some v ∧ phase.Owes k v) :
    Known rounds { s with copy := copy, phase := phase } k := by
  simp only [Known] at h ⊢
  cases hlatest : latest k s.log with
  | some v =>
    rw [hlatest] at h
    exact h
  | none =>
    rw [hlatest] at h
    intro hlisted
    exact hdebt (h hlisted)

lemma known_change {k : K} (h : Known rounds s k) (k' : K) (v : Option V) :
    Known rounds
      { s with source := Function.update s.source k' v, log := s.log ++ [(k', v)] } k := by
  simp only [Known, latest_change]
  by_cases heq : k' = k
  · subst heq
    simp
  · have hsource : Function.update s.source k' v k = s.source k :=
      Function.update_of_ne (Ne.symm heq) v s.source
    simp only [if_neg heq, Listed, hsource]
    exact h

lemma known_start {k : K} {listed : V → Prop} {later : List (V → Prop)} (hlog : s.log = [])
    (hcopy : s.copy k = none) :
    Known (listed :: later)
      { s with phase := .copying listed (listing s.source listed) later } k := by
  simp only [Known, hlog, latest]
  intro hlisted
  cases hsource : s.source k with
  | none => exact Or.inl hcopy
  | some v =>
    obtain ⟨round, hround, hv⟩ := hlisted v hsource
    refine Or.inr ⟨hcopy, v, rfl, ?_⟩
    rcases List.mem_cons.mp hround with rfl | hround
    · exact Or.inl ⟨⟨v, hsource, hv⟩, hv⟩
    · exact Or.inr ⟨round, hround, hv⟩

section
variable {k : K} {listed : V → Prop} {todo : Set K} {later : List (V → Prop)}
  (hphase : s.phase = .copying listed todo later) (h : Known rounds s k)
include hphase h

lemma known_visit {k' : K} {v' : V} (hsource' : s.source k' = some v') :
    Known rounds { s with
      copy := Function.update s.copy k' ((s.copy k').or (some v'))
      phase := .copying listed (todo \ {k'}) later } k := by
  refine h.of_debt fun hk => ?_
  rw [hphase] at hk
  by_cases heq : k' = k
  · subst heq
    rw [Function.update_self, hsource']
    rw [hsource'] at hk
    rcases hk with hk | ⟨hk, -⟩
    · rw [hk]
      exact Or.inl rfl
    · rw [hk]
      exact Or.inl rfl
  · rw [Function.update_of_ne (Ne.symm heq)]
    rcases hk with hk | ⟨hnone, v, hsource, ⟨hmem, hv⟩ | howes⟩
    · exact Or.inl hk
    · exact Or.inr ⟨hnone, v, hsource, Or.inl ⟨⟨hmem, Ne.symm heq⟩, hv⟩⟩
    · exact Or.inr ⟨hnone, v, hsource, Or.inr howes⟩

lemma known_skip {k' : K} (hsource' : ∀ v, s.source k' = some v → ¬ listed v) :
    Known rounds { s with phase := .copying listed (todo \ {k'}) later } k := by
  refine h.of_debt fun hk => ?_
  rw [hphase] at hk
  rcases hk with hk | ⟨hnone, v, hsource, ⟨hmem, hv⟩ | howes⟩
  · exact Or.inl hk
  · have hne : k ≠ k' := by
      rintro rfl
      exact hsource' v hsource hv
    exact Or.inr ⟨hnone, v, hsource, Or.inl ⟨⟨hmem, hne⟩, hv⟩⟩
  · exact Or.inr ⟨hnone, v, hsource, Or.inr howes⟩

lemma known_again :
    Known rounds { s with phase := .copying listed (listing s.source listed) later } k := by
  refine h.of_debt fun hk => ?_
  rw [hphase] at hk
  rcases hk with hk | ⟨hnone, v, hsource, ⟨-, hv⟩ | howes⟩
  · exact Or.inl hk
  · exact Or.inr ⟨hnone, v, hsource, Or.inl ⟨⟨v, hsource, hv⟩, hv⟩⟩
  · exact Or.inr ⟨hnone, v, hsource, Or.inr howes⟩

end

lemma known_next {k : K} {listed listed' : V → Prop} {later : List (V → Prop)}
    (hphase : s.phase = .copying listed ∅ (listed' :: later)) (h : Known rounds s k) :
    Known rounds { s with phase := .copying listed' (listing s.source listed') later } k := by
  refine h.of_debt fun hk => ?_
  rw [hphase] at hk
  rcases hk with hk | ⟨hnone, v, hsource, ⟨hmem, -⟩ | ⟨round, hround, hv⟩⟩
  · exact Or.inl hk
  · exact absurd hmem (Set.notMem_empty k)
  · refine Or.inr ⟨hnone, v, hsource, ?_⟩
    rcases List.mem_cons.mp hround with rfl | hround
    · exact Or.inl ⟨⟨v, hsource, hv⟩, hv⟩
    · exact Or.inr ⟨round, hround, hv⟩

lemma known_finish {k : K} {listed : V → Prop} (hphase : s.phase = .copying listed ∅ [])
    (h : Known rounds s k) : Known rounds { s with phase := .replaying } k := by
  refine h.of_debt fun hk => ?_
  rw [hphase] at hk
  rcases hk with hk | ⟨-, v, -, ⟨hmem, -⟩ | ⟨round, hround, -⟩⟩
  · exact Or.inl hk
  · exact absurd hmem (Set.notMem_empty k)
  · exact absurd hround List.not_mem_nil

lemma known_replay {k k' : K} {v : Option V} {log : List (K × Option V)}
    (hphase : s.phase = .replaying) (hlog : s.log = (k', v) :: log) (h : Known rounds s k) :
    Known rounds { s with log := log, copy := Function.update s.copy k' v } k := by
  simp only [Known, hlog, latest, hphase] at h ⊢
  cases hlatest : latest k log with
  | some v' =>
    rw [hlatest] at h
    exact h
  | none =>
    rw [hlatest, Option.none_or] at h
    intro hlisted
    by_cases heq : k' = k
    · subst heq
      rw [if_pos rfl] at h
      rw [Function.update_self]
      exact Or.inl h.symm
    · rw [if_neg heq] at h
      rw [Function.update_of_ne (Ne.symm heq)]
      exact h hlisted

theorem step_inv (hinv : Inv rounds s) (hstep : Step rounds s s') : Inv rounds s' := by
  have hknown {p : Phase K V} (hphase : s.phase = p) (hp : p ≠ .unsubscribed) :=
    hinv.known (hphase ▸ hp)
  cases hstep with
  | silent k v hphase => exact ⟨hinv.unsubscribed, fun h => absurd hphase h⟩
  | change k' v hphase =>
    exact ⟨fun h => absurd h hphase, fun h k => known_change (hinv.known h k) k' v⟩
  | start hphase hrounds =>
    obtain ⟨hlog, hcopy⟩ := hinv.unsubscribed hphase
    refine ⟨(fun h => by cases h), fun _ k => ?_⟩
    rw [hrounds]
    exact known_start hlog (hcopy k)
  | visit k' hphase hsource =>
    exact ⟨(fun h => by cases h), fun _ k => known_visit hphase (hknown hphase (by simp) k) hsource⟩
  | skip k' hphase hsource =>
    exact ⟨(fun h => by cases h), fun _ k => known_skip hphase (hknown hphase (by simp) k) hsource⟩
  | again hphase =>
    exact ⟨(fun h => by cases h), fun _ k => known_again hphase (hknown hphase (by simp) k)⟩
  | next hphase =>
    exact ⟨(fun h => by cases h), fun _ k => known_next hphase (hknown hphase (by simp) k)⟩
  | finish hphase =>
    exact ⟨(fun h => by cases h), fun _ k => known_finish hphase (hknown hphase (by simp) k)⟩
  | replay hphase hlog =>
    have hsub : s.phase ≠ .unsubscribed := by
      rw [hphase]
      simp
    exact ⟨fun h => absurd h hsub, fun _ k => known_replay hphase hlog (hinv.known hsub k)⟩

/-- **A reader that replays has a copy of the source**, but for the changes it has not come to yet,
whatever happened in between. -/
theorem caught_up {source : K → Option V}
    (hrun : Relation.ReflTransGen (Step rounds) (State.init source) s)
    (hphase : s.phase = .replaying) {k : K} (hlatest : latest k s.log = none)
    (hk : Listed rounds s.source k) : s.copy k = s.source k := by
  have hinv : Inv rounds s := by
    clear hphase hlatest hk
    induction hrun with
    | refl => exact inv_init source
    | tail _ hstep ih => exact step_inv ih hstep
  have hsub : s.phase ≠ .unsubscribed := by
    rw [hphase]
    simp
  have hknown := hinv.known hsub k
  rw [Known, hlatest, hphase] at hknown
  rcases hknown hk with h | ⟨-, v, -, howes⟩
  · exact h
  · exact howes.elim

end

end CatchUp
