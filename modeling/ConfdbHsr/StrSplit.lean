import ConfdbHsr.Lib.Split
import ConfdbHsr.Libnl.Object
import Mathlib.Algebra.Group.Int.Defs
import Mathlib.Algebra.Group.Nat.Defs

/-!
# Splitting a string (`utils.c`)

* `strSplit`           `str_split`, with the stores its loop makes and the room there was for them;
* `Filled`             what the loop keeps: the pieces so far fill the front of the array;
* `splitLoop_ok`       fewer than `2 ^ 31` pieces: the loop stores them all;
* `splitLoop_error`    more of them: the capacity wraps to zero, and the loop gives up;
* `splitsFully_iff`    a string is split without loss iff the number of its pieces is an `int`.
-/

namespace Hsr

/-! ## the source -/

/-- `strsep` on a string: the piece before the first delimiter, and what follows it -/
def strsep (string delim : CStr) : CStr × Option CStr :=
  (string.takeWhile fun c => !delim.contains c,
    match string.dropWhile fun c => !delim.contains c with
    | [] => none
    | _ :: rest => some rest)

lemma strsep_shorter {string delim rest : CStr} (h : (strsep string delim).2 = some rest) :
    rest.length < string.length := by
  have hdrop := (List.dropWhile_sublist fun c => !delim.contains c : List.Sublist _ string).length_le
  simp only [strsep] at h
  split at h
  · cases h
  · rename_i hd
    obtain rfl := Option.some.inj h
    rw [hd, List.length_cons] at hdrop
    omega

/-- `realloc` of the array to `size` pointers; to none it only frees the array -/
def reallocLines (lines : List (Option CStr)) (size : UInt32) : Option (List (Option CStr)) :=
  if size = 0 then none
  else some (lines.take size.toNat ++ List.replicate (size.toNat - lines.length) none)

/-- the variables of the loop of `str_split`, and the stores to `lines`: each with its index and the
room that is allocated -/
structure SplitVars where
  sz : UInt32
  idx : UInt32
  lines : List (Option CStr)
  num : Int
  stores : List (Nat × Nat)
  deriving DecidableEq, Repr

/-- `lines[idx] = strdup(tok)` and the increment of `idx` -/
def storeTok (v : SplitVars) (tok : CStr) : SplitVars :=
  { v with
    lines := v.lines.set v.idx.toNat (some tok)
    stores := v.stores ++ [(v.idx.toNat, v.lines.length)]
    idx := v.idx + 1 }

/-- the array at twice its size; an error is `goto on_error` -/
def growLines (v : SplitVars) : Except SplitVars SplitVars :=
  match reallocLines v.lines (v.sz * 2) with
  | none => .error { v with sz := v.sz * 2, lines := [] }
  | some lines => .ok { v with sz := v.sz * 2, lines := lines }

/-- one round of the loop, on the piece `tok` -/
def splitRound (v : SplitVars) (tok : CStr) : Except SplitVars SplitVars := do
  let v := storeTok v tok
  let v ← if v.idx = v.sz then growLines v else .ok v
  .ok { v with num := v.num + 1 }

def splitLoop (delimiter : CStr) (v : SplitVars) (copy : CStr) : Except SplitVars SplitVars :=
  match splitRound v (strsep copy delimiter).1 with
  | .error v => .error v
  | .ok v =>
    match _h : (strsep copy delimiter).2 with
    | none => .ok v
    | some rest => splitLoop delimiter v rest
termination_by copy.length
decreasing_by exact strsep_shorter _h

/-- what `str_split` returns and leaves in `*result` and `*argc`, and the stores it made -/
structure SplitResult where
  ret : Int
  result : List (Option CStr)
  argc : Int
  stores : List (Nat × Nat)
  deriving DecidableEq, Repr

def strSplit (string : Option CStr) (delimiter : CStr) : SplitResult :=
  match string with
  | none => ⟨0, [], 0, []⟩
  | some string =>
    match splitLoop delimiter ⟨4, 0, List.replicate 4 none, 0, []⟩ string with
    | .ok v => ⟨0, v.lines, v.num, v.stores⟩
    | .error v => ⟨-1, [], 0, v.stores⟩

/-! ## one round -/

/-- the pieces so far are at the front of the array, and there is room for one more; the capacity
is a power of two -/
structure Filled (pieces : List CStr) (v : SplitVars) : Prop where
  pow : ∃ k ≤ 31, v.sz.toNat = 2 ^ k
  room : pieces.length < v.sz.toNat
  idx : v.idx.toNat = pieces.length
  num : v.num = pieces.length
  lines : v.lines = pieces.map some ++ List.replicate (v.sz.toNat - pieces.length) none
  stores : ∀ w ∈ v.stores, w.1 < w.2

section
variable {pieces : List CStr} {v : SplitVars}

lemma Filled.sz_le (h : Filled pieces v) : v.sz.toNat ≤ 2 ^ 31 := by
  obtain ⟨k, hk, hsz⟩ := h.pow
  rw [hsz]
  exact Nat.pow_le_pow_right (by decide) hk

lemma Filled.length (h : Filled pieces v) : v.lines.length = v.sz.toNat := by
  have hroom := h.room
  rw [h.lines, List.length_append, List.length_map, List.length_replicate]
  omega

lemma Filled.idx_succ (h : Filled pieces v) : (v.idx + 1).toNat = pieces.length + 1 := by
  have hroom := h.room
  have hsz := h.sz_le
  rw [UInt32.toNat_add, h.idx]
  exact Nat.mod_eq_of_lt (by show pieces.length + 1 < 2 ^ 32; omega)

/-- what the store of a piece leaves: the array may be full -/
lemma Filled.store (h : Filled pieces v) (tok : CStr) :
    (storeTok v tok).lines = (pieces ++ [tok]).map some ++
        List.replicate (v.sz.toNat - (pieces.length + 1)) none ∧
      ∀ w ∈ (storeTok v tok).stores, w.1 < w.2 := by
  have hroom := h.room
  constructor
  · have hrest : v.sz.toNat - pieces.length = v.sz.toNat - (pieces.length + 1) + 1 := by omega
    have hset : (storeTok v tok).lines = v.lines.set pieces.length (some tok) := by
      rw [storeTok, h.idx]
    have hlen : (pieces.map some).length = pieces.length := List.length_map some
    rw [hset, h.lines, hrest, List.replicate_succ, List.set_append_right _ _ (Nat.le_of_eq hlen), hlen,
      Nat.sub_self, List.set_cons_zero]
    simp
  · intro w hw
    rcases List.mem_append.mp hw with hw | hw
    · exact h.stores w hw
    · rw [List.mem_singleton.mp hw, h.length, h.idx]
      exact hroom

lemma Filled.sz_double (h : Filled pieces v) (hlt : v.sz.toNat < 2 ^ 31) :
    (v.sz * 2).toNat = 2 * v.sz.toNat ∧ ∃ k ≤ 31, (v.sz * 2).toNat = 2 ^ k := by
  have htwo : (v.sz * 2).toNat = 2 * v.sz.toNat := by
    rw [UInt32.toNat_mul, Nat.mul_comm]
    exact Nat.mod_eq_of_lt (by show 2 * v.sz.toNat < 2 ^ 32; omega)
  obtain ⟨k, hk, hsz⟩ := h.pow
  have hk : k < 31 := by
    rw [hsz] at hlt
    exact (Nat.pow_lt_pow_iff_right (by decide)).mp hlt
  refine ⟨htwo, k + 1, hk, ?_⟩
  rw [htwo, hsz, Nat.pow_succ, Nat.mul_comm]

lemma growLines_ok (hpos : v.sz * 2 ≠ 0) : growLines v = .ok { v with
    sz := v.sz * 2
    lines := v.lines.take (v.sz * 2).toNat ++
      List.replicate ((v.sz * 2).toNat - v.lines.length) none } := by
  rw [growLines, reallocLines, if_neg hpos]

lemma Filled.num_succ (h : Filled pieces v) (tok : CStr) :
    v.num + 1 = ((pieces ++ [tok]).length : Int) := by
  rw [h.num, List.length_append]
  push_cast
  rfl

lemma splitRound_full (h : Filled pieces v) (tok : CStr) (hfull : v.idx + 1 = v.sz)
    (hlt : pieces.length + 1 < 2 ^ 31) :
    ∃ v', splitRound v tok = .ok v' ∧ Filled (pieces ++ [tok]) v' := by
  have hidx := h.idx_succ
  have hlen : (pieces ++ [tok]).length = pieces.length + 1 := List.length_append
  obtain ⟨hlines, hstores⟩ := h.store tok
  have hsz : v.sz.toNat = pieces.length + 1 := by rw [← hfull, hidx]
  obtain ⟨htwo, hpow⟩ := h.sz_double (by omega)
  have hpos : v.sz * 2 ≠ 0 := by
    intro hzero
    rw [hzero] at htwo
    have hz : (0 : UInt32).toNat = 0 := rfl
    omega
  rw [hsz, Nat.sub_self, List.replicate_zero, List.append_nil] at hlines
  have hround : splitRound v tok =
      (growLines (storeTok v tok)).map fun v => { v with num := v.num + 1 } := by
    rw [splitRound, if_pos (show (storeTok v tok).idx = (storeTok v tok).sz from hfull)]
    rfl
  rw [hround, growLines_ok (v := storeTok v tok) hpos]
  refine ⟨_, rfl, hpow, ?_, hidx.trans hlen.symm, h.num_succ tok, ?_, hstores⟩
  · show _ < (v.sz * 2).toNat
    omega
  · show (storeTok v tok).lines.take (v.sz * 2).toNat ++
      List.replicate ((v.sz * 2).toNat - (storeTok v tok).lines.length) none = _
    have hmap : ((pieces ++ [tok]).map some).length = (pieces ++ [tok]).length :=
      List.length_map some
    rw [hlines, hmap, List.take_of_length_le (by omega)]
    rfl

lemma splitRound_room (h : Filled pieces v) (tok : CStr) (hfull : v.idx + 1 ≠ v.sz) :
    ∃ v', splitRound v tok = .ok v' ∧ Filled (pieces ++ [tok]) v' := by
  have hroom := h.room
  have hidx := h.idx_succ
  have hlen : (pieces ++ [tok]).length = pieces.length + 1 := List.length_append
  obtain ⟨hlines, hstores⟩ := h.store tok
  have hne : v.sz.toNat ≠ pieces.length + 1 := by
    intro hsz
    exact hfull (UInt32.toNat_inj.mp (hidx.trans hsz.symm))
  have hround : splitRound v tok =
      .ok { storeTok v tok with num := (storeTok v tok).num + 1 } := by
    rw [splitRound, if_neg (show ¬ (storeTok v tok).idx = (storeTok v tok).sz from hfull)]
    rfl
  refine ⟨_, hround, h.pow, ?_, hidx.trans hlen.symm, h.num_succ tok, ?_, hstores⟩
  · show _ < v.sz.toNat
    omega
  · rw [hlen]
    exact hlines

theorem splitRound_ok (h : Filled pieces v) (tok : CStr) (hlt : pieces.length + 1 < 2 ^ 31) :
    ∃ v', splitRound v tok = .ok v' ∧ Filled (pieces ++ [tok]) v' := by
  by_cases hfull : v.idx + 1 = v.sz
  · exact splitRound_full h tok hfull hlt
  · exact splitRound_room h tok hfull

/-- the round that would store the piece number `2 ^ 31` doubles the capacity to zero -/
theorem splitRound_error (h : Filled pieces v) (tok : CStr) (hlt : ¬ pieces.length + 1 < 2 ^ 31) :
    ∃ v', splitRound v tok = .error v' := by
  have hroom := h.room
  have hsz := h.sz_le
  have hidx := h.idx_succ
  have hfull : (storeTok v tok).idx = (storeTok v tok).sz := by
    apply UInt32.toNat_inj.mp
    show (v.idx + 1).toNat = v.sz.toNat
    omega
  have hzero : v.sz * 2 = 0 := by
    apply UInt32.toNat_inj.mp
    have heq : v.sz.toNat = 2 ^ 31 := by omega
    rw [UInt32.toNat_mul, heq]
    rfl
  have hgrow : growLines (storeTok v tok) =
      .error { storeTok v tok with sz := v.sz * 2, lines := [] } := by
    rw [growLines, reallocLines, if_pos (show (storeTok v tok).sz * 2 = 0 from hzero)]
    rfl
  refine ⟨{ storeTok v tok with sz := v.sz * 2, lines := [] }, ?_⟩
  rw [splitRound, if_pos hfull, hgrow]
  rfl

end

/-! ## the loop -/

/-- the characters that are delimiters -/
def delimsOf (string delimiter : CStr) : CStr := string.filter fun c => delimiter.contains c

/-- the pieces of a string -/
def piecesOf (string delimiter : CStr) : List CStr := string.splitOnP fun c => delimiter.contains c

lemma piecesOf_strsep (string delim : CStr) :
    piecesOf string delim = (strsep string delim).1 ::
      match (strsep string delim).2 with
      | none => []
      | some rest => piecesOf rest delim := by
  rw [piecesOf, Split.splitOnP_step]
  simp only [strsep]
  cases string.dropWhile fun c => !delim.contains c with
  | nil => rfl
  | cons c rest => rfl

theorem splitLoop_ok (delimiter : CStr) {pieces : List CStr} {v : SplitVars} (copy : CStr)
    (h : Filled pieces v) (hlt : pieces.length + (piecesOf copy delimiter).length < 2 ^ 31) :
    ∃ v', splitLoop delimiter v copy = .ok v' ∧ Filled (pieces ++ piecesOf copy delimiter) v' := by
  induction hn : copy.length using Nat.strongRecOn generalizing copy v pieces with
  | ind n ih =>
    subst hn
    rw [piecesOf_strsep] at hlt ⊢
    rw [splitLoop]
    obtain ⟨v', hround, hv'⟩ := splitRound_ok h (strsep copy delimiter).1 (by
      rw [List.length_cons] at hlt
      omega)
    rw [hround]
    dsimp only
    split
    · rename_i hnone
      rw [hnone]
      exact ⟨v', rfl, hv'⟩
    · rename_i rest hsome
      rw [hsome] at hlt ⊢
      obtain ⟨v'', hloop, hv''⟩ := ih rest.length (strsep_shorter hsome) rest hv' (by
        simp only [List.length_append, List.length_cons, List.length_nil] at hlt ⊢
        omega) rfl
      refine ⟨v'', hloop, ?_⟩
      rw [List.append_assoc] at hv''
      exact hv''

theorem splitLoop_error (delimiter : CStr) {pieces : List CStr} {v : SplitVars} (copy : CStr)
    (h : Filled pieces v) (hlt : ¬ pieces.length + (piecesOf copy delimiter).length < 2 ^ 31) :
    ∃ v', splitLoop delimiter v copy = .error v' := by
  induction hn : copy.length using Nat.strongRecOn generalizing copy v pieces with
  | ind n ih =>
    subst hn
    rw [piecesOf_strsep] at hlt
    rw [splitLoop]
    by_cases hround : pieces.length + 1 < 2 ^ 31
    · obtain ⟨v', hok, hv'⟩ := splitRound_ok h (strsep copy delimiter).1 hround
      rw [hok]
      dsimp only
      split
      · rename_i hnone
        rw [hnone] at hlt
        exact absurd hround hlt
      · rename_i rest hsome
        rw [hsome] at hlt
        exact ih rest.length (strsep_shorter hsome) rest hv' (by
          simp only [List.length_append, List.length_cons, List.length_nil] at hlt ⊢
          omega) rfl
    · obtain ⟨v', herr⟩ := splitRound_error h (strsep copy delimiter).1 hround
      rw [herr]
      exact ⟨v', rfl⟩

/-! ## the function -/

/-- the string is split into its pieces: as many as delimiters and one more, none of them with a
delimiter in it, and with the delimiters between them they are the string again; and every store
was made inside the array -/
def SplitsFully (string delimiter : CStr) : Prop :=
  let r := strSplit (some string) delimiter
  let delims := delimsOf string delimiter
  r.ret = 0 ∧ r.argc = 1 + delims.length ∧
    (∃ pieces : List CStr, r.result.take r.argc.toNat = pieces.map some ∧
      (∀ piece ∈ pieces, ∀ c ∈ piece, c ∉ delimiter) ∧ Split.reinsert pieces delims = string) ∧
    ∀ w ∈ r.stores, w.1 < w.2

lemma filled_start : Filled [] ⟨4, 0, List.replicate 4 none, 0, []⟩ :=
  ⟨⟨2, by decide, rfl⟩, by decide, rfl, rfl, rfl, by simp⟩

lemma length_piecesOf (string delimiter : CStr) :
    (piecesOf string delimiter).length = 1 + (delimsOf string delimiter).length :=
  Split.length_splitOnP _ string

/-- **A string is split without loss iff the number of its pieces is an `int`.** -/
theorem splitsFully_iff (string delimiter : CStr) :
    SplitsFully string delimiter ↔ 1 + (delimsOf string delimiter).length < 2 ^ 31 := by
  have hlen := length_piecesOf string delimiter
  constructor
  · rintro ⟨hret, -⟩
    by_contra hlt
    obtain ⟨v, herr⟩ := splitLoop_error delimiter string filled_start (by
      rw [List.length_nil, hlen]
      omega)
    rw [strSplit, herr] at hret
    cases hret
  · intro hlt
    obtain ⟨v, hok, hv⟩ := splitLoop_ok delimiter string filled_start (by
      rw [List.length_nil, hlen]
      omega)
    rw [List.nil_append] at hv
    have hresult : strSplit (some string) delimiter = ⟨0, v.lines, v.num, v.stores⟩ := by
      rw [strSplit, hok]
    rw [SplitsFully, hresult]
    refine ⟨rfl, ?_, ⟨piecesOf string delimiter, ?_, ?_, ?_⟩, hv.stores⟩
    · rw [hv.num, hlen]
      push_cast
      rfl
    · rw [hv.num, hv.lines, Int.toNat_natCast]
      exact List.take_left' (by simp)
    · intro piece hpiece c hc hmem
      have hsep := Split.not_sep_of_mem hpiece c hc
      simp [hmem] at hsep
    · exact Split.reinsert_splitOnP _ string

/-- a string of `2 ^ 31 - 1` line feeds -/
theorem splitsFully_overflow : ¬ SplitsFully (List.replicate (2 ^ 31 - 1) 10) [10] := by
  rw [splitsFully_iff]
  have hall : delimsOf (List.replicate (2 ^ 31 - 1) 10) [10] = List.replicate (2 ^ 31 - 1) 10 := by
    rw [delimsOf, List.filter_replicate]
    rfl
  rw [hall, List.length_replicate]
  decide

end Hsr
