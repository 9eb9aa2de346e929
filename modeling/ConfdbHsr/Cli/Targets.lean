import ConfdbHsr.Cli.HsrCmds

/-!
# A session that reads targets

Of the targets that the commands send it knows one path to an interface, with comparisons of the
name in the predicate, joined by `or`.

* `compared`      the names that a predicate compares with, and what follows it;
* `compared_name` a name without an apostrophe is the only one of its target;
* `namesCdb`      the session.
-/

namespace HsrCmds
open Nl

/-! ## predicates -/

/-- what follows a prefix -/
def after : CStr → CStr → Option CStr
  | [], s => some s
  | _ :: _, [] => none
  | c :: p, d :: s => if c = d then after p s else none

lemma after_append (p s : CStr) : after p (p ++ s) = some s := by
  induction p with
  | nil => rfl
  | cons c p ih =>
    rw [List.cons_append, after, if_pos rfl]
    exact ih

/-- the names of `name='NAME' or name='NAME' or …`, and what follows; at most `fuel` of them -/
def compared : Nat → CStr → Option (List CStr × CStr)
  | 0, _ => none
  | fuel + 1, s => do
    let literal ← after (cs "name='") s
    let name := literal.takeWhile (· != apostrophe)
    match literal.dropWhile (· != apostrophe) with
    | [] => none
    | _ :: rest =>
      match after (cs " or ") rest with
      | none => some ([name], rest)
      | some rest => do
        let (names, rest) ← compared fuel rest
        some (name :: names, rest)

/-- a name without an apostrophe ends where it is meant to -/
theorem compared_name {name : CStr} (h : apostrophe ∉ name) (fuel : Nat) (rest : CStr) :
    compared (fuel + 1) (cs "name='" ++ name ++ cs "']" ++ rest) =
      some ([name], cs "]" ++ rest) := by
  have hname : ∀ c ∈ name, (c != apostrophe) = true := by
    intro c hc
    rw [bne_iff_ne]
    rintro rfl
    exact h hc
  have hquote : cs "']" ++ rest = apostrophe :: (cs "]" ++ rest) := rfl
  have hmore : after (cs " or ") (cs "]" ++ rest) = none := rfl
  rw [compared, List.append_assoc, List.append_assoc, after_append, hquote]
  simp only [Option.bind_eq_bind, Option.bind_some, List.takeWhile_append_of_pos hname,
    List.dropWhile_append_of_pos hname]
  rw [List.takeWhile_cons_of_neg (by decide), List.dropWhile_cons_of_neg (by decide)]
  dsimp only
  rw [hmore, List.append_nil]

/-- the names in the predicate of a target, and the path behind it -/
def selected (target : CStr) : Option (List CStr × CStr) := do
  let s ← after (cs "/ietf-interfaces:interfaces/interface[") target
  compared s.length s

lemma selected_target {name : CStr} (h : apostrophe ∉ name) (path : CStr) :
    selected (interfaceTarget name ++ path) = some ([name], cs "]" ++ path) := by
  have htarget : interfaceTarget name ++ path =
      cs "/ietf-interfaces:interfaces/interface[" ++ (cs "name='" ++ name ++ cs "']" ++ path) := by
    rw [interfaceTarget]
    simp only [← List.append_assoc]
    rfl
  rw [selected, htarget, after_append]
  exact compared_name h _ path

/-! ## the session -/

/-- the containers at a target -/
def getSelected (target : CStr) (c : Config) : Except LuaError (List HsrLeaves) :=
  match selected target with
  | none => .error .target
  | some (names, path) =>
    if path = cs "]/angtel-hsr:hsr" then
      .ok ((c.interfaces.filter fun i => names.contains i.name).filterMap Interface.hsr)
    else .error .target

def removeSelected (target : CStr) (c : Config) : Config :=
  match selected target with
  | none => c
  | some (names, path) =>
    if path = cs "]" then
      ⟨c.interfaces.filter fun i => !names.contains i.name,
        c.keyed.sublist (List.Sublist.map _ List.filter_sublist)⟩
    else c

lemma filterMap_named {interfaces : List Interface} (keyed : (interfaces.map Interface.name).Nodup)
    (name : CStr) : (interfaces.filter fun i => i.name == name).filterMap Interface.hsr =
      ((interfaces.find? fun i => i.name == name).bind Interface.hsr).toList := by
  induction interfaces with
  | nil => rfl
  | cons i interfaces ih =>
    obtain ⟨hnew, hrest⟩ := List.nodup_cons.mp keyed
    rw [List.filter_cons, List.find?_cons]
    by_cases hname : i.name = name
    · subst hname
      have hnone : interfaces.filter (fun j => j.name == i.name) = [] := by
        rw [List.filter_eq_nil_iff]
        intro j hj hsame
        refine hnew ?_
        rw [← beq_iff_eq.mp hsame]
        exact List.mem_map_of_mem hj
      have hself : (i.name == i.name) = true := beq_self_eq_true _
      rw [if_pos hself, hnone, hself, Option.bind_some]
      cases hhsr : i.hsr with
      | none => rw [List.filterMap_cons_none hhsr]; rfl
      | some leaves => rw [List.filterMap_cons_some hhsr]; rfl
    · have hother : (i.name == name) = false := by simpa using hname
      rw [hother]
      exact ih hrest

lemma contains_name (name : CStr) (i : Interface) :
    [name].contains i.name = (i.name == name) := by
  rw [List.contains_cons, List.contains_nil, Bool.or_false]

/-- the session that knows these targets, and refuses any other -/
def namesCdb : Cdb where
  cdbGet := getSelected
  remove := removeSelected
  get_named := by
    intro name h c
    rw [getSelected, containerTarget, selected_target h]
    have hpath : cs "]" ++ cs "/angtel-hsr:hsr" = cs "]/angtel-hsr:hsr" := rfl
    dsimp only
    rw [if_pos hpath, Config.container, ← filterMap_named c.keyed]
    simp only [contains_name]
  remove_named := by
    intro name h c
    have hselected := selected_target h []
    rw [List.append_nil] at hselected
    rw [removeSelected, hselected, Config.without]
    dsimp only
    rw [if_pos (List.append_nil _)]
    simp only [contains_name, bne]
  remove_uses := by
    intro target c i hi
    have hmem : i ∈ c.interfaces := by
      unfold removeSelected at hi
      split at hi
      · exact hi
      · split at hi
        · exact List.mem_of_mem_filter hi
        · exact hi
    exact ⟨i, hmem, rfl, fun _ => id⟩

end HsrCmds
