import ConfdbHsr.Daemon.Acts

/-!
# What a link notification makes the daemon do

The three link handlers of `handlers.c` dispatch on the type of the notified link, on its kind and
on the masters that the managed cache holds.  `reaction` computes the outcome of that dispatch
without running anything, and `routeLinkCacheChangeCb_eq` says that the callback runs exactly
the reaction.
-/

namespace Hsr
open Nl Proc

/-- the function of `wait_list.c` that a notification ends in, or the crash before it -/
inductive Reaction where
  | idle
  | newLink (link : LinkObj)
  | linkDeleted (link : LinkObj)
  | released (link : LinkObj)
  | gotBusy (link : LinkObj)
  | releasedHsrNot (link linkMaster : LinkObj)
  | hsrLinkDeleted (link : LinkObj)
  | crash (fault : Fault)
  deriving DecidableEq, Repr

/-- a comparison of the kind of a link with `"hsr"`: no kind is a crash -/
def byKind (link : LinkObj) (notHsr hsr : Reaction) : Reaction :=
  match link.lInfoKind with
  | none => .crash .nullStrcmp
  | some kind => if kind == cs "hsr" then hsr else notHsr

def newReaction (cache : List LinkObj) (nLink : LinkObj) : Reaction :=
  if nLink.isEther then
    byKind nLink (.newLink nLink) <|
      match rtnlLinkGet cache nLink.lLink with
      | some slave => .gotBusy slave
      | none => .crash .nullGetName
  else .idle

def delReaction (oLink : LinkObj) : Reaction :=
  if oLink.isEther then byKind oLink (.linkDeleted oLink) (.hsrLinkDeleted oLink) else .idle

def changeReaction (cache : List LinkObj) (oLink nLink : LinkObj) : Reaction :=
  if oLink.isEther && !oLink.isHsr then
    match rtnlLinkGet cache oLink.lMaster, rtnlLinkGet cache nLink.lMaster with
    | none, some _ => .gotBusy oLink
    | some oLinkMaster, none => byKind oLinkMaster (.released nLink)
        (.releasedHsrNot nLink oLinkMaster)
    | _, _ => .idle
  else .idle

def reaction (cache : List LinkObj) : Note LinkObj → Reaction
  | .new nLink => newReaction cache nLink
  | .del oLink => delReaction oLink
  | .change oLink nLink _ => changeReaction cache oLink nLink

/-! ## what each action can lead to -/

lemma byKind_cases (link : LinkObj) (notHsr hsr : Reaction) :
    byKind link notHsr hsr = .crash .nullStrcmp ∨
      (link.isHsr = true ∧ byKind link notHsr hsr = hsr) ∨
      (link.isHsr = false ∧ byKind link notHsr hsr = notHsr) := by
  unfold byKind RtnlLink.isHsr
  cases link.lInfoKind with
  | none => exact .inl rfl
  | some kind =>
    cases h : kind == cs "hsr" with
    | true => exact .inr (.inl ⟨by simpa using h, if_pos h⟩)
    | false => exact .inr (.inr ⟨by simpa using h, if_neg (by simp [h])⟩)

theorem newReaction_cases (cache : List LinkObj) (n : LinkObj) :
    newReaction cache n = .idle ∨ newReaction cache n = .newLink n ∨
      (∃ slave, n.isHsr = true ∧ rtnlLinkGet cache n.lLink = some slave ∧
        newReaction cache n = .gotBusy slave) ∨
      ∃ fault, (fault = .nullStrcmp ∨ fault = .nullGetName) ∧
        newReaction cache n = .crash fault := by
  unfold newReaction
  split
  · rcases byKind_cases n (.newLink n) (match rtnlLinkGet cache n.lLink with
      | some slave => .gotBusy slave
      | none => .crash .nullGetName) with h | ⟨hk, h⟩ | ⟨-, h⟩
    · exact .inr (.inr (.inr ⟨_, .inl rfl, h⟩))
    · rw [h]
      cases hl : rtnlLinkGet cache n.lLink with
      | none => exact .inr (.inr (.inr ⟨_, .inr rfl, rfl⟩))
      | some slave => exact .inr (.inr (.inl ⟨slave, hk, rfl, rfl⟩))
    · exact .inr (.inl h)
  · exact .inl rfl

theorem delReaction_cases (o : LinkObj) :
    delReaction o = .idle ∨ delReaction o = .linkDeleted o ∨ delReaction o = .hsrLinkDeleted o ∨
      delReaction o = .crash .nullStrcmp := by
  unfold delReaction
  split
  · rcases byKind_cases o (.linkDeleted o) (.hsrLinkDeleted o) with h | ⟨-, h⟩ | ⟨-, h⟩
    · exact .inr (.inr (.inr h))
    · exact .inr (.inr (.inl h))
    · exact .inr (.inl h)
  · exact .inl rfl

theorem changeReaction_cases (cache : List LinkObj) (o n : LinkObj) :
    changeReaction cache o n = .idle ∨ changeReaction cache o n = .gotBusy o ∨
      (∃ M, rtnlLinkGet cache o.lMaster = some M ∧
        (changeReaction cache o n = .released n ∨
          changeReaction cache o n = .releasedHsrNot n M ∨
          changeReaction cache o n = .crash .nullStrcmp)) := by
  unfold changeReaction
  split
  · cases ho : rtnlLinkGet cache o.lMaster with
    | none =>
      cases rtnlLinkGet cache n.lMaster with
      | none => exact .inl rfl
      | some _ => exact .inr (.inl rfl)
    | some M =>
      cases rtnlLinkGet cache n.lMaster with
      | some _ => exact .inl rfl
      | none =>
        refine .inr (.inr ⟨M, rfl, ?_⟩)
        rcases byKind_cases M (.released n) (.releasedHsrNot n M) with h | ⟨-, h⟩ | ⟨-, h⟩
        · exact .inr (.inr h)
        · exact .inr (.inl h)
        · exact .inl h
  · exact .inl rfl

variable {W : Type} (S : Sys W)

/-- run a reaction on the wait list -/
def react (waitList : List WaitListNode) : Reaction → Op W (List WaitListNode)
  | .idle => pure waitList
  | .newLink link => newLink S waitList link
  | .linkDeleted link => linkDeleted waitList link
  | .released link => linkChangedReleased S waitList link
  | .gotBusy link => linkChangedGotBusy waitList (some link)
  | .releasedHsrNot link linkMaster => linkReleasedHsrNot waitList link linkMaster
  | .hsrLinkDeleted link => hsrLinkDeleted S waitList link
  | .crash fault => fail fault

lemma react_byKind (waitList : List WaitListNode) (link : LinkObj) (notHsr hsr : Reaction) :
    react S waitList (byKind link notHsr hsr) = (do
      let isHsr ← strEq link.lInfoKind (cs "hsr")
      if !isHsr then react S waitList notHsr else react S waitList hsr) := by
  cases hk : link.lInfoKind with
  | none =>
    rw [byKind, hk]
    rfl
  | some kind =>
    rw [byKind, hk, strEq_some, pure_bind]
    cases h : kind == cs "hsr" <;> simp [h]

lemma getD_ne_hsr (link : LinkObj) : (link.lInfoKind.getD [] != cs "hsr") = !link.isHsr := by
  unfold RtnlLink.isHsr
  cases link.lInfoKind with
  | none => rfl
  | some kind => rfl

/-- **The callback runs the reaction to the notification.** -/
theorem routeLinkCacheChangeCb_eq (waitList : List WaitListNode) (cache : List LinkObj)
    (note : Note LinkObj) :
    routeLinkCacheChangeCb S waitList cache note = react S waitList (reaction cache note) := by
  cases note with
  | new nLink =>
    show linkNewHandler S waitList cache nLink = react S waitList (newReaction cache nLink)
    unfold linkNewHandler newReaction
    split
    · rw [react_byKind]
      cases rtnlLinkGet cache nLink.lLink <;> rfl
    · rfl
  | del oLink =>
    show linkDeletedHandler S waitList oLink = react S waitList (delReaction oLink)
    unfold linkDeletedHandler delReaction
    split
    · rw [react_byKind]
      rfl
    · rfl
  | change oLink nLink diff =>
    show linkChangedHandler S waitList cache oLink nLink =
      react S waitList (changeReaction cache oLink nLink)
    unfold linkChangedHandler changeReaction
    dsimp only
    rw [getD_ne_hsr]
    cases oLink.isEther with
    | false => rfl
    | true =>
      cases oLink.isHsr with
      | true => rfl
      | false =>
        simp only [Bool.not_false, Bool.and_self, if_true]
        cases rtnlLinkGet cache oLink.lMaster with
        | none => cases rtnlLinkGet cache nLink.lMaster <;> rfl
        | some master =>
          cases rtnlLinkGet cache nLink.lMaster with
          | none =>
            rw [react_byKind]
            rfl
          | some _ => rfl

end Hsr
