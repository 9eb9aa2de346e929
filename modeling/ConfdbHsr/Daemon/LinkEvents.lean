import ConfdbHsr.Daemon.Requests
import ConfdbHsr.Libnl.LinkTable

/-!
# The daemon and the kernel's links

The kernel's links change, by themselves and on request of the daemon, and every change is
announced by messages.  The daemon handles configuration calls and messages in any order, so its
link cache lags behind the kernel by the messages that are pending.

* `views`          the links as they are after each of a sequence of messages;
* `Kernel`, `Kernel.announce`   the links of the kernel with the pending messages;
* `Consistent S`   dumps show the links, and requests change them by announced messages only;
* `Synced`         once the pending messages are handled, the cache holds the links of the kernel;
* `linkStep`       a change of the links, a configuration call, or the handling of a message;
* `linkInput_leaves`   what the handling of a message does.
-/

namespace Hsr
open Nl Proc

/-! ## views -/

/-- the links after the messages -/
def after (links : List LinkObj) (msgs : List LinkMsg) : List LinkObj :=
  msgs.foldl (fun links msg => msg.apply links) links

/-- the links after each of the messages -/
def views (links : List LinkObj) : List LinkMsg → List (List LinkObj)
  | [] => [links]
  | msg :: msgs => links :: views (msg.apply links) msgs

section
variable (links : List LinkObj) (msgs msgs' : List LinkMsg)

lemma after_append : after links (msgs ++ msgs') = after (after links msgs) msgs' :=
  List.foldl_append

lemma views_cons (msg : LinkMsg) :
    views links (msg :: msgs) = links :: views (msg.apply links) msgs := rfl

lemma head_mem_views : links ∈ views links msgs := by
  cases msgs with
  | nil => exact List.mem_cons_self
  | cons msg msgs => exact List.mem_cons_self

lemma last_mem_views : after links msgs ∈ views links msgs := by
  induction msgs generalizing links with
  | nil => exact List.mem_cons_self
  | cons msg msgs ih => exact List.mem_cons_of_mem links (ih _)

lemma mem_views_append {view : List LinkObj} : view ∈ views links (msgs ++ msgs') ↔
    view ∈ views links msgs ∨ view ∈ views (after links msgs) msgs' := by
  induction msgs generalizing links with
  | nil =>
    constructor
    · exact .inr
    · rintro (h | h)
      · rw [List.mem_singleton.mp h]
        exact head_mem_views links msgs'
      · exact h
  | cons msg msgs ih =>
    rw [List.cons_append, views_cons, views_cons, List.mem_cons, List.mem_cons, ih]
    exact or_assoc.symm

end

/-- the messages lead through well-formed tables only -/
def Lawful (links : List LinkObj) (msgs : List LinkMsg) : Prop :=
  ∀ view ∈ views links msgs, WellFormed view

instance (links : List LinkObj) (msgs : List LinkMsg) : Decidable (Lawful links msgs) :=
  inferInstanceAs (Decidable (∀ view ∈ views links msgs, WellFormed view))

lemma Lawful.append {links : List LinkObj} {msgs msgs' : List LinkMsg} (h : Lawful links msgs)
    (h' : Lawful (after links msgs) msgs') : Lawful links (msgs ++ msgs') := by
  intro view hview
  rcases (mem_views_append links msgs msgs').mp hview with hview | hview
  · exact h view hview
  · exact h' view hview

/-! ## the kernel -/

/-- the links of the kernel with its bridge ports, each as the object that its messages carry; the
messages that are pending; whatever else the answers of the kernel depend on -/
structure Kernel (ω : Type) where
  links : List LinkObj
  queue : List LinkMsg
  rest : ω

variable {ω : Type}

/-- the links change as the messages say -/
def Kernel.announce (k : Kernel ω) (msgs : List LinkMsg) (rest : ω) : Kernel ω where
  links := after k.links msgs
  queue := k.queue ++ msgs
  rest := rest

/-- the next pending message is taken from the queue -/
def Kernel.receive (k : Kernel ω) : Option LinkMsg × Kernel ω :=
  (k.queue.head?, { k with queue := k.queue.tail })

/-- the kernel has changed by announced messages, from a well-formed table lawfully -/
def Announced (k k' : Kernel ω) : Prop :=
  ∃ msgs rest, k' = k.announce msgs rest ∧ (WellFormed k.links → Lawful k.links msgs)

/-- an environment around such a kernel -/
structure Consistent (S : Sys (Kernel ω)) : Prop where
  connect : ∀ k, (S.nlConnect k).2 = k
  dump : ∀ k, S.rtnlLinkAllocCache k = ((0, devices k.links), k)
  calloc : ∀ k, (S.calloc k).2 = k
  add : ∀ link k, Announced k (S.rtnlLinkAdd link k).2
  delete : ∀ link k, Announced k (S.rtnlLinkDelete link k).2

lemma Announced.refl (k : Kernel ω) : Announced k k := by
  refine ⟨[], k.rest, by simp [Kernel.announce, after], fun h view hview => ?_⟩
  rwa [List.mem_singleton.mp hview]

lemma Announced.trans {k k' k'' : Kernel ω} (h : Announced k k') (h' : Announced k' k'') :
    Announced k k'' := by
  obtain ⟨msgs, rest, rfl, hlaw⟩ := h
  obtain ⟨msgs', rest', rfl, hlaw'⟩ := h'
  refine ⟨msgs ++ msgs', rest', ?_, fun h => (hlaw h).append (hlaw' ?_)⟩
  · simp [Kernel.announce, after_append]
  · exact hlaw h _ (last_mem_views k.links msgs)

/-- all that the daemon asks of the kernel is announced -/
lemma Consistent.closed {S : Sys (Kernel ω)} (hS : Consistent S) (k : Kernel ω) :
    Closed S (Announced k) where
  connect k' h := by
    rw [hS.connect]
    exact h
  dump k' h := by
    rw [hS.dump]
    exact h
  add link k' h := h.trans (hS.add link k')
  delete link k' h := h.trans (hS.delete link k')
  calloc k' h := by
    rw [hS.calloc]
    exact h

/-- after the pending messages, through well-formed tables, the cache holds the links of the
kernel -/
structure Synced (cache : List LinkObj) (k : Kernel ω) : Prop where
  after_eq : after cache k.queue = k.links
  lawful : Lawful cache k.queue

section
variable {cache : List LinkObj} {k k' : Kernel ω}

lemma Synced.last (h : Synced cache k) : k.links ∈ views cache k.queue := by
  rw [← h.after_eq]
  exact last_mem_views cache k.queue

lemma Synced.init (hwf : WellFormed k.links) (hqueue : k.queue = []) : Synced k.links k := by
  constructor
  · rw [hqueue]
    rfl
  · intro view hview
    rw [hqueue] at hview
    rwa [List.mem_singleton.mp hview]

lemma Synced.views_quiet (h : Synced cache k) (hqueue : k.queue = []) :
    views cache k.queue = [k.links] := by
  rw [← h.after_eq, hqueue]
  rfl

lemma Synced.announced (h : Synced cache k) (hk : Announced k k') : Synced cache k' := by
  obtain ⟨msgs, rest, rfl, hlaw⟩ := hk
  have hmsgs := hlaw (h.lawful _ h.last)
  constructor
  · show after cache (k.queue ++ msgs) = after k.links msgs
    rw [after_append, h.after_eq]
  · apply h.lawful.append
    rwa [h.after_eq]

lemma Synced.receive {cache : List LinkObj} {msg : LinkMsg} {q : List LinkMsg}
    (h : Synced cache k) (hqueue : k.queue = msg :: q) :
    Synced (msg.apply cache) { k with queue := q } := by
  have hafter := h.after_eq
  have hlaw := h.lawful
  rw [hqueue] at hafter hlaw
  constructor
  · exact hafter
  · intro view hview
    exact hlaw view (List.mem_cons_of_mem cache hview)

lemma Announced.views (hk : Announced k k') :
    ∀ view ∈ views cache k.queue, view ∈ Hsr.views cache k'.queue := by
  obtain ⟨msgs, rest, rfl, -⟩ := hk
  exact fun view hview => (mem_views_append cache k.queue msgs).mpr (.inl hview)

end

/-! ## the machine -/

/-- the daemon with its managed link cache -/
structure LinkDaemon where
  app : HsrModule
  cache : List LinkObj

inductive LinkInput (ω : Type) where
  | kernel (msgs : List LinkMsg) (rest : ω)
  | config (key : Option CStr) (cdbData : Option HsrData)
  | handle

/-- a message enters the link cache, and the callback is called -/
def linkInput (S : Sys (Kernel ω)) (d : LinkDaemon) (msg : LinkMsg) :
    Op (Kernel ω) LinkDaemon := do
  let cache := msg.apply d.cache
  let app ← (msg.notes d.cache).foldlM (fun app note => step S app (.link cache note)) d.app
  pure ⟨app, cache⟩

def linkStep (S : Sys (Kernel ω)) (d : LinkDaemon) : LinkInput ω → Op (Kernel ω) LinkDaemon
  | .kernel msgs rest => do
    sys fun k => ((), k.announce msgs rest)
    pure d
  | .config key cdbData => do
    let app ← step S d.app (.config key cdbData)
    pure { d with app := app }
  | .handle => do
    let msg ← sys Kernel.receive
    match msg with
    | none => pure d
    | some msg => linkInput S d msg

/-- what the daemon does at the callback of a message, if there is one -/
def notesReaction (links : List LinkObj) : List (Note LinkObj) → Reaction
  | note :: _ => reaction links note
  | [] => .idle

/-- what a message makes the daemon do -/
def msgReaction (cache : List LinkObj) (msg : LinkMsg) : Reaction :=
  notesReaction (msg.apply cache) (msg.notes cache)

theorem linkInput_eq (S : Sys (Kernel ω)) (d : LinkDaemon) (msg : LinkMsg) :
    linkInput S d msg = (fun waitList => (⟨{ d.app with waitList := waitList },
      msg.apply d.cache⟩ : LinkDaemon)) <$> react S d.app.waitList (msgReaction d.cache msg) := by
  rw [linkInput, msgReaction]
  rcases msg.notes_cases d.cache with h | ⟨note, h⟩
  · rw [h]
    rfl
  · rw [h]
    simp only [List.foldlM_cons, List.foldlM_nil, bind_pure, step, routeLinkCacheChangeCb_eq,
      notesReaction, map_eq_pure_bind, bind_assoc, pure_bind]

/-! ## what a step leaves -/

section
variable (S : Sys (Kernel ω)) (d : LinkDaemon) {k : Kernel ω}

lemma handle_nil (h : k.queue = []) : linkStep S d .handle k = ⟨.ok d, k, []⟩ := by
  obtain ⟨links, queue, rest⟩ := k
  obtain rfl : queue = [] := h
  rfl

lemma handle_cons {msg : LinkMsg} {q : List LinkMsg} (h : k.queue = msg :: q) :
    linkStep S d .handle k = linkInput S d msg { k with queue := q } := by
  obtain ⟨links, queue, rest⟩ := k
  obtain rfl : queue = msg :: q := h
  rfl

end

section
variable {S : Sys (Kernel ω)} (hS : Consistent S) {k : Kernel ω}
include hS

lemma linkInput_leaves (d : LinkDaemon) (msg : LinkMsg) {Q : List WaitListNode → Prop}
    (hQ : Yields Q (react S d.app.waitList (msgReaction d.cache msg))) :
    Leaves (· = k) (linkInput S d msg) fun d' k' =>
      d'.cache = msg.apply d.cache ∧ Announced k k' ∧ Q d'.app.waitList := by
  rw [linkInput_eq]
  have hstays : Leaves (· = k) (react S d.app.waitList (msgReaction d.cache msg))
      fun _ k' => Announced k k' := by
    refine (react_stays (hS.closed k) _ _).mono (fun k' hk => ?_) fun _ _ h => h
    subst hk
    exact Announced.refl k'
  exact leaves_map ((hstays.and hQ.leaves).mono (fun _ h => h) fun _ _ h => ⟨rfl, h.1, h.2⟩)

lemma configInput_leaves (d : LinkDaemon) (key : Option CStr) (cdbData : Option HsrData)
    {Q : List WaitListNode → Prop}
    (hQ : Leaves (· = k) (hsrHandler S d.app key cdbData) fun p _ => Q p.2.waitList) :
    Leaves (· = k) (linkStep S d (.config key cdbData)) fun d' k' =>
      d'.cache = d.cache ∧ Announced k k' ∧ Q d'.app.waitList := by
  have hstays : Leaves (· = k) (step S d.app (.config key cdbData))
      fun _ k' => Announced k k' := by
    refine (step_stays (hS.closed k) _ _).mono (fun k' hk => ?_) fun _ _ h => h
    subst hk
    exact Announced.refl k'
  have hlist : Leaves (· = k) (step S d.app (.config key cdbData)) fun app _ => Q app.waitList :=
    leaves_bind _ hQ fun p => leaves_pure fun _ h => h
  exact leaves_bind _ (hstays.and hlist) fun app => leaves_pure fun _ h => ⟨rfl, h.1, h.2⟩

end

end Hsr
