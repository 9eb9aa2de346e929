import ConfdbHsr.Lib.CatchUp
import ConfdbHsr.LinkCacheRuns

/-!
# How the managed link cache follows the kernel

`nl_cache_mngr_add_cache` joins the group of link notifications on one socket, and then fills the
cache by dumps on another one (`nl_cache_refill`), a family after the other; a dump that was
interrupted is asked for again, and the links already there are not added twice.  The notifications
wait meanwhile, and are included in the cache when the manager reads its socket.  The kernel goes on
all the time.  No notification is lost, and there is memory.

* `KernelLinks`     the links of the kernel, by index and family;
* `LinkWatch`       the kernel, what waits on the two sockets, and the cache;
* `WatchStep`       one step of the kernel or of the manager;
* `LinkWatch.abs`   the copy that catches up with its source;
* `step_abs`        a step of the one is a step of the other, or none;
* `links_follow`    a manager that runs has the links of the kernel, but for those of which a
                    notification waits.
-/

namespace Nl
open Relation CatchUp

/-! ## the kernel -/

/-- a change of a link, which may be gone -/
structure LinkChange where
  link : LinkObj
  gone : Bool
  other : Mask

/-- the notification of a change -/
def LinkChange.msg (c : LinkChange) : LinkMsg := ⟨if c.gone then .del else .new, c.link, c.other⟩

/-- what the kernel has after the change -/
def LinkChange.now (c : LinkChange) : Option LinkObj := if c.gone then none else some c.link

/-- the links of the kernel, by index and family -/
structure KernelLinks where
  link : LinkKey → Option LinkObj
  keyed : ∀ k l, link k = some l → l.key = k

def KernelLinks.after (kernel : KernelLinks) (c : LinkChange) : KernelLinks where
  link := Function.update kernel.link c.link.key c.now
  keyed := by
    intro k l hl
    by_cases hk : k = c.link.key
    · subst hk
      rw [Function.update_self, LinkChange.now] at hl
      split at hl
      · cases hl
      · cases hl
        rfl
    · rw [Function.update_of_ne hk] at hl
      exact kernel.keyed k l hl

/-- the families of `link_groups` -/
def linkGroups : List UInt32 := [AF_UNSPEC, AF_BRIDGE]

/-- the families that `nl_cache_refill` asks for, with the flag `NL_CACHE_AF_ITER` or without -/
def refillFamilies (afIter : Bool) : List UInt32 := if afIter then linkGroups else [AF_UNSPEC]

/-- a dump of a family lists the devices, or for `AF_BRIDGE` the bridge ports -/
def dumped (family : UInt32) (link : LinkObj) : Prop := link.isDevice = (family != AF_BRIDGE)

instance (family : UInt32) : DecidablePred (dumped family) :=
  fun _ => inferInstanceAs (Decidable (_ = _))

/-! ## the manager -/

inductive WatchPhase where
  | idle
  /-- a dump of a family, the links it has still to list, and the families after it -/
  | dumping (family : UInt32) (todo : Set LinkKey) (later : List UInt32)
  | running

structure LinkWatch where
  kernel : KernelLinks
  /-- the notifications that wait on the socket of the manager -/
  queue : List LinkChange
  /-- the links of a dump that wait on the socket for dumps -/
  reply : List LinkObj
  cache : LinkCache
  phase : WatchPhase

/-- one step of the kernel or of the manager -/
inductive WatchStep (families : List UInt32) (s : LinkWatch) : LinkWatch → Prop
  /-- a change before the group is joined -/
  | silent (c : LinkChange) (hphase : s.phase = .idle) :
      WatchStep families s { s with kernel := s.kernel.after c }
  | change (c : LinkChange) (hphase : s.phase ≠ .idle) :
      WatchStep families s { s with kernel := s.kernel.after c, queue := s.queue ++ [c] }
  /-- the group is joined, the cache is cleared, and the first dump is asked for -/
  | join {family : UInt32} {later : List UInt32} (hphase : s.phase = .idle)
      (hfamilies : families = family :: later) :
      WatchStep families s { s with
        cache := (linkHashOps 0).nlCacheClear s.cache
        phase := .dumping family (listing s.kernel.link (dumped family)) later }
  /-- the kernel writes a link of the dump -/
  | write {family : UInt32} {todo : Set LinkKey} {later : List UInt32} {k : LinkKey}
      {link : LinkObj} (hphase : s.phase = .dumping family todo later)
      (hlink : s.kernel.link k = some link) (hdumped : dumped family link) :
      WatchStep families s { s with
        reply := s.reply ++ [link], phase := .dumping family (todo \ {k}) later }
  /-- the kernel has no such link any more -/
  | pass {family : UInt32} {todo : Set LinkKey} {later : List UInt32} {k : LinkKey}
      (hphase : s.phase = .dumping family todo later)
      (hlink : ∀ link, s.kernel.link k = some link → ¬ dumped family link) :
      WatchStep families s { s with phase := .dumping family (todo \ {k}) later }
  /-- `pickup_cb`; `update_msg_parser` skips a link that is there already -/
  | pickup {link : LinkObj} {reply : List LinkObj} (hreply : s.reply = link :: reply) :
      WatchStep families s { s with
        reply := reply, cache := ((linkHashOps 0).nlCacheAdd true s.cache link).2 }
  /-- `-NLE_DUMP_INTR`: the dump is asked for again -/
  | restart {family : UInt32} {todo : Set LinkKey} {later : List UInt32}
      (hphase : s.phase = .dumping family todo later) (hreply : s.reply = []) :
      WatchStep families s { s with
        phase := .dumping family (listing s.kernel.link (dumped family)) later }
  | next {family family' : UInt32} {later : List UInt32}
      (hphase : s.phase = .dumping family ∅ (family' :: later)) (hreply : s.reply = []) :
      WatchStep families s { s with
        phase := .dumping family' (listing s.kernel.link (dumped family')) later }
  | filled {family : UInt32} (hphase : s.phase = .dumping family ∅ []) (hreply : s.reply = []) :
      WatchStep families s { s with phase := .running }
  /-- `include_cb` -/
  | event {c : LinkChange} {queue : List LinkChange} (hphase : s.phase = .running)
      (hqueue : s.queue = c :: queue) :
      WatchStep families s { s with
        queue := queue
        cache := ((linkHashOps c.other).cacheInclude true s.cache c.msg.obj c.msg.act).1 }

/-- a manager with a new cache -/
def LinkWatch.init (kernel : KernelLinks) : LinkWatch :=
  ⟨kernel, [], [], nlCacheAlloc true, .idle⟩

/-! ## what the cache has of a key -/

/-- the link of the cache with a key -/
def LinkCache.at (cache : LinkCache) (k : LinkKey) : Option LinkObj :=
  cache.cItems.find? fun link => link.key == k

lemma find_key_cons (link : LinkObj) (links : List LinkObj) (k : LinkKey) :
    (link :: links).find? (fun item => item.key == k) =
      (if link.key = k then some link else none).or (links.find? fun item => item.key == k) := by
  rw [List.find?_cons]
  by_cases hk : link.key = k
  · rw [if_pos hk, hk, beq_self_eq_true]
    rfl
  · rw [if_neg hk, beq_eq_false_iff_ne.mpr hk]
    rfl

section
variable {cache : LinkCache} (hcache : LinkCache.Valid cache)
include hcache

lemma LinkCache.at_add (link : LinkObj) (k : LinkKey) :
    LinkCache.at ((linkHashOps 0).nlCacheAdd true cache link).2 k =
      (LinkCache.at cache k).or (if link.key = k then some link else none) := by
  rw [HashOps.nlCacheAdd]
  rcases cacheAdd_eq (linkHashOps_hashed 0) hcache true link with
    ⟨old, hold, hadd⟩ | ⟨-, ⟨hmem, -⟩ | ⟨-, -, hitems, -⟩⟩
  · rw [hadd]
    split
    · rename_i hk
      subst hk
      rw [LinkCache.at, hold]
      rfl
    · rw [Option.or_none]
  · cases hmem
  · rw [LinkCache.at, LinkCache.at, hitems, List.find?_append, find_key_cons, List.find?_nil,
      Option.or_none]

lemma LinkCache.valid_add (link : LinkObj) :
    LinkCache.Valid ((linkHashOps 0).nlCacheAdd true cache link).2 :=
  (call_plain hcache (.add true link)).2.2

lemma LinkCache.valid_event (c : LinkChange) :
    LinkCache.Valid ((linkHashOps c.other).cacheInclude true cache c.msg.obj c.msg.act).1 :=
  (call_plain hcache (.event true c.msg)).2.2

omit hcache in
lemma LinkChange.apply_eq (c : LinkChange) (links : List LinkObj) :
    c.msg.apply links =
      (links.eraseP fun item => item.key == c.link.key) ++ c.now.toList := by
  have hremove : (linkOps c.other).cacheRemove links c.link =
      links.eraseP fun item => item.key == c.link.key := by
    rw [← identical_eq (linkHashOps_hashed c.other) c.link]
    rfl
  have hmiss (h : (linkOps c.other).cacheSearch links c.link = none) :
      (linkOps c.other).cacheRemove links c.link = links :=
    List.eraseP_of_forall_not (List.find?_eq_none.mp h)
  rw [← hremove]
  obtain ⟨link, gone, other⟩ := c
  cases gone with
  | true =>
    show ((linkOps other).cacheInclude links link .del).1 = _ ++ []
    rw [List.append_nil, ObjectOps.cacheInclude]
    cases hfind : (linkOps other).cacheSearch links link with
    | some old => rfl
    | none => exact (hmiss hfind).symm
  | false =>
    show ((linkOps other).cacheInclude links link .new).1 = _ ++ [link]
    rw [ObjectOps.cacheInclude]
    cases hfind : (linkOps other).cacheSearch links link with
    | some old => rfl
    | none => exact congrArg (· ++ [link]) (hmiss hfind).symm

lemma LinkCache.at_event (c : LinkChange) :
    LinkCache.at ((linkHashOps c.other).cacheInclude true cache c.msg.obj c.msg.act).1 =
      Function.update (LinkCache.at cache) c.link.key c.now := by
  have hitems : ((linkHashOps c.other).cacheInclude true cache c.msg.obj c.msg.act).1.cItems =
      c.msg.apply cache.cItems := by
    have hplain := (event_plain hcache true c.msg).2.1
    rw [plainCall, if_pos (Or.inl rfl)] at hplain
    exact hplain
  obtain ⟨ht, -, hht⟩ := hcache.table
  funext k
  rw [LinkCache.at, hitems, c.apply_eq, List.find?_append, Chains.find_eraseP hht.keys]
  by_cases hk : k = c.link.key
  · subst hk
    rw [if_pos (beq_self_eq_true _), Option.none_or, Function.update_self, LinkChange.now]
    cases c.gone with
    | true => rfl
    | false => exact (find_key_cons _ _ _).trans (by rw [if_pos rfl]; rfl)
  · have hne : ¬ (c.link.key == k) = true := fun heq => hk (eq_of_beq heq).symm
    have hnow : c.now.toList.find? (fun item => item.key == k) = none := by
      rw [LinkChange.now]
      cases c.gone with
      | true => rfl
      | false => exact (find_key_cons _ _ _).trans (by rw [if_neg (Ne.symm hk)]; rfl)
    rw [if_neg hne, Function.update_of_ne hk, hnow, Option.or_none]
    rfl

end

/-! ## the copy that catches up -/

/-- what the manager has of a key: a link of the cache, or one that waits to be added -/
def LinkWatch.copy (s : LinkWatch) (k : LinkKey) : Option LinkObj :=
  (LinkCache.at s.cache k).or (s.reply.find? fun link => link.key == k)

def WatchPhase.abs : WatchPhase → Phase LinkKey LinkObj
  | .idle => .unsubscribed
  | .dumping family todo later => .copying (dumped family) todo (later.map dumped)
  | .running => .replaying

def LinkWatch.abs (s : LinkWatch) : CatchUp.State LinkKey LinkObj where
  source := s.kernel.link
  log := s.queue.map fun c => (c.link.key, c.now)
  copy := s.copy
  phase := s.phase.abs

structure WatchInv (s : LinkWatch) : Prop where
  cache : LinkCache.Valid s.cache
  idle : s.phase = .idle → s.cache.cItems = [] ∧ s.reply = []
  running : s.phase = .running → s.reply = []

lemma watchInv_init (kernel : KernelLinks) : WatchInv (LinkWatch.init kernel) :=
  ⟨indexed_alloc, fun _ => ⟨rfl, rfl⟩, fun _ => rfl⟩

section
variable {families : List UInt32} {s s' : LinkWatch}

lemma copy_write {k : LinkKey} {link : LinkObj} (hlink : s.kernel.link k = some link)
    (phase : WatchPhase) :
    ({ s with reply := s.reply ++ [link], phase := phase } : LinkWatch).copy =
      Function.update s.copy k ((s.copy k).or (some link)) := by
  have hkey : link.key = k := s.kernel.keyed k link hlink
  funext k'
  show (LinkCache.at s.cache k').or ((s.reply ++ [link]).find? fun item => item.key == k') = _
  rw [List.find?_append, find_key_cons, List.find?_nil, Option.or_none, ← Option.or_assoc, hkey]
  by_cases hk : k = k'
  · subst hk
    rw [if_pos rfl, Function.update_self]
    rfl
  · rw [if_neg hk, Function.update_of_ne (Ne.symm hk), Option.or_none]
    rfl

lemma copy_pickup (hinv : WatchInv s) {link : LinkObj} {reply : List LinkObj}
    (hreply : s.reply = link :: reply) :
    ({ s with
        reply := reply
        cache := ((linkHashOps 0).nlCacheAdd true s.cache link).2 } : LinkWatch).copy = s.copy := by
  funext k
  rw [LinkWatch.copy, LinkWatch.copy, hreply, LinkCache.at_add hinv.cache, Option.or_assoc,
    find_key_cons]

lemma copy_event (hinv : WatchInv s) (hphase : s.phase = .running) (c : LinkChange)
    (queue : List LinkChange) :
    ({ s with
        queue := queue
        cache := ((linkHashOps c.other).cacheInclude true s.cache c.msg.obj c.msg.act).1 } :
        LinkWatch).copy = Function.update s.copy c.link.key c.now := by
  have hcopy : s.copy = LinkCache.at s.cache := by
    funext k
    rw [LinkWatch.copy, hinv.running hphase, List.find?_nil, Option.or_none]
  funext k
  rw [hcopy, ← LinkCache.at_event hinv.cache, LinkWatch.copy, hinv.running hphase, List.find?_nil,
    Option.or_none]

lemma copy_join (hinv : WatchInv s) (hphase : s.phase = .idle) (phase : WatchPhase) :
    ({ s with cache := (linkHashOps 0).nlCacheClear s.cache, phase := phase } : LinkWatch).copy =
      s.copy := by
  obtain ⟨hitems, -⟩ := indexed_clear (linkHashOps_hashed 0) hinv.cache
  funext k
  rw [LinkWatch.copy, LinkWatch.copy, LinkCache.at, LinkCache.at, hitems, (hinv.idle hphase).1]

lemma watchInv_step (hinv : WatchInv s) (hstep : WatchStep families s s') : WatchInv s' := by
  cases hstep with
  | silent c hphase => exact ⟨hinv.cache, hinv.idle, hinv.running⟩
  | change c hphase => exact ⟨hinv.cache, hinv.idle, hinv.running⟩
  | join hphase hfamilies =>
    obtain ⟨-, hvalid⟩ := indexed_clear (linkHashOps_hashed 0) hinv.cache
    exact ⟨hvalid, (fun h => by cases h), (fun h => by cases h)⟩
  | write hphase hlink hdumped =>
    exact ⟨hinv.cache, (fun h => by cases h), (fun h => by cases h)⟩
  | pass hphase hlink =>
    exact ⟨hinv.cache, (fun h => by cases h), (fun h => by cases h)⟩
  | pickup hreply =>
    have hidle : s.phase ≠ .idle := fun h => by
      have hnil := (hinv.idle h).2
      rw [hreply] at hnil
      cases hnil
    have hrunning : s.phase ≠ .running := fun h => by
      have hnil := hinv.running h
      rw [hreply] at hnil
      cases hnil
    exact ⟨LinkCache.valid_add hinv.cache _, fun h => absurd h hidle, fun h => absurd h hrunning⟩
  | restart hphase hreply =>
    exact ⟨hinv.cache, (fun h => by cases h), (fun h => by cases h)⟩
  | next hphase hreply =>
    exact ⟨hinv.cache, (fun h => by cases h), (fun h => by cases h)⟩
  | filled hphase hreply => exact ⟨hinv.cache, (fun h => by cases h), fun _ => hreply⟩
  | event hphase hqueue =>
    have hidle : s.phase ≠ .idle := by
      rw [hphase]
      simp
    exact ⟨LinkCache.valid_event hinv.cache _, fun h => absurd h hidle, hinv.running⟩

/-- **A step of the manager is a step of a copy that catches up, or none.** -/
theorem step_abs (hinv : WatchInv s) (hstep : WatchStep families s s') :
    ReflTransGen (CatchUp.Step (families.map dumped)) s.abs s'.abs := by
  cases hstep with
  | silent c hphase =>
    have habs : s.abs.phase = .unsubscribed := congrArg WatchPhase.abs hphase
    exact .single (.silent c.link.key c.now habs)
  | change c hphase =>
    have habs : s.abs.phase ≠ .unsubscribed := by
      show s.phase.abs ≠ _
      cases hp : s.phase with
      | idle => exact absurd hp hphase
      | dumping family todo later => simp [WatchPhase.abs]
      | running => simp [WatchPhase.abs]
    have hlog : (s.queue ++ [c]).map (fun c => (c.link.key, c.now)) =
        s.abs.log ++ [(c.link.key, c.now)] := List.map_append
    simp only [LinkWatch.abs, hlog]
    exact .single (.change c.link.key c.now habs)
  | join hphase hfamilies =>
    have habs : s.abs.phase = .unsubscribed := congrArg WatchPhase.abs hphase
    have hstep := CatchUp.Step.start habs (congrArg (List.map dumped) hfamilies)
    simp only [LinkWatch.abs, copy_join hinv hphase]
    exact .single hstep
  | write hphase hlink hdumped =>
    simp only [LinkWatch.abs, copy_write hlink]
    exact .single (.visit _ (congrArg WatchPhase.abs hphase) hlink)
  | pass hphase hlink =>
    exact .single (.skip _ (congrArg WatchPhase.abs hphase) hlink)
  | pickup hreply =>
    simp only [LinkWatch.abs, copy_pickup hinv hreply]
    exact .refl
  | restart hphase hreply => exact .single (.again (congrArg WatchPhase.abs hphase))
  | next hphase hreply => exact .single (.next (congrArg WatchPhase.abs hphase))
  | filled hphase hreply => exact .single (.finish (congrArg WatchPhase.abs hphase))
  | @event c queue hphase hqueue =>
    have hlog : s.abs.log = (c.link.key, c.now) :: queue.map fun c => (c.link.key, c.now) :=
      congrArg _ hqueue
    simp only [LinkWatch.abs, copy_event hinv hphase]
    exact .single (.replay (congrArg WatchPhase.abs hphase) hlog)

lemma run_abs {kernel : KernelLinks}
    (hrun : ReflTransGen (WatchStep families) (LinkWatch.init kernel) s) :
    WatchInv s ∧
      ReflTransGen (CatchUp.Step (families.map dumped)) (CatchUp.State.init kernel.link) s.abs := by
  induction hrun with
  | refl => exact ⟨watchInv_init kernel, .refl⟩
  | tail _ hstep ih =>
    obtain ⟨hinv, habs⟩ := ih
    exact ⟨watchInv_step hinv hstep, habs.trans (step_abs hinv hstep)⟩

end

/-- some dump lists the link; without `NL_CACHE_AF_ITER` only the devices are asked for -/
lemma exists_dumped (afIter : Bool) (link : LinkObj) (h : afIter = true ∨ link.isDevice = true) :
    ∃ round ∈ (refillFamilies afIter).map dumped, round link := by
  have hunspec (hdev : link.isDevice = true) : dumped AF_UNSPEC link := hdev
  cases hdev : link.isDevice with
  | true =>
    refine ⟨dumped AF_UNSPEC, ?_, hunspec hdev⟩
    cases afIter with
    | true => exact List.mem_cons_self
    | false => exact List.mem_cons_self
  | false =>
    rcases h with rfl | h
    · exact ⟨dumped AF_BRIDGE, List.mem_cons_of_mem _ List.mem_cons_self, hdev⟩
    · rw [hdev] at h
      cases h

/-- **The managed link cache follows the kernel.**  Whatever changes during the dumps, and however
often these start anew: when the manager runs, the hash table finds for every link what the kernel
has of it, but for the links of which a notification still waits. -/
theorem links_follow {kernel : KernelLinks} {afIter : Bool} {s : LinkWatch}
    (hrun : ReflTransGen (WatchStep (refillFamilies afIter)) (LinkWatch.init kernel) s)
    (hphase : s.phase = .running) (needle : LinkObj)
    (hqueue : ∀ c ∈ s.queue, c.link.key ≠ needle.key)
    (hdump : afIter = true ∨ ∀ link, s.kernel.link needle.key = some link → link.isDevice = true)
    (other : Mask) :
    (linkHashOps other).nlCacheSearch s.cache needle = s.kernel.link needle.key := by
  obtain ⟨hinv, habs⟩ := run_abs hrun
  have hlatest : latest needle.key s.abs.log = none := by
    refine latest_eq_none fun e he => ?_
    obtain ⟨c, hc, rfl⟩ := List.mem_map.mp he
    exact hqueue c hc
  have hlisted : Listed ((refillFamilies afIter).map dumped) s.abs.source needle.key :=
    fun link hlink => exists_dumped afIter link (hdump.imp_right fun h => h link hlink)
  have hcopy := caught_up habs (congrArg WatchPhase.abs hphase) hlatest hlisted
  calc (linkHashOps other).nlCacheSearch s.cache needle
      = LinkCache.at s.cache needle.key := search_eq (linkHashOps_hashed other) hinv.cache needle
    _ = s.copy needle.key := by
      rw [LinkWatch.copy, hinv.running hphase, List.find?_nil, Option.or_none]
    _ = s.kernel.link needle.key := hcopy

/-- a device -/
def dumpedLink : LinkObj :=
  { rtnlLinkAlloc with ceMask := linkBase, lName := cs "eth0", lIndex := 2, hasBase := rfl }

/-- a kernel with one device -/
def oneLink : KernelLinks where
  link k := if k = dumpedLink.key then some dumpedLink else none
  keyed := by
    intro k l hl
    split at hl
    · rename_i hk
      cases hl
      exact hk.symm
    · cases hl

def linkGone : LinkChange := ⟨dumpedLink, true, 0⟩

lemma oneLink_key {k : LinkKey} {link : LinkObj} (h : oneLink.link k = some link) :
    k = dumpedLink.key := by
  by_contra hk
  rw [oneLink] at h
  dsimp only at h
  rw [if_neg hk] at h
  cases h

lemma oneLink_gone (k : LinkKey) : (oneLink.after linkGone).link k = none := by
  show Function.update oneLink.link dumpedLink.key none k = none
  by_cases hk : k = dumpedLink.key
  · rw [hk, Function.update_self]
  · rw [Function.update_of_ne hk]
    exact if_neg hk

/-- the device goes when the kernel has written it into the dump: the manager adds it to its cache
all the same, and takes it out when it reads the notification -/
theorem links_follow_gone :
    ∃ s, ReflTransGen (WatchStep (refillFamilies true)) (LinkWatch.init oneLink) s ∧
      s.phase = .running ∧ (linkHashOps 0).nlCacheSearch s.cache dumpedLink = none := by
  have hunspec : listing oneLink.link (dumped AF_UNSPEC) \ {dumpedLink.key} = ∅ := by
    refine Set.eq_empty_iff_forall_notMem.mpr fun k hk => ?_
    obtain ⟨⟨link, hlink, -⟩, hne⟩ := hk
    exact hne (oneLink_key hlink)
  have hbridge : listing (oneLink.after linkGone).link (dumped AF_BRIDGE) = ∅ := by
    refine Set.eq_empty_iff_forall_notMem.mpr fun k hk => ?_
    obtain ⟨link, hlink, -⟩ := hk
    rw [oneLink_gone] at hlink
    cases hlink
  obtain ⟨cache, hwritten⟩ : ∃ cache,
      ReflTransGen (WatchStep (refillFamilies true)) (LinkWatch.init oneLink)
        ⟨oneLink, [], [dumpedLink], cache, .dumping AF_UNSPEC ∅ [AF_BRIDGE]⟩ := by
    have hlink : oneLink.link dumpedLink.key = some dumpedLink := by simp [oneLink]
    have hdumped : dumped AF_UNSPEC dumpedLink := by decide
    rw [← hunspec]
    exact ⟨_, (ReflTransGen.single (.join rfl rfl)).tail (.write rfl hlink hdumped)⟩
  obtain ⟨cache', hnext⟩ : ∃ cache',
      ReflTransGen (WatchStep (refillFamilies true)) (LinkWatch.init oneLink)
        ⟨oneLink.after linkGone, [linkGone], [], cache', .dumping AF_BRIDGE ∅ []⟩ := by
    rw [← hbridge]
    have hgone := hwritten.tail (.change linkGone WatchPhase.noConfusion)
    exact ⟨_, (hgone.tail (.pickup rfl)).tail (.next rfl rfl)⟩
  have hrun := (hnext.tail (.filled rfl rfl)).tail (.event rfl rfl)
  refine ⟨_, hrun, rfl, ?_⟩
  have hfollow := links_follow hrun rfl dumpedLink (by simp) (Or.inl rfl) 0
  exact hfollow.trans (oneLink_gone dumpedLink.key)

end Nl
