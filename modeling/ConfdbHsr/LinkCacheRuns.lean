import ConfdbHsr.Libnl.HashTable

/-!
# Runs of a link cache

A link cache is cleared, filled with the links of a dump, and changed by the messages about links,
in any order; at any time there may be no memory for a node of its hash table.

* `CacheCall`      what is done with a link cache;
* `LinkCache.call`, `LinkCache.run`   one call, and one after the other;
* `plainCall`, `plainRun`   the same on a plain list of links, without a hash table;
* `call_plain`     one call does the same to both;
* `link_cache_run`   so does every run: the hash table and the number of links agree with the list.
-/

namespace Nl

abbrev LinkCache := NlCache LinkObj NL_MAX_HASH_ENTRIES

/-- what is done with a link cache; `mem` is whether there is memory for a node -/
inductive CacheCall where
  | clear
  | add (mem : Bool) (link : LinkObj)
  | event (mem : Bool) (msg : LinkMsg)

/-- what a call returns, and the callbacks it makes -/
abbrev CacheReturn := Int × List (Note LinkObj)

def LinkCache.call (cache : LinkCache) : CacheCall → CacheReturn × LinkCache
  | .clear => ((0, []), (linkHashOps 0).nlCacheClear cache)
  | .add mem link =>
    let (ret, cache) := (linkHashOps 0).nlCacheAdd mem cache link
    ((ret, []), cache)
  | .event mem msg =>
    let (cache, notes) := (linkHashOps msg.other).cacheInclude mem cache msg.obj msg.act
    ((0, notes), cache)

def LinkCache.run (cache : LinkCache) : List CacheCall → List CacheReturn × LinkCache
  | [] => ([], cache)
  | c :: calls =>
    let (ret, cache) := LinkCache.call cache c
    let (rets, cache) := LinkCache.run cache calls
    (ret :: rets, cache)

/-- a call on a list of links without duplicates; a new object that there is no memory for is
lost -/
def plainCall (links : List LinkObj) : CacheCall → CacheReturn × List LinkObj
  | .clear => ((0, []), [])
  | .add mem link =>
    if links.any fun item => item.key == link.key then ((-NLE_EXIST, []), links)
    else if mem then ((0, []), links ++ [link])
    else ((-NLE_NOMEM, []), links)
  | .event mem msg =>
    ((0, msg.notes links),
      if mem ∨ msg.act ≠ .new then msg.apply links
      else (linkOps msg.other).cacheRemove links msg.obj)

def plainRun (links : List LinkObj) : List CacheCall → List CacheReturn × List LinkObj
  | [] => ([], links)
  | c :: calls =>
    let (ret, links) := plainCall links c
    let (rets, links) := plainRun links calls
    (ret :: rets, links)

/-! ## one call -/

/-- the hash table of the cache agrees with its list of links -/
abbrev LinkCache.Valid (cache : LinkCache) : Prop := Indexed LinkObj.key linkBucket cache

section
variable {cache : LinkCache}

lemma LinkCache.search_plain (hcache : LinkCache.Valid cache) (other : Mask) (needle : LinkObj) :
    (linkHashOps other).nlCacheSearch cache needle =
      (linkOps other).cacheSearch cache.cItems needle := by
  have hident : (fun item => item.key == needle.key) =
      fun item => (linkOps other).objectIdentical item needle :=
    (identical_eq (linkHashOps_hashed other) needle).symm
  rw [search_eq (linkHashOps_hashed other) hcache, hident]
  rfl

lemma LinkCache.remove_plain {other : Mask} {needle old : LinkObj}
    (hfind : (linkOps other).cacheSearch cache.cItems needle = some old) :
    ((linkHashOps other).nlCacheRemove cache old).cItems =
      (linkOps other).cacheRemove cache.cItems needle := by
  obtain ⟨-, -, -, -, hid⟩ := cacheSearch_split hfind
  have hkey : old.key = needle.key :=
    eq_of_beq (((linkHashOps_hashed other).ident old needle).symm.trans hid)
  have hident := identical_eq (linkHashOps_hashed other) needle
  rw [items_remove (linkHashOps_hashed other), hkey, ← hident]
  rfl

lemma LinkCache.move_plain (hcache : LinkCache.Valid cache) (other : Mask) (mem : Bool)
    {link : LinkObj} (hnone : ∀ item ∈ cache.cItems, item.key ≠ link.key) :
    LinkCache.Valid ((linkHashOps other).nlCacheMove mem cache link).2 ∧
      ((linkHashOps other).nlCacheMove mem cache link).2.cItems =
        if mem then cache.cItems ++ [link] else cache.cItems := by
  have hmiss : cache.cItems.find? (fun item => item.key == link.key) = none :=
    KeyedFind.find_none_iff.mpr hnone
  rw [HashOps.nlCacheMove]
  rcases cacheAdd_eq (linkHashOps_hashed other) hcache mem link with
    ⟨old, hold, -⟩ | ⟨-, ⟨rfl, hadd⟩ | ⟨rfl, -, hitems, hvalid⟩⟩
  · rw [hmiss] at hold
    cases hold
  · rw [hadd]
    exact ⟨hcache, rfl⟩
  · exact ⟨hvalid, hitems⟩

lemma LinkCache.remove_valid (hcache : LinkCache.Valid cache) {other : Mask} {needle old : LinkObj}
    (hfind : (linkOps other).cacheSearch cache.cItems needle = some old) :
    LinkCache.Valid ((linkHashOps other).nlCacheRemove cache old) ∧
      ∀ item ∈ ((linkHashOps other).nlCacheRemove cache old).cItems, item.key ≠ needle.key := by
  have hmem : old ∈ cache.cItems := List.mem_of_find?_eq_some hfind
  refine ⟨indexed_remove (linkHashOps_hashed other) hcache hmem, ?_⟩
  obtain ⟨ht, -, hht⟩ := hcache.table
  intro item hitem
  rw [LinkCache.remove_plain hfind] at hitem
  have hident := identical_eq (linkHashOps_hashed other) needle
  have herase : item ∈ cache.cItems.eraseP fun x => x.key == needle.key := by
    rw [← hident]
    exact hitem
  exact ((Chains.mem_eraseP_key hht.keys needle.key item).mp herase).2

/-- **A message does to the cache what it does to the plain list.** -/
theorem event_plain (hcache : LinkCache.Valid cache) (mem : Bool) (msg : LinkMsg) :
    (LinkCache.call cache (.event mem msg)).1 = (plainCall cache.cItems (.event mem msg)).1 ∧
      (LinkCache.call cache (.event mem msg)).2.cItems =
        (plainCall cache.cItems (.event mem msg)).2 ∧
      LinkCache.Valid (LinkCache.call cache (.event mem msg)).2 := by
  obtain ⟨act, link, other⟩ := msg
  have hsearch := LinkCache.search_plain hcache other link
  have hdel : mem = true ∨ MsgAct.del ≠ MsgAct.new := Or.inr (by decide)
  cases act with
  | del =>
    simp only [LinkCache.call, plainCall, HashOps.cacheInclude, LinkMsg.notes, LinkMsg.apply,
      ObjectOps.cacheInclude, hsearch, if_pos hdel]
    cases hfind : (linkOps other).cacheSearch cache.cItems link with
    | none => exact ⟨rfl, rfl, hcache⟩
    | some old =>
      exact ⟨rfl, LinkCache.remove_plain hfind, (LinkCache.remove_valid hcache hfind).1⟩
  | new =>
    simp only [LinkCache.call, plainCall, HashOps.cacheInclude, LinkMsg.notes, LinkMsg.apply,
      ObjectOps.cacheInclude, hsearch]
    cases hfind : (linkOps other).cacheSearch cache.cItems link with
    | none =>
      have hne : ∀ item ∈ cache.cItems, ¬ (linkOps other).objectIdentical item link = true :=
        List.find?_eq_none.mp hfind
      have hnone : ∀ item ∈ cache.cItems, item.key ≠ link.key := fun item hitem hkey =>
        hne item hitem (((linkHashOps_hashed other).ident item link).trans (beq_iff_eq.mpr hkey))
      obtain ⟨hvalid, hitems⟩ := LinkCache.move_plain hcache other mem hnone
      refine ⟨rfl, hitems.trans ?_, hvalid⟩
      cases mem with
      | true => rfl
      | false => exact (List.eraseP_of_forall_not hne).symm
    | some old =>
      obtain ⟨hvalid, hnone⟩ := LinkCache.remove_valid hcache hfind
      obtain ⟨hvalid', hitems⟩ := LinkCache.move_plain hvalid other mem hnone
      refine ⟨rfl, hitems.trans ?_, hvalid'⟩
      rw [LinkCache.remove_plain hfind]
      cases mem with
      | true => rfl
      | false => rfl
  | unspec | get | set | change =>
    exact ⟨rfl, (if_pos (Or.inr (by simp))).symm, hcache⟩

/-- **A call does to the cache what it does to the plain list.** -/
theorem call_plain (hcache : LinkCache.Valid cache) (c : CacheCall) :
    (LinkCache.call cache c).1 = (plainCall cache.cItems c).1 ∧
      (LinkCache.call cache c).2.cItems = (plainCall cache.cItems c).2 ∧
      LinkCache.Valid (LinkCache.call cache c).2 := by
  cases c with
  | clear =>
    obtain ⟨hitems, hvalid⟩ := indexed_clear (linkHashOps_hashed 0) hcache
    exact ⟨rfl, hitems, hvalid⟩
  | add mem link =>
    have hany : cache.cItems.any (fun item => item.key == link.key) =
        (cache.cItems.find? fun item => item.key == link.key).isSome := List.isSome_find?.symm
    rw [LinkCache.call, HashOps.nlCacheAdd, plainCall, hany]
    rcases cacheAdd_eq (linkHashOps_hashed 0) hcache mem link with
      ⟨old, hold, hadd⟩ | ⟨hnone, ⟨rfl, hadd⟩ | ⟨rfl, hret, hitems, hvalid⟩⟩
    · rw [hold, hadd]
      exact ⟨rfl, rfl, hcache⟩
    · rw [hnone, hadd]
      exact ⟨rfl, rfl, hcache⟩
    · rw [hnone]
      exact ⟨congrArg (fun ret => (ret, [])) hret, hitems, hvalid⟩
  | event mem msg => exact event_plain hcache mem msg

end

/-! ## runs -/

lemma run_plain (calls : List CacheCall) {cache : LinkCache} (hcache : LinkCache.Valid cache) :
    (LinkCache.run cache calls).1 = (plainRun cache.cItems calls).1 ∧
      (LinkCache.run cache calls).2.cItems = (plainRun cache.cItems calls).2 ∧
      LinkCache.Valid (LinkCache.run cache calls).2 := by
  induction calls generalizing cache with
  | nil => exact ⟨rfl, rfl, hcache⟩
  | cons c calls ih =>
    obtain ⟨hret, hitems, hvalid⟩ := call_plain hcache c
    obtain ⟨hrets, hitems', hvalid'⟩ := ih hvalid
    rw [hitems] at hrets hitems'
    exact ⟨congrArg₂ List.cons hret hrets, hitems', hvalid'⟩

/-- **A link cache does what a plain list of links does**: in every run, whatever memory there is,
its calls return the same and make the same callbacks, it holds the same links and counts them, and
the hash table finds what a search of the list finds. -/
theorem link_cache_run (calls : List CacheCall) :
    let (rets, cache) := LinkCache.run (nlCacheAlloc true) calls
    let (rets', links) := plainRun [] calls
    rets = rets' ∧ cache.cItems = links ∧ cache.cNitems = links.length ∧
      ∀ other needle, (linkHashOps other).nlCacheSearch cache needle =
        (linkOps other).cacheSearch links needle := by
  have halloc : LinkCache.Valid (nlCacheAlloc true) := indexed_alloc
  obtain ⟨hrets, hitems, hvalid⟩ := run_plain calls halloc
  dsimp only
  refine ⟨hrets, hitems, ?_, fun other needle => ?_⟩
  · rw [hvalid.nitems, hitems]
    rfl
  · rw [LinkCache.search_plain hvalid, hitems]
    rfl

end Nl
