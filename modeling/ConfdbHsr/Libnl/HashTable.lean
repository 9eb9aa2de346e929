import ConfdbHsr.Lib.Chains
import ConfdbHsr.Libnl.Attr
import ConfdbHsr.Libnl.LinkCache
import Mathlib.Algebra.Group.Int.Defs

/-!
# Caches with a hash table

`lib/hash.c`, `lib/hashtable.c`, and the operations of `lib/cache.c` on a cache whose objects have a
key generator.

* `hashlittle`, `linkKeygen`   the hash of a key, and the chain of a link;
* `HashOps`         the operations of an object type, with its key generator;
* `NlCache`         `struct nl_cache`: its list of objects, their number, and the hash table;
* `nlCacheSearch`, `nlCacheAdd`, `nlCacheRemove`, `nlCacheClear`, `cacheInclude`;
* `Hashed`          a key tells the objects apart and chooses their chains;
* `Indexed`         the hash table holds the objects of the list, which have distinct keys;
* `search_eq`, `cacheAdd_eq`, `indexed_remove`, `indexed_clear`   what the operations do there.
-/

namespace Nl

/-! ## the hash -/

def rot (x k : UInt32) : UInt32 := x <<< k ||| x >>> (32 - k)

/-- the internal state of the hash -/
structure HashState where
  a : UInt32
  b : UInt32
  c : UInt32

namespace HashState

/-- `mix` -/
def mix : HashState → HashState
  | ⟨a, b, c⟩ =>
    let a := (a - c) ^^^ rot c 4
    let c := c + b
    let b := (b - a) ^^^ rot a 6
    let a := a + c
    let c := (c - b) ^^^ rot b 8
    let b := b + a
    let a := (a - c) ^^^ rot c 16
    let c := c + b
    let b := (b - a) ^^^ rot a 19
    let a := a + c
    let c := (c - b) ^^^ rot b 4
    let b := b + a
    ⟨a, b, c⟩

/-- `final` -/
def final : HashState → HashState
  | ⟨a, b, c⟩ =>
    let c := (c ^^^ b) - rot b 14
    let a := (a ^^^ c) - rot c 11
    let b := (b ^^^ a) - rot a 25
    let c := (c ^^^ b) - rot b 16
    let a := (a ^^^ c) - rot c 4
    let b := (b ^^^ a) - rot a 14
    let c := (c ^^^ b) - rot b 24
    ⟨a, b, c⟩

/-- the next three words of the key; bytes after its end count as zero -/
def add (k : List UInt8) (s : HashState) : HashState :=
  let word (i : Nat) := u32Of (k.drop (4 * i) ++ [0, 0, 0, 0])
  ⟨s.a + word 0, s.b + word 1, s.c + word 2⟩

/-- all but the last block -/
def blocks : Nat → List UInt8 → HashState → HashState × List UInt8
  | 0, k, s => (s, k)
  | n + 1, k, s => blocks n (k.drop 12) (s.add k).mix

end HashState

/-- `hashlittle`; the loop leaves between 1 and 12 bytes of a key that is not empty -/
def hashlittle (key : List UInt8) (val2 : UInt32) : UInt32 :=
  let init := 0xdeadbeef + UInt32.ofNat key.length + val2
  let (s, k) := HashState.blocks ((key.length - 1) / 12) key ⟨init, init, init⟩
  if k.isEmpty then s.c else (s.add k).final.c

/-- `nl_hash`, on a little-endian machine -/
def nlHash (k : List UInt8) (initval : UInt32) : UInt32 := hashlittle k initval

def NL_MAX_HASH_ENTRIES : Nat := 1024

/-- what identifies a link -/
abbrev LinkKey := UInt32 × UInt32

def LinkObj.key (link : LinkObj) : LinkKey := (link.lIndex, link.lFamily)

/-- the chain that `link_keygen` chooses for a key -/
def linkBucket (lkey : LinkKey) : Fin NL_MAX_HASH_ENTRIES :=
  ⟨(nlHash (u32Bytes lkey.1 ++ u32Bytes lkey.2) 0).toNat % NL_MAX_HASH_ENTRIES,
    Nat.mod_lt _ (by decide)⟩

/-- `link_keygen` -/
def linkKeygen (link : LinkObj) : Fin NL_MAX_HASH_ENTRIES := linkBucket (link.lIndex, link.lFamily)

/-! ## the hash table -/

/-- the operations of an object type with `oo_keygen` -/
structure HashOps (α : Type) (size : Nat) extends ObjectOps α where
  ooKeygen : α → Fin size

/-- `struct nl_cache`, as far as its objects go; there is no hash table where there was no memory
for it -/
structure NlCache (α : Type) (size : Nat) where
  cItems : List α
  cNitems : Int
  hashtable : Option (Vector (List α) size)

/-- `nl_cache_alloc`; `mem` is whether there is memory for the hash table -/
def nlCacheAlloc {α : Type} {size : Nat} (mem : Bool) : NlCache α size :=
  ⟨[], 0, if mem then some (Vector.replicate size []) else none⟩

namespace HashOps
variable {α : Type} {size : Nat} (ops : HashOps α size)

/-- `nl_hash_table_lookup` -/
def nlHashTableLookup (ht : Vector (List α) size) (obj : α) : Option α :=
  ht[ops.ooKeygen obj].find? fun node => ops.objectIdentical node obj

/-- `nl_hash_table_add`; `mem` is whether there is memory for a node -/
def nlHashTableAdd (mem : Bool) (ht : Vector (List α) size) (obj : α) :
    Int × Vector (List α) size :=
  let keyHash := ops.ooKeygen obj
  if ht[keyHash].any fun node => ops.objectIdentical node obj then (-NLE_EXIST, ht)
  else if mem then (0, ht.set keyHash (obj :: ht[keyHash]))
  else (-NLE_NOMEM, ht)

/-- `nl_hash_table_del` -/
def nlHashTableDel (ht : Vector (List α) size) (obj : α) : Int × Vector (List α) size :=
  let keyHash := ops.ooKeygen obj
  if ht[keyHash].any fun node => ops.objectIdentical node obj then
    (0, ht.set keyHash (ht[keyHash].eraseP fun node => ops.objectIdentical node obj))
  else (-NLE_OBJ_NOTFOUND, ht)

/-! ## the cache -/

/-- `nl_cache_search` -/
def nlCacheSearch (cache : NlCache α size) (needle : α) : Option α :=
  match cache.hashtable with
  | some ht => ops.nlHashTableLookup ht needle
  | none => cache.cItems.find? fun obj => ops.objectIdentical obj needle

/-- `__cache_add` -/
def cacheAdd (mem : Bool) (cache : NlCache α size) (obj : α) : Int × NlCache α size :=
  match cache.hashtable with
  | some ht =>
    let (ret, ht) := ops.nlHashTableAdd mem ht obj
    if ret < 0 then (ret, { cache with hashtable := some ht })
    else (0, ⟨cache.cItems ++ [obj], cache.cNitems + 1, some ht⟩)
  | none => (0, { cache with cItems := cache.cItems ++ [obj], cNitems := cache.cNitems + 1 })

/-- `nl_cache_add` of an object that is in no cache -/
def nlCacheAdd (mem : Bool) (cache : NlCache α size) (obj : α) : Int × NlCache α size :=
  ops.cacheAdd mem cache obj

/-- `nl_cache_move` of an object that is in no cache -/
def nlCacheMove (mem : Bool) (cache : NlCache α size) (obj : α) : Int × NlCache α size :=
  ops.cacheAdd mem cache obj

/-- `nl_cache_remove` of an object of the cache, which is the first one identical to it -/
def nlCacheRemove (cache : NlCache α size) (obj : α) : NlCache α size where
  cItems := cache.cItems.eraseP fun item => ops.objectIdentical item obj
  cNitems := cache.cNitems - 1
  hashtable := cache.hashtable.map fun ht => (ops.nlHashTableDel ht obj).2

/-- `nl_cache_clear` -/
def nlCacheClear (cache : NlCache α size) : NlCache α size :=
  cache.cItems.foldl ops.nlCacheRemove cache

/-- `cache_include` without `oo_update`; what `nl_cache_move` returns is not looked at -/
def cacheInclude (mem : Bool) (cache : NlCache α size) (obj : α) (act : MsgAct) :
    NlCache α size × List (Note α) :=
  match act with
  | .del =>
    match ops.nlCacheSearch cache obj with
    | some old => (ops.nlCacheRemove cache old, [.del old])
    | none => (cache, [])
  | .new =>
    match ops.nlCacheSearch cache obj with
    | some old =>
      let diff := ops.objectDiff64 old obj
      ((ops.nlCacheMove mem (ops.nlCacheRemove cache old) obj).2,
        if diff ≠ 0 then [.change old obj diff] else [])
    | none => ((ops.nlCacheMove mem cache obj).2, [.new obj])
  | _ => (cache, [])

end HashOps

/-- `link_obj_ops`, with `link_keygen` -/
def linkHashOps (other : Mask) : HashOps LinkObj NL_MAX_HASH_ENTRIES :=
  { linkOps other with ooKeygen := linkKeygen }

/-! ## a key for the objects -/

section
variable {α κ : Type} [BEq κ] [LawfulBEq κ] {size : Nat}

/-- a key tells the objects apart and chooses their chains -/
structure Hashed (ops : HashOps α size) (key : α → κ) (bucket : κ → Fin size) : Prop where
  ident : ∀ a b, ops.objectIdentical a b = (key a == key b)
  keygen : ∀ a, ops.ooKeygen a = bucket (key a)

/-- the hash table of the cache holds the objects of its list, which have distinct keys -/
structure Indexed (key : α → κ) (bucket : κ → Fin size) (cache : NlCache α size) : Prop where
  table : ∃ ht, cache.hashtable = some ht ∧ Chains.Indexes key bucket ht cache.cItems
  nitems : cache.cNitems = cache.cItems.length

variable {ops : HashOps α size} {key : α → κ} {bucket : κ → Fin size}

omit [BEq κ] [LawfulBEq κ] in
lemma indexed_alloc : Indexed key bucket (nlCacheAlloc true) :=
  ⟨⟨Vector.replicate size [], rfl, Chains.Indexes.empty⟩, rfl⟩

section
variable (hops : Hashed ops key bucket)
include hops

omit [LawfulBEq κ] in
lemma identical_eq (obj : α) :
    (fun node => ops.objectIdentical node obj) = fun node => key node == key obj :=
  funext fun node => hops.ident node obj

omit [LawfulBEq κ] in
lemma lookup_eq (ht : Vector (List α) size) (obj : α) :
    ops.nlHashTableLookup ht obj = Chains.find key bucket ht (key obj) := by
  simp only [HashOps.nlHashTableLookup, identical_eq hops, hops.keygen]
  rfl

lemma hashAdd_eq {ht : Vector (List α) size} {items : List α}
    (hht : Chains.Indexes key bucket ht items) (mem : Bool) (obj : α) :
    ops.nlHashTableAdd mem ht obj =
      if items.any (fun item => key item == key obj) then (-NLE_EXIST, ht)
      else if mem then (0, Chains.push key bucket ht obj) else (-NLE_NOMEM, ht) := by
  have hany : ht[bucket (key obj)].any (fun node => key node == key obj) =
      items.any fun item => key item == key obj := by
    rw [← List.isSome_find?, ← List.isSome_find?]
    exact congrArg Option.isSome (hht.find_eq (key obj))
  simp only [HashOps.nlHashTableAdd, identical_eq hops, hops.keygen, hany]
  rfl

omit [LawfulBEq κ] in
lemma hashDel_eq (ht : Vector (List α) size) (obj : α) :
    (ops.nlHashTableDel ht obj).2 = Chains.erase key bucket ht (key obj) := by
  simp only [HashOps.nlHashTableDel, identical_eq hops, hops.keygen]
  split
  · rfl
  · rename_i hnone
    -- nothing is taken out of the chain
    have hsame : ht[bucket (key obj)].eraseP (fun node => key node == key obj) =
        ht[bucket (key obj)] := by
      refine List.eraseP_of_forall_not ?_
      intro node hnode hkey
      exact hnone (List.any_eq_true.mpr ⟨node, hnode, hkey⟩)
    rw [Chains.erase, hsame]
    exact (Vector.set_getElem_self _).symm

variable {cache : NlCache α size} (hcache : Indexed key bucket cache)
include hcache

/-- **The hashed search finds what a search of the list finds.** -/
theorem search_eq (needle : α) :
    ops.nlCacheSearch cache needle = cache.cItems.find? fun obj => key obj == key needle := by
  obtain ⟨ht, hsome, hht⟩ := hcache.table
  rw [HashOps.nlCacheSearch, hsome]
  dsimp only
  rw [lookup_eq hops, hht.find_eq]

theorem cacheAdd_eq (mem : Bool) (obj : α) :
    (∃ old, cache.cItems.find? (fun item => key item == key obj) = some old ∧
        ops.cacheAdd mem cache obj = (-NLE_EXIST, cache)) ∨
      cache.cItems.find? (fun item => key item == key obj) = none ∧
        (mem = false ∧ ops.cacheAdd mem cache obj = (-NLE_NOMEM, cache) ∨
          mem = true ∧ (ops.cacheAdd mem cache obj).1 = 0 ∧
            (ops.cacheAdd mem cache obj).2.cItems = cache.cItems ++ [obj] ∧
            Indexed key bucket (ops.cacheAdd mem cache obj).2) := by
  obtain ⟨items, nitems, hashtable⟩ := cache
  obtain ⟨⟨ht, hsome, hht⟩, hnitems⟩ := hcache
  dsimp only at hsome hht hnitems
  subst hsome
  rw [HashOps.cacheAdd]
  dsimp only
  rw [hashAdd_eq hops hht]
  cases hfind : items.find? fun item => key item == key obj with
  | some old =>
    have hany : items.any (fun item => key item == key obj) = true := by
      rw [← List.isSome_find?, hfind]
      rfl
    rw [if_pos hany]
    exact Or.inl ⟨old, rfl, rfl⟩
  | none =>
    have hany : ¬ items.any (fun item => key item == key obj) = true := by
      rw [← List.isSome_find?, hfind]
      exact Bool.false_ne_true
    rw [if_neg hany]
    cases mem with
    | false => exact Or.inr ⟨rfl, Or.inl ⟨rfl, rfl⟩⟩
    | true =>
      refine Or.inr ⟨rfl, Or.inr ⟨rfl, rfl, rfl, ⟨_, rfl, ?_⟩, ?_⟩⟩
      · exact hht.push (KeyedFind.find_none_iff.mp hfind)
      · show nitems + 1 = ((items ++ [obj]).length : Int)
        rw [List.length_append, List.length_singleton, hnitems]
        rfl

omit [LawfulBEq κ] hcache in
lemma items_remove (obj : α) :
    (ops.nlCacheRemove cache obj).cItems = cache.cItems.eraseP fun item => key item == key obj := by
  rw [HashOps.nlCacheRemove, identical_eq hops]

theorem indexed_remove {obj : α} (hmem : obj ∈ cache.cItems) :
    Indexed key bucket (ops.nlCacheRemove cache obj) := by
  obtain ⟨ht, hsome, hht⟩ := hcache.table
  refine ⟨⟨_, congrArg (Option.map _) hsome, ?_⟩, ?_⟩
  · dsimp only
    rw [hashDel_eq hops, items_remove hops]
    exact hht.erase (key obj)
  · have hlen : (cache.cItems.eraseP fun item => key item == key obj).length =
        cache.cItems.length - 1 :=
      List.length_eraseP_of_mem hmem (beq_self_eq_true (key obj))
    have hpos : 0 < cache.cItems.length := List.length_pos_of_mem hmem
    rw [items_remove hops, hlen]
    show cache.cNitems - 1 = _
    rw [hcache.nitems]
    omega

/-- the objects of a cleared cache are taken out one after the other -/
theorem indexed_clear :
    (ops.nlCacheClear cache).cItems = [] ∧ Indexed key bucket (ops.nlCacheClear cache) := by
  have hall : ∀ (l : List α) (cache : NlCache α size), Indexed key bucket cache →
      cache.cItems = l →
      (l.foldl ops.nlCacheRemove cache).cItems = [] ∧
        Indexed key bucket (l.foldl ops.nlCacheRemove cache) := by
    intro l
    induction l with
    | nil =>
      intro cache hcache hitems
      exact ⟨hitems, hcache⟩
    | cons obj l ih =>
      intro cache hcache hitems
      have hmem : obj ∈ cache.cItems := by
        rw [hitems]
        exact List.mem_cons_self
      refine ih _ (indexed_remove hops hcache hmem) ?_
      rw [items_remove hops, hitems, List.eraseP_cons, beq_self_eq_true]
      rfl
  exact hall cache.cItems cache hcache rfl

end

end

/-! ## links -/

/-- an index and a family tell the links of a cache apart and choose their chains -/
theorem linkHashOps_hashed (other : Mask) : Hashed (linkHashOps other) LinkObj.key linkBucket := by
  constructor
  · intro a b
    show (linkOps other).objectIdentical a b = _
    rw [Bool.eq_iff_iff, linkOps_identical, beq_iff_eq, LinkObj.key, LinkObj.key, Prod.mk.injEq]
  · intro link
    rfl

end Nl
