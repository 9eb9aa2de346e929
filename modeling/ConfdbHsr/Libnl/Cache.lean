import ConfdbHsr.Lib.Proc
import ConfdbHsr.Libnl.Object

/-!
# Netlink caches and how notifications enter them

`lib/cache.c`: a cache is a list of objects.  A notification that was parsed into an object is
included by `cacheInclude`, which reports each change of the cache to a callback.

* `Nl.MsgAct`        the action of a message type (`NL_ACT_*`);
* `Nl.Note`          one call of the change callback (`change_func_v2_t`);
* `cacheInclude`     `cache_include` for objects without `oo_update`: the new cache and the
                     callbacks, all made after the cache has been updated;
* `nlCacheIncludeV2` `nl_cache_include_v2`: an object is included by the action of its message
                     type, and the callback is called.
-/

namespace Nl

/-- `NL_ACT_*` -/
inductive MsgAct where
  | unspec | new | del | get | set | change
  deriving DecidableEq, Repr

/-- one call of a change callback: the action with the objects it carries -/
inductive Note (α : Type) where
  | new (nObj : α)
  | del (oObj : α)
  | change (oObj nObj : α) (diff : Mask)
  deriving DecidableEq, Repr

namespace ObjectOps
variable {α : Type} (ops : ObjectOps α)

/-- `nl_cache_search` -/
def cacheSearch (cache : List α) (needle : α) : Option α :=
  cache.find? fun obj => ops.objectIdentical obj needle

/-- `nl_cache_remove` of the object that `nl_cache_search` finds -/
def cacheRemove (cache : List α) (needle : α) : List α :=
  cache.eraseP fun obj => ops.objectIdentical obj needle

/-- `nl_cache_move`: the object is appended at the tail -/
def cacheMove (cache : List α) (obj : α) : List α := cache ++ [obj]

/-- `nl_cache_add` -/
def cacheAdd (cache : List α) (obj : α) : List α := cache ++ [obj]

/-- `cache_include` -/
def cacheInclude (cache : List α) (obj : α) (act : MsgAct) : List α × List (Note α) :=
  match act with
  | .del =>
    match ops.cacheSearch cache obj with
    | some old => (ops.cacheRemove cache obj, [.del old])
    | none => (cache, [])
  | .new =>
    match ops.cacheSearch cache obj with
    | some old =>
      let diff := ops.objectDiff64 old obj
      (cacheMove (ops.cacheRemove cache obj) obj,
        if diff ≠ 0 then [.change old obj diff] else [])
    | none => (cacheMove cache obj, [.new obj])
  | _ => (cache, [])

end ObjectOps

/-- `struct nl_cache_ops`, as far as an inclusion uses it -/
structure CacheOps (α : Type) extends ObjectOps α where
  ceMsgtype : α → Nat
  coMsgtypes : List (Nat × MsgAct)

/-- `nl_cache_include_v2`; the callback may change the cache it is given -/
def nlCacheIncludeV2 {ε W A α : Type} (ops : CacheOps α)
    (changeCb : List α → Note α → Proc ε W A (List α)) (cache : List α) (obj : α) :
    Proc ε W A (Int × List α) :=
  match ops.coMsgtypes.find? fun type => type.1 == ops.ceMsgtype obj with
  | none => pure (-NLE_MSGTYPE_NOSUPPORT, cache)
  | some (_, act) => do
    let (cache, notes) := ops.cacheInclude cache obj act
    let cache ← notes.foldlM changeCb cache
    pure (0, cache)

end Nl
