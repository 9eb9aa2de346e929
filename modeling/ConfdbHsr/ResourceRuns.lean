import ConfdbHsr.Daemon.Resources
import ConfdbHsr.Daemon.Scenario

/-!
# The daemon's descriptors over whole runs

What the process holds after any sequence of configuration calls, link notifications and node
notifications, and how long the handlers with their account do what the daemon's model does.

* `Spent`                what a run keeps: a descriptor for each call that sets a configuration;
* `withDump_follows`     the opening, while descriptors last and when they do not;
* `Tracks`               an operation that gives back its descriptor and does what the model does;
* `handle_moves`, `handle_follows`      one event;
* `account_kept`, `descriptors_last`, `descriptors_run_out`   the runs.
-/

namespace Hsr
open Nl Proc Scan Ledger

namespace Held

/-- what events keep that set the configuration of an interface `sets` times and take it away
`dels` times -/
structure Spent (limit : Int) (sets dels : Nat) (held held' : Held) : Prop where
  fds_ge : held.fds + sets ≤ held'.fds
  fds_le : held'.fds ≤ held.fds + sets + dels
  within : held'.fds = held.fds ∨ held'.fds ≤ limit
  socks_ge : held.socks + sets ≤ held'.socks
  caches_ge : held.caches + sets ≤ held'.caches

variable {W : Type} {limit : Int} {S : Sys W}

lemma Spent.refl (held : Held) : Spent limit 0 0 held held := by
  constructor <;> omega

lemma Spent.trans {sets dels sets' dels' : Nat} {held held' held'' : Held}
    (h : Spent limit sets dels held held') (h' : Spent limit sets' dels' held' held'') :
    Spent limit (sets + sets') (dels + dels') held held'' := by
  obtain ⟨h1, h2, h3, h4, h5⟩ := h
  obtain ⟨h1', h2', h3', h4', h5'⟩ := h'
  constructor <;> omega

lemma Spent.mono {sets dels sets' dels' : Nat} {held held' : Held}
    (h : Spent limit sets dels held held') (h1 : sets' ≤ sets) (h2 : sets + dels ≤ sets' + dels') :
    Spent limit sets' dels' held held' := by
  obtain ⟨h3, h4, h5, h6, h7⟩ := h
  constructor <;> omega

/-! ## sockets and caches -/

lemma nlConnect_moves : Moves (fun ret held held' => (ret < 0 ∧ held' = held) ∨
    (0 ≤ ret ∧ held.fds < limit ∧ held' = { held with fds := held.fds + 1 }))
    (nlConnect limit S) := by
  refine moves_sys fun ⟨w, held⟩ => ?_
  dsimp only
  split
  · exact .inl ⟨(by decide : -nlSyserr2nlerr EMFILE < 0), rfl⟩
  · dsimp only
    split
    · exact .inl ⟨‹_›, rfl⟩
    · exact .inr ⟨by omega, by omega, rfl⟩

lemma rtnlLinkAllocCache_moves : Moves (fun r held held' => (r.1 < 0 ∧ held' = held) ∨
    (0 ≤ r.1 ∧ held' = { held with caches := held.caches + 1 })) (rtnlLinkAllocCache S) := by
  refine moves_sys fun ⟨w, held⟩ => ?_
  dsimp only
  split
  · exact .inl ⟨‹_›, rfl⟩
  · exact .inr ⟨by omega, rfl⟩

/-- a put that returns was given a pointer that is set, or null -/
lemma nlCachePut_moves (linkCache : CachePtr) :
    Moves (fun _ (held held' : Held) => linkCache ≠ .unset ∧ held'.socks = held.socks ∧
      held'.fds = held.fds ∧ held'.caches = held.caches - (linkCache == .set).toNat)
      (nlCachePut linkCache : ROp W Unit) := by
  cases linkCache with
  | unset => exact moves_fail _
  | null => exact moves_pure fun held => ⟨nofun, rfl, rfl, (Int.sub_zero held.caches).symm⟩
  | set =>
    rw [nlCachePut]
    exact moves_charge fun held => ⟨nofun, rfl, rfl, rfl⟩

lemma nlClose_moves (connected : Bool) :
    Moves (fun _ (held held' : Held) => held'.socks = held.socks ∧
      held'.fds = held.fds - connected.toNat ∧ held'.caches = held.caches)
      (nlClose connected : ROp W Unit) := by
  cases connected with
  | false => exact moves_pure fun held => ⟨rfl, (Int.sub_zero held.fds).symm, rfl⟩
  | true =>
    rw [nlClose]
    exact moves_charge fun held => ⟨rfl, rfl, rfl⟩

lemma release_moves {α : Type} (linkCache : CachePtr) (connected : Bool) (a : α) :
    Moves (fun _ (held held' : Held) => linkCache ≠ .unset ∧ held'.socks = held.socks ∧
      held'.fds = held.fds - connected.toNat ∧
      held'.caches = held.caches - (linkCache == .set).toNat)
      (do nlCachePut linkCache; nlClose connected; pure a : ROp W α) := by
  refine moves_bind (nlCachePut_moves linkCache) fun _ => ?_
  refine moves_bind (nlClose_moves connected) fun _ => moves_pure ?_
  intro held₂ held₁ ⟨h1, h2, h3⟩ held ⟨hptr, h4, h5, h6⟩
  exact ⟨hptr, h1.trans h4, by omega, by omega⟩

/-- the account after the opening of an operation -/
structure Opened (limit : Int) (held held' : Held) : Prop where
  lt : held.fds < limit
  socks : held'.socks = held.socks + 1
  fds : held'.fds = held.fds + 1
  caches : held'.caches = held.caches + 1

theorem withDump_moves {α : Type} {N : Held → Held → Prop} {linkCache : CachePtr}
    {onError : Int → α} {k : List LinkObj → ROp W α} (hptr : linkCache ≠ .set)
    (herr : linkCache = .null → ∀ held held', held'.socks = held.socks + 1 →
      held'.fds = held.fds → held'.caches = held.caches → N held held')
    (hk : ∀ links, Moves (fun _ held' held'' => ∀ held, Opened limit held held' → N held held'')
      (k links)) : Moves (fun _ => N) (withDump limit S linkCache onError k) := by
  have hset : (linkCache == .set) = false := by simpa using hptr
  have hnull (h : linkCache ≠ .unset) : linkCache = .null := by
    cases linkCache with
    | unset => exact absurd rfl h
    | null => rfl
    | set => exact absurd rfl hptr
  refine moves_bind (R := fun _ held held' => held' = { held with socks := held.socks + 1 })
    (moves_charge fun _ => rfl) fun _ => ?_
  refine moves_bind nlConnect_moves fun ret => moves_ite (fun hret => ?_) fun hret => ?_
  · -- no descriptor
    refine (release_moves linkCache false _).mono ?_
    rintro _ held₂ held₃ ⟨h0, h1, h2, h3⟩ held₁ (⟨-, rfl⟩ | ⟨h, -⟩) held rfl
    · rw [hset] at h3
      refine herr (hnull h0) _ _ h1 ?_ ?_
      · simpa using h2
      · simpa using h3
    · exact absurd hret (by omega)
  refine moves_bind rtnlLinkAllocCache_moves fun ⟨ret', links⟩ => ?_
  refine moves_ite (fun hret' => ?_) fun hret' => ?_
  · -- no dump: the descriptor is closed
    refine (release_moves linkCache true _).mono ?_
    rintro _ held₃ held₄ ⟨h0, h1, h2, h3⟩ held₂ (⟨-, rfl⟩ | ⟨h, -⟩) held₁ (⟨h', -⟩ | ⟨-, -, rfl⟩)
      held rfl
    · exact absurd h' hret
    · rw [hset] at h3
      refine herr (hnull h0) _ _ h1 ?_ ?_
      · simpa using h2
      · simpa using h3
    · exact absurd hret' (by omega)
    · exact absurd hret' (by omega)
  · refine (hk links).mono ?_
    rintro a held₃ held₄ h held₂ (⟨h', -⟩ | ⟨-, rfl⟩) held₁ (⟨h'', -⟩ | ⟨-, hlt, rfl⟩) held rfl
    · exact absurd h' hret'
    · exact absurd h' hret'
    · exact absurd h'' hret
    · exact h held ⟨hlt, rfl, rfl, rfl⟩

/-! ## the plain opening -/

section
variable {E : Fault → Held → Prop} {P : Held → Prop} {α : Type}

/-- an error path ends the same way with and without the account -/
def FailsAlike (linkCache : CachePtr) (onError : Int → α) (onError' : Int → Op W α) : Prop :=
  ∀ (connected : Bool) (ret : Int) (w : W) (held : Held),
    ((do nlCachePut linkCache; nlClose connected; pure (onError ret) : ROp W α) (w, held)).val =
        (onError' ret w).val ∧
      ((do nlCachePut linkCache; nlClose connected; pure (onError ret) : ROp W α)
        (w, held)).world.1 = (onError' ret w).world ∧
      ((do nlCachePut linkCache; nlClose connected; pure (onError ret) : ROp W α)
        (w, held)).acts = (onError' ret w).acts

lemma failsAlike_unset (onError : Int → α) :
    FailsAlike .unset onError (fun _ => (putUnset : Op W α)) :=
  fun _ _ _ _ => ⟨rfl, rfl, rfl⟩

lemma failsAlike_null (onError : Int → α) :
    FailsAlike .null onError (fun ret => (pure (onError ret) : Op W α)) := by
  intro connected ret w held
  cases connected with
  | true => exact ⟨rfl, rfl, rfl⟩
  | false => exact ⟨rfl, rfl, rfl⟩

variable {linkCache : CachePtr} {onError : Int → α} {onError' : Int → Op W α}
  {k : List LinkObj → ROp W α} {k' : List LinkObj → Op W α}

/-- while there is a descriptor left, or where its lack is an excuse for the fault that it leads to -/
theorem withDump_follows (herr : FailsAlike linkCache onError onError')
    (h : (linkCache = .unset ∧ ∀ held, limit ≤ held.fds → E .wildPut held) ∨
      ∀ held, P held → held.fds < limit)
    (hk : ∀ links, Follows E (fun _ => True) (k links) (k' links)) :
    Follows E P (withDump limit S linkCache onError k) (Hsr.withDump S onError' k') := by
  have hfail (P : Held → Prop) (connected : Bool) (ret : Int) : Follows E P
      (do nlCachePut linkCache; nlClose connected; pure (onError ret)) (onError' ret) :=
    fun w held _ => .inr (herr connected ret w held)
  intro w held hP
  by_cases hlt : held.fds < limit
  · refine follows_charge_bind (P := (·.fds < limit)) (Q := (·.fds < limit)) (fun _ h => h) ?_
      w held hlt
    refine follows_sys_bind (Q := fun _ _ => True) (fun w held hlt => ?_) fun ret => ?_
    · simp only [if_neg (Int.not_le.mpr hlt)]
      exact ⟨trivial, trivial, trivial⟩
    refine follows_ite (fun _ => hfail _ false ret) fun _ => ?_
    refine follows_sys_bind (Q := fun _ _ => True) (fun w held _ => ⟨rfl, rfl, trivial⟩)
      fun ⟨ret, links⟩ => ?_
    exact follows_ite (fun _ => hfail _ true ret) fun _ => hk links
  · obtain ⟨rfl, hE⟩ := h.resolve_right fun h => hlt (h held hP)
    have hconnect : nlConnect limit S (w, { held with socks := held.socks + 1 }) =
        ⟨.ok (-nlSyserr2nlerr EMFILE), (w, { held with socks := held.socks + 1 }), []⟩ := by
      simp [nlConnect, Int.not_lt.mp hlt]
    have hrun : withDump limit S .unset onError k (w, held) =
        ⟨.error .wildPut, (w, { held with socks := held.socks + 1 }), []⟩ := by
      rw [withDump, nlSocketAlloc, bind_apply, charge, sys_apply, thenRun_ok, bind_apply, hconnect,
        thenRun_ok, if_pos (by decide)]
      rfl
    rw [hrun]
    exact .inl ⟨.wildPut, rfl, hE _ (Int.not_lt.mp hlt), List.nil_prefix⟩

end

/-! ## operations that give back what they take, but for a socket -/

theorem withLinks_moves {α : Type} {linkCache : CachePtr} {onError : Int → α}
    {k : List LinkObj → ROp W α} (hptr : linkCache ≠ .set)
    (hk : ∀ links, Moves (fun _ => Spent limit 0 0) (k links)) :
    Moves (fun _ => Spent limit 0 0) (withLinks limit S linkCache onError k) := by
  refine withDump_moves hptr (fun _ held held' h1 h2 h3 => ?_) fun links => ?_
  · constructor <;> omega
  · refine moves_bind (hk links) fun a => (release_moves .set true a).mono ?_
    rintro _ held₂ held₃ ⟨-, h1, h2, h3⟩ held₁ ⟨h4, h5, h6, h7, h8⟩ held ⟨-, h9, h10, h11⟩
    simp only [Bool.toNat_true, beq_self_eq_true] at h2 h3
    constructor <;> omega

/-- `x` spends nothing on descriptors, and does what `y` does -/
structure Tracks (limit : Int) (E : Fault → Held → Prop) (P : Int → Prop) {α : Type} (x : ROp W α)
    (y : Op W α) : Prop where
  moves : Moves (fun _ => Spent limit 0 0) x
  follows : Follows E (fun held => P held.fds) x y

/-- there is a descriptor left, or its lack is an excuse -/
def Granted (limit : Int) (E : Fault → Held → Prop) (P : Int → Prop) : Prop :=
  (∀ held, limit ≤ held.fds → E .wildPut held) ∨ ∀ fds, P fds → fds < limit

lemma granted_excused : Granted limit (fun _ _ => True) fun _ => True := .inl fun _ _ => trivial

section
variable {E : Fault → Held → Prop} {P : Int → Prop} {α β : Type}

lemma tracks_pure (a : α) : Tracks limit E P (pure a : ROp W α) (pure a) :=
  ⟨moves_pure Spent.refl, follows_pure a⟩

lemma tracks_lift (x : Op W α) : Tracks limit E P (lift x) x :=
  ⟨moves_lift fun _ => Spent.refl, follows_lift x⟩

lemma tracks_emit (a : Act) : Tracks limit E P (emit a : ROp W PUnit) (emit a) :=
  ⟨moves_emit a Spent.refl, follows_emit a⟩

lemma tracks_bind {x : ROp W α} {y : Op W α} {k : α → ROp W β} {k' : α → Op W β}
    (h : Tracks limit E P x y) (hk : ∀ a, Tracks limit E P (k a) (k' a)) :
    Tracks limit E P (x >>= k) (y >>= k') := by
  constructor
  · exact moves_bind h.moves fun a => (hk a).moves.mono fun _ _ _ h2 _ h1 => h1.trans h2
  · refine follows_bind h.follows h.moves fun a => (hk a).follows.mono ?_
    rintro held' ⟨held, hP, h1, h2, -⟩
    rwa [show held'.fds = held.fds by omega]

lemma tracks_ite {p : Prop} [Decidable p] {x y : ROp W α} {x' y' : Op W α}
    (hx : Tracks limit E P x x') (hy : Tracks limit E P y y') :
    Tracks limit E P (if p then x else y) (if p then x' else y') := by
  split
  · exact hx
  · exact hy

lemma tracks_scan {κ : Type} {edit : κ → κ} {hit : κ → Bool} {act : κ → ROp W (List κ)}
    {act' : κ → Op W (List κ)} (h : ∀ a, Tracks limit E P (act a) (act' a)) (l : List κ) :
    Tracks limit E P (scan edit hit act l) (scan edit hit act' l) :=
  ⟨moves_scan Spent.refl (fun a => (h a).moves) l, follows_scan (fun a => (h a).follows) l⟩

theorem tracks_withLinks {linkCache : CachePtr} {onError : Int → α} {onError' : Int → Op W α}
    {k : List LinkObj → ROp W α} {k' : List LinkObj → Op W α} (hptr : linkCache ≠ .set)
    (herr : FailsAlike linkCache onError onError')
    (h : (linkCache = .unset ∧ ∀ held, limit ≤ held.fds → E .wildPut held) ∨
      ∀ fds, P fds → fds < limit)
    (hk : ∀ links, Tracks limit E (fun _ => True) (k links) (k' links)) :
    Tracks limit E P (withLinks limit S linkCache onError k) (Hsr.withDump S onError' k') := by
  refine ⟨withLinks_moves hptr fun links => (hk links).moves, ?_⟩
  refine withDump_follows herr (h.imp_right fun hlt held => hlt held.fds) fun links => ?_
  exact follows_then (hk links).follows fun a w held _ => .inr ⟨rfl, rfl, rfl⟩

lemma tracks_unset {onError : Int → α} {k : List LinkObj → ROp W α} {k' : List LinkObj → Op W α}
    (h : Granted limit E P) (hk : ∀ links, Tracks limit E (fun _ => True) (k links) (k' links)) :
    Tracks limit E P (withLinks limit S .unset onError k)
      (Hsr.withDump S (fun _ => putUnset) k') :=
  tracks_withLinks nofun (failsAlike_unset onError) (h.imp_left (⟨rfl, ·⟩)) hk

end

/-! ## the operations -/

section
variable {E : Fault → Held → Prop} {P : Int → Prop}

lemma getMaster_tracks (slave : UInt32) :
    Tracks limit E (fun _ => True) (getMaster S slave) (Hsr.getMaster S slave) := by
  constructor
  · refine moves_bind rtnlLinkAllocCache_moves fun ⟨ret, linkCache⟩ => ?_
    refine moves_ite (fun hret => ?_) fun hret => ?_
    · exact moves_bind (moves_fail (R := fun _ _ _ => False) _) fun _ => moves_pure nofun
    refine moves_bind (moves_lift (R := fun _ held held' => held' = held) fun _ _ => rfl)
      fun master => moves_ite (fun hfound => ?_) fun hfound => ?_
    · -- the cache stays
      refine moves_pure ?_
      rintro held₂ held₁ rfl held (⟨-, rfl⟩ | ⟨-, rfl⟩)
      · exact Spent.refl _
      · constructor <;> dsimp only <;> omega
    · refine moves_bind (nlCachePut_moves .set) fun _ => moves_pure ?_
      rintro held₃ held₂ ⟨-, h1, h2, h3⟩ held₁ rfl held (⟨h, -⟩ | ⟨-, rfl⟩)
      · exact absurd h hret
      · simp only [beq_self_eq_true, Bool.toNat_true] at h1 h2 h3
        constructor <;> omega
  · refine follows_sys_bind (Q := fun _ _ => True) (fun w held _ => ⟨rfl, rfl, trivial⟩)
      fun ⟨ret, links⟩ => follows_ite (fun _ w held _ => .inr ⟨rfl, rfl, rfl⟩) fun _ => ?_
    refine follows_then (follows_lift _) fun master w held _ => ?_
    cases master with
    | none => exact .inr ⟨rfl, rfl, rfl⟩
    | some link => exact .inr ⟨rfl, rfl, rfl⟩

lemma mainCheck_tracks {waitList : List WaitListNode} {ifName : CStr}
    {slave1Link slave2Link hsrLink : Option LinkObj} {node : WaitListNode} :
    Tracks limit E (fun _ => True)
      (mainCheck S waitList ifName slave1Link slave2Link hsrLink node)
      (Hsr.mainCheck S waitList ifName slave1Link slave2Link hsrLink node) := by
  unfold mainCheck Hsr.mainCheck
  split
  · exact tracks_pure _
  · exact tracks_bind (getMaster_tracks _) fun _ => tracks_pure _
  · exact tracks_bind (getMaster_tracks _) fun _ => tracks_pure _
  · refine tracks_bind (getMaster_tracks _) fun _ => ?_
    exact tracks_bind (getMaster_tracks _) fun _ => tracks_lift _

variable (h : Granted limit E P)
include h

lemma initialCheck_tracks {waitList : List WaitListNode} {ifName slave1Name slave2Name : CStr} :
    Tracks limit E P (initialCheck limit S waitList ifName slave1Name slave2Name)
      (Hsr.initialCheck S waitList ifName slave1Name slave2Name) := by
  refine tracks_unset h fun links => ?_
  refine tracks_bind (tracks_lift _) fun allocated => ?_
  exact tracks_ite (tracks_pure _) mainCheck_tracks

lemma createHif_tracks (node : WaitListNode) :
    Tracks limit E P (createHif limit S node) (Hsr.createHif S node) := by
  refine tracks_bind (tracks_emit _) fun _ => tracks_bind ?_ fun ret => tracks_pure _
  exact tracks_unset h fun _ => tracks_lift _

/-! ## the handlers of notifications -/

lemma newLink_tracks {waitList : List WaitListNode} {nLink : LinkObj} :
    Tracks limit E P (newLink limit S waitList nLink) (Hsr.newLink S waitList nLink) := by
  refine tracks_bind (tracks_lift _) fun linkName => ?_
  exact tracks_bind (tracks_scan (createHif_tracks h) _) fun _ => tracks_pure _

lemma linkChangedReleased_tracks {waitList : List WaitListNode} {oLink : LinkObj} :
    Tracks limit E P (linkChangedReleased limit S waitList oLink)
      (Hsr.linkChangedReleased S waitList oLink) := by
  refine tracks_bind (tracks_lift _) fun linkName => ?_
  refine tracks_bind (tracks_scan (fun node => ?_) _) fun _ => ?_
  · exact tracks_ite (createHif_tracks h node) (tracks_pure _)
  · exact tracks_ite (tracks_pure _) (tracks_pure _)

lemma hsrLinkDeleted_tracks {waitList : List WaitListNode} {hsrLink : LinkObj} :
    Tracks limit E P (hsrLinkDeleted limit S waitList hsrLink)
      (Hsr.hsrLinkDeleted S waitList hsrLink) := by
  refine tracks_bind (tracks_lift _) fun linkName => ?_
  refine tracks_bind (tracks_scan (createHif_tracks h) _) fun _ => ?_
  refine tracks_ite (tracks_pure _) ?_
  exact tracks_bind (tracks_scan (createHif_tracks h) _) fun _ => tracks_pure _

lemma linkChangedHandler_tracks {waitList : List WaitListNode} {cache : List LinkObj}
    {oLink nLink : LinkObj} :
    Tracks limit E P (linkChangedHandler limit S waitList cache oLink nLink)
      (Hsr.linkChangedHandler S waitList cache oLink nLink) := by
  unfold linkChangedHandler Hsr.linkChangedHandler
  refine tracks_ite (tracks_ite ?_ (tracks_pure _)) (tracks_pure _)
  cases rtnlLinkGet cache oLink.lMaster with
  | none =>
    cases rtnlLinkGet cache nLink.lMaster with
    | none => exact tracks_pure _
    | some nLinkMaster => exact tracks_lift _
  | some oLinkMaster =>
    cases rtnlLinkGet cache nLink.lMaster with
    | none =>
      refine tracks_bind (tracks_lift _) fun isHsr => ?_
      exact tracks_ite (linkChangedReleased_tracks h) (tracks_lift _)
    | some nLinkMaster => exact tracks_pure _

lemma routeLinkCacheChangeCb_tracks {waitList : List WaitListNode} {cache : List LinkObj}
    {note : Note LinkObj} :
    Tracks limit E P (routeLinkCacheChangeCb limit S waitList cache note)
      (Hsr.routeLinkCacheChangeCb S waitList cache note) := by
  cases note with
  | new nLink =>
    refine tracks_ite (tracks_bind (tracks_lift _) fun isHsr => ?_) (tracks_pure _)
    exact tracks_ite (newLink_tracks h) (tracks_lift _)
  | del oLink =>
    refine tracks_ite (tracks_bind (tracks_lift _) fun isHsr => ?_) (tracks_pure _)
    exact tracks_ite (tracks_lift _) (hsrLinkDeleted_tracks h)
  | change oLink nLink diff => exact linkChangedHandler_tracks h

lemma hnodeCacheChangeCb_tracks {app : HsrModule} {mngrHnodeCache : List HsrNode}
    {note : Note HsrNode} :
    Tracks limit E P (hnodeCacheChangeCb limit S app mngrHnodeCache note)
      (Hsr.hnodeCacheChangeCb S app mngrHnodeCache note) := by
  refine tracks_bind (tracks_emit _) fun _ => tracks_ite ?_ (tracks_pure _)
  cases note with
  | new nObj =>
    exact tracks_bind (tracks_unset h fun _ => tracks_lift _) fun _ => tracks_pure _
  | del oObj =>
    exact tracks_bind (tracks_unset h fun _ => tracks_lift _) fun _ => tracks_pure _
  | change oObj nObj diff => exact tracks_pure _

end

/-! ## a configuration call -/

/-- **A call of `change_interface_list` keeps a socket, a descriptor and a cache.** -/
theorem changeInterfaceList_moves {app : HsrModule} {interfaceName : CStr} {isAdd : Bool} :
    Moves (fun _ => Spent limit 1 0) (changeInterfaceList limit S app interfaceName isAdd) := by
  refine withDump_moves nofun nofun fun links => moves_lift fun _ held' held h => ?_
  obtain ⟨h1, h2, h3, h4⟩ := h
  constructor <;> omega

lemma changeInterfaceList_follows {E : Fault → Held → Prop} {P : Int → Prop} (h : Granted limit E P)
    {app : HsrModule} {interfaceName : CStr} {isAdd : Bool} :
    Follows E (fun held => P held.fds)
      (changeInterfaceList limit S app interfaceName isAdd)
      (Hsr.changeInterfaceList S app interfaceName isAdd) := by
  refine withDump_follows (failsAlike_unset _) ?_ fun _ => follows_lift _
  exact h.imp (⟨rfl, ·⟩) fun hlt held => hlt held.fds

/-! ## events -/

lemma moves_then {α β : Type} {sets dels : Nat} {x : ROp W α} {k : α → ROp W β}
    (hx : Moves (fun _ => Spent limit sets dels) x)
    (hk : ∀ a, Moves (fun _ => Spent limit 0 0) (k a)) :
    Moves (fun _ => Spent limit sets dels) (x >>= k) :=
  moves_bind hx fun a => (hk a).mono fun _ _ _ h _ h' => h'.trans h

lemma hsrHandler_set_moves (app : HsrModule) (interfaceName : CStr) (cdbData : HsrData) :
    Moves (fun _ => Spent limit 1 0) (hsrHandler limit S app (some interfaceName) cdbData) := by
  refine moves_then changeInterfaceList_moves fun ⟨_, app⟩ => ?_
  dsimp only
  split
  · exact moves_then (initialCheck_tracks granted_excused).moves fun _ => moves_pure Spent.refl
  · exact moves_pure Spent.refl

lemma hsrHandler_del_moves (app : HsrModule) (interfaceName : CStr) :
    Moves (fun _ => Spent limit 0 1) (hsrHandler limit S app (some interfaceName) none) := by
  refine moves_bind (withLinks_moves nofun fun _ => moves_lift fun _ => Spent.refl) fun ret => ?_
  refine moves_ite (fun _ => moves_pure ?_) fun _ => ?_
  · exact fun held' held h => h.mono (by omega) (by omega)
  · refine moves_bind changeInterfaceList_moves fun _ => moves_pure ?_
    exact fun held'' held' h' held h => (h.trans h').mono (by omega) (by omega)

theorem handle_moves (app : HsrModule) (event : Event) :
    Moves (fun _ => Spent limit event.sets event.dels) (handle S limit app event) := by
  match event with
  | .input (.config none cdbData) => exact moves_pure Spent.refl
  | .input (.config (some interfaceName) (some cdbData)) =>
    exact moves_then (hsrHandler_set_moves app _ _) fun _ => moves_pure Spent.refl
  | .input (.config (some interfaceName) none) =>
    exact moves_then (hsrHandler_del_moves app _) fun _ => moves_pure Spent.refl
  | .input (.link cache note) =>
    exact moves_then (routeLinkCacheChangeCb_tracks granted_excused).moves fun _ => moves_pure Spent.refl
  | .node mngrHnodeCache note =>
    exact moves_then (hnodeCacheChangeCb_tracks granted_excused).moves fun _ => moves_pure Spent.refl

section
variable {E : Fault → Held → Prop} {P : Int → Prop} (h : Granted limit E P)
  (hP : ∀ fds, P (fds + 1) → P fds)
include h hP

lemma hsrHandler_set_follows (app : HsrModule) (interfaceName : CStr) (cdbData : HsrData) :
    Follows E (fun held => P (held.fds + 1))
      (hsrHandler limit S app (some interfaceName) cdbData)
      (Hsr.hsrHandler S app (some interfaceName) cdbData) := by
  refine follows_bind ((changeInterfaceList_follows h).mono fun held => hP held.fds)
    changeInterfaceList_moves fun ⟨_, app⟩ => ?_
  rcases cdbData with ⟨slaveA | slaveA, slaveB | slaveB⟩
  · exact follows_pure _
  · exact follows_pure _
  · exact follows_pure _
  refine follows_bind (R := fun _ _ _ => True) ((initialCheck_tracks h).follows.mono ?_)
    (fun _ _ _ => trivial) fun r => ?_
  · rintro held' ⟨held, hfds, h1, h2, -⟩
    rwa [show held'.fds = held.fds + 1 by omega]
  · exact follows_pure _

omit h in
lemma hsrHandler_del_follows (hlt : ∀ fds, P fds → fds < limit) (app : HsrModule)
    (interfaceName : CStr) : Follows E (fun held => P (held.fds + 1))
      (hsrHandler limit S app (some interfaceName) none)
      (Hsr.hsrHandler S app (some interfaceName) none) := by
  have hdelete : Tracks limit E P (deleteHsrInterfaceByName limit S interfaceName)
      (Hsr.deleteHsrInterfaceByName S interfaceName) :=
    tracks_withLinks nofun (failsAlike_null _) (.inr hlt) fun _ => tracks_lift _
  refine follows_bind (hdelete.follows.mono fun held => hP held.fds) hdelete.moves fun ret => ?_
  refine follows_ite (fun _ => follows_pure _) fun _ => ?_
  refine follows_bind (R := fun _ _ _ => True)
    ((changeInterfaceList_follows (.inr hlt)).mono ?_) (fun _ _ _ => trivial) fun r => ?_
  · rintro held' ⟨held, hfds, h1, h2, -⟩
    exact hP _ (by rwa [show held'.fds = held.fds by omega])
  · exact follows_pure _

theorem handle_follows (app : HsrModule) (event : Event)
    (hdel : event.dels = 0 ∨ ∀ fds, P fds → fds < limit) :
    Follows E (fun held => P (held.fds + event.sets + event.dels))
      (handle S limit app event) (Hsr.handle S app event) := by
  have hlast {α β : Type} {P' : Held → Prop} {x : ROp W α} {y : Op W α} (k : α → β)
      (hx : Follows E P' x y) :
      Follows E P' (do let a ← x; pure (k a)) (do let a ← y; pure (k a)) :=
    follows_bind (R := fun _ _ _ => True) hx (fun _ _ _ => trivial) fun a => follows_pure _
  match event with
  | .input (.config none cdbData) => exact follows_pure _
  | .input (.config (some interfaceName) (some cdbData)) =>
    refine (hlast Prod.snd (hsrHandler_set_follows h hP app interfaceName cdbData)).mono ?_
    exact fun held hheld => by simpa [Event.sets, Event.dels] using hheld
  | .input (.config (some interfaceName) none) =>
    have hlt := hdel.resolve_left Nat.one_ne_zero
    refine (hlast Prod.snd (hsrHandler_del_follows hP hlt app interfaceName)).mono ?_
    exact fun held hheld => by simpa [Event.sets, Event.dels] using hheld
  | .input (.link cache note) =>
    refine (hlast _ (routeLinkCacheChangeCb_tracks h).follows).mono ?_
    exact fun held hheld => by simpa [Event.sets, Event.dels] using hheld
  | .node mngrHnodeCache note =>
    refine (hlast _ (hnodeCacheChangeCb_tracks h).follows).mono ?_
    exact fun held hheld => by simpa [Event.sets, Event.dels] using hheld

end

/-! ## runs -/

theorem handleAll_moves (app : HsrModule) (events : List Event) :
    Moves (fun _ => Spent limit (events.map Event.sets).sum (events.map Event.dels).sum)
      (handleAll S limit app events) := by
  induction events generalizing app with
  | nil => exact moves_pure Spent.refl
  | cons event events ih =>
    rw [handleAll, List.foldlM_cons, List.map_cons, List.map_cons, List.sum_cons, List.sum_cons]
    refine moves_bind (handle_moves app event) fun app => (ih app).mono ?_
    exact fun _ _ _ h _ h' => h'.trans h

theorem handleAll_follows {E : Fault → Held → Prop} {P : Int → Prop} (h : Granted limit E P)
    (hP : ∀ {fds fds'}, fds ≤ fds' → P fds' → P fds) (app : HsrModule) {events : List Event}
    (hdels : (events.map Event.dels).sum = 0 ∨ ∀ fds, P fds → fds < limit) :
    Follows E (fun held => P (held.fds + (events.map Event.sets).sum +
      (events.map Event.dels).sum)) (handleAll S limit app events) (Hsr.handleAll S app events) := by
  induction events generalizing app with
  | nil => exact follows_pure _
  | cons event events ih =>
    rw [handleAll, Hsr.handleAll, List.foldlM_cons, List.foldlM_cons]
    simp only [List.map_cons, List.sum_cons] at hdels ⊢
    refine follows_bind ((handle_follows h (fun fds => hP (by omega)) app event
      (hdels.imp_left (by omega))).mono fun held => hP (by omega)) (handle_moves app event)
      fun app => (ih app (hdels.imp_left (by omega))).mono ?_
    rintro held' ⟨held, hfds, h1, h2, -⟩
    exact hP (by omega) hfds

end Held

/-! ## the results -/

section
open Held

variable {W : Type} {S : Sys W} {limit : Int} {app app' : HsrModule} {events : List Event} {w : W}
  {held : Held}

/-- **The account of a run.**  Whatever the kernel answers, in every run of configuration calls,
link notifications and node notifications that returns, each call that sets the configuration of
an interface keeps one descriptor; a call that takes it away keeps at most one, anything else
none. -/
theorem account_kept (h : (Held.handleAll S limit app events (w, held)).val = .ok app') :
    Spent limit (events.map Event.sets).sum (events.map Event.dels).sum held
      (Held.handleAll S limit app events (w, held)).world.2 :=
  handleAll_moves app events (w, held) app' h

/-- an interface over two free slaves is configured -/
def configure (ifName : CStr) : Event :=
  .input (.config (some ifName) (slavesData (cs "eth0") (cs "eth1")))

/-- it is configured and taken away again -/
theorem account_kept_set_del :
    Spent 64 ([configure (cs "hsr0"), .input (.config (some (cs "hsr0")) none)].map Event.sets).sum
      ([configure (cs "hsr0"), .input (.config (some (cs "hsr0")) none)].map Event.dels).sum
      ⟨0, 8, 0⟩ (Held.handleAll (staticSys [eth0, eth1]) 64 HsrModule.init
        [configure (cs "hsr0"), .input (.config (some (cs "hsr0")) none)]
        ((), ⟨0, 8, 0⟩)).world.2 :=
  account_kept rfl

/-- **The daemon is its model while descriptors last**, error paths and crashes included. -/
theorem descriptors_last
    (h : held.fds + (events.map Event.sets).sum + (events.map Event.dels).sum < limit) :
    (Held.handleAll S limit app events (w, held)).val = (handleAll S app events w).val ∧
      (Held.handleAll S limit app events (w, held)).world.1 = (handleAll S app events w).world ∧
      (Held.handleAll S limit app events (w, held)).acts = (handleAll S app events w).acts :=
  (handleAll_follows (P := (· < limit)) (.inr fun _ => id) (fun h h' => by omega) app
    (.inr fun _ => id)).exact h

/-- a kernel that refuses every connection -/
def refusedSys : Sys Unit := { staticSys [eth0, eth1] with nlConnect := fun w => (-1, w) }

/-- the first operation of the model puts a pointer that is not set, and so does the daemon -/
theorem descriptors_last_refused :
    (Held.handleAll refusedSys 64 HsrModule.init [configure (cs "hsr0")] ((), ⟨0, 8, 0⟩)).val =
      .error .wildPut :=
  (descriptors_last (by decide)).1

/-- **Descriptors run out.**  A run with more calls that set a configuration than descriptors are
left, and none that takes one away, which would return if there were more, ends in `nl_cache_put`
of a pointer that was never set, all descriptors being in use; until then it does what it would do
with more of them. -/
theorem descriptors_run_out (hheld : held.fds ≤ limit)
    (h : limit < held.fds + (events.map Event.sets).sum)
    (hdels : (events.map Event.dels).sum = 0)
    (hreturns : (handleAll S app events w).val = .ok app') :
    (Held.handleAll S limit app events (w, held)).val = .error .wildPut ∧
      limit ≤ (Held.handleAll S limit app events (w, held)).world.2.fds ∧
      (Held.handleAll S limit app events (w, held)).acts <+: (handleAll S app events w).acts := by
  have hexcuse : Granted limit (fun e (held : Held) => e = .wildPut ∧ limit ≤ held.fds)
      fun _ => True := .inl fun _ hle => ⟨rfl, hle⟩
  rcases handleAll_follows (S := S) hexcuse (fun _ _ => trivial) app (.inl hdels) w held
    trivial with ⟨e, he, ⟨rfl, hle⟩, hacts⟩ | ⟨hval, -⟩
  · exact ⟨he, hle, hacts⟩
  · rw [hreturns] at hval
    obtain ⟨h1, -, h3, -⟩ := handleAll_moves app events (w, held) app' hval
    exact absurd h1 (by dsimp only at h1 h3; omega)

/-- two calls, and one descriptor -/
theorem descriptors_run_out_twice :
    (Held.handleAll (staticSys [eth0, eth1]) 9 HsrModule.init
      [configure (cs "hsr0"), configure (cs "hsr1")] ((), ⟨0, 8, 0⟩)).val = .error .wildPut :=
  (descriptors_run_out (by decide) (by decide) rfl rfl).1

end

end Hsr
