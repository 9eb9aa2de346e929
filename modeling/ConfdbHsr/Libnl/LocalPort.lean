import ConfdbHsr.Lib.Probe
import ConfdbHsr.Libnl.Object
import Mathlib.Data.UInt
import Mathlib.Algebra.Group.Nat.Defs

/-!
# The local ports of netlink sockets (`lib/socket.c`, `lib/nl.c`)

A process has 1024 local ports, one for each bit of the map `used_ports_map`.  A port holds the
number of its bit above the 22 bits of the process.

* `PortBits`       a map of the 1024 ports;
* `generateLocalPort`, `releaseLocalPort`   a clear bit is searched for and set, and cleared again;
* `NlSock`         the part of `struct nl_sock` that has to do with its port;
* `nlConnect`      `nl_connect`: ports that other processes hold are passed over.
-/

namespace Nl
open Probe

/-! ## maps of ports -/

/-- `uint32_t [32]` -/
abbrev PortBits := Vector (BitVec 32) 32

namespace PortBits

def word (b : PortBits) (i : Nat) : BitVec 32 := b[i]?.getD 0

/-- the bit of the port with number `nr` -/
def has (b : PortBits) (nr : Nat) : Bool := (b.word (nr / 32)).getLsbD (nr % 32)

def mask (nr : Nat) : BitVec 32 := 1#32 <<< (nr % 32)

def set (b : PortBits) (nr : Nat) : PortBits :=
  b.setIfInBounds (nr / 32) (b.word (nr / 32) ||| mask nr)

def clear (b : PortBits) (nr : Nat) : PortBits :=
  b.setIfInBounds (nr / 32) (b.word (nr / 32) &&& ~~~mask nr)

def none : PortBits := Vector.replicate 32 0

end PortBits

/-- the number that a port holds -/
def portNr (port : UInt32) : Nat := port.toNat >>> 22

/-! ## generating and releasing -/

/-- `used_ports_map` and `idx_state` -/
structure PortMap where
  usedPortsMap : PortBits
  idxState : UInt16
  deriving DecidableEq

def PortMap.init : PortMap := ⟨PortBits.none, 0⟩

/-- the loop over `m` of `generate_local_port`: a bit of a word that is not set -/
def findBit (w : BitVec 32) (n : Nat) : Option Nat :=
  probe (stride 13 32) (fun n => !w.getLsbD n) 32 n

/-- the loop over `j` of `generate_local_port`, with `fuel` rounds left -/
def findPort (b : PortBits) : Nat → Nat → Nat → Nat → Option Nat
  | 0, _, _, _ => none
  | fuel + 1, j, i, n =>
    let i := if j = 31 then 0 else strideUp 6 31 i
    if b.word i = 0xFFFFFFFF then findPort b fuel (j + 1) i n
    else
      match findBit (b.word i) n with
      | some n => some (n + i * 32)
      | none => findPort b fuel (j + 1) i ((stride 13 32)^[32] n)

/-- `idx_state` of the next search; it is seeded with the time where it is zero -/
def nextIdxState (time : UInt32) (idxState : UInt16) : UInt16 :=
  if idxState = 0 then (time ^^^ (time >>> 16) ^^^ 0x3047).toUInt16 else idxState + 20011

/-- the port with number `nr` -/
def portOf (getpid : UInt32) (nr : Nat) : UInt32 :=
  let pid := (getpid &&& (0x3FFFFF : UInt32)) + (UInt32.ofNat nr <<< (22 : UInt32))
  if pid = 0 then 1024 else pid

/-- `generate_local_port`; it returns zero where it finds no port -/
def generateLocalPort (getpid time : UInt32) (s : PortMap) : UInt32 × PortMap :=
  let idxState := nextIdxState time s.idxState
  match findPort s.usedPortsMap 32 0 (idxState.toNat >>> 5) idxState.toNat with
  | some nr => (portOf getpid nr, ⟨s.usedPortsMap.set nr, idxState⟩)
  | none => (0, ⟨s.usedPortsMap, idxState⟩)

/-- `release_local_port`; nothing is returned where it aborts -/
def releaseLocalPort (port : UInt32) (s : PortMap) : Option PortMap :=
  let nr := portNr port
  if port = 0 then none
  else if s.usedPortsMap.word (nr / 32) &&& PortBits.mask nr ≠ PortBits.mask nr then none
  else some { s with usedPortsMap := s.usedPortsMap.clear nr }

/-- `_nl_socket_used_ports_release_all` -/
def usedPortsReleaseAll (usedPorts : PortBits) (s : PortMap) : Option PortMap :=
  if (List.range 32).all fun i =>
      s.usedPortsMap.word i &&& usedPorts.word i == usedPorts.word i then
    some { s with
      usedPortsMap := Vector.zipWith (fun w u => w &&& ~~~u) s.usedPortsMap usedPorts }
  else none

/-! ## sockets -/

def NLE_BAD_SOCK : Int := 3

/-- `struct nl_sock`, as far as its port goes; `sFd` is whether it has a descriptor -/
structure NlSock where
  sFd : Bool
  nlPid : UInt32
  /-- the flag `NL_OWN_PORT` -/
  ownPort : Bool
  deriving DecidableEq, Repr

/-- `nl_socket_alloc` -/
def nlSocketAlloc : NlSock := ⟨false, 0, true⟩

/-- the answer to `bind` -/
inductive Bind where
  | ok
  | addrInUse
  | failed (err : Int)
  deriving DecidableEq, Repr

def Bind.code : Bind → Int
  | .ok => 0
  | .addrInUse => -NLE_EXIST
  | .failed err => err

/-- what `nl_connect` is told by `time`, by `socket` and `nl_socket_set_buffer_size`, by `bind` of
a port, and by `getsockname` once that port is bound -/
structure ConnectEnv where
  time : UInt32
  socket : Int
  bufferSize : Int
  bind : UInt32 → Bind
  getsockname : UInt32 → Except Int UInt32

section
variable (getpid : UInt32)

/-- `_nl_socket_set_local_port_no_release` -/
def setLocalPortNoRelease (port : UInt32) (sk : NlSock) : NlSock :=
  { sk with nlPid := port, ownPort := port == 0 }

/-- how the loop of `nl_connect` is left -/
inductive Tried where
  | bound
  | unbound
  | failed (err : Int)
  deriving DecidableEq, Repr

/-- the loop of `nl_connect` over generated ports, with so many tries left -/
def connectLoop (env : ConnectEnv) :
    Nat → PortBits → NlSock → PortMap → Tried × PortBits × NlSock × PortMap
  | 0, usedPorts, sk, s => (.unbound, usedPorts, setLocalPortNoRelease 0 sk, s)
  | tries + 1, usedPorts, sk, s =>
    let (port, s) := generateLocalPort getpid env.time s
    let sk := setLocalPortNoRelease port sk
    if port = 0 then (.unbound, usedPorts, sk, s)
    else
      match env.bind port with
      | .ok => (.bound, usedPorts, sk, s)
      | .addrInUse => connectLoop env tries (usedPorts.set (portNr port)) sk s
      | .failed err => (.failed err, usedPorts, sk, s)

/-- `nl_socket_set_local_port` -/
def nlSocketSetLocalPort (port : UInt32) (sk : NlSock) (s : PortMap) :
    Option (NlSock × PortMap) :=
  (if sk.ownPort then some s else releaseLocalPort sk.nlPid s).map fun s =>
    ({ sk with nlPid := port, ownPort := true }, s)

/-- `nl_close` -/
def nlClose (sk : NlSock) : NlSock := { sk with sFd := false }

/-- `nl_connect` from the answer `err` of the last `bind` on -/
def connectBound (env : ConnectEnv) (err : Int) (sk : NlSock) (s : PortMap) :
    Option (Int × NlSock × PortMap) :=
  if err ≠ 0 then some (err, nlClose sk, s)
  else
    match env.getsockname sk.nlPid with
    | .error err => some (err, nlClose sk, s)
    | .ok nlPid =>
      (if sk.nlPid = nlPid then some (sk, s)
        else nlSocketSetLocalPort nlPid sk s).map fun (sk, s) => (0, { sk with nlPid }, s)

/-- `nl_connect` of a socket whose port is unspecified: one is generated -/
def connectGenerated (env : ConnectEnv) (sk : NlSock) (s : PortMap) :
    Option (Int × NlSock × PortMap) :=
  let (tried, usedPorts, sk, s) := connectLoop getpid env 6 PortBits.none sk s
  (usedPortsReleaseAll usedPorts s).bind fun s =>
    match tried with
    | .bound => connectBound env 0 sk s
    | .unbound => connectBound env (env.bind sk.nlPid).code sk s
    | .failed err => some (err, nlClose sk, s)

/-- `nl_connect`; nothing is returned where it aborts -/
def nlConnect (env : ConnectEnv) (sk : NlSock) (s : PortMap) : Option (Int × NlSock × PortMap) :=
  if sk.sFd then some (-NLE_BAD_SOCK, sk, s)
  else if env.socket < 0 then some (env.socket, sk, s)
  else if env.bufferSize < 0 then some (env.bufferSize, sk, s)
  else if sk.nlPid = 0 then connectGenerated getpid env { sk with sFd := true } s
  else connectBound env (env.bind sk.nlPid).code { sk with sFd := true } s

/-- `nl_socket_get_local_port`, which gives a socket a port if it has none -/
def nlSocketGetLocalPort (time : UInt32) (sk : NlSock) (s : PortMap) : NlSock × PortMap :=
  if sk.nlPid = 0 then
    let (port, s) := generateLocalPort getpid time s
    if port = 0 then ({ sk with nlPid := 0xFFFFFFFF, ownPort := true }, s)
    else ({ sk with nlPid := port, ownPort := false }, s)
  else (sk, s)

/-- `nl_socket_free` -/
def nlSocketFree (sk : NlSock) (s : PortMap) : Option PortMap :=
  if sk.ownPort then some s else releaseLocalPort sk.nlPid s

/-! ## a process with its sockets -/

structure Sockets where
  portMap : PortMap
  socks : List NlSock
  deriving DecidableEq

def Sockets.init : Sockets := ⟨PortMap.init, []⟩

/-- a call for a socket: the socket stands at the index -/
inductive SockCall where
  | alloc
  | connect (i : Nat) (env : ConnectEnv)
  | getLocalPort (i : Nat) (time : UInt32)
  | setLocalPort (i : Nat) (port : UInt32)
  | close (i : Nat)
  | free (i : Nat)

/-- a call on the socket at an index, which leaves a socket there or none; an index without a
socket is not called with -/
def Sockets.on (S : Sockets) (i : Nat)
    (call : NlSock → PortMap → Option (Option NlSock × PortMap)) : Option Sockets :=
  match S.socks[i]? with
  | none => some S
  | some sk => (call sk S.portMap).map fun (sk, portMap) =>
    ⟨portMap, S.socks.take i ++ sk.toList ++ S.socks.drop (i + 1)⟩

def sockStep (S : Sockets) : SockCall → Option Sockets
  | .alloc => some { S with socks := S.socks ++ [nlSocketAlloc] }
  | .connect i env => S.on i fun sk s =>
    (nlConnect getpid env sk s).map fun (_, sk, s) => (some sk, s)
  | .getLocalPort i time => S.on i fun sk s =>
    some ((nlSocketGetLocalPort getpid time sk s).map some id)
  | .setLocalPort i port => S.on i fun sk s => (nlSocketSetLocalPort port sk s).map (.map some id)
  | .close i => S.on i fun sk s => some (some (nlClose sk), s)
  | .free i => S.on i fun sk s => (nlSocketFree sk s).map fun s => (none, s)

/-- a run of calls; nothing is left of a process that aborts -/
def sockRun (S : Sockets) (calls : List SockCall) : Option Sockets :=
  calls.foldlM (sockStep getpid) S

end

/-! ## bits -/

namespace PortBits
variable (b : PortBits)

lemma word_setIfInBounds (i j : Nat) (w : BitVec 32) :
    word (b.setIfInBounds i w) j = if i = j ∧ i < 32 then w else b.word j := by
  rw [word, word, Vector.getElem?_setIfInBounds]
  by_cases heq : i = j
  · subst heq
    by_cases hlt : i < 32
    · simp [hlt]
    · rw [if_pos rfl, if_neg hlt, if_neg (fun h => hlt h.2),
        Vector.getElem?_eq_none (by omega)]
  · rw [if_neg heq, if_neg (fun h => heq h.1)]

lemma getLsbD_mask (nr : Nat) {k : Nat} (hk : k < 32) :
    (mask nr).getLsbD k = decide (nr % 32 = k) := by
  show (1#32 <<< (nr % 32)).getLsbD k = _
  rw [BitVec.getLsbD_shiftLeft, BitVec.getLsbD_one]
  simp only [hk, decide_true, Bool.true_and]
  by_cases hlt : k < nr % 32
  · simp [hlt, Nat.ne_of_gt hlt]
  · by_cases heq : nr % 32 = k
    · simp [heq]
    · have hne : k - nr % 32 ≠ 0 := by omega
      simp [heq, hne]

lemma div_mod_inj {m n : Nat} : m = n ↔ m / 32 = n / 32 ∧ m % 32 = n % 32 := by
  constructor <;> omega

@[simp] lemma has_none (nr : Nat) : none.has nr = false := by
  have hword : none.word (nr / 32) = 0 := by
    rw [word, none, Vector.getElem?_replicate]
    split <;> rfl
  rw [has, hword]
  exact BitVec.getLsbD_zero

lemma has_set {nr : Nat} (hnr : nr < 1024) (k : Nat) :
    (b.set nr).has k = (b.has k || decide (nr = k)) := by
  have hmod : k % 32 < 32 := Nat.mod_lt _ (by decide)
  rw [has, set, word_setIfInBounds]
  by_cases hdiv : nr / 32 = k / 32
  · rw [if_pos ⟨hdiv, by omega⟩, BitVec.getLsbD_or, getLsbD_mask nr hmod, hdiv, has]
    simp only [div_mod_inj (m := nr), hdiv, true_and]
  · rw [if_neg (fun h => hdiv h.1), has]
    simp [div_mod_inj (m := nr), hdiv]

lemma has_clear {nr : Nat} (hnr : nr < 1024) (k : Nat) :
    (b.clear nr).has k = (b.has k && !decide (nr = k)) := by
  have hmod : k % 32 < 32 := Nat.mod_lt _ (by decide)
  rw [has, clear, word_setIfInBounds]
  by_cases hdiv : nr / 32 = k / 32
  · rw [if_pos ⟨hdiv, by omega⟩, BitVec.getLsbD_and, BitVec.getLsbD_not, getLsbD_mask nr hmod,
      hdiv, has]
    simp only [div_mod_inj (m := nr), hdiv, true_and, hmod, decide_true, Bool.true_and]
  · rw [if_neg (fun h => hdiv h.1), has]
    simp [div_mod_inj (m := nr), hdiv]

lemma and_mask_eq (nr : Nat) : b.word (nr / 32) &&& mask nr = mask nr ↔ b.has nr = true := by
  have hmod : nr % 32 < 32 := Nat.mod_lt _ (by decide)
  constructor
  · intro h
    have hbit := congrArg (fun w => w.getLsbD (nr % 32)) h
    simp only [BitVec.getLsbD_and, getLsbD_mask nr hmod, decide_true, Bool.and_true] at hbit
    exact hbit
  · intro h
    refine BitVec.eq_of_getLsbD_eq fun k hk => ?_
    rw [BitVec.getLsbD_and, getLsbD_mask nr hk]
    by_cases heq : nr % 32 = k
    · subst heq
      rw [has] at h
      simp [h]
    · simp [heq]

end PortBits

/-! ## the search -/

theorem findBit_eq_none (w : BitVec 32) (n : Nat) :
    findBit w n = none ↔ w = BitVec.allOnes 32 := by
  rw [findBit, probe_stride_none (by decide)]
  constructor
  · intro h
    refine BitVec.eq_of_getLsbD_eq fun k hk => ?_
    have hk' := h k hk
    rw [Bool.not_eq_false'] at hk'
    rw [hk', BitVec.getLsbD_allOnes]
    simp [hk]
  · rintro rfl k hk
    rw [BitVec.getLsbD_allOnes]
    simp [hk]

theorem findBit_eq_some {w : BitVec 32} {n k : Nat} (h : findBit w n = some k) :
    k < 32 ∧ w.getLsbD k = false := by
  obtain ⟨hfree, j, -, rfl⟩ := probe_eq_some _ _ h
  refine ⟨?_, by simpa using hfree⟩
  rw [Function.iterate_succ_apply']
  exact stride_lt (by decide)

/-- the word of round `k` of a search that starts at `i` -/
def visit (i k : Nat) : Nat := if k = 31 then 0 else (strideUp 6 31)^[k + 1] i

lemma visit_lt (i k : Nat) : visit i k < 32 := by
  rw [visit]
  split
  · decide
  · rw [Function.iterate_succ_apply']
    show (_ + 6) % 31 + 1 < 32
    omega

lemma visit_covers (i : Nat) {w : Nat} (hw : w < 32) : ∃ k < 32, visit i k = w := by
  by_cases hzero : w = 0
  · exact ⟨31, by decide, by rw [hzero]; rfl⟩
  · obtain ⟨k, hk, heq⟩ := strideUp_covers (s := 6) (m := 31) (by decide) i
      (Nat.pos_of_ne_zero hzero) (by omega)
    exact ⟨k, by omega, by rw [visit, if_neg (by omega), heq]⟩

section
variable (b : PortBits)

theorem findPort_eq_none {fuel j : Nat} (hfuel : j + fuel = 32) (i₀ n : Nat) :
    findPort b fuel j ((strideUp 6 31)^[j] i₀) n = none ↔
      ∀ k < fuel, b.word (visit i₀ (j + k)) = BitVec.allOnes 32 := by
  induction fuel generalizing j n with
  | zero => simp [findPort]
  | succ fuel ih =>
    have hword : (if j = 31 then 0 else strideUp 6 31 ((strideUp 6 31)^[j] i₀)) = visit i₀ j := by
      rw [visit, Function.iterate_succ_apply']
    -- the next rounds start where this one leaves off, and none follows the last
    have hrest : ∀ n', findPort b fuel (j + 1) (visit i₀ j) n' = none ↔
        ∀ k < fuel, b.word (visit i₀ (j + 1 + k)) = BitVec.allOnes 32 := by
      intro n'
      by_cases hlast : j = 31
      · have hzero : fuel = 0 := by omega
        subst hzero
        simp [findPort]
      · have := ih (j := j + 1) (by omega) n'
        rwa [Function.iterate_succ_apply', ← hword, if_neg hlast] at *
    have hsplit : (∀ k < fuel + 1, b.word (visit i₀ (j + k)) = BitVec.allOnes 32) ↔
        b.word (visit i₀ j) = BitVec.allOnes 32 ∧
          ∀ k < fuel, b.word (visit i₀ (j + 1 + k)) = BitVec.allOnes 32 := by
      constructor
      · intro h
        refine ⟨h 0 (Nat.succ_pos _), fun k hk => ?_⟩
        rw [Nat.add_assoc, Nat.add_comm 1 k]
        exact h (k + 1) (by omega)
      · rintro ⟨h0, h⟩ k hk
        cases k with
        | zero => exact h0
        | succ k =>
          rw [Nat.add_comm k 1, ← Nat.add_assoc]
          exact h k (by omega)
    rw [findPort, hsplit]
    simp only [hword]
    by_cases hfull : b.word (visit i₀ j) = 0xFFFFFFFF
    · rw [if_pos hfull, hrest]
      exact ⟨fun h => ⟨hfull, h⟩, fun h => h.2⟩
    · rw [if_neg hfull]
      cases hbit : findBit (b.word (visit i₀ j)) n with
      | none => exact absurd ((findBit_eq_none _ _).mp hbit) hfull
      | some k =>
        constructor
        · intro h
          cases h
        · intro h
          exact absurd h.1 hfull

theorem findPort_eq_some {fuel j i n nr : Nat} (h : findPort b fuel j i n = some nr) :
    nr < 1024 ∧ b.has nr = false := by
  induction fuel generalizing j i n with
  | zero => cases h
  | succ fuel ih =>
    rw [findPort] at h
    have hlt : (if j = 31 then 0 else strideUp 6 31 i) < 32 := by
      split
      · decide
      · show (i + 6) % 31 + 1 < 32
        omega
    generalize (if j = 31 then 0 else strideUp 6 31 i) = i' at h hlt
    by_cases hfull : b.word i' = 0xFFFFFFFF
    · rw [if_pos hfull] at h
      exact ih h
    · rw [if_neg hfull] at h
      cases hbit : findBit (b.word i') n with
      | none =>
        rw [hbit] at h
        exact ih h
      | some k =>
        rw [hbit] at h
        obtain ⟨hk, hclear⟩ := findBit_eq_some hbit
        have heq : k + i' * 32 = nr := Option.some.inj h
        have hdiv : nr / 32 = i' := by omega
        have hmod : nr % 32 = k := by omega
        exact ⟨by omega, by rw [PortBits.has, hdiv, hmod, hclear]⟩

/-- the search fails only where all ports are used -/
theorem findPort_full (i n : Nat) :
    findPort b 32 0 i n = none ↔ ∀ nr < 1024, b.has nr = true := by
  have hwords := findPort_eq_none b (Nat.zero_add 32) i n
  rw [Function.iterate_zero_apply] at hwords
  rw [hwords]
  constructor
  · intro h nr hnr
    obtain ⟨k, hk, hvisit⟩ := visit_covers i (w := nr / 32) (by omega)
    have hfull := h k hk
    rw [Nat.zero_add, hvisit] at hfull
    rw [PortBits.has, hfull, BitVec.getLsbD_allOnes]
    simp [Nat.mod_lt]
  · intro h k hk
    refine BitVec.eq_of_getLsbD_eq fun n' hn' => ?_
    have hlt := visit_lt i (0 + k)
    have hbit := h (visit i (0 + k) * 32 + n') (by omega)
    rw [PortBits.has] at hbit
    have hdiv : (visit i (0 + k) * 32 + n') / 32 = visit i (0 + k) := by omega
    have hmod : (visit i (0 + k) * 32 + n') % 32 = n' := by omega
    rw [hdiv, hmod] at hbit
    rw [hbit, BitVec.getLsbD_allOnes]
    simp [hn']

end

/-! ## numbers -/

lemma toNat_portOf (getpid : UInt32) {nr : Nat} (hnr : nr < 1024) :
    ((getpid &&& (0x3FFFFF : UInt32)) + (UInt32.ofNat nr <<< (22 : UInt32))).toNat =
      getpid.toNat % 2 ^ 22 + nr * 2 ^ 22 := by
  have hpid : (getpid &&& (0x3FFFFF : UInt32)).toNat = getpid.toNat % 2 ^ 22 := by
    rw [UInt32.toNat_and]
    exact Nat.and_two_pow_sub_one_eq_mod _ 22
  have hshift : (UInt32.ofNat nr <<< (22 : UInt32)).toNat = nr * 2 ^ 22 := by
    rw [UInt32.toNat_shiftLeft, UInt32.toNat_ofNat']
    show (nr % 2 ^ 32) <<< 22 % 2 ^ 32 = nr * 2 ^ 22
    rw [Nat.shiftLeft_eq, Nat.mod_eq_of_lt (show nr < 2 ^ 32 by omega)]
    omega
  rw [UInt32.toNat_add, hpid, hshift]
  omega

lemma portOf_ne_zero (getpid : UInt32) (nr : Nat) : portOf getpid nr ≠ 0 := by
  rw [portOf]
  split
  · decide
  · assumption

lemma portNr_portOf (getpid : UInt32) {nr : Nat} (hnr : nr < 1024) :
    portNr (portOf getpid nr) = nr := by
  have hsum := toNat_portOf getpid hnr
  rw [portOf]
  split
  · next hzero =>
    rw [hzero] at hsum
    have hnr0 : nr = 0 := by
      have : (0 : UInt32).toNat = 0 := rfl
      omega
    rw [hnr0]
    rfl
  · rw [portNr, hsum, Nat.shiftRight_eq_div_pow]
    omega

lemma portNr_lt (port : UInt32) : portNr port < 1024 := by
  have := port.toNat_lt
  rw [portNr, Nat.shiftRight_eq_div_pow]
  omega

end Nl
