import ConfdbHsr.Libnl.Attr
import Mathlib.Algebra.Group.Int.Defs

/-!
# Netlink messages in a buffer (`lib/msg.c`)

What `nl_recv` reads is a buffer with some messages, one after the other.

* `Nlmsg`          a message: the fields of `struct nlmsghdr` and the payload;
* `nlmsgAt`, `nlmsgNext`   `nlmsg_ok` at a place of the buffer, and the place of the next message;
* `nlmsgs`         the messages that a reader meets;
* `nlmsgs_encode`  messages that were written are met again.
-/

namespace Nl

def NLMSG_HDRLEN : Nat := 16

def NLMSG_NOOP : UInt16 := 1
def NLMSG_ERROR : UInt16 := 2
def NLMSG_DONE : UInt16 := 3
def NLMSG_OVERRUN : UInt16 := 4

def NLM_F_MULTI : UInt16 := 0x02
def NLM_F_ACK : UInt16 := 0x04
def NLM_F_DUMP_INTR : UInt16 := 0x10

/-- `struct nlmsghdr` and what follows it -/
structure Nlmsg where
  nlmsgType : UInt16
  nlmsgFlags : UInt16
  nlmsgSeq : UInt32
  nlmsgPid : UInt32
  payload : List UInt8
  deriving DecidableEq, Repr

namespace Nlmsg

/-- `nlmsg_len` -/
def len (msg : Nlmsg) : Nat := NLMSG_HDRLEN + msg.payload.length

def has (msg : Nlmsg) (flag : UInt16) : Bool := msg.nlmsgFlags &&& flag != 0

/-- the length of the message fits in its header -/
def Fits (msg : Nlmsg) : Prop := msg.len < 2 ^ 32

instance (msg : Nlmsg) : Decidable msg.Fits := inferInstanceAs (Decidable (_ < _))

/-- the bytes of a message, with its padding -/
def encode (msg : Nlmsg) : List UInt8 :=
  u32Bytes (UInt32.ofNat msg.len) ++ u16Bytes msg.nlmsgType.toNat ++
    u16Bytes msg.nlmsgFlags.toNat ++ u32Bytes msg.nlmsgSeq ++ u32Bytes msg.nlmsgPid ++
    msg.payload ++ List.replicate (nlaAlign msg.len - msg.len) 0

end Nlmsg

/-! ## reading a buffer -/

/-- the message at a place where `nlmsg_ok` holds -/
def nlmsgAt (buf : List UInt8) : Option Nlmsg :=
  let len := (u32Of buf).toNat
  if NLMSG_HDRLEN ≤ buf.length ∧ NLMSG_HDRLEN ≤ len ∧ len ≤ buf.length then
    some ⟨u16Of (buf.drop 4), u16Of (buf.drop 6), u32Of (buf.drop 8), u32Of (buf.drop 12),
      (buf.take len).drop NLMSG_HDRLEN⟩
  else none

/-- `nlmsg_next` -/
def nlmsgNext (msg : Nlmsg) (buf : List UInt8) : List UInt8 := buf.drop (nlaAlign msg.len)

def nlmsgsFuel : Nat → List UInt8 → List Nlmsg
  | 0, _ => []
  | fuel + 1, buf =>
    match nlmsgAt buf with
    | some msg => msg :: nlmsgsFuel fuel (nlmsgNext msg buf)
    | none => []

/-- the messages that the loop of `recvmsgs` meets; each takes some bytes, so there are no more of
them than bytes -/
def nlmsgs (buf : List UInt8) : List Nlmsg := nlmsgsFuel buf.length buf

/-- a buffer with some messages -/
def encodeMsgs (msgs : List Nlmsg) : List UInt8 := msgs.flatMap Nlmsg.encode

/-! ## messages are read back -/

section
variable (msg : Nlmsg)

lemma length_u32Bytes (n : UInt32) : (u32Bytes n).length = 4 := rfl

lemma length_u16Bytes (n : Nat) : (u16Bytes n).length = 2 := rfl

lemma u32Of_append (n : UInt32) (rest : List UInt8) : u32Of (u32Bytes n ++ rest) = n :=
  u32Of_bytes n

lemma u16Of_append (n : UInt16) (rest : List UInt8) : u16Of (u16Bytes n.toNat ++ rest) = n := by
  apply UInt16.toNat_inj.mp
  exact u16At_bytes n.toNat_lt

lemma Nlmsg.length_encode : msg.encode.length = nlaAlign msg.len := by
  have h := le_nlaAlign msg.len
  simp only [Nlmsg.encode, List.length_append, List.length_replicate]
  rw [length_u32Bytes, length_u32Bytes, length_u32Bytes, length_u16Bytes, length_u16Bytes]
  simp only [Nlmsg.len, NLMSG_HDRLEN] at h ⊢
  omega

lemma Nlmsg.toNat_len (h : msg.Fits) : (UInt32.ofNat msg.len).toNat = msg.len := by
  rw [UInt32.toNat_ofNat']
  exact Nat.mod_eq_of_lt h

theorem nlmsgAt_encode (h : msg.Fits) (rest : List UInt8) :
    nlmsgAt (msg.encode ++ rest) = some msg := by
  have hhead : u32Of (msg.encode ++ rest) = UInt32.ofNat msg.len := by
    rw [Nlmsg.encode]
    simp only [List.append_assoc]
    exact u32Of_append _ _
  have hlen := Nlmsg.toNat_len msg h
  have hroom : msg.len ≤ (msg.encode ++ rest).length := by
    have hle := le_nlaAlign msg.len
    rw [List.length_append, Nlmsg.length_encode]
    omega
  have hhdr : NLMSG_HDRLEN ≤ msg.len := Nat.le_add_right _ _
  rw [nlmsgAt, hhead, hlen]
  rw [if_pos ⟨Nat.le_trans hhdr hroom, hhdr, hroom⟩]
  have htype : u16Of ((msg.encode ++ rest).drop 4) = msg.nlmsgType := by
    rw [Nlmsg.encode]
    simp only [List.append_assoc]
    exact u16Of_append _ _
  have hflags : u16Of ((msg.encode ++ rest).drop 6) = msg.nlmsgFlags := by
    rw [Nlmsg.encode]
    simp only [List.append_assoc]
    exact u16Of_append _ _
  have hseq : u32Of ((msg.encode ++ rest).drop 8) = msg.nlmsgSeq := by
    rw [Nlmsg.encode]
    simp only [List.append_assoc]
    exact u32Of_append _ _
  have hpid : u32Of ((msg.encode ++ rest).drop 12) = msg.nlmsgPid := by
    rw [Nlmsg.encode]
    simp only [List.append_assoc]
    exact u32Of_append _ _
  have hpay : ((msg.encode ++ rest).take msg.len).drop NLMSG_HDRLEN = msg.payload := by
    rw [List.drop_take, Nlmsg.encode]
    simp only [List.append_assoc]
    show (msg.payload ++ _).take (msg.len - NLMSG_HDRLEN) = msg.payload
    have hlenp : msg.len - NLMSG_HDRLEN = msg.payload.length := by
      rw [Nlmsg.len, Nat.add_sub_cancel_left]
    rw [hlenp, List.take_left]
  rw [htype, hflags, hseq, hpid, hpay]

theorem nlmsgNext_encode (rest : List UInt8) : nlmsgNext msg (msg.encode ++ rest) = rest := by
  rw [nlmsgNext, ← Nlmsg.length_encode, List.drop_left]

end

lemma nlmsgsFuel_encode {msgs : List Nlmsg} (h : ∀ msg ∈ msgs, msg.Fits) {fuel : Nat}
    (hf : msgs.length ≤ fuel) : nlmsgsFuel fuel (encodeMsgs msgs) = msgs := by
  induction msgs generalizing fuel with
  | nil =>
    cases fuel with
    | zero => rfl
    | succ fuel => rfl
  | cons msg msgs ih =>
    cases fuel with
    | zero => cases hf
    | succ fuel =>
      have hrest := ih (fun a ha => h a (List.mem_cons_of_mem msg ha)) (Nat.le_of_succ_le_succ hf)
      rw [encodeMsgs, List.flatMap_cons, nlmsgsFuel, nlmsgAt_encode msg (h msg List.mem_cons_self)]
      show msg :: nlmsgsFuel fuel (nlmsgNext msg (msg.encode ++ encodeMsgs msgs)) = msg :: msgs
      rw [nlmsgNext_encode, hrest]

lemma length_encodeMsgs (msgs : List Nlmsg) : msgs.length ≤ (encodeMsgs msgs).length := by
  induction msgs with
  | nil => simp
  | cons msg msgs ih =>
    have h := le_nlaAlign msg.len
    rw [encodeMsgs, List.flatMap_cons, List.length_append, Nlmsg.length_encode]
    rw [encodeMsgs] at ih
    simp only [Nlmsg.len, NLMSG_HDRLEN, List.length_cons] at h ⊢
    omega

/-- **Messages that were written to a buffer are read back.** -/
theorem nlmsgs_encode {msgs : List Nlmsg} (h : ∀ msg ∈ msgs, msg.Fits) :
    nlmsgs (encodeMsgs msgs) = msgs :=
  nlmsgsFuel_encode h (length_encodeMsgs msgs)

end Nl
