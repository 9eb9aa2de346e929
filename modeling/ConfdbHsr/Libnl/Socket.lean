import ConfdbHsr.Libnl.LocalPort
import ConfdbHsr.Libnl.Nlmsg

/-!
# Requests and answers on a netlink socket (`lib/nl.c`, `lib/error.c`)

Each request carries the next sequence number of its socket.  An answer ends with a message of its
own, and the number that the socket expects is then counted up.

* `SockSeq`        the part of `struct nl_sock` that has to do with sequence numbers;
* `NlCb`           `struct nl_cb`, the callbacks of a reader;
* `handleMsg`      the body of the loop of `recvmsgs`, for one message;
* `recvmsgs`       `recvmsgs`: buffers are read until an answer has come to its end;
* `nlCompleteMsg`  the number that a request is given.
-/

namespace Nl

def NL_OK : Int := 0
def NL_SKIP : Int := 1
def NL_STOP : Int := 2

def NLE_FAILURE : Int := 1
def NLE_INTR : Int := 2
def NLE_AF_NOSUPPORT : Int := 11
def NLE_SEQ_MISMATCH : Int := 16
def NLE_MSG_OVERFLOW : Int := 17
def NLE_MSG_TRUNC : Int := 18
def NLE_NOADDR : Int := 19
def NLE_BUSY : Int := 25
def NLE_PROTO_MISMATCH : Int := 26
def NLE_NOACCESS : Int := 27
def NLE_PERM : Int := 28
def NLE_NODEV : Int := 31
def NLE_DUMP_INTR : Int := 33

/-- `nl_syserr2nlerr`, with the numbers of the system's errors -/
def nlSyserr2nlerr (error : Int) : Int :=
  match error.natAbs with
  | 9 => NLE_BAD_SOCK
  | 98 => NLE_EXIST
  | 17 => NLE_EXIST
  | 99 => NLE_NOADDR
  | 3 => NLE_OBJ_NOTFOUND
  | 2 => NLE_OBJ_NOTFOUND
  | 4 => NLE_INTR
  | 11 => NLE_AGAIN
  | 88 => NLE_BAD_SOCK
  | 92 => NLE_INVAL
  | 14 => NLE_INVAL
  | 13 => NLE_NOACCESS
  | 22 => NLE_INVAL
  | 105 => NLE_NOMEM
  | 12 => NLE_NOMEM
  | 97 => NLE_AF_NOSUPPORT
  | 93 => NLE_PROTO_MISMATCH
  | 95 => NLE_OPNOTSUPP
  | 1 => NLE_PERM
  | 16 => NLE_BUSY
  | 34 => NLE_RANGE
  | 19 => NLE_NODEV
  | _ => NLE_FAILURE

/-! ## sockets and callbacks -/

/-- `s_seq_next`, `s_seq_expect` and the flag `NL_NO_AUTO_ACK` of `struct nl_sock` -/
structure SockSeq where
  sSeqNext : UInt32
  sSeqExpect : UInt32
  noAutoAck : Bool
  deriving DecidableEq, Repr

/-- what the kernel has put on a socket: a buffer, or an error that reading it gives -/
inductive Arrival where
  | data (buf : List UInt8)
  | error (code : Int)
  deriving DecidableEq, Repr

/-- a callback for a message, with the argument it works on -/
abbrev MsgCb (σ : Type) := Nlmsg → σ → Int × σ

/-- `struct nl_cb`: the callbacks that are set -/
structure NlCb (σ : Type) where
  msgIn : Option (MsgCb σ)
  seqCheck : Option (MsgCb σ)
  invalid : Option (MsgCb σ)
  dumpIntr : Option (MsgCb σ)
  sendAck : Option (MsgCb σ)
  finish : Option (MsgCb σ)
  skipped : Option (MsgCb σ)
  overrun : Option (MsgCb σ)
  ack : Option (MsgCb σ)
  valid : Option (MsgCb σ)
  /-- `cb_err`, with the error that the message carries -/
  err : Option (Int → MsgCb σ)

/-- `nl_cb_alloc(NL_CB_DEFAULT)` -/
def NlCb.default {σ : Type} : NlCb σ :=
  ⟨none, none, none, none, none, none, none, none, none, none, none⟩

/-- the variables of `recvmsgs`, its socket, and the argument of the callbacks -/
structure Recv (σ : Type) where
  sk : SockSeq
  multipart : Bool
  interrupted : Bool
  nrecv : Int
  arg : σ
  deriving DecidableEq, Repr

/-- how the body of the loop is left: to the next message, or out of the loop -/
inductive Exit where
  | skip
  | stop
  | out (err : Int)
  deriving DecidableEq, Repr

abbrev RecvM (σ : Type) := ExceptT Exit (StateM (Recv σ))

namespace RecvM
variable {σ α β : Type}

/-- a part of the loop is run -/
def exec (x : RecvM σ α) (r : Recv σ) : Except Exit α × Recv σ := x r

@[simp] lemma exec_pure (a : α) (r : Recv σ) : exec (pure a) r = (.ok a, r) := rfl

@[simp] lemma exec_throw (e : Exit) (r : Recv σ) :
    exec (throw e : RecvM σ α) r = (.error e, r) := rfl

@[simp] lemma exec_get (r : Recv σ) : exec get r = (.ok r, r) := rfl

@[simp] lemma exec_modify (f : Recv σ → Recv σ) (r : Recv σ) :
    exec (modify f) r = (.ok ⟨⟩, f r) := rfl

@[simp] lemma exec_modifyGet (f : Recv σ → α × Recv σ) (r : Recv σ) :
    exec (modifyGet f) r = (.ok (f r).1, (f r).2) := rfl

lemma exec_bind_ok {x : RecvM σ α} {r r' : Recv σ} {a : α} (h : exec x r = (.ok a, r'))
    (f : α → RecvM σ β) : exec (x >>= f) r = exec (f a) r' := by
  show ExceptT.bindCont f (exec x r).1 (exec x r).2 = _
  rw [h]
  rfl

lemma exec_bind_error {x : RecvM σ α} {r r' : Recv σ} {e : Exit} (h : exec x r = (.error e, r'))
    (f : α → RecvM σ β) : exec (x >>= f) r = (.error e, r') := by
  show ExceptT.bindCont f (exec x r).1 (exec x r).2 = _
  rw [h]
  rfl

lemma exec_ite (p : Prop) [Decidable p] (x y : RecvM σ α) (r : Recv σ) :
    exec (if p then x else y) r = if p then exec x r else exec y r := by
  split
  · rfl
  · rfl

end RecvM

/-! ## one message -/

section
variable {σ : Type} (cb : NlCb σ) (msg : Nlmsg)

/-- the `switch` of `NL_CB_CALL` -/
def exitOf (err : Int) : RecvM σ Unit :=
  if err = NL_OK then pure ()
  else if err = NL_SKIP then throw .skip
  else if err = NL_STOP then throw .stop
  else throw (.out err)

/-- `NL_CB_CALL` -/
def nlCbCall (f : MsgCb σ) : RecvM σ Unit := do
  let err ← modifyGet fun r => ((f msg r.arg).1, { r with arg := (f msg r.arg).2 })
  exitOf err

/-- the callback, where it is set, and what is done without it -/
def orElse (f : Option (MsgCb σ)) (unset : RecvM σ Unit) : RecvM σ Unit :=
  match f with
  | some f => nlCbCall msg f
  | none => unset

/-- the check of the sequence number -/
def checkSeq : RecvM σ Unit :=
  orElse msg cb.seqCheck do
    let r ← get
    if !r.sk.noAutoAck && msg.nlmsgSeq != r.sk.sSeqExpect then
      orElse msg cb.invalid (throw (.out (-NLE_SEQ_MISMATCH)))
    else pure ()

/-- the messages that end an answer -/
def Nlmsg.endsAnswer : Bool :=
  msg.nlmsgType == NLMSG_DONE || msg.nlmsgType == NLMSG_ERROR || msg.nlmsgType == NLMSG_NOOP ||
    msg.nlmsgType == NLMSG_OVERRUN

def advanceExpect (sk : SockSeq) : SockSeq := { sk with sSeqExpect := sk.sSeqExpect + 1 }

/-- `error` of the `struct nlmsgerr` that a message carries -/
def Nlmsg.error : Int := (u32Of msg.payload).toInt32.toInt

/-- what is made of the answer `err` of `cb_err` to an error -/
def exitOfErr (error err : Int) : RecvM σ Unit :=
  if err < 0 then throw (.out err)
  else if err = NL_SKIP then throw .skip
  else if err = NL_STOP then throw (.out (-nlSyserr2nlerr error))
  else pure ()

/-- the branch of `NLMSG_ERROR` -/
def handleError : RecvM σ Unit :=
  if msg.len < NLMSG_HDRLEN + 20 then
    orElse msg cb.invalid (throw (.out (-NLE_MSG_TRUNC)))
  else if msg.error ≠ 0 then
    match cb.err with
    | some f => do
      let err ← modifyGet fun r =>
        ((f msg.error msg r.arg).1, { r with arg := (f msg.error msg r.arg).2 })
      exitOfErr msg.error err
    | none => throw (.out (-nlSyserr2nlerr msg.error))
  else orElse msg cb.ack (pure ())

/-- the flags of a message -/
def noteFlags : RecvM σ Unit := do
  modify fun r => { r with multipart := r.multipart || msg.has NLM_F_MULTI }
  if msg.has NLM_F_DUMP_INTR then
    orElse msg cb.dumpIntr (modify fun r => { r with interrupted := true })
  else pure ()

/-- the other side wants to know that the message came -/
def answerAck : RecvM σ Unit :=
  if msg.has NLM_F_ACK then orElse msg cb.sendAck (pure ()) else pure ()

/-- what is done for the type of a message -/
def handleType : RecvM σ Unit :=
  if msg.nlmsgType = NLMSG_DONE then do
    modify fun r => { r with multipart := false }
    orElse msg cb.finish (pure ())
  else if msg.nlmsgType = NLMSG_NOOP then orElse msg cb.skipped (throw .skip)
  else if msg.nlmsgType = NLMSG_OVERRUN then
    orElse msg cb.overrun (throw (.out (-NLE_MSG_OVERFLOW)))
  else if msg.nlmsgType = NLMSG_ERROR then handleError cb msg
  else orElse msg cb.valid (pure ())

/-- the body of the loop of `recvmsgs` -/
def handleMsg : RecvM σ Unit := do
  modify fun r => { r with nrecv := r.nrecv + 1 }
  orElse msg cb.msgIn (pure ())
  checkSeq cb msg
  modify fun r => if msg.endsAnswer then { r with sk := advanceExpect r.sk } else r
  noteFlags cb msg
  answerAck cb msg
  handleType cb msg

end

/-! ## reading -/

section
variable {σ : Type} (cb : NlCb σ)

/-- where the body of the loop leaves the loop, the error that is left with -/
def leaves : Except Exit Unit → Option Int
  | .ok () => none
  | .error .skip => none
  | .error .stop => some 0
  | .error (.out err) => some err

/-- the loop of `recvmsgs` over the messages of a buffer: an error where it was left, and nothing
where the buffer came to its end -/
def handleMsgs : List Nlmsg → Recv σ → Option Int × Recv σ
  | [], r => (none, r)
  | msg :: msgs, r =>
    let (e, r) := (handleMsg cb msg).exec r
    match leaves e with
    | none => handleMsgs msgs r
    | some err => (some err, r)

/-- what `recvmsgs` returns -/
def Recv.result (r : Recv σ) (err : Int) : Int :=
  let err := if r.interrupted then -NLE_DUMP_INTR else err
  if err = 0 then r.nrecv else err

/-- `recvmsgs` from `continue_reading` on.  A socket on which nothing arrives any more does not
return, unless it is non-blocking. -/
def recvLoop (nonblocking : Bool) : List Arrival → Recv σ → Option (Int × Recv σ × List Arrival)
  | [], r => if nonblocking then some (-NLE_AGAIN, r, []) else none
  | .error code :: queue, r => some (code, r, queue)
  | .data buf :: queue, r =>
    if buf = [] then some (0, r, queue)
    else
      match handleMsgs cb (nlmsgs buf) r with
      | (some err, r) => some (r.result err, r, queue)
      | (none, r) =>
        if r.multipart then recvLoop nonblocking queue r else some (r.result 0, r, queue)

def recvmsgs (nonblocking : Bool) (sk : SockSeq) (arg : σ) (queue : List Arrival) :
    Option (Int × Recv σ × List Arrival) :=
  recvLoop cb nonblocking queue ⟨sk, false, false, 0, arg⟩

/-- `nl_recvmsgs` -/
def nlRecvmsgs (nonblocking : Bool) (sk : SockSeq) (arg : σ) (queue : List Arrival) :
    Option (Int × Recv σ × List Arrival) :=
  (recvmsgs cb nonblocking sk arg queue).map fun (err, rest) => (if err > 0 then 0 else err, rest)

end

/-! ## requests -/

/-- `nl_complete_msg`: the number that a request is given -/
def nlCompleteMsg (sk : SockSeq) : UInt32 × SockSeq :=
  (sk.sSeqNext, { sk with sSeqNext := sk.sSeqNext + 1 })

end Nl
