import ConfdbHsr.Lib.Line
import ConfdbHsr.Libnl.Socket

/-!
# Answers of the kernel (`lib/nl.c`)

The kernel answers a request with some datagrams, of which the last ends with the message that ends
the answer.  What the readers of the library make of an answer does not need the sequence numbers;
`recvmsgs` on a socket where the right answer comes next agrees.

* `Reader`         the callbacks that a reader sets, as `nl_wait_for_ack` and `__cache_pickup` do;
* `Reply`          an answer of the kernel, whose messages get their number when it is sent;
* `Reader.hear`    what a reader makes of an answer, and what it leaves of it;
* `Session`        a socket, and what has arrived on it;
* `recvLoop_parts` `recvmsgs` does what `Reader.hear` says.
-/

namespace Nl
open Line RecvM

/-! ## readers -/

/-- the callbacks that are set to wait for an answer; they look at the type and at the payload of a
message, and at the error that it carries -/
structure Reader (σ : Type) where
  valid : Option (UInt16 → List UInt8 → σ → Int × σ)
  ack : Option (σ → Int × σ)
  cbErr : Option (Int → σ → Int × σ)

/-- `nl_wait_for_ack`: the callback is `ack_wait_handler` -/
def waitForAck {σ : Type} : Reader σ := ⟨none, some fun arg => (NL_STOP, arg), none⟩

/-- `__cache_pickup` -/
def cachePickup {σ : Type} (updateMsgParser : UInt16 → List UInt8 → σ → Int × σ) : Reader σ :=
  ⟨some updateMsgParser, none, none⟩

section
variable {σ : Type} (rd : Reader σ)

def Reader.cb : NlCb σ :=
  { NlCb.default with
    valid := rd.valid.map fun f msg => f msg.nlmsgType msg.payload
    ack := rd.ack.map fun f _ => f
    err := rd.cbErr.map fun f error _ => f error }

end

/-! ## answers -/

lemma mem_cons_of_drop {α : Type} {a b : α} {l : List α} {k : Nat} (h : b ∈ a :: l.drop k) :
    b ∈ a :: l := by
  rcases List.mem_cons.mp h with rfl | h
  · exact List.mem_cons_self
  · exact List.mem_cons_of_mem _ (List.mem_of_mem_drop h)

/-- the message with the number that it is sent with -/
def Nlmsg.number (seq : UInt32) (msg : Nlmsg) : Nlmsg := { msg with nlmsgSeq := seq }

/-- An answer: the datagrams before the last, and what is in the last.  Unless the answer ends with
`NLMSG_DONE` it is no multipart message. -/
structure Reply where
  parts : List (List Nlmsg)
  last : List Nlmsg
  fin : Nlmsg
  parts_ne : ∀ part ∈ parts, part ≠ []
  body : ∀ part ∈ last :: parts, ∀ msg ∈ part, msg.endsAnswer = false
  fits : ∀ part ∈ (last ++ [fin]) :: parts, ∀ msg ∈ part, msg.Fits
  ends : fin.nlmsgType = NLMSG_DONE ∨ fin.nlmsgType = NLMSG_ERROR ∧
    ∀ part ∈ (last ++ [fin]) :: parts, ∀ msg ∈ part, msg.has NLM_F_MULTI = false

namespace Reply
variable (r : Reply)

/-- what is left of an answer when `k` datagrams have been read -/
def rest (k : Nat) : Reply where
  parts := r.parts.drop k
  last := r.last
  fin := r.fin
  parts_ne part h := r.parts_ne part (List.mem_of_mem_drop h)
  body part h := r.body part (mem_cons_of_drop h)
  fits part h := r.fits part (mem_cons_of_drop h)
  ends := r.ends.imp_right fun h => ⟨h.1, fun part hp => h.2 part (mem_cons_of_drop hp)⟩

/-- what is left of an answer, where a reader has said how many datagrams it read -/
def left : Left Nat → Left Reply
  | .nothing => .nothing
  | .rest k => .rest (r.rest k)
  | .lost => .lost

def datagram (seq : UInt32) (part : List Nlmsg) : Arrival :=
  .data (encodeMsgs (part.map (Nlmsg.number seq)))

/-- the datagrams of an answer to the request with this number -/
def arrivals (seq : UInt32) : List Arrival :=
  (r.parts ++ [r.last ++ [r.fin]]).map (datagram seq)

/-- an acknowledgement: `struct nlmsgerr` with the header of the request -/
def ack (error : UInt32) (header : Vector UInt8 16) : Reply where
  parts := []
  last := []
  fin := ⟨NLMSG_ERROR, 0, 0, 0, u32Bytes error ++ header.toList⟩
  parts_ne := by simp
  body := by simp
  fits := by
    intro part hpart msg hmsg
    rw [List.mem_singleton.mp hpart, List.nil_append] at hmsg
    rw [List.mem_singleton.mp hmsg, Nlmsg.Fits, Nlmsg.len, List.length_append, length_u32Bytes,
      Vector.length_toList]
    decide
  ends := by
    refine Or.inr ⟨rfl, fun part hpart msg hmsg => ?_⟩
    rw [List.mem_singleton.mp hpart, List.nil_append] at hmsg
    rw [List.mem_singleton.mp hmsg]
    show (0 &&& NLM_F_MULTI != 0) = false
    decide

end Reply

/-! ## what a reader makes of an answer -/

/-- what a reader knows of an answer while it reads -/
structure Heard (σ : Type) where
  multipart : Bool
  interrupted : Bool
  arg : σ

section
variable {σ : Type}

/-- the flags of a message -/
def Heard.note (h : Heard σ) (msg : Nlmsg) : Heard σ :=
  { h with
    multipart := h.multipart || msg.has NLM_F_MULTI
    interrupted := h.interrupted || msg.has NLM_F_DUMP_INTR }

/-- what `nl_recvmsgs` returns for `err` -/
def Heard.outcome (h : Heard σ) (err : Int) : Int × σ :=
  (if h.interrupted then -NLE_DUMP_INTR else min err 0, h.arg)

namespace Reader
variable (rd : Reader σ)

/-- the messages before the end of an answer, and the error at which the reader stops -/
def heed : List Nlmsg → Heard σ → Option Int × Heard σ
  | [], h => (none, h)
  | msg :: msgs, h =>
    match rd.valid with
    | none => heed msgs (h.note msg)
    | some f =>
      let p := f msg.nlmsgType msg.payload h.arg
      let h := { h.note msg with arg := p.2 }
      if p.1 = NL_OK ∨ p.1 = NL_SKIP then heed msgs h
      else (some (if p.1 = NL_STOP then 0 else p.1), h)

/-- an error of the kernel; `NL_STOP` stands for the error itself -/
def heedError (error : Int) (arg : σ) : Int × σ :=
  match rd.cbErr with
  | none => (-nlSyserr2nlerr error, arg)
  | some f =>
    if (f error arg).1 = NL_STOP then (-nlSyserr2nlerr error, (f error arg).2) else f error arg

def heedAck (arg : σ) : Int × σ :=
  match rd.ack with
  | none => (0, arg)
  | some f => f arg

/-- the end of an answer -/
def heedEnd (fin : Nlmsg) (arg : σ) : Int × σ :=
  if fin.nlmsgType = NLMSG_DONE then (0, arg)
  else if fin.len < NLMSG_HDRLEN + 20 then (-NLE_MSG_TRUNC, arg)
  else if fin.error ≠ 0 then rd.heedError fin.error arg
  else rd.heedAck arg

/-- the datagrams of an answer, `k` of which have been read -/
def hearParts (last : List Nlmsg) (fin : Nlmsg) :
    Nat → List (List Nlmsg) → Heard σ → (Int × σ) × Left Nat
  | _, [], h =>
    match rd.heed last h with
    | (some err, h) => (h.outcome err, .lost)
    | (none, h) =>
      let p := rd.heedEnd fin h.arg
      ({ h.note fin with arg := p.2 }.outcome p.1, .nothing)
  | k, part :: parts, h =>
    match rd.heed part h with
    | (some err, h) => (h.outcome err, .rest (k + 1))
    | (none, h) =>
      if h.multipart then hearParts last fin (k + 1) parts h else (h.outcome 0, .rest (k + 1))

/-- an answer from its first datagram on -/
def hear (arg : σ) (r : Reply) : (Int × σ) × Left Reply :=
  let p := rd.hearParts r.last r.fin 0 r.parts ⟨false, false, arg⟩
  (p.1, r.left p.2)

end Reader

/-- readers with their argument, and the answers of the kernel -/
def hearing : Hearing Reply (Reader σ × σ) (Int × σ) where
  hear reader r := reader.1.hear reader.2 r
  pieces r := r.parts.length + 1
  mismatch reader := (-NLE_SEQ_MISMATCH, reader.2)

end

/-! ## acknowledgements -/

lemma nlSyserr2nlerr_pos (error : Int) : 0 < nlSyserr2nlerr error := by
  rw [nlSyserr2nlerr]
  split <;> decide

/-- `nl_wait_for_ack` returns the error of an acknowledgement, as an error of the library -/
theorem waitForAck_ack {σ : Type} (arg : σ) (error : UInt32) (header : Vector UInt8 16) :
    waitForAck.hear arg (Reply.ack error header) =
      ((if error.toInt32.toInt = 0 then 0 else -nlSyserr2nlerr error.toInt32.toInt, arg),
        .nothing) := by
  have herror : (Reply.ack error header).fin.error = error.toInt32.toInt := by
    show (u32Of (u32Bytes error ++ header.toList)).toInt32.toInt = _
    rw [u32Of_append]
  have hlen : ¬ (Reply.ack error header).fin.len < NLMSG_HDRLEN + 20 := by
    show ¬ NLMSG_HDRLEN + (u32Bytes error ++ header.toList).length < _
    rw [List.length_append, length_u32Bytes, Vector.length_toList]
    decide
  have hend : waitForAck.heedEnd (Reply.ack error header).fin arg =
      (if error.toInt32.toInt = 0 then NL_STOP else -nlSyserr2nlerr error.toInt32.toInt, arg) := by
    have htype : (Reply.ack error header).fin.nlmsgType ≠ NLMSG_DONE :=
      (by decide : NLMSG_ERROR ≠ NLMSG_DONE)
    rw [Reader.heedEnd, if_neg htype, if_neg hlen, herror]
    by_cases hzero : error.toInt32.toInt = 0
    · rw [if_neg (not_not.mpr hzero), if_pos hzero]
      rfl
    · rw [if_pos hzero, if_neg hzero]
      rfl
  have hpos := nlSyserr2nlerr_pos error.toInt32.toInt
  have hintr : (Reply.ack error header).fin.has NLM_F_DUMP_INTR = false := by
    show ((0 : UInt16) &&& NLM_F_DUMP_INTR != 0) = false
    decide
  show ((if (false || (Reply.ack error header).fin.has NLM_F_DUMP_INTR) then -NLE_DUMP_INTR
    else min (waitForAck.heedEnd (Reply.ack error header).fin arg).1 0,
      (waitForAck.heedEnd (Reply.ack error header).fin arg).2), Left.nothing) = _
  rw [hend, hintr]
  show ((min (if error.toInt32.toInt = 0 then NL_STOP else _) 0, arg), Left.nothing) = _
  split_ifs with hzero
  · rfl
  · congr 2
    omega

/-! ## a socket -/

/-- a socket, and what has arrived on it -/
structure Session where
  sk : SockSeq
  queue : List Arrival
  deriving DecidableEq, Repr

/-- `__alloc_socket` -/
def Session.start (time : UInt32) : Session := ⟨⟨time, time, false⟩, []⟩

/-- a request is sent, and answered by the kernel; no answer comes to a request that is not sent -/
def Session.send (answer : Option Reply) (s : Session) : Session :=
  let (seq, sk) := nlCompleteMsg s.sk
  ⟨sk, s.queue ++ match answer with
    | none => []
    | some r => r.arrivals seq⟩

section
variable {σ : Type}

/-- `nl_recvmsgs` with the callbacks of a reader -/
def Session.read (reader : Reader σ × σ) (s : Session) : Option ((Int × σ) × Session) :=
  (nlRecvmsgs reader.1.cb false s.sk reader.2 s.queue).map fun p =>
    ((p.1, p.2.1.arg), ⟨p.2.1.sk, p.2.2⟩)

def Session.step (s : Session) :
    Call Reply (Reader σ × σ) → Option (List (Int × σ) × Session)
  | .ask answer reader => ((s.send (some answer)).read reader).map fun p => ([p.1], p.2)
  | .unsent => some ([], s.send none)
  | .read reader => (s.read reader).map fun p => ([p.1], p.2)

def Session.run (s : Session) :
    List (Call Reply (Reader σ × σ)) → Option (List (Int × σ) × Session)
  | [] => some ([], s)
  | call :: calls =>
    (s.step call).bind fun p => (p.2.run calls).map fun q => (p.1 ++ q.1, q.2)

end

/-! ## the messages of an answer -/

def Heard.recv {σ : Type} (h : Heard σ) (sk : SockSeq) (n : Nat) : Recv σ :=
  ⟨sk, h.multipart, h.interrupted, n, h.arg⟩

section
variable {σ : Type} (rd : Reader σ) (sk : SockSeq) {msg : Nlmsg} (h : Heard σ) (n : Nat)

lemma noteFlags_exec (r : Recv σ) :
    (noteFlags rd.cb msg).exec r = (.ok (), { r with
      multipart := r.multipart || msg.has NLM_F_MULTI
      interrupted := r.interrupted || msg.has NLM_F_DUMP_INTR }) := by
  rw [noteFlags, exec_bind_ok (exec_modify _ r), exec_ite]
  cases hintr : msg.has NLM_F_DUMP_INTR
  · simp
  · simp [orElse, Reader.cb, NlCb.default]

lemma msgIn_exec (r : Recv σ) : (orElse msg rd.cb.msgIn (pure ())).exec r = (.ok (), r) := rfl

lemma handleMsg_expected (hseq : msg.nlmsgSeq = sk.sSeqExpect) :
    (handleMsg rd.cb msg).exec (h.recv sk n) =
      (handleType rd.cb msg).exec
        ((h.note msg).recv (if msg.endsAnswer then advanceExpect sk else sk) (n + 1)) := by
  have hcheck : ∀ r : Recv σ, r.sk = sk → (checkSeq rd.cb msg).exec r = (.ok (), r) := by
    intro r hr
    show (get >>= _ : RecvM σ Unit).exec r = _
    rw [exec_bind_ok (exec_get r), exec_ite, if_neg]
    · rfl
    · simp [hr, hseq]
  have hack : ∀ r : Recv σ, (answerAck rd.cb msg).exec r = (.ok (), r) := by
    intro r
    rw [answerAck, exec_ite]
    split_ifs <;> rfl
  rw [handleMsg, exec_bind_ok (exec_modify _ _), exec_bind_ok (msgIn_exec rd _),
    exec_bind_ok (hcheck _ rfl), exec_bind_ok (exec_modify _ _),
    exec_bind_ok (noteFlags_exec rd _), exec_bind_ok (hack _)]
  congr 1
  cases msg.endsAnswer <;> simp [Heard.recv, Heard.note]

lemma nlCbCall_exec (f : MsgCb σ) (r : Recv σ) :
    (nlCbCall msg f).exec r = (exitOf (f msg r.arg).1).exec { r with arg := (f msg r.arg).2 } :=
  exec_bind_ok (exec_modifyGet _ r) _

lemma handleType_body (hbody : msg.endsAnswer = false) (r : Recv σ) :
    (handleType rd.cb msg).exec r =
      match rd.valid with
      | none => (.ok (), r)
      | some f => (exitOf (f msg.nlmsgType msg.payload r.arg).1).exec
          { r with arg := (f msg.nlmsgType msg.payload r.arg).2 } := by
  simp only [Nlmsg.endsAnswer, Bool.or_eq_false_iff, beq_eq_false_iff_ne] at hbody
  obtain ⟨⟨⟨hdone, herror⟩, hnoop⟩, hoverrun⟩ := hbody
  rw [handleType, if_neg hdone, if_neg hnoop, if_neg hoverrun, if_neg herror]
  cases hvalid : rd.valid with
  | none => simp [orElse, Reader.cb, hvalid]
  | some f => simp [orElse, Reader.cb, hvalid, nlCbCall_exec]



lemma handleMsg_unheard (hvalid : rd.valid = none) (hbody : msg.endsAnswer = false) :
    (handleMsg rd.cb (msg.number sk.sSeqExpect)).exec (h.recv sk n) =
      (.ok (), (h.note msg).recv sk (n + 1)) := by
  have hbody' : (msg.number sk.sSeqExpect).endsAnswer = false := hbody
  rw [handleMsg_expected rd sk h n rfl, handleType_body rd hbody', hbody', hvalid]
  rfl

lemma handleMsg_heard {f : UInt16 → List UInt8 → σ → Int × σ} (hvalid : rd.valid = some f)
    (hbody : msg.endsAnswer = false) :
    (handleMsg rd.cb (msg.number sk.sSeqExpect)).exec (h.recv sk n) =
      (exitOf (f msg.nlmsgType msg.payload h.arg).1).exec
        ({ h.note msg with arg := (f msg.nlmsgType msg.payload h.arg).2 }.recv sk (n + 1)) := by
  have hbody' : (msg.number sk.sSeqExpect).endsAnswer = false := hbody
  rw [handleMsg_expected rd sk h n rfl, handleType_body rd hbody', hbody', hvalid]
  rfl

lemma exitOf_leaves (err : Int) (r : Recv σ) :
    ∃ e, (exitOf err).exec r = (e, r) ∧
      leaves e = if err = NL_OK ∨ err = NL_SKIP then none
        else some (if err = NL_STOP then 0 else err) := by
  rw [exitOf]
  by_cases hok : err = NL_OK
  · exact ⟨.ok (), by rw [if_pos hok]; rfl, by rw [if_pos (Or.inl hok)]; rfl⟩
  by_cases hskip : err = NL_SKIP
  · refine ⟨.error .skip, ?_, ?_⟩
    · rw [if_neg hok, if_pos hskip]
      rfl
    · rw [if_pos (Or.inr hskip)]
      rfl
  by_cases hstop : err = NL_STOP
  · refine ⟨.error .stop, ?_, ?_⟩
    · rw [if_neg hok, if_neg hskip, if_pos hstop]
      rfl
    · rw [if_neg (not_or.mpr ⟨hok, hskip⟩), if_pos hstop]
      rfl
  · refine ⟨.error (.out err), ?_, ?_⟩
    · rw [if_neg hok, if_neg hskip, if_neg hstop]
      rfl
    · rw [if_neg (not_or.mpr ⟨hok, hskip⟩), if_neg hstop]
      rfl

lemma handleMsgs_heed {msgs : List Nlmsg} (hbody : ∀ msg ∈ msgs, msg.endsAnswer = false)
    (rest : List Nlmsg) :
    ∃ k : Nat, handleMsgs rd.cb (msgs.map (Nlmsg.number sk.sSeqExpect) ++ rest) (h.recv sk n) =
      match rd.heed msgs h with
      | (some err, h) => (some err, h.recv sk k)
      | (none, h) => handleMsgs rd.cb rest (h.recv sk k) := by
  induction msgs generalizing h n with
  | nil => exact ⟨n, rfl⟩
  | cons msg msgs ih =>
    have hmsg := hbody msg List.mem_cons_self
    have ih := fun h n => ih h n fun a ha => hbody a (List.mem_cons_of_mem msg ha)
    rw [List.map_cons, List.cons_append, handleMsgs, Reader.heed]
    cases hvalid : rd.valid with
    | none =>
      rw [handleMsg_unheard rd sk h n hvalid hmsg]
      exact ih (h.note msg) (n + 1)
    | some f =>
      obtain ⟨e, hexec, hleaves⟩ := exitOf_leaves (f msg.nlmsgType msg.payload h.arg).1
        ({ h.note msg with arg := (f msg.nlmsgType msg.payload h.arg).2 }.recv sk (n + 1))
      rw [handleMsg_heard rd sk h n hvalid hmsg, hexec]
      simp only [hleaves]
      split_ifs with hgo
      · exact ih _ (n + 1)
      · exact ⟨n + 1, rfl⟩
      · exact ⟨n + 1, rfl⟩

lemma clamp_result (n : Nat) (err : Int) :
    (if (h.recv sk n).result err > 0 then 0 else (h.recv sk n).result err) = (h.outcome err).1 := by
  obtain ⟨multipart, interrupted, arg⟩ := h
  cases interrupted with
  | true => rfl
  | false =>
    show (if (if err = 0 then (n : Int) else err) > 0 then 0
      else if err = 0 then (n : Int) else err) = min err 0
    split_ifs <;> omega

/-- what the loop makes of the end of an answer: it stops with `o`, or there is nothing more -/
def Ends (o : Option Int) (h h' : Heard σ) (p : Int × σ) : Prop :=
  (o = none → h'.multipart = h.multipart) ∧
    h'.outcome (o.getD 0) = { h with arg := p.2 }.outcome p.1

lemma outcome_nonneg {err : Int} (herr : 0 ≤ err) : h.outcome err = h.outcome 0 := by
  have hmin : min err 0 = min 0 0 := by omega
  rw [Heard.outcome, Heard.outcome, hmin]

lemma handleAck_ends :
    ∃ e h', (orElse msg rd.cb.ack (pure ())).exec (h.recv sk n) = (e, h'.recv sk n) ∧
      Ends (leaves e) h h' (rd.heedAck h.arg) := by
  rw [Reader.heedAck, Reader.cb]
  cases rd.ack with
  | none => exact ⟨.ok (), h, rfl, fun _ => rfl, rfl⟩
  | some f =>
    obtain ⟨e, hexec, hleaves⟩ :=
      exitOf_leaves (f h.arg).1 ({ h with arg := (f h.arg).2 }.recv sk n)
    refine ⟨e, { h with arg := (f h.arg).2 }, ?_, fun _ => rfl, ?_⟩
    · show (nlCbCall msg fun _ => f).exec (h.recv sk n) = _
      rw [nlCbCall_exec]
      exact hexec
    · show _ = Heard.outcome { h with arg := (f h.arg).2 } (f h.arg).1
      rw [hleaves]
      split_ifs with hgo hstop
      · rcases hgo with hgo | hgo
        · rw [hgo]
          rfl
        · rw [hgo, outcome_nonneg]
          · rfl
          · decide
      · rw [hstop, outcome_nonneg _ (show 0 ≤ NL_STOP by decide)]
        rfl
      · rfl

lemma exitOfErr_ends (error err : Int) :
    ∃ e, (exitOfErr error err).exec (h.recv sk n) = (e, h.recv sk n) ∧
      h.outcome ((leaves e).getD 0) =
        h.outcome (if err = NL_STOP then -nlSyserr2nlerr error else err) := by
  rw [exitOfErr]
  by_cases hneg : err < 0
  · have hstop : err ≠ NL_STOP := by
      rintro rfl
      revert hneg
      decide
    rw [if_pos hneg, if_neg hstop]
    exact ⟨.error (.out err), rfl, rfl⟩
  rw [if_neg hneg]
  by_cases hskip : err = NL_SKIP
  · subst hskip
    rw [if_pos rfl, if_neg (by decide)]
    exact ⟨.error .skip, rfl, (outcome_nonneg _ (by decide)).symm⟩
  rw [if_neg hskip]
  by_cases hstop : err = NL_STOP
  · rw [if_pos hstop, if_pos hstop]
    exact ⟨.error (.out _), rfl, rfl⟩
  · rw [if_neg hstop, if_neg hstop]
    exact ⟨.ok (), rfl, (outcome_nonneg _ (Int.not_lt.mp hneg)).symm⟩

lemma handleErr_ends (hlen : ¬ msg.len < NLMSG_HDRLEN + 20) (herror : msg.error ≠ 0) :
    ∃ e h', (handleError rd.cb msg).exec (h.recv sk n) = (e, h'.recv sk n) ∧
      Ends (leaves e) h h' (rd.heedError msg.error h.arg) := by
  rw [handleError, if_neg hlen, if_pos herror, Reader.heedError, Reader.cb]
  cases rd.cbErr with
  | none => exact ⟨.error (.out _), h, rfl, fun h => (by cases h), rfl⟩
  | some f =>
    obtain ⟨e, hexec, hout⟩ := exitOfErr_ends sk { h with arg := (f msg.error h.arg).2 } n
      msg.error (f msg.error h.arg).1
    refine ⟨e, { h with arg := (f msg.error h.arg).2 }, ?_, fun _ => rfl, ?_⟩
    · show RecvM.exec (modifyGet _ >>= _) _ = _
      rw [exec_bind_ok (exec_modifyGet _ _)]
      exact hexec
    · rw [hout]
      show _ = Heard.outcome { h with arg := Prod.snd (if _ then _ else _) }
        (Prod.fst (if _ then _ else _))
      split_ifs <;> rfl

lemma handleError_ends (hdone : msg.nlmsgType ≠ NLMSG_DONE) :
    ∃ e h', (handleError rd.cb msg).exec (h.recv sk n) = (e, h'.recv sk n) ∧
      Ends (leaves e) h h' (rd.heedEnd msg h.arg) := by
  rw [Reader.heedEnd, if_neg hdone]
  by_cases hlen : msg.len < NLMSG_HDRLEN + 20
  · rw [if_pos hlen, handleError, if_pos hlen]
    exact ⟨.error (.out _), h, rfl, fun h => (by cases h), rfl⟩
  rw [if_neg hlen]
  by_cases herror : msg.error ≠ 0
  · rw [if_pos herror]
    exact handleErr_ends rd sk h n hlen herror
  · rw [if_neg herror, handleError, if_neg hlen, if_neg herror]
    exact handleAck_ends rd sk h n

lemma handleType_fin (fin : Nlmsg) (hends : fin.nlmsgType = NLMSG_DONE ∨
    fin.nlmsgType = NLMSG_ERROR ∧ h.multipart = false) :
    ∃ (e : Except Exit Unit) (h' : Heard σ),
      (handleType rd.cb fin).exec (h.recv sk n) = (e, h'.recv sk n) ∧
      (leaves e = none → h'.multipart = false) ∧ h'.outcome ((leaves e).getD 0) =
        { h with arg := (rd.heedEnd fin h.arg).2 }.outcome (rd.heedEnd fin h.arg).1 := by
  rcases hends with htype | ⟨htype, hsingle⟩
  · rw [Reader.heedEnd, if_pos htype]
    refine ⟨.ok (), { h with multipart := false }, ?_, fun _ => rfl, rfl⟩
    rw [handleType, if_pos htype, exec_bind_ok (exec_modify _ _)]
    rfl
  · have hne : fin.nlmsgType ≠ NLMSG_DONE := by
      rw [htype]
      decide
    obtain ⟨e, h', hexec, hmulti, hout⟩ := handleError_ends rd sk h n hne
    refine ⟨e, h', ?_, fun he => ?_, hout⟩
    · rw [handleType, if_neg hne, if_neg (by rw [htype]; decide), if_neg (by rw [htype]; decide),
        if_pos htype]
      exact hexec
    · rw [hmulti he]
      exact hsingle

lemma handleMsgs_fin (fin : Nlmsg) (hends : fin.nlmsgType = NLMSG_DONE ∨
    fin.nlmsgType = NLMSG_ERROR ∧ (h.note fin).multipart = false) :
    ∃ (o : Option Int) (h' : Heard σ), handleMsgs rd.cb [fin.number sk.sSeqExpect] (h.recv sk n) =
        (o, h'.recv (advanceExpect sk) (n + 1)) ∧ (o = none → h'.multipart = false) ∧
      h'.outcome (o.getD 0) =
        { h.note fin with arg := (rd.heedEnd fin h.arg).2 }.outcome (rd.heedEnd fin h.arg).1 := by
  have hend : (fin.number sk.sSeqExpect).endsAnswer = true := by
    show fin.endsAnswer = true
    rcases hends with htype | ⟨htype, -⟩
    · rw [Nlmsg.endsAnswer, htype]
      rfl
    · rw [Nlmsg.endsAnswer, htype]
      rfl
  obtain ⟨e, h', hexec, hrest⟩ := handleType_fin rd (advanceExpect sk) (h.note fin) (n + 1)
    (fin.number sk.sSeqExpect) hends
  refine ⟨leaves e, h', ?_, hrest⟩
  rw [handleMsgs, handleMsg_expected rd sk h n rfl, hend, if_pos rfl]
  have hexec' : (handleType rd.cb (fin.number sk.sSeqExpect)).exec
      ((h.note (fin.number sk.sSeqExpect)).recv (advanceExpect sk) (n + 1)) =
        (e, h'.recv (advanceExpect sk) (n + 1)) := hexec
  rw [hexec']
  cases hleaves : leaves e with
  | none => simp only [hleaves, handleMsgs]
  | some err => simp only [hleaves]

/-! ## reading -/

lemma encodeMsgs_ne {msgs : List Nlmsg} (hne : msgs ≠ []) : encodeMsgs msgs ≠ [] := by
  intro heq
  have hlen := length_encodeMsgs msgs
  rw [heq] at hlen
  exact hne (List.length_eq_zero_iff.mp (Nat.le_zero.mp hlen))

/-- the first datagram that has arrived is read -/
lemma recvLoop_datagram {part : List Nlmsg} (hne : part ≠ []) (hfits : ∀ msg ∈ part, msg.Fits)
    (cb : NlCb σ) (seq : UInt32) (queue : List Arrival) (r : Recv σ) :
    recvLoop cb false (Reply.datagram seq part :: queue) r =
      match handleMsgs cb (part.map (Nlmsg.number seq)) r with
      | (some err, r) => some (r.result err, r, queue)
      | (none, r) =>
        if r.multipart then recvLoop cb false queue r else some (r.result 0, r, queue) := by
  have hne' : part.map (Nlmsg.number seq) ≠ [] := by simpa using hne
  have hfits' : ∀ msg ∈ part.map (Nlmsg.number seq), msg.Fits := by
    intro msg hmsg
    obtain ⟨msg', hmsg', rfl⟩ := List.mem_map.mp hmsg
    exact hfits msg' hmsg'
  rewrite [Reply.datagram, recvLoop, if_neg (encodeMsgs_ne hne'), nlmsgs_encode hfits']
  rfl

/-- a reader that meets no multipart message notes none -/
lemma heed_single {msgs : List Nlmsg} (hmsgs : ∀ msg ∈ msgs, msg.has NLM_F_MULTI = false)
    {h : Heard σ} (hh : h.multipart = false) : (rd.heed msgs h).2.multipart = false := by
  induction msgs generalizing h with
  | nil => exact hh
  | cons msg msgs ih =>
    have ih := fun h hh => ih (fun a ha => hmsgs a (List.mem_cons_of_mem msg ha)) (h := h) hh
    have hnote : (h.note msg).multipart = false := by
      rw [Heard.note, hh, hmsgs msg List.mem_cons_self]
      rfl
    rw [Reader.heed]
    cases rd.valid with
    | none => exact ih _ hnote
    | some f =>
      show (if _ then _ else _ : Option Int × Heard σ).2.multipart = false
      split_ifs
      · exact ih _ hnote
      · exact hnote
      · exact hnote

/-- the sequence numbers behind an answer of which so much is left -/
def leftSk {R : Type} (sk : SockSeq) : Left R → SockSeq
  | .nothing => advanceExpect sk
  | _ => sk

def leftArrivals (seq : UInt32) : Left Reply → List Arrival
  | .nothing => []
  | .rest r => r.arrivals seq
  | .lost => []

lemma fin_ends (rp : Reply) {h : Heard σ}
    (hends : rp.fin.nlmsgType = NLMSG_DONE ∨ h.multipart = false) :
    rp.fin.nlmsgType = NLMSG_DONE ∨ rp.fin.nlmsgType = NLMSG_ERROR ∧
      ((rd.heed rp.last h).2.note rp.fin).multipart = false := by
  rcases hends with hdone | hh
  · exact Or.inl hdone
  rcases rp.ends with hdone | ⟨herror, hsingle⟩
  · exact Or.inl hdone
  have hlast := hsingle _ List.mem_cons_self
  have hheed := heed_single rd (fun msg hmsg => hlast msg (List.mem_append_left _ hmsg)) hh
  have hfin := hlast rp.fin (by simp)
  refine Or.inr ⟨herror, ?_⟩
  rw [Heard.note, hheed, hfin]
  rfl

lemma rest_arrivals (rp : Reply) (seq : UInt32) {k : Nat} {ps : List (List Nlmsg)}
    (hps : rp.parts.drop k = ps) (queue : List Arrival) :
    leftArrivals seq (rp.left (.rest k)) ++ queue = ps.map (Reply.datagram seq) ++
      Reply.datagram seq (rp.last ++ [rp.fin]) :: queue := by
  show ((rp.parts.drop k ++ [rp.last ++ [rp.fin]]).map _) ++ queue = _
  rw [hps, List.map_append]
  simp

lemma recvLoop_parts (rp : Reply) (queue : List Arrival) {k : Nat} (ps : List (List Nlmsg))
    (hps : rp.parts.drop k = ps) (hends : rp.fin.nlmsgType = NLMSG_DONE ∨ h.multipart = false) :
    ∃ err r', recvLoop rd.cb false (ps.map (Reply.datagram sk.sSeqExpect) ++
        Reply.datagram sk.sSeqExpect (rp.last ++ [rp.fin]) :: queue) (h.recv sk n) =
      some (err, r',
        leftArrivals sk.sSeqExpect (rp.left (rd.hearParts rp.last rp.fin k ps h).2) ++ queue) ∧
      (if err > 0 then 0 else err, r'.arg) = (rd.hearParts rp.last rp.fin k ps h).1 ∧
      r'.sk = leftSk sk (rd.hearParts rp.last rp.fin k ps h).2 := by
  induction ps generalizing k h n with
  | nil =>
    have hlast := rp.body rp.last List.mem_cons_self
    have hfin := fin_ends rd rp hends
    obtain ⟨j, hheed⟩ := handleMsgs_heed rd sk h n hlast [rp.fin.number sk.sSeqExpect]
    rw [List.map_nil, List.nil_append, recvLoop_datagram (by simp) (rp.fits _ List.mem_cons_self),
      List.map_append, List.map_singleton, hheed, Reader.hearParts]
    rcases hp : rd.heed rp.last h with ⟨_ | err, h'⟩
    · rw [hp] at hfin
      obtain ⟨o, h'', heq, hmulti, hout⟩ := handleMsgs_fin rd sk h' j rp.fin hfin
      simp only [heq]
      rw [← hout]
      cases o with
      | none =>
        have hmulti' : (h''.recv (advanceExpect sk) (j + 1)).multipart = false := hmulti rfl
        simp only [hmulti', Bool.false_eq_true, if_false]
        exact ⟨_, _, rfl, Prod.ext (clamp_result _ h'' (j + 1) 0) rfl, rfl⟩
      | some err => exact ⟨_, _, rfl, Prod.ext (clamp_result _ h'' (j + 1) err) rfl, rfl⟩
    · exact ⟨_, _, rfl, Prod.ext (clamp_result _ h' j err) rfl, rfl⟩
  | cons part ps ih =>
    have hmem : part ∈ rp.parts := List.mem_of_mem_drop (by rw [hps]; exact List.mem_cons_self)
    have hnext : rp.parts.drop (k + 1) = ps := by
      rw [← List.tail_drop, hps]
      rfl
    obtain ⟨j, hheed⟩ := handleMsgs_heed rd sk h n
      (rp.body part (List.mem_cons_of_mem _ hmem)) []
    rw [List.append_nil] at hheed
    rw [List.map_cons, List.cons_append, recvLoop_datagram (rp.parts_ne part hmem)
      (rp.fits part (List.mem_cons_of_mem _ hmem)), hheed, Reader.hearParts]
    rcases hp : rd.heed part h with ⟨_ | err, h'⟩
    · have hends' : rp.fin.nlmsgType = NLMSG_DONE ∨ h'.multipart = false := by
        rcases hends with hdone | hh
        · exact Or.inl hdone
        rcases rp.ends with hdone | ⟨-, hsingle⟩
        · exact Or.inl hdone
        have := heed_single rd (hsingle part (List.mem_cons_of_mem _ hmem)) hh
        rw [hp] at this
        exact Or.inr this
      show ∃ err r', (if h'.multipart then _ else _) = _ ∧ _
      cases hmulti : h'.multipart with
      | true =>
        simp only [hmulti, if_true]
        exact ih h' j hnext hends'
      | false =>
        simp only [hmulti, Bool.false_eq_true, if_false, rest_arrivals rp _ hnext]
        exact ⟨_, _, rfl, Prod.ext (clamp_result _ h' j 0) rfl, rfl⟩
    · simp only [rest_arrivals rp _ hnext]
      exact ⟨_, _, rfl, Prod.ext (clamp_result _ h' j err) rfl, rfl⟩

end

end Nl
