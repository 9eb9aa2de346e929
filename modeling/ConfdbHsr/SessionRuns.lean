import ConfdbHsr.Libnl.Session
import Mathlib.Data.UInt

/-!
# Runs of requests on one socket

* `InStep`, `Broken`   what has arrived on a socket, and the number that it expects;
* `Agrees`             the socket has the answers of a line under way;
* `run_agrees`         in a run the readers get what the line has for them.
-/

namespace Nl
open Line

/-! ## what has arrived -/

/-- the datagrams of the answers under way, where the first has this number -/
def lineArrivals (seq : UInt32) : List (Option Reply) → List Arrival
  | [] => []
  | none :: pending => lineArrivals (seq + 1) pending
  | some r :: pending => r.arrivals seq ++ lineArrivals (seq + 1) pending

/-- the answers under way begin with the one that the socket expects -/
structure InStep (s : Session) (pending : List (Option Reply)) : Prop where
  auto : s.sk.noAutoAck = false
  next : s.sk.sSeqNext = s.sk.sSeqExpect + UInt32.ofNat pending.length
  queue : s.queue = lineArrivals s.sk.sSeqExpect pending

/-- a datagram of an answer that the socket does not expect -/
def Foreign (expect : UInt32) (a : Arrival) : Prop :=
  ∃ seq part, a = Reply.datagram seq part ∧ seq ≠ expect ∧ part ≠ [] ∧ ∀ msg ∈ part, msg.Fits

/-- nothing that has arrived is expected; `d` numbers have been given since the one that is -/
structure Broken (s : Session) (n d : Nat) : Prop where
  auto : s.sk.noAutoAck = false
  pos : 0 < d
  next : s.sk.sSeqNext = s.sk.sSeqExpect + UInt32.ofNat d
  length : s.queue.length = n
  foreign : ∀ a ∈ s.queue, Foreign s.sk.sSeqExpect a

/-- the socket, which has given `sent` numbers, has the answers of the line under way -/
def Agrees (sent : Nat) (s : Session) : State Reply → Prop
  | .inStep pending => InStep s pending ∧ pending.length ≤ sent
  | .broken n => ∃ d ≤ sent, Broken s n d

lemma length_arrivals (r : Reply) (seq : UInt32) :
    (r.arrivals seq).length = r.parts.length + 1 := by
  simp [Reply.arrivals]

lemma lineArrivals_append (seq : UInt32) (pending later : List (Option Reply)) :
    lineArrivals seq (pending ++ later) =
      lineArrivals seq pending ++ lineArrivals (seq + UInt32.ofNat pending.length) later := by
  induction pending generalizing seq with
  | nil => simp [lineArrivals]
  | cons a pending ih =>
    have hseq : seq + 1 + UInt32.ofNat pending.length =
        seq + UInt32.ofNat (a :: pending).length := by
      rw [List.length_cons, UInt32.ofNat_add, UInt32.add_assoc, UInt32.add_comm 1]
      rfl
    cases a with
    | none => rw [List.cons_append, lineArrivals, lineArrivals, ih, hseq]
    | some r => rw [List.cons_append, lineArrivals, lineArrivals, ih, hseq, List.append_assoc]

lemma length_lineArrivals {σ : Type} (seq : UInt32) (pending : List (Option Reply)) :
    (lineArrivals seq pending).length = countPieces (hearing (σ := σ)) pending := by
  induction pending generalizing seq with
  | nil => rfl
  | cons a pending ih =>
    cases a with
    | none => exact ih _
    | some r =>
      rw [lineArrivals, List.length_append, length_arrivals, ih]
      rfl

lemma add_ofNat_ne {d : Nat} (hpos : 0 < d) (hlt : d < 2 ^ 32) (seq : UInt32) :
    seq + UInt32.ofNat d ≠ seq := by
  intro h
  have hnat := congrArg UInt32.toNat h
  rw [UInt32.toNat_add, UInt32.toNat_ofNat'] at hnat
  have := seq.toNat_lt
  omega

lemma foreign_arrivals (r : Reply) {seq expect : UInt32} (hne : seq ≠ expect) :
    ∀ a ∈ r.arrivals seq, Foreign expect a := by
  intro a ha
  obtain ⟨part, hpart, rfl⟩ := List.mem_map.mp ha
  rcases List.mem_append.mp hpart with hpart | hpart
  · exact ⟨seq, part, rfl, hne, r.parts_ne part hpart,
      r.fits part (List.mem_cons_of_mem _ hpart)⟩
  · rw [List.mem_singleton.mp hpart]
    exact ⟨seq, _, rfl, hne, by simp, r.fits _ List.mem_cons_self⟩

lemma foreign_lineArrivals {expect : UInt32} {pending : List (Option Reply)} {d : Nat}
    (hpos : 0 < d) (hlt : d + pending.length ≤ 2 ^ 32) :
    ∀ a ∈ lineArrivals (expect + UInt32.ofNat d) pending, Foreign expect a := by
  induction pending generalizing d with
  | nil => simp [lineArrivals]
  | cons b pending ih =>
    rw [List.length_cons] at hlt
    have hseq : expect + UInt32.ofNat d + 1 = expect + UInt32.ofNat (d + 1) := by
      rw [UInt32.ofNat_add, UInt32.add_assoc]
      rfl
    have hrest := ih (Nat.succ_pos d) (by omega)
    cases b with
    | none =>
      rw [lineArrivals, hseq]
      exact hrest
    | some r =>
      rw [lineArrivals, hseq]
      intro a ha
      rcases List.mem_append.mp ha with ha | ha
      · exact foreign_arrivals r (add_ofNat_ne hpos (by omega) expect) a ha
      · exact hrest a ha

/-! ## sending -/

section
variable {σ : Type} {s : Session} {sent : Nat} {line : State Reply}

lemma send_agrees (h : Agrees sent s line)
    (hbound : sent < 2 ^ 32 ∨ ∃ pending, line = .inStep pending) (answer : Option Reply) :
    Agrees (sent + 1) (s.send answer) (put (hearing (σ := σ)) answer line) := by
  have hnext : ∀ d : Nat, s.sk.sSeqNext = s.sk.sSeqExpect + UInt32.ofNat d →
      s.sk.sSeqNext + 1 = s.sk.sSeqExpect + UInt32.ofNat (d + 1) := by
    intro d hd
    rw [hd, UInt32.ofNat_add, UInt32.add_assoc]
    rfl
  cases line with
  | inStep pending =>
    obtain ⟨hin, hlen⟩ := h
    refine ⟨⟨hin.auto, ?_, ?_⟩, ?_⟩
    · rw [List.length_append]
      exact hnext _ hin.next
    · show s.queue ++ _ = lineArrivals s.sk.sSeqExpect (pending ++ [answer])
      rw [lineArrivals_append, ← hin.next, hin.queue]
      cases answer with
      | none => rfl
      | some r =>
        show _ ++ r.arrivals _ = _ ++ (r.arrivals _ ++ [])
        rw [List.append_nil]
    · rw [List.length_append]
      exact Nat.succ_le_succ hlen
  | broken n =>
    obtain ⟨d, hd, hbr⟩ := h
    have hlt : sent < 2 ^ 32 := by
      rcases hbound with hlt | ⟨pending, hp⟩
      · exact hlt
      · cases hp
    refine ⟨d + 1, by omega, hbr.auto, Nat.succ_pos d, hnext d hbr.next, ?_, ?_⟩
    · cases answer with
      | none =>
        show (s.queue ++ []).length = _
        rw [List.append_nil, hbr.length]
        rfl
      | some r =>
        show (s.queue ++ r.arrivals _).length = _
        rw [List.length_append, hbr.length, length_arrivals]
        rfl
    · have hne : s.sk.sSeqNext ≠ s.sk.sSeqExpect := by
        rw [hbr.next]
        exact add_ofNat_ne hbr.pos (by omega) _
      intro a ha
      rcases List.mem_append.mp ha with ha | ha
      · exact hbr.foreign a ha
      · cases answer with
        | none => cases ha
        | some r => exact foreign_arrivals r hne a ha

/-! ## reading -/

lemma settle_agrees (h : Agrees sent s line) (hbound : sent < 2 ^ 32) :
    Agrees sent s (settle (hearing (σ := σ)) line) := by
  rcases line with (_ | ⟨_ | r, pending⟩) | n
  · exact h
  · obtain ⟨hin, hlen⟩ := h
    rw [List.length_cons] at hlen
    refine ⟨pending.length + 1, hlen, hin.auto, Nat.succ_pos _, hin.next, ?_, ?_⟩
    · rw [hin.queue]
      exact length_lineArrivals _ _
    · rw [hin.queue]
      exact foreign_lineArrivals (d := 1) (by omega) (by omega)
  · exact h
  · exact h

lemma settle_ne (line : State Reply) (pending : List (Option Reply)) :
    settle (hearing (σ := σ)) line ≠ .inStep (none :: pending) := by
  rcases line with (_ | ⟨_ | r, _⟩) | n <;> simp [settle]

lemma inStep_left {r : Reply} {pending : List (Option Reply)}
    (h : Agrees sent s (.inStep (some r :: pending))) (left : Left Reply) :
    Agrees sent ⟨leftSk s.sk left,
        leftArrivals s.sk.sSeqExpect left ++ lineArrivals (s.sk.sSeqExpect + 1) pending⟩
      (.inStep (left.toList ++ pending)) := by
  obtain ⟨hin, hlen⟩ := h
  rw [List.length_cons] at hlen
  cases left with
  | nothing =>
    refine ⟨⟨hin.auto, ?_, rfl⟩, Nat.le_of_succ_le hlen⟩
    show s.sk.sSeqNext = s.sk.sSeqExpect + 1 + UInt32.ofNat pending.length
    rw [hin.next, List.length_cons, UInt32.ofNat_add, UInt32.add_assoc, UInt32.add_comm 1]
    rfl
  | rest r' => exact ⟨⟨hin.auto, hin.next, rfl⟩, hlen⟩
  | lost => exact ⟨⟨hin.auto, hin.next, rfl⟩, hlen⟩

lemma read_expected (reader : Reader σ × σ) (r : Reply) {queue : List Arrival}
    (hqueue : s.queue = r.arrivals s.sk.sSeqExpect ++ queue) :
    s.read reader = some ((reader.1.hear reader.2 r).1,
      ⟨leftSk s.sk (reader.1.hear reader.2 r).2,
        leftArrivals s.sk.sSeqExpect (reader.1.hear reader.2 r).2 ++ queue⟩) := by
  obtain ⟨err, r', hloop, hout, hsk⟩ := recvLoop_parts reader.1 s.sk
    ⟨false, false, reader.2⟩ 0 r queue r.parts List.drop_zero (Or.inr rfl)
  have hsk' : r'.sk = leftSk s.sk (reader.1.hear reader.2 r).2 := by
    rw [hsk]
    show _ = leftSk s.sk (r.left (reader.1.hearParts r.last r.fin 0 r.parts _).2)
    cases (reader.1.hearParts r.last r.fin 0 r.parts ⟨false, false, reader.2⟩).2 <;> rfl
  have hq : r.parts.map (Reply.datagram s.sk.sSeqExpect) ++
      Reply.datagram s.sk.sSeqExpect (r.last ++ [r.fin]) :: queue = s.queue := by
    rw [hqueue, Reply.arrivals, List.map_append]
    simp
  rw [Session.read, nlRecvmsgs, recvmsgs, ← hq]
  have hloop' : recvLoop reader.1.cb false _ ⟨s.sk, false, false, 0, reader.2⟩ = _ := hloop
  rw [hloop', Option.map_some, Option.map_some, Option.some.injEq]
  exact Prod.ext hout (congrArg (Session.mk · _) hsk')

lemma read_foreign (reader : Reader σ × σ) {a : Arrival} {queue : List Arrival}
    (hauto : s.sk.noAutoAck = false) (ha : Foreign s.sk.sSeqExpect a)
    (hqueue : s.queue = a :: queue) :
    s.read reader = some ((-NLE_SEQ_MISMATCH, reader.2), ⟨s.sk, queue⟩) := by
  obtain ⟨seq, part, rfl, hseq, hne, hfits⟩ := ha
  obtain ⟨msg, msgs, rfl⟩ := List.exists_cons_of_ne_nil hne
  have hcheck : (checkSeq reader.1.cb (msg.number seq)).exec
      ⟨s.sk, false, false, 0 + 1, reader.2⟩ =
        (.error (.out (-NLE_SEQ_MISMATCH)), ⟨s.sk, false, false, 0 + 1, reader.2⟩) := by
    show (get >>= _ : RecvM σ Unit).exec _ = _
    rw [RecvM.exec_bind_ok (RecvM.exec_get _), RecvM.exec_ite, if_pos]
    · rfl
    · show (!s.sk.noAutoAck && seq != s.sk.sSeqExpect) = true
      rw [hauto]
      simpa using hseq
  have hexec : (handleMsg reader.1.cb (msg.number seq)).exec ⟨s.sk, false, false, 0, reader.2⟩ =
      (.error (.out (-NLE_SEQ_MISMATCH)), ⟨s.sk, false, false, 0 + 1, reader.2⟩) := by
    rw [handleMsg, RecvM.exec_bind_ok (RecvM.exec_modify _ _),
      RecvM.exec_bind_ok (msgIn_exec reader.1 _), RecvM.exec_bind_error hcheck]
  rw [Session.read, nlRecvmsgs, recvmsgs, hqueue, recvLoop_datagram hne hfits, List.map_cons,
    handleMsgs, hexec]
  rfl

lemma read_agrees (h : Agrees sent s line)
    (hbound : sent < 2 ^ 32 ∨ ∃ pending : List Reply, line = .inStep (pending.map some))
    (reader : Reader σ × σ) :
    match Line.read hearing reader line with
    | none => s.read reader = none
    | some (o, line') => ∃ s', s.read reader = some (o, s') ∧ Agrees sent s' line' := by
  have hsettled : Agrees sent s (settle (hearing (σ := σ)) line) := by
    rcases hbound with hlt | ⟨pending, rfl⟩
    · exact settle_agrees h hlt
    · cases pending <;> exact h
  rw [Line.read]
  rcases hline : settle (hearing (σ := σ)) line with (_ | ⟨_ | r, pending⟩) | _ | n
  · -- nothing is under way
    rw [hline] at hsettled
    have hqueue : s.queue = [] := hsettled.1.queue
    show s.read reader = none
    rw [Session.read, nlRecvmsgs, recvmsgs, hqueue]
    rfl
  · exact absurd hline (settle_ne line pending)
  · rw [hline] at hsettled
    exact ⟨_, read_expected reader r hsettled.1.queue, inStep_left hsettled _⟩
  · rw [hline] at hsettled
    obtain ⟨d, hd, hbr⟩ := hsettled
    have hqueue : s.queue = [] := List.length_eq_zero_iff.mp hbr.length
    show s.read reader = none
    rw [Session.read, nlRecvmsgs, recvmsgs, hqueue]
    rfl
  · rw [hline] at hsettled
    obtain ⟨d, hd, hbr⟩ := hsettled
    obtain ⟨a, queue, hqueue⟩ := List.exists_cons_of_length_eq_add_one hbr.length
    refine ⟨_, read_foreign reader hbr.auto (hbr.foreign a (by simp [hqueue])) hqueue, ?_⟩
    refine ⟨d, hd, hbr.auto, hbr.pos, hbr.next, ?_, ?_⟩
    · have := hbr.length
      rw [hqueue, List.length_cons] at this
      exact Nat.succ_inj.mp this
    · intro b hb
      exact hbr.foreign b (by simp [hqueue, hb])

end

/-! ## runs -/

section
variable {σ : Type}

/-- all answers under way will be there -/
def Whole (line : State Reply) : Prop := ∃ pending : List Reply, line = .inStep (pending.map some)

lemma Agrees.mono {sent sent' : Nat} (hle : sent ≤ sent') {s : Session} {line : State Reply}
    (h : Agrees sent s line) : Agrees sent' s line := by
  cases line with
  | inStep pending => exact ⟨h.1, Nat.le_trans h.2 hle⟩
  | broken n =>
    obtain ⟨d, hd, hbr⟩ := h
    exact ⟨d, Nat.le_trans hd hle, hbr⟩

theorem step_agrees {sent : Nat} {s : Session} {line : State Reply} (h : Agrees sent s line)
    (hbound : sent + 1 < 2 ^ 32 ∨ Whole line) (call : Call Reply (Reader σ × σ)) :
    match Line.step hearing line call with
    | none => s.step call = none
    | some (os, line') => ∃ s', s.step call = some (os, s') ∧ Agrees (sent + 1) s' line' := by
  have hsend := fun answer => send_agrees (σ := σ) h
    (hbound.imp Nat.lt_of_succ_lt fun ⟨pending, hp⟩ => ⟨_, hp⟩) answer
  cases call with
  | unsent => exact ⟨_, rfl, hsend none⟩
  | ask r reader =>
    have hwhole : sent + 1 < 2 ^ 32 ∨ Whole (put (hearing (σ := σ)) (some r) line) := by
      refine hbound.imp_right fun ⟨pending, hp⟩ => ⟨pending ++ [r], ?_⟩
      rw [hp, List.map_append]
      rfl
    have hread := read_agrees (hsend (some r)) hwhole reader
    rw [Line.step, Session.step]
    cases hline : Line.read hearing reader (put hearing (some r) line) with
    | none =>
      rw [hline] at hread
      rw [show (s.send (some r)).read reader = none from hread]
      rfl
    | some p =>
      rw [hline] at hread
      obtain ⟨s', heq, hagrees⟩ := hread
      exact ⟨s', by rw [heq]; rfl, hagrees⟩
  | read reader =>
    have hread := read_agrees h (hbound.imp_left Nat.lt_of_succ_lt) reader
    rw [Line.step, Session.step]
    cases hline : Line.read hearing reader line with
    | none =>
      rw [hline] at hread
      rw [show s.read reader = none from hread]
      rfl
    | some p =>
      rw [hline] at hread
      obtain ⟨s', heq, hagrees⟩ := hread
      exact ⟨s', by rw [heq]; rfl, hagrees.mono (Nat.le_succ sent)⟩

theorem run_agrees {sent : Nat} {s : Session} {line : State Reply} (h : Agrees sent s line)
    (calls : List (Call Reply (Reader σ × σ)))
    (hbound : sent + calls.length < 2 ^ 32 ∨ ∀ k os line',
      Line.run hearing line (calls.take k) = some (os, line') → Whole line') :
    (s.run calls).map Prod.fst = (Line.run hearing line calls).map Prod.fst := by
  induction calls generalizing sent s line with
  | nil => rfl
  | cons call calls ih =>
    have hstep := step_agrees h (hbound.imp (by rw [List.length_cons]; omega)
      fun hw => hw 0 [] line rfl) call
    rw [Session.run, Line.run]
    cases hline : Line.step hearing line call with
    | none =>
      rw [hline] at hstep
      rw [show s.step call = none from hstep]
      rfl
    | some p =>
      obtain ⟨os, line'⟩ := p
      rw [hline] at hstep
      obtain ⟨s', heq, hagrees⟩ := hstep
      have hrest := ih hagrees (hbound.imp (by rw [List.length_cons]; omega) ?_)
      · rw [heq, Option.bind_some, Option.bind_some, Option.map_map, Option.map_map]
        show (s'.run calls).map ((os ++ ·) ∘ Prod.fst) =
          (Line.run _ line' calls).map ((os ++ ·) ∘ Prod.fst)
        rw [← Option.map_map, hrest, Option.map_map]
      · intro hw k os' line'' hrun
        refine hw (k + 1) (os ++ os') line'' ?_
        rw [List.take_succ_cons, Line.run, hline, Option.bind_some, hrun]
        rfl

lemma start_agrees (time : UInt32) : Agrees 0 (Session.start time) (.inStep []) :=
  ⟨⟨rfl, by simp [Session.start], rfl⟩, Nat.le_refl 0⟩

end

/-! ## main results -/

section
variable {σ : Type} (time : UInt32)

abbrev Request (σ : Type) := Ask Reply (Reader σ × σ)

/-- what a reader makes of the answer to its own request -/
def Request.own (a : Request σ) : Int × σ := (a.2.1.hear a.2.2 a.1).1

/-- the reader of a request reads its answer to the end -/
def Request.Whole (a : Request σ) : Prop := (a.2.1.hear a.2.2 a.1).2 = .nothing

/-- **A socket is a line of answers.**  Whatever is asked, read and left over in a run of calls,
the readers get what the line has for them, and wait where it has nothing. -/
theorem session_line (calls : List (Call Reply (Reader σ × σ))) (hlen : calls.length < 2 ^ 32) :
    ((Session.start time).run calls).map Prod.fst =
      (Line.run hearing (.inStep []) calls).map Prod.fst :=
  run_agrees (start_agrees time) calls (Or.inl (by rw [Nat.zero_add]; exact hlen))

end

/-- a dump of two messages in two datagrams -/
def twoParts : Reply where
  parts := [[⟨16, NLM_F_MULTI, 0, 0, [1]⟩]]
  last := [⟨16, NLM_F_MULTI, 0, 0, [2]⟩]
  fin := ⟨NLMSG_DONE, NLM_F_MULTI, 0, 0, [0, 0, 0, 0]⟩
  parts_ne := by decide
  body := by decide
  fits := by decide
  ends := Or.inl rfl

/-- a request is refused with `EEXIST` -/
def refused : Reply := Reply.ack 0xFFFFFFEF (Vector.replicate 16 0)

/-- a parser that keeps the payloads -/
def keepPayload (_ : UInt16) (payload arg : List UInt8) : Int × List UInt8 :=
  (NL_OK, arg ++ payload)

/-- a parser that has no memory -/
def noMemory (_ : UInt16) (_ arg : List UInt8) : Int × List UInt8 := (-NLE_NOMEM, arg)

theorem session_line_late :
    ((Session.start 7).run [.ask twoParts (cachePickup noMemory, []), .unsent,
        .ask refused (waitForAck, []), .read (waitForAck, [])]).map Prod.fst =
      (Line.run hearing (.inStep []) [.ask twoParts (cachePickup noMemory, []), .unsent,
        .ask refused (waitForAck, []), .read (waitForAck, [])]).map Prod.fst :=
  session_line 7 _ (by decide)

section
variable {σ : Type} (time : UInt32)

/-- after requests whose readers read to the end the line is as whole as without them -/
lemma whole_after_own {before : List (Request σ)} (hbefore : ∀ b ∈ before, b.Whole)
    {calls : List (Call Reply (Reader σ × σ))}
    (hcalls : ∀ k os line', Line.run hearing (.inStep []) (calls.take k) = some (os, line') →
      Whole line') (k : Nat) (os : List (Int × σ)) (line' : State Reply)
    (hrun : Line.run hearing (.inStep []) ((before.map Ask.call ++ calls).take k) =
      some (os, line')) : Whole line' := by
  have htake : ∀ b ∈ before.take k, (hearing.hear b.2 b.1).2 = .nothing :=
    fun b hb => hbefore b (List.mem_of_mem_take hb)
  rw [List.take_append, ← List.map_take, run_after_own hearing htake, Option.map_eq_some_iff]
    at hrun
  obtain ⟨⟨os', line''⟩, hlater, heq⟩ := hrun
  cases heq
  exact hcalls _ _ _ hlater

/-- the readers of requests that are read to the end get their own answers, and those of the later
calls get what they would get on a new socket -/
lemma run_agrees_own {before : List (Request σ)} (hbefore : ∀ b ∈ before, b.Whole)
    (calls : List (Call Reply (Reader σ × σ)))
    (hbound : before.length + calls.length < 2 ^ 32 ∨ ∀ k os line',
      Line.run hearing (.inStep []) (calls.take k) = some (os, line') → Whole line') :
    ((Session.start time).run (before.map Ask.call ++ calls)).map Prod.fst =
      (Line.run hearing (.inStep []) calls).map fun p => before.map Request.own ++ p.1 := by
  have hline := run_after_own (hearing (σ := σ)) hbefore calls
  rw [run_agrees (start_agrees time), hline, Option.map_map]
  · rfl
  · refine hbound.imp (fun hlen => ?_) (whole_after_own hbefore)
    rwa [Nat.zero_add, List.length_append, List.length_map]

/-- **Requests whose readers read to the end get their own answers**, however many they are. -/
theorem answers_own {asks : List (Request σ)} (h : ∀ a ∈ asks, a.Whole) :
    ((Session.start time).run (asks.map Ask.call)).map Prod.fst = some (asks.map Request.own) := by
  have hrun := run_agrees_own time h [] (Or.inr fun k os line' hk => ?_)
  · rw [List.append_nil] at hrun
    rw [hrun, Line.run, Option.map_some, List.append_nil]
  · rw [List.take_nil] at hk
    cases hk
    exact ⟨[], rfl⟩

end

theorem answers_own_refused :
    ((Session.start 7).run ([(twoParts, cachePickup keepPayload, []),
        (refused, waitForAck, [])].map Ask.call)).map Prod.fst =
      some [(0, [1, 2]), (-NLE_EXIST, [])] :=
  (answers_own 7 (by
    intro a ha
    rcases List.mem_pair.mp ha with rfl | rfl
    · rfl
    · exact congrArg Prod.snd (waitForAck_ack [] _ _))).trans (by decide)

section
variable {σ : Type} (time : UInt32)

/-- **Where the reader of an answer stops between two datagrams, every later one gets the answer
to the request before its own**, if these are read to the end, and those before were. -/
theorem answers_late {before : List (Request σ)} (hbefore : ∀ b ∈ before, b.Whole)
    {a : Request σ} {r : Reply} (hstop : (a.2.1.hear a.2.2 a.1).2 = .rest r)
    {asks : List (Request σ)} (h : ∀ b ∈ late r asks, Request.Whole b) :
    ((Session.start time).run (before.map Ask.call ++ (a :: asks).map Ask.call)).map Prod.fst =
      some (before.map Request.own ++ a.own :: (late r asks).map Request.own) := by
  have hline : ∀ asks : List (Request σ), (∀ b ∈ late r asks, Request.Whole b) →
      Line.run hearing (.inStep []) ((a :: asks).map Ask.call) =
        some (a.own :: (late r asks).map Request.own, .inStep [some (lastAnswer r asks)]) := by
    intro asks h
    have hlate := run_late (hearing (σ := σ)) h
    rw [List.map_cons, Line.run, step_rest hearing hstop, Option.bind_some, hlate]
    rfl
  rw [run_agrees_own time hbefore, hline asks h]
  · rfl
  · refine Or.inr fun k os line' hk => ?_
    cases k with
    | zero =>
      cases hk
      exact ⟨[], rfl⟩
    | succ k =>
      rw [List.map_cons, List.take_succ_cons, ← List.map_take, ← List.map_cons,
        hline _ fun b hb => h b (by rw [late_take] at hb; exact List.mem_of_mem_take hb)] at hk
      cases hk
      exact ⟨[lastAnswer r (asks.take k)], rfl⟩

end

/-- a dump that is read to the end -/
def wholeDump : Request (List UInt8) := (twoParts, cachePickup keepPayload, [])

lemma wholeDump_whole : ∀ b ∈ [wholeDump], b.Whole := by
  intro b hb
  rw [List.mem_singleton.mp hb]
  rfl

/-- the request that the kernel refused is reported as done -/
theorem answers_late_refused :
    ((Session.start 7).run ([wholeDump].map Ask.call ++
        [(twoParts, cachePickup noMemory, []), (refused, waitForAck, [])].map Ask.call)).map
        Prod.fst =
      some [(0, [1, 2]), (-NLE_NOMEM, []), (0, [])] :=
  (answers_late 7 wholeDump_whole (a := (twoParts, cachePickup noMemory, []))
    (r := twoParts.rest 1) rfl (by
      intro b hb
      rw [List.mem_singleton.mp hb]
      rfl)).trans (by decide)

section
variable {σ : Type} (time : UInt32)

/-- **Where the end of an answer is missing, every later request fails**: the reader stopped in the
datagram with the end, or a request was given a number and not sent. -/
theorem answers_lost {before : List (Request σ)} (hbefore : ∀ b ∈ before, b.Whole)
    {call : Call Reply (Reader σ × σ)} {os : List (Int × σ)}
    (hlost : Line.step hearing (.inStep []) call = some (os, .inStep [none]))
    (asks : List (Request σ)) (hlen : before.length + (asks.length + 1) < 2 ^ 32) :
    ((Session.start time).run (before.map Ask.call ++ call :: asks.map Ask.call)).map Prod.fst =
      some (before.map Request.own ++ (os ++ asks.map fun a => (-NLE_SEQ_MISMATCH, a.2.2))) := by
  obtain ⟨line, hline⟩ := run_missing (hearing (σ := σ)) (fun r => Nat.succ_pos _) asks
  rw [run_agrees_own time hbefore _ (Or.inl (by simpa using hlen)), Line.run, hlost,
    Option.bind_some, hline]
  rfl

end

theorem answers_lost_unsent :
    ((Session.start 7).run ([wholeDump].map Ask.call ++ .unsent ::
        [wholeDump, (refused, waitForAck, [])].map Ask.call)).map Prod.fst =
      some [(0, [1, 2]), (-NLE_SEQ_MISMATCH, []), (-NLE_SEQ_MISMATCH, [])] :=
  (answers_lost 7 wholeDump_whole
    (show Line.step hearing (.inStep []) .unsent = some ([], .inStep [none]) from rfl)
    [wholeDump, (refused, waitForAck, [])] (by decide)).trans (by decide)

end Nl
