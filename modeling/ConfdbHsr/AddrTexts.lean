import ConfdbHsr.Libnl.AddrText
import ConfdbHsr.PublishedList

/-!
# What the text of an address keeps

The CDB lists a node under the text that `nl_addr2str` puts into 48 bytes.

* `entries_apart_iff`     two nodes share an entry iff their interfaces share a name and their
                          addresses the first 16 bytes;
* `text_read_back_iff`    `nl_addr_parse` gives the address of a node again iff it has 2, 3, 5 or
                          6 bytes, or none; what it gives for other lengths;
* `parsed_text_iff`       what it gives for the hint `AF_LLC` is what it gives for its own text.

Addresses of 4 and of 16 bytes are given the text of their family, by the C library.
-/

namespace Nl
open CText

section
variable {F : FamilyText}

/-! ## the text of an address of a node -/

lemma guess_of_length {nla : Nlattr} (h4 : nla.payload.length ≠ 4) (h16 : nla.payload.length ≠ 16) :
    (nlAddrOfAttr nla).aFamily = if nla.payload.length = 6 then AF_LLC else 0 := by
  show nlAddrGuessFamily (nlAddrBuild 0 nla.payload) = _
  rw [nlAddrGuessFamily]
  split
  · rename_i hlen
    exact absurd hlen h4
  · rename_i hlen
    exact (if_pos hlen).symm
  · rename_i hlen
    exact absurd hlen h16
  · rename_i h6 _
    exact (if_neg h6).symm

lemma ownText_guessed {nla : Nlattr} (h4 : nla.payload.length ≠ 4) (h16 : nla.payload.length ≠ 16) :
    ownText (nlAddrOfAttr nla).aFamily = false := by
  rw [guess_of_length h4 h16]
  split
  · rfl
  · rfl

/-- the text of the address in an attribute -/
def nodeText (F : FamilyText) (nla : Nlattr) : CStr := nlAddr2str F (some (nlAddrOfAttr nla)) 48

lemma nodeText_eq {nla : Nlattr} (h4 : nla.payload.length ≠ 4) (h16 : nla.payload.length ≠ 16) :
    nodeText F nla = hexText (nla.payload.take 16) := by
  have hall : (nlAddrOfAttr nla).aPrefixlen = 8 * (nlAddrOfAttr nla).aAddr.length :=
    Nat.mul_comm nla.payload.length 8
  rw [nodeText, nlAddr2str_hex F (ownText_guessed h4 h16) (absurd hall), prefixText, if_pos hall,
    List.append_nil]
  exact snprintf_hexText (k := 16) (by omega) nla.payload

/-! ## reading a text of the family `AF_LLC` or of none -/

/-- the bytes in base 16 are none of the words, and no text of DECnet -/
lemma readBinary_hexText (F : FamilyText) (b : UInt8) (rest : List UInt8) (hint : Nat) :
    readBinary F (hexText (b :: rest)) hint =
      ((attempt AF_INET hint true (F.pton AF_INET (hexText (b :: rest)))).or <|
        (attempt AF_INET6 hint true (F.pton AF_INET6 (hexText (b :: rest)))).or <|
        attempt AF_LLC hint (decide (rest ≠ []))
          (if rest.length < 5 then none else some (b :: rest.take 5))).getD
      (if hint = AF_MPLS then
        (F.pton AF_MPLS (hexText (b :: rest))).elim (.error (-NLE_INVAL)) fun addr =>
          .ok (AF_MPLS, addr, 20)
      else if hint = 0 ∧ decide (rest ≠ []) then
        (readGroups 0 (hexText (b :: rest))).elim (.error (-NLE_INVAL)) fun addr => .ok (0, addr, 0)
      else .error (-NLE_NOADDR)) := by
  have hnone : strcaseeq (hexText (b :: rest)) (cs "none") = false :=
    strcaseeq_hexText (x := 110) (by decide) rfl
  have hdefault : strcaseeq (hexText (b :: rest)) (cs "default") = false :=
    strcaseeq_hexText (x := 117) (by decide) rfl
  have hall : strcaseeq (hexText (b :: rest)) (cs "all") = false :=
    strcaseeq_hexText (x := 108) (by decide) rfl
  have hany : strcaseeq (hexText (b :: rest)) (cs "any") = false :=
    strcaseeq_hexText (x := 110) (by decide) rfl
  have hdot : (hexText (b :: rest)).contains 46 = false := by
    simpa using not_mem_hexText (x := 46) rfl
  have hcomma : (hexText (b :: rest)).contains 44 = false := by
    simpa using not_mem_hexText (x := 44) rfl
  have hdecnet : attempt AF_DECnet hint (false = true ∨ false = true : Prop)
      (F.pton AF_DECnet (hexText (b :: rest))) = none := if_neg (by simp)
  rw [readBinary, hnone, hdefault, hall, hany, hdot, hcomma, colon_hexText, scanGroups_hexText]
  simp only [hdecnet, Option.or_none]
  cases F.pton AF_MPLS (hexText (b :: rest)) <;> cases readGroups 0 (hexText (b :: rest)) <;> rfl

/-- the slash after the bytes in base 16 -/
lemma nlAddrParse_hexText (F : FamilyText) {hint : Nat} (hhint : hint ≠ AF_MPLS) (a : List UInt8)
    {rest : CStr} (hrest : ∀ c, rest.head? = some c → c = 47) :
    nlAddrParse F (hexText a ++ rest) hint =
      (readBinary F (hexText a) hint).bind fun read =>
        setPrefix read.1 read.2.1 read.2.2 rest.tail? := by
  have hslash : ∀ c ∈ hexText a, decide (c ≠ 47) = true := fun c hc =>
    decide_eq_true (not_slash_hexText hc)
  have hstop : rest.takeWhile (fun c => decide (c ≠ 47)) = [] ∧
      rest.dropWhile (fun c => decide (c ≠ 47)) = rest := by
    cases rest with
    | nil => exact ⟨rfl, rfl⟩
    | cons c rest =>
      obtain rfl := hrest c rfl
      exact ⟨rfl, rfl⟩
  rw [nlAddrParse, if_pos hhint, if_pos hhint, List.takeWhile_append_of_pos hslash,
    List.dropWhile_append_of_pos hslash, hstop.1, hstop.2, List.append_nil]

end

/-- conversions that know no text of their families -/
def hexOnly : FamilyText := ⟨fun _ _ _ => [], fun _ _ => none⟩

/-! ## entries that are told apart -/

section
open Hsr
variable {W : Type} {S : Sys W} {F : FamilyText}

/-- Two nodes share an entry exactly if their interfaces share a name and their addresses the
first 16 bytes. -/
theorem entries_apart_iff (name : UInt32 → CStr)
    (htext : S.addrText = fun addr => nlAddr2str F addr 48) {known : Set NodePair}
    (hown : ∀ pair ∈ known, pair.2.length ≠ 4 ∧ pair.2.length ≠ 16) :
    Set.InjOn (entryOf S name) known ↔
      Set.InjOn (fun pair => (name pair.1, pair.2.take 16)) known := by
  have hentry : ∀ pair ∈ known, entryOf S name pair = (name pair.1, hexText (pair.2.take 16)) := by
    intro pair hpair
    obtain ⟨h4, h16⟩ := hown pair hpair
    show (name pair.1, S.addrText _) = _
    rw [htext]
    have hnode : nlAddr2str F (some (nlAddrOfAttr ⟨1, pair.2⟩)) 48 = hexText (pair.2.take 16) :=
      nodeText_eq h4 h16
    exact congrArg (name pair.1, ·) hnode
  have hsame : ∀ p ∈ known, ∀ q ∈ known, entryOf S name p = entryOf S name q ↔
      (name p.1, p.2.take 16) = (name q.1, q.2.take 16) := by
    intro p hp q hq
    rw [hentry p hp, hentry q hq, Prod.mk.injEq, Prod.mk.injEq]
    exact and_congr_right fun _ => ⟨hexText_injective, congrArg hexText⟩
  constructor
  · intro h p hp q hq heq
    exact h hp hq ((hsame p hp q hq).mpr heq)
  · intro h p hp q hq heq
    exact h hp hq ((hsame p hp q hq).mp heq)

theorem entries_apart_two :
    Set.InjOn (entryOf { staticSys [] with addrText := fun addr => nlAddr2str hexOnly addr 48 }
        fun _ => cs "hsr0")
      {(5, [2, 0, 0, 0, 0, 1]), (5, [2, 0, 0, 0, 0, 2])} := by
  refine (entries_apart_iff _ rfl ?_).mpr ?_
  · rintro pair (rfl | rfl) <;> decide
  · rintro p (rfl | rfl) q (rfl | rfl) heq
    · rfl
    · exact absurd heq (by decide)
    · exact absurd heq (by decide)
    · rfl

end

/-! ## the address that is read back -/

/-- what `inet_pton` refuses: for IPv4 any text without dots, for IPv6 one without dots or two
colons in a row that has too few groups -/
structure InetText (F : FamilyText) : Prop where
  inet : ∀ str : CStr, 46 ∉ str → F.pton AF_INET str = none
  inet6 : ∀ str : CStr, 46 ∉ str → (str.IsChain fun c d => c ≠ 58 ∨ d ≠ 58) → str.count 58 < 7 →
    F.pton AF_INET6 str = none

section
variable {F : FamilyText}

lemma refuses_hexText (hF : InetText F) (b : UInt8) (rest : List UInt8) :
    F.pton AF_INET (hexText (b :: rest)) = none ∧
      (rest.length < 7 → F.pton AF_INET6 (hexText (b :: rest)) = none) := by
  have hdots : (46 : UInt8) ∉ hexText (b :: rest) := not_mem_hexText rfl
  refine ⟨hF.inet _ hdots, fun hlen => hF.inet6 _ hdots (isChain_hexText b rest) ?_⟩
  rw [count_hexText]
  exact hlen

lemma readBinary_one (hF : InetText F) (b : UInt8) :
    readBinary F (hexText [b]) 0 = .error (-NLE_NOADDR) := by
  obtain ⟨hinet, hinet6⟩ := refuses_hexText hF b []
  rw [readBinary_hexText, hinet, hinet6 (by decide)]
  rfl

lemma readBinary_short (hF : InetText F) (b : UInt8) {rest : List UInt8} (hne : rest ≠ [])
    (hlen : rest.length ≤ 5) :
    readBinary F (hexText (b :: rest)) 0 =
      .ok (if rest.length = 5 then AF_LLC else 0, b :: rest, 0) := by
  obtain ⟨hinet, hinet6⟩ := refuses_hexText hF b rest
  rw [readBinary_hexText, hinet, hinet6 (by omega), decide_eq_true hne]
  by_cases h5 : rest.length = 5
  · rw [if_neg (by omega), if_pos h5, List.take_of_length_le (by omega)]
    rfl
  · rw [if_pos (by omega), if_neg h5, readGroups_hexText b rest (by omega)]
    rfl

lemma readBinary_long (hF : InetText F) (b : UInt8) {rest : List UInt8} (hlen : 5 ≤ rest.length) :
    (∃ addr, readBinary F (hexText (b :: rest)) 0 = .ok (AF_INET6, addr, 0)) ∨
      readBinary F (hexText (b :: rest)) 0 = .ok (AF_LLC, b :: rest.take 5, 0) := by
  have hne : rest ≠ [] := List.ne_nil_of_length_pos (by omega)
  rw [readBinary_hexText, (refuses_hexText hF b rest).1, decide_eq_true hne, if_neg (by omega)]
  cases F.pton AF_INET6 (hexText (b :: rest)) with
  | some addr => exact .inl ⟨addr, rfl⟩
  | none => exact .inr rfl

lemma nlAddrParse_nodeText {nla : Nlattr} (h4 : nla.payload.length ≠ 4)
    (h16 : nla.payload.length ≠ 16) :
    nlAddrParse F (nodeText F nla) 0 =
      (readBinary F (hexText (nla.payload.take 16)) 0).bind fun read =>
        setPrefix read.1 read.2.1 read.2.2 none := by
  rw [nodeText_eq h4 h16, ← List.append_nil (hexText _),
    nlAddrParse_hexText F (by decide) _ (by simp), List.append_nil]
  rfl

lemma length_cases {nla : Nlattr} (h4 : nla.payload.length ≠ 4) :
    nla.payload.length ∈ [0, 2, 3, 5, 6] ∨ nla.payload.length = 1 ∨ 7 ≤ nla.payload.length := by
  simp only [List.mem_cons, List.not_mem_nil, or_false]
  omega

section
variable {nla : Nlattr} (hF : InetText F) (h4 : nla.payload.length ≠ 4)
  (h16 : nla.payload.length ≠ 16)
include hF h4 h16

lemma read_back_same (hlen : nla.payload.length ∈ [0, 2, 3, 5, 6]) :
    nlAddrParse F (nodeText F nla) 0 = .ok (nlAddrOfAttr nla) := by
  have hguess := guess_of_length h4 h16
  rw [nlAddrParse_nodeText h4 h16]
  obtain ⟨type, payload⟩ := nla
  simp only [List.mem_cons, List.not_mem_nil, or_false] at hlen
  cases payload with
  | nil => rfl
  | cons b rest =>
    rw [List.length_cons] at hlen
    rw [List.take_of_length_le (by rw [List.length_cons]; omega),
      readBinary_short hF b (List.ne_nil_of_length_pos (by omega)) (by omega)]
    show Except.ok (NlAddr.mk _ _ _) = Except.ok (NlAddr.mk (nlAddrOfAttr _).aFamily _ _)
    rw [hguess]
    simp only [List.length_cons, Nat.reduceEqDiff, if_true]
    rfl

lemma read_back_one (hlen : nla.payload.length = 1) :
    nlAddrParse F (nodeText F nla) 0 = .error (-NLE_NOADDR) := by
  rw [nlAddrParse_nodeText h4 h16]
  obtain ⟨b, hb⟩ := List.length_eq_one_iff.mp hlen
  rw [hb]
  show (readBinary F (hexText [b]) 0).bind _ = _
  rw [readBinary_one hF b]
  rfl

lemma read_back_long (hlen : 7 ≤ nla.payload.length) :
    ∃ addr, nlAddrParse F (nodeText F nla) 0 = .ok addr ∧
      (addr.aFamily = AF_INET6 ∨ addr.aFamily = AF_LLC ∧ addr.aAddr = nla.payload.take 6) := by
  rw [nlAddrParse_nodeText h4 h16]
  obtain ⟨type, payload⟩ := nla
  cases payload with
  | nil => exact absurd hlen (Nat.not_succ_le_zero 6)
  | cons b rest =>
    rw [List.length_cons] at hlen
    have hlong : 5 ≤ (rest.take 15).length := by
      rw [List.length_take]
      omega
    rw [List.take_succ_cons]
    rcases readBinary_long hF b hlong with ⟨addr, hread⟩ | hread
    · rw [hread]
      exact ⟨_, rfl, .inl rfl⟩
    · rw [hread, List.take_take]
      exact ⟨_, rfl, .inr ⟨rfl, rfl⟩⟩

end

/-- The text of an address in an attribute is read as that address exactly if it has 2, 3, 5 or 6
bytes, or none; one byte is refused, and of more than six the first six are read, or an IPv6
address. -/
theorem text_read_back_iff (hF : InetText F) {nla : Nlattr} (h4 : nla.payload.length ≠ 4)
    (h16 : nla.payload.length ≠ 16) :
    (nlAddrParse F (nodeText F nla) 0 = .ok (nlAddrOfAttr nla) ↔
      nla.payload.length ∈ [0, 2, 3, 5, 6]) ∧
    (nla.payload.length = 1 → nlAddrParse F (nodeText F nla) 0 = .error (-NLE_NOADDR)) ∧
    (7 ≤ nla.payload.length → ∃ addr, nlAddrParse F (nodeText F nla) 0 = .ok addr ∧
      (addr.aFamily = AF_INET6 ∨ addr.aFamily = AF_LLC ∧ addr.aAddr = nla.payload.take 6)) := by
  refine ⟨⟨fun h => ?_, read_back_same hF h4 h16⟩, read_back_one hF h4 h16,
    read_back_long hF h4 h16⟩
  rcases length_cases h4 with hmem | hone | hlong
  · exact hmem
  · rw [read_back_one hF h4 h16 hone] at h
    cases h
  · obtain ⟨addr, hread, hfamily⟩ := read_back_long hF h4 h16 hlong
    rw [hread] at h
    obtain rfl := Except.ok.inj h
    rw [guess_of_length h4 h16, if_neg (by omega)] at hfamily
    rcases hfamily with h6 | ⟨hllc, -⟩
    · exact absurd h6 (by decide)
    · exact absurd hllc (by decide)

theorem text_read_back_mac :
    nlAddrParse hexOnly (nodeText hexOnly ⟨1, [2, 0, 0, 0, 0, 1]⟩) 0 =
      .ok (nlAddrOfAttr ⟨1, [2, 0, 0, 0, 0, 1]⟩) :=
  (text_read_back_iff ⟨fun _ _ => rfl, fun _ _ _ _ => rfl⟩ (by decide) (by decide)).1.mpr
    (by decide)

end

/-! ## link-layer addresses -/

section
variable {F : FamilyText}

/-- what a text can be read as for the hint `AF_LLC` -/
lemma readBinary_llc {str : CStr} {read : Nat × List UInt8 × Nat}
    (h : readBinary F str AF_LLC = .ok read) :
    read.1 = AF_LLC ∧ (read.2.1 = [] ∨ read.2.1.length = 6) ∧ read.2.2 = 0 := by
  rw [readBinary] at h
  split at h
  · obtain rfl := Except.ok.inj h
    exact ⟨rfl, Or.inl rfl, rfl⟩
  split at h
  · obtain rfl := Except.ok.inj h
    exact ⟨rfl, Or.inl rfl, rfl⟩
  have hother : ∀ family fits found, family ≠ AF_LLC → attempt family AF_LLC fits found = none :=
    fun family fits found hne => if_neg fun hmem => by
      rcases hmem.1 with heq | heq
      · exact hne heq.symm
      · cases heq
  rw [hother _ _ _ (by decide), hother _ _ _ (by decide), hother _ _ _ (by decide)] at h
  simp only [Option.none_or, Option.or_none] at h
  cases hcolon : str.contains 58 with
  | false =>
    have hnone : attempt AF_LLC AF_LLC false (scanGroups 5 str) = none := if_neg (by simp)
    rw [hcolon, hnone] at h
    cases h
  | true =>
    rw [hcolon] at h
    cases hscan : scanGroups 5 str with
    | none =>
      rw [hscan] at h
      cases h
    | some addr =>
      rw [hscan] at h
      obtain rfl := Except.ok.inj h
      exact ⟨rfl, Or.inr (length_scanGroups hscan), rfl⟩

lemma readBinary_llc_hexText (F : FamilyText) {a : List UInt8} (ha : a = [] ∨ a.length = 6) :
    readBinary F (hexText a) AF_LLC = .ok (AF_LLC, a, 0) := by
  rcases ha with rfl | ha
  · rfl
  · have hpos : 0 < a.length := by omega
    obtain ⟨b, rest, rfl⟩ := List.exists_cons_of_ne_nil (List.ne_nil_of_length_pos hpos)
    rw [List.length_cons] at ha
    have hne : rest ≠ [] := List.ne_nil_of_length_pos (by omega)
    rw [readBinary_hexText, decide_eq_true hne, if_neg (by omega),
      List.take_of_length_le (by omega)]
    rfl

lemma setPrefix_text {addr : NlAddr} (hpl : addr.aPrefixlen < 2 ^ 32) :
    setPrefix addr.aFamily addr.aAddr 0 (prefixText addr).tail? = .ok addr := by
  rw [prefixText]
  split
  · rename_i hall
    show Except.ok (NlAddr.mk _ _ _) = _
    rw [if_pos rfl, Nat.mul_comm, ← hall]
  · show setPrefix _ _ 0 (some (decimal addr.aPrefixlen)) = _
    have hmod : ((addr.aPrefixlen : Int) % 2 ^ 32).toNat = addr.aPrefixlen := by omega
    rw [setPrefix, strtol_decimal (by omega)]
    show Except.ok (NlAddr.mk _ _ _) = _
    rw [hmod]

lemma nlAddrParse_llc {text : CStr} {addr : NlAddr} (h : nlAddrParse F text AF_LLC = .ok addr) :
    addr.aFamily = AF_LLC ∧ (addr.aAddr = [] ∨ addr.aAddr.length = 6) ∧
      addr.aPrefixlen < 2 ^ 32 := by
  rw [nlAddrParse, if_pos (by decide), if_pos (by decide)] at h
  cases hread : readBinary F (text.takeWhile fun c => decide (c ≠ 47)) AF_LLC with
  | error e =>
    rw [hread] at h
    cases h
  | ok read =>
    obtain ⟨hfam, haddr, hplen⟩ := readBinary_llc hread
    rw [hread] at h
    replace h : setPrefix read.1 read.2.1 read.2.2 _ = .ok addr := h
    rw [setPrefix.eq_def] at h
    split at h
    · split at h
      · cases h
      · obtain rfl := Except.ok.inj h
        refine ⟨hfam, haddr, ?_⟩
        dsimp only
        omega
    · obtain rfl := Except.ok.inj h
      refine ⟨hfam, haddr, ?_⟩
      dsimp only
      rw [if_pos hplen]
      rcases haddr with haddr | haddr
      · rw [haddr]
        decide
      · rw [haddr]
        decide

lemma length_llcText {addr : NlAddr} (haddr : addr.aAddr = [] ∨ addr.aAddr.length = 6)
    (hpl : addr.aPrefixlen < 2 ^ 32) : (hexText addr.aAddr ++ prefixText addr).length ≤ 28 := by
  have hhex : (hexText addr.aAddr).length ≤ 17 := by
    rcases haddr with haddr | haddr
    · rw [haddr]
      decide
    · have hpos : 0 < addr.aAddr.length := by omega
      obtain ⟨b, rest, hcons⟩ := List.exists_cons_of_ne_nil (List.ne_nil_of_length_pos hpos)
      rw [hcons, List.length_cons] at haddr
      rw [hcons, length_hexText]
      omega
  have hprefix : (prefixText addr).length ≤ 11 := by
    rw [prefixText]
    split
    · show 0 ≤ 11
      omega
    · have hdigits := length_decimal hpl
      show (decimal addr.aPrefixlen).length + 1 ≤ 11
      omega
  rw [List.length_append]
  omega

/-- The addresses that some text gives for the hint `AF_LLC` are those that are read back from
their own text, in any buffer of 29 bytes or more. -/
theorem parsed_text_iff {size : Nat} (hsize : 29 ≤ size) (addr : NlAddr) :
    (∃ text, nlAddrParse F text AF_LLC = .ok addr) ↔
      nlAddrParse F (nlAddr2str F (some addr) size) AF_LLC = .ok addr := by
  refine ⟨?_, fun h => ⟨_, h⟩⟩
  rintro ⟨text, h⟩
  obtain ⟨hfam, haddr, hpl⟩ := nlAddrParse_llc h
  have hlen := length_llcText haddr hpl
  have hown : ownText addr.aFamily = false := by
    rw [hfam]
    rfl
  have hslash : ∀ c, (prefixText addr).head? = some c → c = 47 := by
    intro c hc
    rw [prefixText] at hc
    split at hc
    · cases hc
    · exact (Option.some.inj hc).symm
  have hset := setPrefix_text hpl
  rw [hfam] at hset
  rw [nlAddr2str_hex F hown (fun _ => hpl), snprintf, List.take_of_length_le (by omega),
    nlAddrParse_hexText F (by decide) _ hslash, readBinary_llc_hexText F haddr]
  exact hset

theorem parsed_text_subnet :
    nlAddrParse hexOnly (nlAddr2str hexOnly (some ⟨AF_LLC, [2, 0, 0, 0, 0, 1], 40⟩) 29) AF_LLC =
      .ok ⟨AF_LLC, [2, 0, 0, 0, 0, 1], 40⟩ :=
  (parsed_text_iff le_rfl _).mp ⟨cs "2:0:0:0:0:1/0x28", rfl⟩

end

end Nl
