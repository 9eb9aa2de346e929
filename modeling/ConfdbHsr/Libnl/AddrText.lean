import ConfdbHsr.Lib.CText
import ConfdbHsr.Libnl.HsrNode
import ConfdbHsr.Libnl.Socket

/-!
# The text of an address

`nl_addr2str` and `nl_addr_parse` of `lib/addr.c`.

* `FamilyText`      the conversions of the families that have a text of their own;
* `nlAddr2str`      `nl_addr2str`: what is in the buffer afterwards;
* `nlAddrParse`     `nl_addr_parse`, for any hint;
* `nlAddr2str_hex`  the text of an address of another family, cut to the buffer;
* `hexText_injective`, `snprintf_hexText`   what is told by the text, and how much of it fits;
* `scanGroups_hexText`, `readGroups_hexText`   the two ways it is read.

`a_prefixlen` is the `unsigned int` that `nl_addr_get_prefixlen` returns.
-/

namespace Nl
open CText

def AF_DECnet : Nat := 12

/-- `inet_ntop`, `dnet_ntop` and `mpls_ntop` to a buffer of a given size, `inet_pton`, `dnet_pton`
and `mpls_pton` -/
structure FamilyText where
  ntop : Nat → List UInt8 → Nat → CStr
  pton : Nat → CStr → Option (List UInt8)

/-- the families that these are for -/
def ownText (family : Nat) : Bool :=
  family = AF_INET ∨ family = AF_INET6 ∨ family = AF_MPLS ∨ family = AF_DECnet

section
variable (F : FamilyText)

/-! ## from the address to the text -/

/-- the bytes of the address, without its prefix length -/
def binaryText (addr : NlAddr) (size : Nat) : CStr :=
  match addr.aAddr with
  | [] => snprintf size (cs "none")
  | b :: rest =>
    if ownText addr.aFamily then F.ntop addr.aFamily addr.aAddr size
    else rest.foldl (fun buf b => strncat size buf (snprintf 16 (cs ":" ++ hexByte b)))
      (snprintf size (hexByte b))

def nlAddr2str (addr : Option NlAddr) (size : Nat) : CStr :=
  match addr with
  | none => snprintf size (cs "none")
  | some addr =>
    if addr.aFamily ≠ AF_MPLS ∧ addr.aPrefixlen ≠ 8 * addr.aAddr.length then
      strncat size (binaryText F addr size) (snprintf 16 (cs "/" ++ decimal addr.aPrefixlen))
    else binaryText F addr size

/-! ## from the text to the address -/

/-- `sscanf` with `%02x` and `n` times `:%02x` -/
def scanGroups : Nat → CStr → Option (List UInt8)
  | 0, s => (scanHex2 s).map fun r => [r.1]
  | n + 1, s =>
    (scanHex2 s).bind fun r =>
      if r.2.head? = some 58 then (scanGroups n r.2.tail).map (r.1 :: ·) else none

/-- The loop for `AF_UNSPEC`, with `i` bytes in the buffer: numbers in base 16, one byte skipped
after each but the last. -/
def readGroups (i : Nat) (s : CStr) : Option (List UInt8) :=
  match h : strtol 16 s with
  | none => none
  | some (l, p) =>
    if 0xff < l ∨ 256 ≤ i then none
    else
      match hp : p with
      | [] => some [(l % 256).toNat.toUInt8]
      | _ :: s => (readGroups (i + 1) s).map ((l % 256).toNat.toUInt8 :: ·)
termination_by s.length
decreasing_by
  have hlen := strtol_length h
  rw [List.length_cons] at hlen
  omega

/-- one attempt: whether the text can be of `family`, and its bytes if it is; a hint leaves no
other choice -/
def attempt (family hint : Nat) (fits : Bool) (read : Option (List UInt8)) :
    Option (Except Int (Nat × List UInt8 × Nat)) :=
  if (hint = family ∨ hint = 0) ∧ fits then
    match read with
    | some addr => some (.ok (family, addr, 0))
    | none => if hint = family then some (.error (-NLE_NOADDR)) else none
  else none

/-- the family, the bytes and the prefix length (0 if it follows from these) of the text in front
of a slash -/
def readBinary (str : CStr) (hint : Nat) : Except Int (Nat × List UInt8 × Nat) :=
  if strcaseeq str (cs "none") then .ok (hint, [], 0)
  else if strcaseeq str (cs "default") ∨ strcaseeq str (cs "all") ∨ strcaseeq str (cs "any") then
    if hint = AF_INET ∨ hint = 0 then .ok (AF_INET, [], 0)
    else if hint = AF_INET6 then .ok (AF_INET6, [], 0)
    else if hint = AF_LLC then .ok (AF_LLC, [], 0)
    else .error (-NLE_AF_NOSUPPORT)
  else
    let colon := str.contains 58
    ((attempt AF_INET hint true (F.pton AF_INET str)).or <|
      (attempt AF_INET6 hint true (F.pton AF_INET6 str)).or <|
      (attempt AF_LLC hint colon (scanGroups 5 str)).or <|
      attempt AF_DECnet hint (str.contains 46 ∨ str.contains 44) (F.pton AF_DECnet str)).getD <|
    if hint = AF_MPLS then
      match F.pton AF_MPLS str with
      | some addr => .ok (AF_MPLS, addr, 20)
      | none => .error (-NLE_INVAL)
    else if hint = 0 ∧ colon then
      match readGroups 0 str with
      | some addr => .ok (0, addr, 0)
      | none => .error (-NLE_INVAL)
    else .error (-NLE_NOADDR)

/-- the address with the prefix length that follows the slash -/
def setPrefix (family : Nat) (addr : List UInt8) (plen : Nat) : Option CStr → Except Int NlAddr
  | some text =>
    match strtol 0 text with
    | none => .error (-NLE_INVAL)
    | some (pl, _) => .ok ⟨family, addr, (pl % 2 ^ 32).toNat⟩
  | none => .ok ⟨family, addr, if plen = 0 then addr.length * 8 else plen⟩

def nlAddrParse (addrstr : CStr) (hint : Nat) : Except Int NlAddr :=
  let cut := hint ≠ AF_MPLS
  let str := if cut then addrstr.takeWhile (· ≠ 47) else addrstr
  let text := if cut then (addrstr.dropWhile (· ≠ 47)).tail? else none
  (readBinary F str hint).bind fun read => setPrefix read.1 read.2.1 read.2.2 text

end

/-! ## the bytes in base 16 -/

/-- the bytes with colons between them, or `none` -/
def hexText : List UInt8 → CStr
  | [] => cs "none"
  | b :: rest => hexByte b ++ rest.flatMap fun b => cs ":" ++ hexByte b

/-- the prefix length, unless it is that of all bytes -/
def prefixText (addr : NlAddr) : CStr :=
  if addr.aPrefixlen = 8 * addr.aAddr.length then [] else cs "/" ++ decimal addr.aPrefixlen

/-- what does not fit into the buffer is missing at the end -/
lemma foldl_strncat (size : Nat) (text : CStr) (rest : List UInt8) :
    rest.foldl (fun buf b => strncat size buf (snprintf 16 (cs ":" ++ hexByte b)))
        (snprintf size text) =
      snprintf size (text ++ rest.flatMap fun b => cs ":" ++ hexByte b) := by
  induction rest generalizing text with
  | nil => rw [List.foldl_nil, List.flatMap_nil, List.append_nil]
  | cons b rest ih =>
    have hfit : snprintf 16 (cs ":" ++ hexByte b) = cs ":" ++ hexByte b := rfl
    rw [List.foldl_cons, hfit, strncat_snprintf, ih, List.flatMap_cons, List.append_assoc]

lemma binaryText_hex (F : FamilyText) {addr : NlAddr} (hfam : ownText addr.aFamily = false)
    (size : Nat) : binaryText F addr size = snprintf size (hexText addr.aAddr) := by
  rw [binaryText]
  cases addr.aAddr with
  | nil => rfl
  | cons b rest =>
    show (if ownText addr.aFamily then _ else _) = _
    rw [hfam, if_neg Bool.false_ne_true]
    exact foldl_strncat size (hexByte b) rest

lemma nlAddr2str_hex (F : FamilyText) {addr : NlAddr} (hfam : ownText addr.aFamily = false)
    (hpl : addr.aPrefixlen ≠ 8 * addr.aAddr.length → addr.aPrefixlen < 2 ^ 32) (size : Nat) :
    nlAddr2str F (some addr) size = snprintf size (hexText addr.aAddr ++ prefixText addr) := by
  have hmpls : addr.aFamily ≠ AF_MPLS := by
    intro heq
    rw [heq] at hfam
    cases hfam
  show (if addr.aFamily ≠ AF_MPLS ∧ addr.aPrefixlen ≠ 8 * addr.aAddr.length then _ else _) = _
  rw [binaryText_hex F hfam, prefixText]
  by_cases hall : addr.aPrefixlen = 8 * addr.aAddr.length
  · rw [if_neg fun h => h.2 hall, if_pos hall, List.append_nil]
  · have hlen : (cs "/" ++ decimal addr.aPrefixlen).length ≤ 16 - 1 := by
      have hdigits := length_decimal (hpl hall)
      show (decimal addr.aPrefixlen).length + 1 ≤ 16 - 1
      omega
    have hfit : snprintf 16 (cs "/" ++ decimal addr.aPrefixlen) =
        cs "/" ++ decimal addr.aPrefixlen := List.take_of_length_le hlen
    rw [if_pos ⟨hmpls, hall⟩, if_neg hall, hfit, strncat_snprintf]

/-! ## what the text tells -/

lemma flatMap_hexByte_injective {a b : List UInt8}
    (h : (a.flatMap fun x => cs ":" ++ hexByte x) = b.flatMap fun x => cs ":" ++ hexByte x) :
    a = b := by
  induction a generalizing b with
  | nil =>
    cases b with
    | nil => rfl
    | cons y b => cases h
  | cons x a ih =>
    cases b with
    | nil => cases h
    | cons y b =>
      rw [List.flatMap_cons, List.flatMap_cons] at h
      obtain ⟨hbyte, hrest⟩ := List.append_inj h rfl
      rw [hexByte_injective (List.append_cancel_left hbyte), ih hrest]

lemma hexText_cons_ne (b : UInt8) (rest : List UInt8) : hexText (b :: rest) ≠ hexText [] := by
  intro h
  have hmem : (110 : UInt8) ∈ hexByte b := by
    obtain ⟨hhead, -⟩ := List.cons.inj h
    rw [← show digit (b.toNat / 16) = 110 from hhead]
    exact List.mem_cons_self
  exact not_mem_hexByte (by decide) hmem

lemma hexText_injective {a b : List UInt8} (h : hexText a = hexText b) : a = b := by
  cases a with
  | nil =>
    cases b with
    | nil => rfl
    | cons y b => exact absurd h.symm (hexText_cons_ne y b)
  | cons x a =>
    cases b with
    | nil => exact absurd h (hexText_cons_ne x a)
    | cons y b =>
      obtain ⟨hbyte, hrest⟩ := List.append_inj h rfl
      rw [hexByte_injective hbyte, flatMap_hexByte_injective hrest]

lemma take_flatMap_hexByte (k : Nat) (rest : List UInt8) :
    (rest.flatMap fun x => cs ":" ++ hexByte x).take (3 * k) =
      (rest.take k).flatMap fun x => cs ":" ++ hexByte x := by
  induction rest generalizing k with
  | nil => rw [List.take_nil, List.flatMap_nil, List.take_nil]
  | cons b rest ih =>
    cases k with
    | zero => rfl
    | succ k =>
      have hsize : 3 * (k + 1) = (cs ":" ++ hexByte b).length + 3 * k := by
        show 3 * (k + 1) = 3 + 3 * k
        omega
      rw [List.take_succ_cons, List.flatMap_cons, List.flatMap_cons, ← ih k, hsize,
        List.take_length_add_append]

/-- a buffer of three bytes for each byte holds the text of that many bytes -/
lemma snprintf_hexText {k : Nat} (hk : 2 ≤ k) (a : List UInt8) :
    snprintf (3 * k) (hexText a) = hexText (a.take k) := by
  obtain ⟨k, rfl⟩ := Nat.exists_eq_add_of_le hk
  cases a with
  | nil =>
    have hlen : (cs "none").length ≤ 3 * (2 + k) - 1 := by
      show 4 ≤ 3 * (2 + k) - 1
      omega
    rw [List.take_nil]
    exact List.take_of_length_le hlen
  | cons b rest =>
    have hsize : 3 * (2 + k) - 1 = (hexByte b).length + 3 * (1 + k) := by
      show 3 * (2 + k) - 1 = 2 + 3 * (1 + k)
      omega
    have htake : (b :: rest).take (2 + k) = b :: rest.take (1 + k) := by
      rw [show 2 + k = (1 + k) + 1 by omega, List.take_succ_cons]
    rw [snprintf, htake, hsize]
    show (hexByte b ++ _).take _ = hexByte b ++ _
    rw [List.take_length_add_append, take_flatMap_hexByte]

/-! ## which bytes it holds -/

/-- a digit in base 16, or a colon -/
def isGroupByte (c : UInt8) : Bool := isDigit 16 c || c == 58

lemma groupByte_hexText {b c : UInt8} {rest : List UInt8} (h : c ∈ hexText (b :: rest)) :
    isGroupByte c = true := by
  have hbyte : ∀ {x}, c ∈ hexByte x → isGroupByte c = true := fun hx => by
    rw [isGroupByte, isDigit_hexByte hx]
    rfl
  rcases List.mem_append.mp h with h | h
  · exact hbyte h
  · obtain ⟨x, -, h⟩ := List.mem_flatMap.mp h
    rcases List.mem_cons.mp h with rfl | h
    · rfl
    · exact hbyte h

lemma groupByte_tolower {c : UInt8} : isGroupByte c = true → isGroupByte (tolower c) = true := by
  revert c
  apply byte_forall
  decide +kernel

/-- no word with another letter is such a text -/
lemma strcaseeq_hexText {b x : UInt8} {rest : List UInt8} {word : CStr}
    (hmem : x ∈ word.map tolower) (hx : isGroupByte x = false) :
    strcaseeq (hexText (b :: rest)) word = false := by
  refine decide_eq_false fun heq => ?_
  rw [← heq] at hmem
  obtain ⟨c, hc, rfl⟩ := List.mem_map.mp hmem
  rw [groupByte_tolower (groupByte_hexText hc)] at hx
  cases hx

lemma not_mem_hexText {b x : UInt8} {rest : List UInt8} (hx : isGroupByte x = false) :
    x ∉ hexText (b :: rest) := by
  intro hmem
  rw [groupByte_hexText hmem] at hx
  cases hx

lemma not_slash_hexText {c : UInt8} {a : List UInt8} (h : c ∈ hexText a) : c ≠ 47 := by
  rintro rfl
  cases a with
  | nil =>
    revert h
    decide
  | cons b rest => exact not_mem_hexText rfl h

lemma colon_hexText (b : UInt8) (rest : List UInt8) :
    (hexText (b :: rest)).contains 58 = decide (rest ≠ []) := by
  cases rest with
  | nil =>
    have hno : (58 : UInt8) ∉ hexByte b := not_mem_hexByte (by decide)
    simpa [hexText] using hno
  | cons x rest => simp [hexText, cs]

lemma count_hexText (b : UInt8) (rest : List UInt8) :
    (hexText (b :: rest)).count 58 = rest.length := by
  have hbyte : ∀ x, (hexByte x).count 58 = 0 := fun x =>
    List.count_eq_zero.mpr (not_mem_hexByte (by decide))
  show (hexByte b ++ _).count 58 = _
  rw [List.count_append, hbyte]
  induction rest with
  | nil => rfl
  | cons x rest ih =>
    rw [List.flatMap_cons, List.count_append, List.count_append, hbyte, List.length_cons]
    show 0 + (1 + 0 + _) = _
    omega

lemma length_hexText (b : UInt8) (rest : List UInt8) :
    (hexText (b :: rest)).length = 2 + 3 * rest.length := by
  show (hexByte b ++ _).length = _
  rw [List.length_append]
  show 2 + _ = _
  induction rest with
  | nil => rfl
  | cons x rest ih =>
    rw [List.flatMap_cons, List.length_append, List.length_cons]
    show 2 + (3 + _) = _
    omega

lemma isChain_hexText (b : UInt8) (rest : List UInt8) :
    (hexText (b :: rest)).IsChain fun c d => c ≠ 58 ∨ d ≠ 58 := by
  have hhigh : ∀ x : UInt8, digit (x.toNat / 16) ≠ 58 := fun x heq =>
    not_mem_hexByte (by decide) (heq ▸ List.mem_cons_self : 58 ∈ hexByte x)
  have hlow : ∀ x : UInt8, digit (x.toNat % 16) ≠ 58 := fun x heq =>
    not_mem_hexByte (by decide) (heq ▸ List.mem_cons_of_mem _ List.mem_cons_self : 58 ∈ hexByte x)
  induction rest generalizing b with
  | nil =>
    show [digit (b.toNat / 16), digit (b.toNat % 16)].IsChain _
    rw [List.isChain_cons_cons]
    exact ⟨Or.inl (hhigh b), List.isChain_singleton _⟩
  | cons x rest ih =>
    show (digit (b.toNat / 16) :: digit (b.toNat % 16) :: 58 :: hexText (x :: rest)).IsChain _
    rw [List.isChain_cons_cons, List.isChain_cons_cons]
    refine ⟨Or.inl (hhigh b), Or.inl (hlow b), ?_⟩
    show (58 :: digit (x.toNat / 16) :: _).IsChain _
    rw [List.isChain_cons_cons]
    exact ⟨Or.inr (hhigh x), ih x⟩

/-! ## reading the bytes -/

lemma scanGroups_hexText (n : Nat) (b : UInt8) (rest : List UInt8) :
    scanGroups n (hexText (b :: rest)) =
      if rest.length < n then none else some (b :: rest.take n) := by
  induction n generalizing b rest with
  | zero =>
    rw [scanGroups]
    show (scanHex2 (hexByte b ++ _)).map _ = _
    rw [scanHex2_hexByte]
    rfl
  | succ n ih =>
    rw [scanGroups]
    show (scanHex2 (hexByte b ++ _)).bind _ = _
    rw [scanHex2_hexByte]
    cases rest with
    | nil => rfl
    | cons x rest =>
      show (scanGroups n (hexText (x :: rest))).map _ = _
      rw [ih, List.length_cons]
      by_cases hlen : rest.length < n
      · rw [if_pos hlen, if_pos (by omega)]
        rfl
      · rw [if_neg hlen, if_neg (by omega)]
        rfl

lemma length_scanGroups {n : Nat} {s : CStr} {addr : List UInt8} (h : scanGroups n s = some addr) :
    addr.length = n + 1 := by
  induction n generalizing s addr with
  | zero =>
    obtain ⟨r, -, rfl⟩ := Option.map_eq_some_iff.mp h
    rfl
  | succ n ih =>
    obtain ⟨r, -, h⟩ := Option.bind_eq_some_iff.mp h
    split at h
    · obtain ⟨rest, hrest, rfl⟩ := Option.map_eq_some_iff.mp h
      rw [List.length_cons, ih hrest]
    · cases h

lemma readGroups_hexText {i : Nat} (b : UInt8) (rest : List UInt8) (hlen : i + rest.length < 256) :
    readGroups i (hexText (b :: rest)) = some (b :: rest) := by
  have hbyte : ∀ b : UInt8, ((b.toNat : Int) % 256).toNat.toUInt8 = b := by
    intro b
    have hb := b.toNat_lt
    rw [show ((b.toNat : Int) % 256).toNat = b.toNat by omega]
    exact UInt8.ofNat_toNat
  induction rest generalizing i b with
  | nil =>
    have hb := b.toNat_lt
    have hread : strtol 16 (hexText [b]) = some ((b.toNat : Int), []) := strtol_hexByte (by simp) b
    rw [readGroups]
    split
    · rename_i h
      rw [hread] at h
      cases h
    · rename_i l p h
      rw [hread] at h
      obtain ⟨rfl, rfl⟩ := Prod.mk.inj (Option.some.inj h)
      rw [List.length_nil] at hlen
      rw [if_neg (by omega)]
      show some [((b.toNat : Int) % 256).toNat.toUInt8] = _
      rw [hbyte]
  | cons x rest ih =>
    have hb := b.toNat_lt
    have hread : strtol 16 (hexText (b :: x :: rest)) =
        some ((b.toNat : Int), 58 :: hexText (x :: rest)) :=
      strtol_hexByte (fun c hc => by cases hc; decide) b
    rw [readGroups]
    split
    · rename_i h
      rw [hread] at h
      cases h
    · rename_i l p h
      rw [hread] at h
      obtain ⟨rfl, rfl⟩ := Prod.mk.inj (Option.some.inj h)
      rw [List.length_cons] at hlen
      rw [if_neg (by omega)]
      show (readGroups (i + 1) (hexText (x :: rest))).map _ = _
      rw [ih x (by omega), Option.map_some, hbyte]

end Nl
