import Mathlib.Data.List.Basic
import Mathlib.Data.Nat.Digits.Lemmas
import Mathlib.Tactic.Lemma

/-!
# Numbers in C strings

What `printf` writes for a number and what `strtol` and `scanf` read, on the bytes before the
terminating zero.

* `hexByte`, `decimal`    the formats `%02x` (of a byte) and `%u`;
* `strtol`                base 0, 8, 10 or 16: `none` if there are no digits;
* `strtoul`               the same to an `unsigned long`;
* `scanHex2`              the conversion `%2x`;
* `snprintf`, `strncat`   what fits into a buffer of a given size;
* `strtol_hexByte`, `strtol_decimal`, `scanHex2_hexByte`   what is written is read again.
-/

namespace CText

/-! ## digits -/

/-- the digit `n`, in lower case -/
def digit (n : Nat) : UInt8 := if n < 10 then (48 + n).toUInt8 else (87 + n).toUInt8

/-- the value of a digit or letter; 36 for other bytes -/
def digitVal (c : UInt8) : Nat :=
  if 48 ≤ c ∧ c ≤ 57 then c.toNat - 48
  else if 97 ≤ c ∧ c ≤ 122 then c.toNat - 87
  else if 65 ≤ c ∧ c ≤ 90 then c.toNat - 55
  else 36

def isDigit (base : Nat) (c : UInt8) : Bool := digitVal c < base
def isSpace (c : UInt8) : Bool := c = 32 ∨ (9 ≤ c ∧ c ≤ 13)
def isSign (c : UInt8) : Bool := c = 43 ∨ c = 45

/-- the number that digits stand for -/
def ofText (base : Nat) (digits : List UInt8) : Nat :=
  digits.foldl (fun n c => base * n + digitVal c) 0

lemma digitVal_digit {n : Nat} (h : n < 16) : digitVal (digit n) = n := by
  have hall : ∀ m ∈ List.range 16, digitVal (digit m) = m := by decide
  exact hall n (List.mem_range.mpr h)

lemma isDigit_digit {base n : Nat} (h : n < base) (hbase : base ≤ 16) :
    isDigit base (digit n) = true := by
  rw [isDigit, digitVal_digit (by omega)]
  exact decide_eq_true h

lemma isDigit_mono {base base' : Nat} {c : UInt8} (h : isDigit base c = true) (hle : base ≤ base') :
    isDigit base' c = true :=
  decide_eq_true (Nat.lt_of_lt_of_le (of_decide_eq_true h) hle)

lemma byte_forall {p : UInt8 → Prop} (h : ∀ n ∈ List.range 256, p n.toUInt8) (c : UInt8) : p c := by
  have hc : c.toNat.toUInt8 = c := UInt8.ofNat_toNat
  have hcall := h c.toNat (List.mem_range.mpr c.toNat_lt)
  rw [hc] at hcall
  exact hcall

lemma isDigit_16 {c : UInt8} : isDigit 16 c = true →
    isSpace c = false ∧ isSign c = false ∧ c ≠ 120 ∧ c ≠ 88 := by
  revert c
  apply byte_forall
  decide +kernel

def tolower (c : UInt8) : UInt8 := if 65 ≤ c ∧ c ≤ 90 then c + 32 else c

/-- whether `strcasecmp` finds two strings equal -/
def strcaseeq (a b : List UInt8) : Bool := a.map tolower = b.map tolower

/-! ## what is written -/

/-- `%02x` of a byte -/
def hexByte (b : UInt8) : List UInt8 := [digit (b.toNat / 16), digit (b.toNat % 16)]

/-- `%u` -/
def decimal (n : Nat) : List UInt8 :=
  if n = 0 then [48] else (Nat.digits 10 n).reverse.map digit

/-- `snprintf` of `text` to a buffer of `size` bytes -/
def snprintf (size : Nat) (text : List UInt8) : List UInt8 := text.take (size - 1)

/-- `strncat(buf, text, size - strlen(buf) - 1)` -/
def strncat (size : Nat) (buf text : List UInt8) : List UInt8 :=
  buf ++ text.take (size - buf.length - 1)

lemma strncat_snprintf (size : Nat) (text more : List UInt8) :
    strncat size (snprintf size text) more = snprintf size (text ++ more) := by
  rw [strncat, snprintf, snprintf, List.take_append, List.length_take]
  congr 2
  omega

lemma isDigit_hexByte {b c : UInt8} (h : c ∈ hexByte b) : isDigit 16 c = true := by
  have hb := b.toNat_lt
  rcases List.mem_cons.mp h with rfl | h
  · exact isDigit_digit (by omega) le_rfl
  · rw [List.mem_singleton] at h
    subst h
    exact isDigit_digit (by omega) le_rfl

lemma not_mem_hexByte {b c : UInt8} (hc : isDigit 16 c = false) : c ∉ hexByte b := by
  intro hmem
  rw [isDigit_hexByte hmem] at hc
  cases hc

lemma ofText_hexByte (b : UInt8) : ofText 16 (hexByte b) = b.toNat := by
  have hb := b.toNat_lt
  show 16 * (16 * 0 + digitVal (digit (b.toNat / 16))) + digitVal (digit (b.toNat % 16)) = _
  rw [digitVal_digit (by omega), digitVal_digit (by omega)]
  omega

lemma hexByte_injective {a b : UInt8} (h : hexByte a = hexByte b) : a = b := by
  have htext := ofText_hexByte a
  rw [h, ofText_hexByte] at htext
  exact UInt8.toNat_inj.mp htext.symm

lemma isDigit_decimal {n : Nat} {c : UInt8} (h : c ∈ decimal n) : isDigit 10 c = true := by
  rw [decimal] at h
  split at h
  · rw [List.mem_singleton] at h
    subst h
    rfl
  · obtain ⟨d, hd, rfl⟩ := List.mem_map.mp h
    exact isDigit_digit (Nat.digits_lt_base (by omega) (List.mem_reverse.mp hd)) (by omega)

lemma decimal_ne_nil (n : Nat) : decimal n ≠ [] := by
  rw [decimal]
  split
  · exact List.cons_ne_nil _ _
  · rename_i hn
    rw [Ne, List.map_eq_nil_iff, List.reverse_eq_nil_iff, Nat.digits_eq_nil_iff_eq_zero]
    exact hn

lemma length_decimal {n : Nat} (h : n < 2 ^ 32) : (decimal n).length ≤ 10 := by
  rw [decimal]
  split
  · show 1 ≤ 10
    omega
  · rw [List.length_map, List.length_reverse]
    exact (Nat.digits_length_le_iff (by omega) n).mpr (by omega)

lemma ofText_decimal (n : Nat) : ofText 10 (decimal n) = n := by
  rw [decimal]
  split
  · rename_i hn
    subst hn
    rfl
  · rw [ofText, List.foldl_map, List.foldl_reverse]
    calc (Nat.digits 10 n).foldr (fun d m => 10 * m + digitVal (digit d)) 0
        = (Nat.digits 10 n).foldr (fun d m => d + 10 * m) 0 := by
          refine List.foldr_ext _ _ _ fun d hd m => ?_
          have hd := Nat.digits_lt_base (by omega : 1 < 10) hd
          rw [digitVal_digit (by omega), Nat.add_comm]
      _ = Nat.ofDigits 10 (Nat.digits 10 n) := (Nat.ofDigits_eq_foldr 10 _).symm
      _ = n := Nat.ofDigits_digits 10 n

/-! ## what is read -/

/-- the digits at the front of a text as a number, and what follows them -/
def readDigits (base : Nat) (t : List UInt8) : Option (Nat × List UInt8) :=
  let digits := t.takeWhile (isDigit base)
  if digits = [] then none else some (ofText base digits, t.dropWhile (isDigit base))

/-- the base of the digits and where they start: `0x` counts before a hexadecimal digit only -/
def readBase (base : Nat) (t : List UInt8) : Nat × List UInt8 :=
  if (base = 0 ∨ base = 16) ∧ t.head? = some 48 ∧ (t.drop 1).head?.any (fun c => c = 120 ∨ c = 88) ∧
      (t.drop 2).head?.any (isDigit 16) then (16, t.drop 2)
  else if base ≠ 0 then (base, t)
  else if t.head? = some 48 then (8, t)
  else (10, t)

def readSign (t : List UInt8) : Int × List UInt8 :=
  if t.head?.any isSign then (if t.head? = some 45 then -1 else 1, t.drop 1) else (1, t)

/-- a `long` that a number is too large for is `LONG_MIN` or `LONG_MAX` -/
def clampLong (n : Int) : Int := max (-2 ^ 63) (min n (2 ^ 63 - 1))

def strtol (base : Nat) (t : List UInt8) : Option (Int × List UInt8) :=
  let signed := readSign (t.dropWhile isSpace)
  let based := readBase base signed.2
  (readDigits based.1 based.2).map fun read => (clampLong (signed.1 * read.1), read.2)

def ULONG_MAX : Nat := 2 ^ 64 - 1

/-- a sign counts in `unsigned long`, too: what is negative is taken modulo its range -/
def strtoul (base : Nat) (t : List UInt8) : Option (Nat × List UInt8) :=
  let signed := readSign (t.dropWhile isSpace)
  let based := readBase base signed.2
  (readDigits based.1 based.2).map fun read =>
    (if ULONG_MAX < read.1 then ULONG_MAX else (signed.1 * read.1 % 2 ^ 64).toNat, read.2)

/-- the conversion `%2x` to an `unsigned int`, of which the low byte is kept: of the two bytes
after the spaces, the first may be a sign and the second may be left -/
def scanHex2 (t : List UInt8) : Option (UInt8 × List UInt8) :=
  match t.dropWhile isSpace with
  | [] => none
  | c :: rest =>
    if isSign c then
      match rest with
      | d :: rest =>
        if isDigit 16 d then
          some (if c = 45 then 0 - (digitVal d).toUInt8 else (digitVal d).toUInt8, rest)
        else none
      | [] => none
    else if isDigit 16 c then
      match rest with
      | d :: rest =>
        if isDigit 16 d then some ((16 * digitVal c + digitVal d).toUInt8, rest)
        else if c = 48 ∧ (d = 120 ∨ d = 88) then none
        else some ((digitVal c).toUInt8, d :: rest)
      | [] => some ((digitVal c).toUInt8, [])
    else none

/-! ## what is written is read again -/

/-- digits, then a byte that is none -/
lemma readDigits_append {base : Nat} {digits rest : List UInt8} (hne : digits ≠ [])
    (hdigits : ∀ c ∈ digits, isDigit base c = true)
    (hrest : ∀ c, rest.head? = some c → isDigit base c = false) :
    readDigits base (digits ++ rest) = some (ofText base digits, rest) := by
  have hstop : rest.takeWhile (isDigit base) = [] ∧ rest.dropWhile (isDigit base) = rest := by
    cases rest with
    | nil => exact ⟨rfl, rfl⟩
    | cons c rest =>
      have hc := hrest c rfl
      exact ⟨List.takeWhile_cons_of_neg (by simp [hc]), List.dropWhile_cons_of_neg (by simp [hc])⟩
  rw [readDigits, List.takeWhile_append_of_pos hdigits, List.dropWhile_append_of_pos hdigits,
    hstop.1, hstop.2, List.append_nil]
  exact if_neg hne

lemma readSign_digit {c : UInt8} {t : List UInt8} (hc : isDigit 16 c = true) :
    readSign ((c :: t).dropWhile isSpace) = (1, c :: t) := by
  obtain ⟨hspace, hsign, -, -⟩ := isDigit_16 hc
  rw [List.dropWhile_cons_of_neg (by simp [hspace]), readSign]
  exact if_neg (by simp [hsign])

/-- where two digits stand in front there is no `0x` -/
lemma readBase_digits {base : Nat} {c d : UInt8} {t : List UInt8} (hd : isDigit 16 d = true) :
    readBase base (c :: d :: t) =
      if base ≠ 0 then (base, c :: d :: t)
      else if c = 48 then (8, c :: d :: t) else (10, c :: d :: t) := by
  obtain ⟨-, -, hx, hX⟩ := isDigit_16 hd
  rw [readBase, if_neg (by simp [hx, hX])]
  simp only [List.head?_cons, Option.some.injEq]

lemma clampLong_of_lt {n : Nat} (h : n < 2 ^ 63) : clampLong (1 * (n : Int)) = n := by
  rw [clampLong]
  omega

lemma strtol_hexByte {rest : List UInt8} (hrest : ∀ c, rest.head? = some c → isDigit 16 c = false)
    (b : UInt8) : strtol 16 (hexByte b ++ rest) = some ((b.toNat : Int), rest) := by
  have hb := b.toNat_lt
  have hhigh : isDigit 16 (digit (b.toNat / 16)) = true := isDigit_digit (by omega) le_rfl
  have hlow : isDigit 16 (digit (b.toNat % 16)) = true := isDigit_digit (by omega) le_rfl
  have hsign : readSign ((hexByte b ++ rest).dropWhile isSpace) = (1, hexByte b ++ rest) :=
    readSign_digit hhigh
  have hbase : readBase 16 (hexByte b ++ rest) = (16, hexByte b ++ rest) :=
    (readBase_digits hlow).trans (if_pos (by omega))
  have hread : readDigits 16 (hexByte b ++ rest) = some (ofText 16 (hexByte b), rest) :=
    readDigits_append (List.cons_ne_nil _ _) (fun c hc => isDigit_hexByte hc) hrest
  rw [strtol]
  simp only [hsign, hbase, hread]
  rw [ofText_hexByte, Option.map_some, clampLong_of_lt (by omega)]

/-- a decimal number has no zero in front, other than `0` itself -/
lemma head_decimal {n : Nat} (hn : n ≠ 0) {c : UInt8} (h : (decimal n).head? = some c) :
    c ≠ 48 := by
  rw [decimal, if_neg hn, List.head?_map, List.head?_reverse] at h
  obtain ⟨d, hd, rfl⟩ := Option.map_eq_some_iff.mp h
  have hne : Nat.digits 10 n ≠ [] := Nat.digits_ne_nil_iff_ne_zero.mpr hn
  rw [List.getLast?_eq_some_getLast hne, Option.some.injEq] at hd
  have hpos : d ≠ 0 := hd ▸ Nat.getLast_digit_ne_zero 10 hn
  have hlt : d < 10 := hd ▸ Nat.digits_lt_base (by omega) (List.getLast_mem hne)
  intro heq
  have hval := digitVal_digit (by omega : d < 16)
  rw [heq] at hval
  exact hpos hval.symm

lemma strtol_decimal {n : Nat} (hn : n < 2 ^ 63) : strtol 0 (decimal n) = some ((n : Int), []) := by
  by_cases h0 : n = 0
  · subst h0
    rfl
  · obtain ⟨c, t, ht⟩ := List.exists_cons_of_ne_nil (decimal_ne_nil n)
    have hc : c ≠ 48 := head_decimal h0 (by rw [ht]; rfl)
    have hdigit : isDigit 10 c = true := isDigit_decimal (by rw [ht]; exact List.mem_cons_self)
    have hsign := readSign_digit (t := t) (isDigit_mono hdigit (by omega))
    have hbase : readBase 0 (c :: t) = (10, c :: t) := by
      simp [readBase, hc]
    have hread : readDigits 10 (c :: t) = some (n, []) := by
      have happ : readDigits 10 (decimal n ++ []) = some (ofText 10 (decimal n), []) :=
        readDigits_append (decimal_ne_nil n) (fun c hc => isDigit_decimal hc) (by simp)
      rw [List.append_nil, ofText_decimal, ht] at happ
      exact happ
    rw [ht, strtol]
    simp only [hsign, hbase, hread, Option.map_some, clampLong_of_lt hn]

lemma scanHex2_hexByte (b : UInt8) (rest : List UInt8) :
    scanHex2 (hexByte b ++ rest) = some (b, rest) := by
  have hb := b.toNat_lt
  have hhigh : isDigit 16 (digit (b.toNat / 16)) = true := isDigit_digit (by omega) le_rfl
  have hlow : isDigit 16 (digit (b.toNat % 16)) = true := isDigit_digit (by omega) le_rfl
  obtain ⟨hspace, hsign, -, -⟩ := isDigit_16 hhigh
  have hdrop : (hexByte b ++ rest).dropWhile isSpace = hexByte b ++ rest :=
    List.dropWhile_cons_of_neg (by simp [hspace])
  have hvalue : 16 * (b.toNat / 16) + b.toNat % 16 = b.toNat := by omega
  rw [scanHex2, hdrop]
  simp only [hexByte, List.cons_append, List.nil_append, hsign, hhigh, hlow, if_true,
    Bool.false_eq_true, if_false]
  rw [digitVal_digit (by omega), digitVal_digit (by omega), hvalue]
  exact congrArg (fun b => some (b, rest)) UInt8.ofNat_toNat

lemma strtol_length {base : Nat} {t rest : List UInt8} {n : Int}
    (h : strtol base t = some (n, rest)) : rest.length < t.length := by
  have hsign : (readSign (t.dropWhile isSpace)).2.length ≤ t.length := by
    have hdrop := (List.dropWhile_suffix isSpace (l := t)).length_le
    rw [readSign]
    split
    · rw [List.length_drop]
      omega
    · exact hdrop
  have hbase : ∀ t : List UInt8, (readBase base t).2.length ≤ t.length := by
    intro t
    rw [readBase]
    split
    · rw [List.length_drop]
      omega
    · split_ifs <;> exact le_rfl
  have hread : ∀ {base n : Nat} {t rest : List UInt8}, readDigits base t = some (n, rest) →
      rest.length < t.length := by
    intro base n t rest hread
    rw [readDigits] at hread
    split at hread
    · cases hread
    · rename_i hne
      obtain ⟨-, rfl⟩ := Prod.mk.inj (Option.some.inj hread)
      have hsum := congrArg List.length
        (List.takeWhile_append_dropWhile (p := isDigit base) (l := t))
      have hpos := List.length_pos_of_ne_nil hne
      rw [List.length_append] at hsum
      omega
  rw [strtol] at h
  obtain ⟨⟨m, rest'⟩, hmap, heq⟩ := Option.map_eq_some_iff.mp h
  obtain ⟨-, rfl⟩ := Prod.mk.inj heq
  exact Nat.lt_of_lt_of_le (hread hmap) ((hbase _).trans hsign)

end CText
