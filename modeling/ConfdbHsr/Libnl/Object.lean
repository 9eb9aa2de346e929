import Mathlib.Data.List.Basic
import Mathlib.Tactic.Lemma

/-!
# Netlink objects: attribute masks, comparison, identity

The part of libnl's object layer (`lib/object.c`, `object-api.h`) that caches rest on, for any
object type.

* `attrDiff`            `ATTR_DIFF`: the bit of an attribute in which two objects differ;
* `ObjectOps`           what an object type supplies (`struct nl_object_ops`);
* `objectIdentical`     `nl_object_identical`: same identifying attributes, no difference in them;
* `objectDiff64`        `nl_object_diff64`: the difference over all attributes.

C strings are the bytes before their terminating zero; error codes are those of `errno.h`.
-/

abbrev CStr := List UInt8

/-- the C string literal `s` (ASCII) -/
def cs (s : String) : CStr := s.toList.map fun ch => ch.toNat.toUInt8

namespace Nl

abbrev Mask := BitVec 64

/-- the bit of an attribute that is present -/
def bitIf {α : Type} (attr : Mask) (o : Option α) : Mask := if o.isSome then attr else 0

def NLE_AGAIN : Int := 4
def NLE_NOMEM : Int := 5
def NLE_EXIST : Int := 6
def NLE_OPNOTSUPP : Int := 10
def NLE_OBJ_NOTFOUND : Int := 12
def NLE_MISSING_ATTR : Int := 14
def NLE_MSGTYPE_NOSUPPORT : Int := 22

/-- `ATTR_DIFF`: `attr` if it is asked for and only one object has it, or both have it and the
two values differ -/
def attrDiff (attrs attr maskA maskB : Mask) (differs : Bool) : Mask :=
  if attrs &&& attr ≠ 0 ∧
      ((maskA ^^^ maskB) &&& attr ≠ 0 ∨ (maskA &&& maskB &&& attr ≠ 0 ∧ differs = true)) then attr
  else 0

/-- `struct nl_object_ops`, as far as caches use it; `oo_update` is absent throughout -/
structure ObjectOps (α : Type) where
  ceMask : α → Mask
  ooIdAttrs : Mask
  ooCompare : α → α → Mask → Mask

namespace ObjectOps
variable {α : Type} (ops : ObjectOps α)

def objectIdentical (a b : α) : Bool :=
  let reqAttrsA := ops.ooIdAttrs &&& ops.ceMask a
  let reqAttrsB := ops.ooIdAttrs &&& ops.ceMask b
  if reqAttrsA ≠ reqAttrsB then false
  else ops.ooCompare a b reqAttrsA == 0

def objectDiff64 (a b : α) : Mask := ops.ooCompare a b (BitVec.allOnes 64)

/-- two objects that have the same identifying attributes are compared in these -/
lemma objectIdentical_same {a b : α} {m : Mask} (ha : ops.ooIdAttrs &&& ops.ceMask a = m)
    (hb : ops.ooIdAttrs &&& ops.ceMask b = m) :
    ops.objectIdentical a b = true ↔ ops.ooCompare a b m = 0 := by
  rw [objectIdentical, ha, hb]
  simp

end ObjectOps

/-! ## differences -/

section
variable {attrs attr maskA maskB m : Mask} {differs : Bool}

lemma xor_and_mask (x y z : Mask) : (x ^^^ y) &&& z = (x &&& z) ^^^ (y &&& z) := by
  ext i hi
  rw [BitVec.getElem_and, BitVec.getElem_xor, BitVec.getElem_xor, BitVec.getElem_and,
    BitVec.getElem_and, Bool.and_xor_distrib_right]

lemma attrDiff_eq_zero (hattr : attr ≠ 0) :
    attrDiff attrs attr maskA maskB differs = 0 ↔
      (attrs &&& attr ≠ 0 →
        maskA &&& attr = maskB &&& attr ∧ (maskA &&& attr ≠ 0 → differs = false)) := by
  have hxor : (maskA ^^^ maskB) &&& attr = 0 ↔ maskA &&& attr = maskB &&& attr := by
    rw [xor_and_mask]
    exact BitVec.xor_eq_zero_iff
  have hand (h : maskA &&& attr = maskB &&& attr) :
      maskA &&& maskB &&& attr = maskA &&& attr := by
    rw [BitVec.and_assoc, ← h, ← BitVec.and_assoc, BitVec.and_self]
  unfold attrDiff
  split
  · rename_i h
    refine iff_of_false hattr fun hagree => ?_
    obtain ⟨hmask, hvalue⟩ := hagree h.1
    rcases h.2 with hdiff | ⟨hboth, hdiff⟩
    · exact hdiff (hxor.mpr hmask)
    · rw [hand hmask] at hboth
      rw [hvalue hboth] at hdiff
      cases hdiff
  · rename_i h
    refine iff_of_true rfl fun hattrs => ?_
    have hmask : maskA &&& attr = maskB &&& attr := by
      by_contra hne
      exact h ⟨hattrs, .inl fun hzero => hne (hxor.mp hzero)⟩
    refine ⟨hmask, fun hboth => ?_⟩
    by_contra hdiff
    rw [← hand hmask] at hboth
    exact h ⟨hattrs, .inr ⟨hboth, by simpa using hdiff⟩⟩

lemma attrDiff_absent (hA : maskA &&& attr = 0) (hB : maskB &&& attr = 0) :
    attrDiff attrs attr maskA maskB differs = 0 := by
  by_cases hattr : attr = 0
  · rw [hattr]
    exact ite_self 0
  · exact (attrDiff_eq_zero hattr).mpr fun _ => ⟨hA.trans hB.symm, fun h => absurd hA h⟩

lemma attrDiff_present (hattrs : attrs &&& attr ≠ 0) (hm : m &&& attr ≠ 0) :
    attrDiff attrs attr m m differs = 0 ↔ differs = false := by
  have hattr : attr ≠ 0 := by
    rintro rfl
    exact hm BitVec.and_zero
  rw [attrDiff_eq_zero hattr]
  exact ⟨fun h => (h hattrs).2 hm, fun h _ => ⟨rfl, fun _ => h⟩⟩

lemma and_bit_ne_zero {w n : Nat} (hn : n < w) (x : BitVec w) :
    x &&& 1#w <<< n ≠ 0 ↔ x.getLsbD n = true := by
  have hbit : (BitVec.twoPow w n).getLsbD n = true := by simp [hn]
  have hne : BitVec.twoPow w n ≠ 0 := by
    intro h
    rw [h] at hbit
    simp at hbit
  show x &&& BitVec.twoPow w n ≠ 0 ↔ _
  rw [BitVec.and_twoPow]
  cases x.getLsbD n with
  | false => simp
  | true => simpa using hne

lemma bit_ne_zero {n : Nat} (hn : n < 64) : (1#64 <<< n : Mask) ≠ 0 := by
  have hself := (and_bit_ne_zero hn (1#64 <<< n)).mpr (by simp [hn])
  rwa [BitVec.and_self] at hself

lemma attrDiff_bit {n : Nat} (hn : n < 64) :
    attrDiff attrs (1#64 <<< n) maskA maskB differs = 0 ↔
      (attrs.getLsbD n = true → maskA.getLsbD n = maskB.getLsbD n ∧
        (maskA.getLsbD n = true → differs = false)) := by
  have hattr : (1#64 <<< n : Mask) ≠ 0 := bit_ne_zero hn
  have hbit (x : Mask) :
      x &&& 1#64 <<< n = if x.getLsbD n = true then BitVec.twoPow 64 n else 0 :=
    BitVec.and_twoPow x n
  have hmask : maskA &&& 1#64 <<< n = maskB &&& 1#64 <<< n ↔
      maskA.getLsbD n = maskB.getLsbD n := by
    have hne : BitVec.twoPow 64 n ≠ 0 := hattr
    rw [hbit, hbit]
    cases maskA.getLsbD n <;> cases maskB.getLsbD n
    · exact iff_of_true rfl rfl
    · exact iff_of_false (fun h => hne h.symm) nofun
    · exact iff_of_false hne nofun
    · exact iff_of_true rfl rfl
  rw [attrDiff_eq_zero hattr, and_bit_ne_zero hn, and_bit_ne_zero hn, hmask]

end

end Nl
