import ConfdbHsr.Libnl.Msg
import Mathlib.Data.List.Nodup

/-!
# Records whose fields are optional attributes

A message builder puts the fields of a record that are present, one attribute each; a reader looks
up each attribute in the table of the message.

* `PutField R`     a field: its attribute, whether a record has it, and the payload;
* `fieldAttrs`     the attributes of a record;
* `putFields`      the builder, which is `putAttrs` of them (`putFields_eq`);
* `nlaParse_fields`   if no two fields share a type, the table of a record that was written holds
                   each field that is present, and no other.
-/

namespace Nl
variable {R : Type}

structure PutField (R : Type) where
  nlaType : UInt16
  present : R → Bool
  data : R → List UInt8

namespace PutField

def attr (f : PutField R) (r : R) : Nlattr := ⟨f.nlaType, f.data r⟩

/-- `nla_type` of its attribute -/
def type (f : PutField R) : Nat := (f.nlaType &&& NLA_TYPE_MASK).toNat

@[simp] lemma attr_type (f : PutField R) (r : R) : (f.attr r).type = f.type := rfl

end PutField

/-- the attributes of the fields that are present -/
def fieldAttrs (fields : List (PutField R)) (r : R) : List Nlattr :=
  (fields.filter fun f => f.present r).map fun f => f.attr r

/-- one `NLA_PUT` under its condition -/
def putField (r : R) (msg : NlMsg) (f : PutField R) : Except NlMsg NlMsg :=
  if f.present r then putAttr msg (f.attr r) else .ok msg

def putFields (fields : List (PutField R)) (r : R) (msg : NlMsg) : Except NlMsg NlMsg :=
  fields.foldlM (putField r) msg

section
variable {fields : List (PutField R)} {r : R}

lemma mem_fieldAttrs {nla : Nlattr} :
    nla ∈ fieldAttrs fields r ↔ ∃ f ∈ fields, f.present r = true ∧ f.attr r = nla := by
  simp [fieldAttrs, and_assoc]

lemma fieldAttrs_append (fields fields' : List (PutField R)) (r : R) :
    fieldAttrs (fields ++ fields') r = fieldAttrs fields r ++ fieldAttrs fields' r := by
  simp [fieldAttrs]

lemma fieldAttrs_cons (f : PutField R) (fields : List (PutField R)) (r : R) :
    fieldAttrs (f :: fields) r =
      if f.present r then f.attr r :: fieldAttrs fields r else fieldAttrs fields r := by
  rw [fieldAttrs, List.filter_cons]
  split <;> rfl

lemma putFields_eq (msg : NlMsg) : putFields fields r msg = putAttrs msg (fieldAttrs fields r) := by
  induction fields generalizing msg with
  | nil => rfl
  | cons f fields ih =>
    rw [putFields, List.foldlM_cons, fieldAttrs_cons, putField]
    split
    · rw [putAttrs, List.foldlM_cons]
      cases putAttr msg (f.attr r) with
      | error msg' => rfl
      | ok msg' => exact ih msg'
    · exact ih msg

/-! ## the table -/

lemma lastOfType_of_nodup {attrs : List Nlattr} (hnodup : (attrs.map Nlattr.type).Nodup)
    {nla : Nlattr} (h : nla ∈ attrs) : lastOfType attrs nla.type = some nla := by
  obtain ⟨nla', hmem, htype, hlast⟩ := lastOfType_mem ⟨nla, h, rfl⟩
  rw [hlast, List.inj_on_of_nodup_map hnodup hmem h htype]

lemma lastOfType_eq_none {attrs : List Nlattr} {t : Nat} (h : ∀ nla ∈ attrs, nla.type ≠ t) :
    lastOfType attrs t = none := by
  induction attrs using List.reverseRecOn with
  | nil => rfl
  | append_singleton attrs last ih =>
    have hlast := h last (by simp)
    rw [lastOfType, List.foldl_append]
    show (if last.type = t then some last else lastOfType attrs t) = none
    rw [if_neg hlast]
    exact ih fun nla hnla => h nla (List.mem_append_left _ hnla)

lemma nodup_fieldAttrs (hnodup : (fields.map PutField.type).Nodup) :
    ((fieldAttrs fields r).map Nlattr.type).Nodup := by
  have htypes : (fieldAttrs fields r).map Nlattr.type =
      (fields.filter fun f => f.present r).map PutField.type := by
    rw [fieldAttrs, List.map_map]
    rfl
  rw [htypes]
  exact hnodup.sublist (List.filter_sublist.map _)

lemma lastOfType_fieldAttrs (hnodup : (fields.map PutField.type).Nodup) {f : PutField R}
    (hf : f ∈ fields) :
    lastOfType (fieldAttrs fields r) f.type = if f.present r then some (f.attr r) else none := by
  split
  · rename_i hpresent
    exact lastOfType_of_nodup (nodup_fieldAttrs hnodup) (mem_fieldAttrs.mpr ⟨f, hf, hpresent, rfl⟩)
  · rename_i habsent
    refine lastOfType_eq_none fun nla hnla htype => ?_
    obtain ⟨g, hg, hpresent, rfl⟩ := mem_fieldAttrs.mp hnla
    rw [List.inj_on_of_nodup_map hnodup hg hf htype] at hpresent
    exact habsent hpresent

/-- a table with each field of the record that is present, and no other attribute -/
structure TableOf (fields : List (PutField R)) (r : R) (maxtype : Nat) (tb : AttrTable) : Prop where
  field : ∀ f ∈ fields, f.type ≤ maxtype →
    tb f.type = if f.present r then some (f.attr r) else none
  absent : ∀ t ≤ maxtype, (∀ f ∈ fields, f.type ≠ t) → tb t = none

/-- **The table of a record that was written** holds each field that is present, and no other. -/
theorem nlaParse_fields {maxtype : Nat} {policy : Nat → NlaPolicy}
    (hnodup : (fields.map PutField.type).Nodup)
    (hvalid : ∀ f ∈ fields, f.present r = true →
      (f.attr r).Fits ∧ 0 ≤ validateNla (f.attr r) maxtype policy) :
    ∃ tb, nlaParse maxtype (some policy) (encodeAttrs (fieldAttrs fields r)) = .ok tb ∧
      TableOf fields r maxtype tb := by
  have hattrs (nla : Nlattr) (h : nla ∈ fieldAttrs fields r) :
      nla.Fits ∧ 0 ≤ validateNla nla maxtype policy := by
    obtain ⟨f, hf, hpresent, rfl⟩ := mem_fieldAttrs.mp h
    exact hvalid f hf hpresent
  obtain ⟨tb, hparse, htb⟩ := nlaParse_encode (fun nla h => (hattrs nla h).1)
    fun nla h => (hattrs nla h).2
  refine ⟨tb, hparse, fun f hf hmax => ?_, fun t hmax habsent => ?_⟩
  · rw [htb _ hmax, lastOfType_fieldAttrs hnodup hf]
  · rw [htb _ hmax]
    refine lastOfType_eq_none fun nla hnla => ?_
    obtain ⟨f, hf, _, rfl⟩ := mem_fieldAttrs.mp hnla
    exact habsent f hf

end

end Nl
