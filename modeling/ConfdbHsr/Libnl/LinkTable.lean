import ConfdbHsr.Lib.KeyedFind
import ConfdbHsr.Libnl.LinkCache

/-!
# Tables of links

* `WellFormed`     what a kernel keeps to: names and indexes are distinct, masters exist, and a
                   bridge port has its device, its bridge, and no kind;
* `deviceNamed`, `nameOf`   the device of a name, and the name of the device of an index;
* `sight`          what a table shows of a name: no device, a free one, or one with a master;
* `Sight.Alike`    the same is seen, as far as some names tell;
* `sight_untouched`   a message that renames no device of these names changes the sight of at most
                   one of them, the one it touches;
* `sight_appears`, `sight_vanishes`, `sight_changes`   what it shows of that one.
-/

namespace Nl
open KeyedFind

/-- a table of links as a kernel keeps it -/
structure WellFormed (links : List LinkObj) : Prop where
  names : ((devices links).map fun link => link.lName).Nodup
  indexes : ((devices links).map fun link => link.lIndex).Nodup
  index_ne : ∀ link ∈ links, link.lIndex ≠ 0
  master : ∀ link ∈ links, link.lMaster ≠ 0 → link.hasMaster ∧
    ∃ master ∈ devices links, master.lIndex = link.lMaster
  port : ∀ link ∈ links, link.isDevice = false → link.lInfoKind = none ∧ link.lMaster ≠ 0 ∧
    ∃ device ∈ devices links, device.lIndex = link.lIndex

instance : DecidablePred LinkObj.hasMaster := fun _ => inferInstanceAs (Decidable (_ ≠ _))

instance (links : List LinkObj) : Decidable (WellFormed links) :=
  decidable_of_iff (((devices links).map fun link => link.lName).Nodup ∧
    ((devices links).map fun link => link.lIndex).Nodup ∧
    (∀ link ∈ links, link.lIndex ≠ 0) ∧
    (∀ link ∈ links, link.lMaster ≠ 0 → link.hasMaster ∧
      ∃ master ∈ devices links, master.lIndex = link.lMaster) ∧
    ∀ link ∈ links, link.isDevice = false → link.lInfoKind = none ∧ link.lMaster ≠ 0 ∧
      ∃ device ∈ devices links, device.lIndex = link.lIndex)
    ⟨fun h => ⟨h.1, h.2.1, h.2.2.1, h.2.2.2.1, h.2.2.2.2⟩,
      fun h => ⟨h.names, h.indexes, h.index_ne, h.master, h.port⟩⟩

/-- the device of a name -/
def deviceNamed (links : List LinkObj) (name : CStr) : Option LinkObj :=
  rtnlLinkGetByName (devices links) name

/-- the name of the device of an index -/
def nameOf (links : List LinkObj) (ifindex : UInt32) : Option CStr :=
  (rtnlLinkGet (devices links) ifindex).map fun link => link.lName

/-- what is seen of a device: it is free, or it has a master, of this name -/
inductive Sight where
  | missing | free
  | held (master : Option CStr)
  deriving DecidableEq, Repr

def sightOf (links : List LinkObj) (link : LinkObj) : Sight :=
  if link.lMaster = 0 then .free else .held (nameOf links link.lMaster)

/-- what is seen of a name -/
def sight (links : List LinkObj) (name : CStr) : Sight :=
  match deviceNamed links name with
  | none => .missing
  | some link => sightOf links link

section
variable {links : List LinkObj} (h : WellFormed links)
include h

lemma deviceNamed_iff {name : CStr} {link : LinkObj} :
    deviceNamed links name = some link ↔ link ∈ devices links ∧ link.lName = name :=
  find_iff h.names

omit h in
lemma deviceNamed_none_iff {name : CStr} :
    deviceNamed links name = none ↔ ∀ link ∈ devices links, link.lName ≠ name := by
  unfold deviceNamed rtnlLinkGetByName
  rw [find_none_iff]

lemma rtnlLinkGet_iff {ifindex : UInt32} {link : LinkObj} :
    rtnlLinkGet (devices links) ifindex = some link ↔
      link ∈ devices links ∧ link.lIndex = ifindex :=
  find_iff h.indexes

lemma nameOf_iff {ifindex : UInt32} {name : CStr} :
    nameOf links ifindex = some name ↔
      ∃ link ∈ devices links, link.lIndex = ifindex ∧ link.lName = name := by
  rw [nameOf, Option.map_eq_some_iff]
  constructor
  · rintro ⟨link, hfind, hname⟩
    obtain ⟨hmem, hindex⟩ := (rtnlLinkGet_iff h).mp hfind
    exact ⟨link, hmem, hindex, hname⟩
  · rintro ⟨link, hmem, hindex, hname⟩
    exact ⟨link, (rtnlLinkGet_iff h).mpr ⟨hmem, hindex⟩, hname⟩

lemma WellFormed.index_inj {a b : LinkObj} (ha : a ∈ devices links) (hb : b ∈ devices links)
    (hab : a.lIndex = b.lIndex) : a = b :=
  List.inj_on_of_nodup_map h.indexes ha hb hab

lemma sight_eq {link : LinkObj} (hmem : link ∈ devices links) :
    sight links link.lName = sightOf links link := by
  have hfind := (deviceNamed_iff h).mpr ⟨hmem, rfl⟩
  rw [sight, hfind]

omit h in
lemma sight_missing_iff {name : CStr} :
    sight links name = .missing ↔ ∀ link ∈ devices links, link.lName ≠ name := by
  rw [← deviceNamed_none_iff, sight]
  cases deviceNamed links name with
  | none => simp
  | some link =>
    refine iff_of_false ?_ nofun
    dsimp only
    unfold sightOf
    split
    · exact nofun
    · exact nofun

omit h in
lemma mem_devices {link : LinkObj} : link ∈ devices links ↔ link ∈ links ∧ link.isDevice = true :=
  List.mem_filter

end

/-! ## one link more -/

section
variable {pre post : List LinkObj} {L : LinkObj}

lemma mem_devices_middle {a : LinkObj} : a ∈ devices (pre ++ L :: post) ↔
    a ∈ devices (pre ++ post) ∨ (a = L ∧ L.isDevice = true) := by
  unfold devices
  rw [List.mem_filter, List.mem_filter, List.mem_append, List.mem_cons, List.mem_append]
  constructor
  · rintro ⟨ha | rfl | ha, hdev⟩
    · exact .inl ⟨.inl ha, hdev⟩
    · exact .inr ⟨rfl, hdev⟩
    · exact .inl ⟨.inr ha, hdev⟩
  · rintro (⟨ha | ha, hdev⟩ | ⟨rfl, hdev⟩)
    · exact ⟨.inl ha, hdev⟩
    · exact ⟨.inr (.inr ha), hdev⟩
    · exact ⟨.inr (.inl rfl), hdev⟩

lemma mem_devices_last {links : List LinkObj} {a : LinkObj} : a ∈ devices (links ++ [L]) ↔
    a ∈ devices links ∨ (a = L ∧ L.isDevice = true) := by
  have hmiddle : a ∈ devices (links ++ L :: []) ↔
      a ∈ devices (links ++ []) ∨ (a = L ∧ L.isDevice = true) := mem_devices_middle
  rwa [List.append_nil] at hmiddle

lemma WellFormed.apart (h : WellFormed (pre ++ L :: post)) (hL : L.isDevice = true) {a : LinkObj}
    (ha : a ∈ devices (pre ++ post)) : a.lName ≠ L.lName ∧ a.lIndex ≠ L.lIndex := by
  have hperm : (devices (pre ++ L :: post)).Perm (L :: devices (pre ++ post)) := by
    have hmiddle : (pre ++ L :: post).Perm (L :: (pre ++ post)) := List.perm_middle
    have hdevices := hmiddle.filter LinkObj.isDevice
    rwa [List.filter_cons_of_pos hL] at hdevices
  have hnames := (hperm.map fun link => link.lName).nodup_iff.mp h.names
  have hindexes := (hperm.map fun link => link.lIndex).nodup_iff.mp h.indexes
  rw [List.map_cons, List.nodup_cons] at hnames hindexes
  constructor
  · intro heq
    exact hnames.1 (heq ▸ List.mem_map_of_mem ha)
  · intro heq
    exact hindexes.1 (heq ▸ List.mem_map_of_mem ha)

lemma WellFormed.apart_last {links : List LinkObj} (h : WellFormed (links ++ [L]))
    (hL : L.isDevice = true) {a : LinkObj} (ha : a ∈ devices links) :
    a.lName ≠ L.lName ∧ a.lIndex ≠ L.lIndex := by
  apply h.apart hL
  rwa [List.append_nil]

lemma SameLink.isDevice_eq {o : LinkObj} (hsame : SameLink o L)
    (h : WellFormed (pre ++ o :: post)) (h' : WellFormed (pre ++ post ++ [L])) :
    o.isDevice = L.isDevice := by
  cases ho : o.isDevice with
  | true =>
    cases hL : L.isDevice with
    | true => rfl
    | false =>
      -- the device of the port is among the others
      obtain ⟨-, -, d, hd, hindex⟩ := h'.port L (by simp) hL
      rcases mem_devices_last.mp hd with hd | ⟨-, hdev⟩
      · exact absurd (hindex.trans hsame.1.symm) (h.apart ho hd).2
      · rw [hL] at hdev
        cases hdev
  | false =>
    cases hL : L.isDevice with
    | false => rfl
    | true =>
      obtain ⟨-, -, d, hd, hindex⟩ := h.port o (by simp) ho
      rcases mem_devices_middle.mp hd with hd | ⟨-, hdev⟩
      · exact absurd (hindex.trans hsame.1) (h'.apart_last hL hd).2
      · rw [ho] at hdev
        cases hdev

/-- an index keeps its name when an object takes the place of another one -/
lemma SameLink.name_iff {o : LinkObj} (hsame : SameLink o L)
    (h : WellFormed (pre ++ o :: post)) (h' : WellFormed (pre ++ post ++ [L])) {name : CStr}
    (hname : o.isDevice = true → (o.lName = name ↔ L.lName = name)) {m m' : LinkObj}
    (hm : m ∈ devices (pre ++ o :: post)) (hm' : m' ∈ devices (pre ++ post ++ [L]))
    (hindex : m'.lIndex = m.lIndex) : m.lName = name ↔ m'.lName = name := by
  rcases mem_devices_middle.mp hm with hrest | ⟨rfl, ho⟩
  · rcases mem_devices_last.mp hm' with hrest' | ⟨rfl, hL⟩
    · rw [h.index_inj (mem_devices_middle.mpr (.inl hrest')) hm hindex]
    · exact absurd hindex.symm (h'.apart_last hL hrest).2
  · rcases mem_devices_last.mp hm' with hrest' | ⟨rfl, -⟩
    · exact absurd hindex (h.apart ho hrest').2
    · exact hname ho

lemma SameLink.mem_iff {o : LinkObj} (hsame : SameLink o L)
    (h : WellFormed (pre ++ o :: post)) (h' : WellFormed (pre ++ post ++ [L]))
    {name : CStr} (hname : o.isDevice = true → (o.lName = name ↔ L.lName = name))
    (hother : o.isDevice = true → o.lName ≠ name) {a : LinkObj} (ha : a.lName = name) :
    a ∈ devices (pre ++ o :: post) ↔ a ∈ devices (pre ++ post ++ [L]) := by
  have hdev := hsame.isDevice_eq h h'
  rw [mem_devices_middle, mem_devices_last]
  constructor
  · rintro (hmem | ⟨rfl, ho⟩)
    · exact .inl hmem
    · exact absurd ha (hother ho)
  · rintro (hmem | ⟨rfl, hL⟩)
    · exact .inl hmem
    · have ho : o.isDevice = true := hdev.trans hL
      exact absurd ((hname ho).mpr ha) (hother ho)

lemma NoChange.lMaster_eq {a b : LinkObj} (h : NoChange a b)
    {p q : Prop} (ha : a.lMaster ≠ 0 → a.hasMaster ∧ p) (hb : b.lMaster ≠ 0 → b.hasMaster ∧ q) :
    b.lMaster = a.lMaster := by
  obtain ⟨-, hhas, heq⟩ := h
  by_cases hm : a.hasMaster
  · exact (heq hm).symm
  · have ha0 : a.lMaster = 0 := by
      by_contra hne
      exact hm (ha hne).1
    have hb0 : b.lMaster = 0 := by
      by_contra hne
      exact hm (hhas.mpr (hb hne).1)
    rw [ha0, hb0]

end

/-! ## what a message changes -/

/-- the callback reports no device that gets one of these names, or had one and has another -/
def Note.Keeps (names : List CStr) : Note LinkObj → Prop
  | .change o L _ => o.isDevice = true → ∀ name ∈ names, o.lName = name ↔ L.lName = name
  | _ => True

/-- the same is seen, as far as these names tell -/
def Sight.Alike (names : List CStr) : Sight → Sight → Prop
  | .missing, .missing => True
  | .free, .free => True
  | .held master, .held master' => ∀ name ∈ names, master = some name ↔ master' = some name
  | _, _ => False

lemma Sight.Alike.refl (names : List CStr) (seen : Sight) : seen.Alike names seen := by
  cases seen with
  | missing => trivial
  | free => trivial
  | held master => exact fun _ _ => Iff.rfl

lemma Sight.Alike.missing_iff {names : List CStr} {seen seen' : Sight}
    (h : seen.Alike names seen') : seen = .missing ↔ seen' = .missing := by
  cases seen <;> cases seen' <;> first | exact h.elim | simp

/-- the callback is about the device of this name -/
def Note.Touches (name : CStr) : Note LinkObj → Prop
  | .new L => L.isDevice = true ∧ L.lName = name
  | .del o => o.isDevice = true ∧ o.lName = name
  | .change o _ _ => o.isDevice = true ∧ o.lName = name

section
variable {links links' : List LinkObj} {notes : List (Note LinkObj)}

section
variable (heff : Effect links links' notes) (h : WellFormed links) (h' : WellFormed links')
  {names : List CStr} (hkeep : ∀ note ∈ notes, note.Keeps names)
include heff h h' hkeep

lemma name_effect {m m' : LinkObj} (hm : m ∈ devices links) (hm' : m' ∈ devices links')
    (hindex : m'.lIndex = m.lIndex) {name : CStr} (hname : name ∈ names) :
    m.lName = name ↔ m'.lName = name := by
  cases heff with
  | same => rw [h.index_inj hm' hm hindex]
  | appears L => rw [h'.index_inj hm' (mem_devices_last.mpr (.inl hm)) hindex]
  | vanishes hlinks =>
    subst hlinks
    rw [h.index_inj (mem_devices_middle.mpr (.inl hm')) hm hindex]
  | changes L diff hlinks hsame =>
    subst hlinks
    exact hsame.name_iff h h' (fun ho => hkeep _ List.mem_cons_self ho name hname) hm hm' hindex
  | refreshed L hlinks hsame hno =>
    subst hlinks
    exact hsame.name_iff h h' (fun _ => by rw [hno.1]) hm hm' hindex

lemma sightOf_effect {a a' : LinkObj} (ha : a ∈ links) (ha' : a' ∈ links')
    (hmaster : a'.lMaster = a.lMaster) : (sightOf links a).Alike names (sightOf links' a') := by
  unfold sightOf
  rw [hmaster]
  split
  · trivial
  · rename_i hne
    obtain ⟨-, m, hm, hindex⟩ := h.master a ha hne
    obtain ⟨-, m', hm', hindex'⟩ := h'.master a' ha' (by rwa [hmaster])
    rw [hmaster] at hindex'
    rw [(nameOf_iff h).mpr ⟨m, hm, hindex, rfl⟩, (nameOf_iff h').mpr ⟨m', hm', hindex', rfl⟩]
    intro name hname
    have hiff := name_effect heff h h' hkeep hm hm' (hindex'.trans hindex.symm) hname
    rw [Option.some.injEq, Option.some.injEq, hiff]

lemma sight_congr {name : CStr}
    (hmem : ∀ a : LinkObj, a.lName = name → (a ∈ devices links ↔ a ∈ devices links')) :
    (sight links name).Alike names (sight links' name) := by
  have hfind : deviceNamed links name = deviceNamed links' name :=
    find_congr h.names h'.names hmem
  unfold sight
  rw [← hfind]
  cases hd : deviceNamed links name with
  | none => trivial
  | some a =>
    obtain ⟨ha, hname⟩ := (deviceNamed_iff h).mp hd
    have ha' := (hmem a hname).mp ha
    exact sightOf_effect heff h h' hkeep (mem_devices.mp ha).1 (mem_devices.mp ha').1 rfl

/-- **A message changes the sight of no name but the one it touches.** -/
theorem sight_untouched {name : CStr} (hname : name ∈ names)
    (htouch : ∀ note ∈ notes, ¬ note.Touches name) :
    (sight links name).Alike names (sight links' name) := by
  cases heff with
  | same => exact .refl names _
  | appears L =>
    refine sight_congr (.appears L) h h' hkeep fun a ha => ?_
    rw [mem_devices_last]
    constructor
    · exact .inl
    · rintro (hmem | ⟨rfl, hL⟩)
      · exact hmem
      · exact absurd ⟨hL, ha⟩ (htouch _ List.mem_cons_self)
  | vanishes hlinks =>
    refine sight_congr (.vanishes hlinks) h h' hkeep fun a ha => ?_
    subst hlinks
    rw [mem_devices_middle]
    constructor
    · rintro (hmem | ⟨rfl, ho⟩)
      · exact hmem
      · exact absurd ⟨ho, ha⟩ (htouch _ List.mem_cons_self)
    · exact .inl
  | @changes pre post o L diff hlinks hsame =>
    refine sight_congr (.changes L diff hlinks hsame) h h' hkeep fun a ha => ?_
    subst hlinks
    have hother : o.isDevice = true → o.lName ≠ name := fun ho heq =>
      htouch _ List.mem_cons_self ⟨ho, heq⟩
    exact hsame.mem_iff h h' (fun ho => hkeep _ List.mem_cons_self ho name hname) hother ha
  | @refreshed pre post o L hlinks hsame hno =>
    by_cases hold : o.isDevice = true ∧ o.lName = name
    · obtain ⟨ho, rfl⟩ := hold
      have hmem : o ∈ devices links := by
        rw [hlinks]
        exact mem_devices_middle.mpr (.inr ⟨rfl, ho⟩)
      have hmem' : L ∈ devices (pre ++ post ++ [L]) := by
        subst hlinks
        exact mem_devices_last.mpr (.inr ⟨rfl, hsame.isDevice_eq h h' ▸ ho⟩)
      have hsight := sight_eq h' hmem'
      rw [← hno.1] at hsight
      rw [hsight, sight_eq h hmem]
      refine sightOf_effect (.refreshed L hlinks hsame hno) h h' hkeep (mem_devices.mp hmem).1
        (mem_devices.mp hmem').1 ?_
      exact hno.lMaster_eq (h.master o (mem_devices.mp hmem).1) (h'.master L (mem_devices.mp hmem').1)
    · refine sight_congr (.refreshed L hlinks hsame hno) h h' hkeep fun a ha => ?_
      subst hlinks
      exact hsame.mem_iff h h' (fun _ => by rw [hno.1]) (fun ho hn => hold ⟨ho, hn⟩) ha

end

/-! ## the name that a message touches -/

lemma sight_appears {L : LinkObj} (h' : WellFormed (links ++ [L])) (hL : L.isDevice = true) :
    sight links L.lName = .missing ∧
      sight (links ++ [L]) L.lName = sightOf (links ++ [L]) L := by
  constructor
  · rw [sight_missing_iff]
    intro a ha
    exact (h'.apart_last hL ha).1
  · exact sight_eq h' (mem_devices_last.mpr (.inr ⟨rfl, hL⟩))

lemma sight_vanishes {pre post : List LinkObj} {o : LinkObj} (h : WellFormed (pre ++ o :: post))
    (ho : o.isDevice = true) : sight (pre ++ post) o.lName = .missing := by
  rw [sight_missing_iff]
  intro a ha
  exact (h.apart ho ha).1

lemma sight_changes {pre post : List LinkObj} {o L : LinkObj} (hsame : SameLink o L)
    (h : WellFormed (pre ++ o :: post)) (h' : WellFormed (pre ++ post ++ [L]))
    (ho : o.isDevice = true) :
    sight (pre ++ o :: post) o.lName = sightOf (pre ++ o :: post) o ∧
      sight (pre ++ post ++ [L]) L.lName = sightOf (pre ++ post ++ [L]) L := by
  have hL : L.isDevice = true := hsame.isDevice_eq h h' ▸ ho
  constructor
  · exact sight_eq h (mem_devices_middle.mpr (.inr ⟨rfl, ho⟩))
  · exact sight_eq h' (mem_devices_last.mpr (.inr ⟨rfl, hL⟩))

end

end Nl
