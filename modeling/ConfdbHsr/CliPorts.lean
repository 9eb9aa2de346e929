import ConfdbHsr.Cli.Targets

/-!
# Which ports the CLI gives to an interface

* `Clear`              what the check asks of an interface: the container that `cdb_get` gives for
                       its name has neither port;
* `checkInterfaces_accepts`   the check accepts where it finds every HSR interface clear;
* `accepts_iff`        when this is what is expected: the interface that is configured is treated
                       like the others;
* `ports_stay_disjoint`   when a session gives no port to two interfaces: a name with an apostrophe
                       can hide the ports of its interface;
* `checked_of_plain`   other names hide nothing.
-/

namespace HsrCmds
open Nl Proc KeyedFind

/-- no port is used by two interfaces -/
def PortsDisjoint (c : Config) : Prop :=
  ∀ i ∈ c.interfaces, ∀ j ∈ c.interfaces, i.name ≠ j.name → ∀ port, i.Uses port → ¬ j.Uses port

variable (cdb : Cdb)

/-! ## the check -/

/-- what the check asks of an interface: if it is an HSR one, `cdb_get` gives a container for its
name, with neither port -/
def Clear (c : Config) (slaveA slaveB : CStr) (i : Interface) : Prop :=
  i.type = hsrType → ∃ leaves rest, cdb.cdbGet (containerTarget i.name) c = .ok (leaves :: rest) ∧
    ¬ leaves.Has slaveA ∧ ¬ leaves.Has slaveB

section
variable {c : Config} {slaveA slaveB : CStr}

lemma uses_iff {i : Interface} (htype : i.type = hsrType) {leaves : HsrLeaves}
    (hleaves : i.hsr = some leaves) (port : CStr) : i.Uses port ↔ leaves.Has port := by
  constructor
  · rintro ⟨-, leaves', hleaves', h⟩
    obtain rfl := Option.some.inj (hleaves.symm.trans hleaves')
    exact h
  · intro h
    exact ⟨htype, leaves, hleaves, h⟩

lemma clear_iff {i : Interface} (hi : i ∈ c.interfaces) (htype : i.type = hsrType)
    (hname : apostrophe ∉ i.name) : Clear cdb c slaveA slaveB i ↔
      i.hsr.isSome = true ∧ ¬ i.Uses slaveA ∧ ¬ i.Uses slaveB := by
  rw [Clear, cdb.get_named hname, c.container_eq hi, forall_prop_of_true htype]
  cases hleaves : i.hsr with
  | none =>
    refine iff_of_false ?_ fun h => nomatch h.1
    rintro ⟨leaves, rest, h, -⟩
    cases h
  | some leaves =>
    have hsome : (some leaves).isSome = true := rfl
    rw [uses_iff htype hleaves, uses_iff htype hleaves, and_iff_right hsome]
    constructor
    · rintro ⟨_, _, h, hfree⟩
      cases h
      exact hfree
    · exact fun hfree => ⟨leaves, [], rfl, hfree⟩

lemma checkInterfacesLoop_run (data : List Interface) :
    (checkInterfacesLoop cdb slaveA slaveB data c).world = c ∧
      ((checkInterfacesLoop cdb slaveA slaveB data c).val = .ok 1 ↔
        ∀ i ∈ data, Clear cdb c slaveA slaveB i) := by
  induction data with
  | nil => exact ⟨rfl, iff_of_true rfl fun i hi => nomatch hi⟩
  | cons value data ih =>
    rw [List.forall_mem_cons, checkInterfacesLoop]
    by_cases htype : value.type = hsrType
    · have hget : cdbGet cdb (containerTarget value.name) c =
          ⟨cdb.cdbGet (containerTarget value.name) c, c, []⟩ := by
        rw [cdbGet, bind_apply, sys_apply, thenRun_ok]
        cases cdb.cdbGet (containerTarget value.name) c with
        | error e => rfl
        | ok data => rfl
      rw [if_neg (by simpa using htype), bind_apply, hget]
      have hclear : Clear cdb c slaveA slaveB value ↔ ∃ leaves rest,
          cdb.cdbGet (containerTarget value.name) c = .ok (leaves :: rest) ∧
            ¬ leaves.Has slaveA ∧ ¬ leaves.Has slaveB := forall_prop_of_true htype
      rw [hclear]
      cases cdb.cdbGet (containerTarget value.name) c with
      | error e =>
        refine ⟨rfl, iff_of_false nofun ?_⟩
        rintro ⟨⟨_, _, h, -⟩, -⟩
        cases h
      | ok slavesData =>
        rw [thenRun_ok]
        cases slavesData with
        | nil =>
          refine ⟨rfl, iff_of_false nofun ?_⟩
          rintro ⟨⟨_, _, h, -⟩, -⟩
          cases h
        | cons slaves rest =>
          dsimp only
          split
          · rename_i hconflict
            refine ⟨rfl, iff_of_false nofun ?_⟩
            rintro ⟨⟨_, _, h, hA, hB⟩, -⟩
            cases h
            simp only [Bool.or_eq_true, beq_iff_eq] at hconflict
            simp only [HsrLeaves.Has] at hA hB
            tauto
          · rename_i hfree
            refine ⟨ih.1, ih.2.trans (and_iff_right ⟨slaves, rest, rfl, ?_⟩).symm⟩
            simp only [Bool.or_eq_true, beq_iff_eq] at hfree
            simp only [HsrLeaves.Has]
            exact ⟨by tauto, by tauto⟩
    · rw [if_pos (by simpa using htype)]
      have hclear : Clear cdb c slaveA slaveB value := fun h => absurd h htype
      exact ⟨ih.1, ih.2.trans (and_iff_right hclear).symm⟩

/-- **The check.** -/
theorem checkInterfaces_accepts (ifName : CStr) :
    (checkInterfaces cdb ifName slaveA slaveB c).val = .ok 1 ↔
      ∀ i ∈ c.interfaces, Clear cdb c slaveA slaveB i :=
  (checkInterfacesLoop_run cdb c.interfaces).2

lemma checkInterfaces_world (ifName : CStr) :
    (checkInterfaces cdb ifName slaveA slaveB c).world = c :=
  (checkInterfacesLoop_run cdb c.interfaces).1

end

/-! ## what is expected of it -/

/-- no other HSR interface uses one of the ports -/
def NoConflict (c : Config) (ifName slaveA slaveB : CStr) : Prop :=
  ∀ i ∈ c.interfaces, i.name ≠ ifName → ¬ i.Uses slaveA ∧ ¬ i.Uses slaveB

/-- the interface itself uses neither of the ports -/
def SharesNone (c : Config) (ifName slaveA slaveB : CStr) : Prop :=
  ∀ i ∈ c.interfaces, i.name = ifName → ¬ i.Uses slaveA ∧ ¬ i.Uses slaveB

/-- every HSR interface has its container -/
def Readable (c : Config) : Prop := ∀ i ∈ c.interfaces, i.type = hsrType → i.hsr.isSome = true

/-- no HSR interface has a name with an apostrophe -/
def PlainNames (c : Config) : Prop :=
  ∀ i ∈ c.interfaces, i.type = hsrType → apostrophe ∉ i.name

lemma clear_all_iff {c : Config} (hplain : PlainNames c) (ifName slaveA slaveB : CStr) :
    (∀ i ∈ c.interfaces, Clear cdb c slaveA slaveB i) ↔
      NoConflict c ifName slaveA slaveB ∧ SharesNone c ifName slaveA slaveB ∧ Readable c := by
  constructor
  · intro h
    have hfree : ∀ i ∈ c.interfaces, ¬ i.Uses slaveA ∧ ¬ i.Uses slaveB := by
      intro i hi
      by_cases htype : i.type = hsrType
      · exact ((clear_iff cdb hi htype (hplain i hi htype)).mp (h i hi)).2
      · exact ⟨fun huses => htype huses.1, fun huses => htype huses.1⟩
    refine ⟨fun i hi _ => hfree i hi, fun i hi _ => hfree i hi, fun i hi htype => ?_⟩
    exact ((clear_iff cdb hi htype (hplain i hi htype)).mp (h i hi)).1
  · rintro ⟨hothers, hown, hread⟩ i hi
    by_cases htype : i.type = hsrType
    · refine (clear_iff cdb hi htype (hplain i hi htype)).mpr ⟨hread i hi htype, ?_⟩
      by_cases hname : i.name = ifName
      · exact hown i hi hname
      · exact hothers i hi hname
    · exact fun h => absurd h htype

/-- **The check accepts a command iff no other interface is in conflict**, exactly where one is and
it finds some interface not clear, or none is and it finds all interfaces clear; with plain names,
where one is, or where the interface keeps none of its own ports and all interfaces can be read. -/
theorem accepts_iff (c : Config) (ifName slaveA slaveB : CStr) :
    (((checkInterfaces cdb ifName slaveA slaveB c).val = .ok 1 ↔
        NoConflict c ifName slaveA slaveB) ↔
      ((¬ NoConflict c ifName slaveA slaveB ∧
          ∃ i ∈ c.interfaces, ¬ Clear cdb c slaveA slaveB i) ∨
        (NoConflict c ifName slaveA slaveB ∧
          ∀ i ∈ c.interfaces, Clear cdb c slaveA slaveB i))) ∧
    (PlainNames c →
      (((checkInterfaces cdb ifName slaveA slaveB c).val = .ok 1 ↔
          NoConflict c ifName slaveA slaveB) ↔
        (¬ NoConflict c ifName slaveA slaveB ∨
          (SharesNone c ifName slaveA slaveB ∧ Readable c)))) := by
  rw [checkInterfaces_accepts]
  constructor
  · have hfound : (∃ i ∈ c.interfaces, ¬ Clear cdb c slaveA slaveB i) ↔
        ¬ ∀ i ∈ c.interfaces, Clear cdb c slaveA slaveB i := by
      simp
    rw [hfound]
    exact iff_iff_and_or_not_and_not.trans (or_comm.trans (or_congr and_comm and_comm))
  · intro hplain
    rw [clear_all_iff cdb hplain ifName]
    by_cases hconflict : NoConflict c ifName slaveA slaveB
    · simp [hconflict]
    · simp [hconflict]

/-- `hsr0` over `eth0` and `eth1` -/
def hsr0Config : Config :=
  ⟨[⟨cs "hsr0", hsrType, some ⟨some (cs "eth0"), some (cs "eth1")⟩⟩], by decide⟩

/-- `hsr0` cannot get another second port while it keeps its first one -/
theorem own_port_is_a_conflict :
    ¬ ∀ (cdb : Cdb) (c : Config) (ifName slaveA slaveB : CStr),
      (checkInterfaces cdb ifName slaveA slaveB c).val = .ok 1 ↔
        NoConflict c ifName slaveA slaveB := by
  intro h
  have hiff := h namesCdb hsr0Config (cs "hsr0") (cs "eth0") (cs "eth2")
  have hothers : NoConflict hsr0Config (cs "hsr0") (cs "eth0") (cs "eth2") := by
    intro i hi hname
    rw [List.mem_singleton.mp hi] at hname
    exact absurd rfl hname
  exact absurd (hiff.mpr hothers) (by decide)

/-! ## sessions -/

/-- a command that gives ports to an interface sees a conflict: if another interface uses one of
them, it finds some interface not clear -/
def Sees (c : Config) : Command → Prop
  | .hsrInterface ifName slaveA slaveB =>
    NoConflict c ifName slaveA slaveB ∨ ∃ i ∈ c.interfaces, ¬ Clear cdb c slaveA slaveB i
  | .hsrInterfaceDelete _ => True

/-- so does every command of a session, in the configuration that it finds -/
def Checked : Config → List Command → Prop
  | _, [] => True
  | c, command :: commands => Sees cdb c command ∧ Checked (handler cdb command c).world commands

section
variable {c : Config}

lemma PortsDisjoint.remove (h : PortsDisjoint c) (target : CStr) :
    PortsDisjoint (cdb.edit c (.remove target)) := by
  intro i hi j hj hne port hiport hjport
  obtain ⟨i', hi', hiname, hiuses⟩ := cdb.remove_uses target c i hi
  obtain ⟨j', hj', hjname, hjuses⟩ := cdb.remove_uses target c j hj
  have hne' : i'.name ≠ j'.name := by
    rw [hiname, hjname]
    exact hne
  exact h i' hi' j' hj' hne' port (hiuses port hiport) (hjuses port hjport)

lemma HsrValue.uses_sent (value : HsrValue) (htype : value.type = hsrType) {i : Interface}
    (hi : (∃ x, i = value.into x) ∨ i = value.fresh) (port : CStr) :
    i.Uses port ↔ port = value.slaveA ∨ port = value.slaveB := by
  have hports : ∀ leaves : HsrLeaves, leaves.slaveA = some value.slaveA →
      leaves.slaveB = some value.slaveB →
        (leaves.Has port ↔ port = value.slaveA ∨ port = value.slaveB) := by
    intro leaves hA hB
    rw [HsrLeaves.Has, hA, hB, Option.some.injEq, Option.some.injEq, eq_comm, @eq_comm _ _ port]
  rcases hi with ⟨x, rfl⟩ | rfl
  · exact (uses_iff htype rfl port).trans (hports _ rfl rfl)
  · exact (uses_iff htype rfl port).trans (hports _ rfl rfl)

lemma HsrValue.exists_merged (value : HsrValue) : ∃ i ∈ (c.merge value).interfaces,
    i.name = value.name ∧ ((∃ x, i = value.into x) ∨ i = value.fresh) :=
  exists_upsert (fun _ => rfl) rfl

lemma HsrValue.mem_merged (value : HsrValue) {i : Interface} (hi : i ∈ c.interfaces)
    (hne : i.name ≠ value.name) : i ∈ (c.merge value).interfaces :=
  mem_upsert_of_ne hi hne

lemma PortsDisjoint.merge_iff (h : PortsDisjoint c) (value : HsrValue)
    (htype : value.type = hsrType) :
    PortsDisjoint (c.merge value) ↔ NoConflict c value.name value.slaveA value.slaveB := by
  constructor
  · intro hmerged i hi hne
    obtain ⟨new, hnew, hname, hsent⟩ := value.exists_merged (c := c)
    have huses := value.uses_sent htype hsent
    have hold := value.mem_merged hi hne
    have hapart : new.name ≠ i.name := by
      rw [hname]
      exact hne.symm
    exact ⟨hmerged new hnew i hold hapart _ ((huses _).mpr (.inl rfl)),
      hmerged new hnew i hold hapart _ ((huses _).mpr (.inr rfl))⟩
  · intro hfree
    -- an interface of the new configuration is an old one of another name, or has the new ports
    have hcases : ∀ i ∈ (c.merge value).interfaces,
        (i ∈ c.interfaces ∧ i.name ≠ value.name) ∨
        (i.name = value.name ∧ ∀ port, i.Uses port → port = value.slaveA ∨ port = value.slaveB) := by
      intro i hi
      rcases mem_upsert hi with hold | ⟨a, -, hname, rfl⟩ | rfl
      · exact .inl hold
      · exact .inr ⟨hname, fun port => (value.uses_sent htype (.inl ⟨a, rfl⟩) port).mp⟩
      · exact .inr ⟨rfl, fun port => (value.uses_sent htype (.inr rfl) port).mp⟩
    have hnew : ∀ i ∈ c.interfaces, i.name ≠ value.name → ∀ port,
        (port = value.slaveA ∨ port = value.slaveB) → ¬ i.Uses port := by
      rintro i hi hne port (rfl | rfl)
      · exact (hfree i hi hne).1
      · exact (hfree i hi hne).2
    intro i hi j hj hne port hiport hjport
    rcases hcases i hi with ⟨hiold, hiname⟩ | ⟨hiname, hinew⟩
    · rcases hcases j hj with ⟨hjold, hjname⟩ | ⟨hjname, hjnew⟩
      · exact h i hiold j hjold hne port hiport hjport
      · exact hnew i hiold hiname port (hjnew port hjport) hiport
    · rcases hcases j hj with ⟨hjold, hjname⟩ | ⟨hjname, hjnew⟩
      · exact hnew j hjold hjname port (hinew port hiport) hjport
      · exact hne (hiname.trans hjname.symm)

/-- what becomes of the configuration: the check decides -/
lemma hsrInterface_world (ifName slaveA slaveB : CStr) :
    ((∀ i ∈ c.interfaces, Clear cdb c slaveA slaveB i) ∧
        (hsrInterface cdb ifName slaveA slaveB c).world =
          c.merge ⟨hsrType, ifName, slaveA, slaveB⟩) ∨
      ((∃ i ∈ c.interfaces, ¬ Clear cdb c slaveA slaveB i) ∧
        (hsrInterface cdb ifName slaveA slaveB c).world = c) := by
  have hworld : (checkInterfaces cdb ifName slaveA slaveB c).world = c :=
    checkInterfaces_world cdb ifName
  have haccepts : (checkInterfaces cdb ifName slaveA slaveB c).val = .ok 1 ↔
      ∀ i ∈ c.interfaces, Clear cdb c slaveA slaveB i := checkInterfaces_accepts cdb ifName
  have hrefused (h : ¬ ∀ i ∈ c.interfaces, Clear cdb c slaveA slaveB i) :
      ∃ i ∈ c.interfaces, ¬ Clear cdb c slaveA slaveB i := by simpa using h
  rw [hsrInterface, bind_apply]
  rcases hrun : checkInterfaces cdb ifName slaveA slaveB c with ⟨_ | check, c', l⟩
  · rw [hrun] at hworld haccepts
    exact .inr ⟨hrefused fun h => (nomatch haccepts.mpr h), hworld⟩
  · rw [hrun] at hworld haccepts
    obtain rfl : c' = c := hworld
    by_cases hcheck : check = 1
    · subst hcheck
      exact .inl ⟨haccepts.mp rfl, rfl⟩
    · have hskip : (check == 1) = false := by simpa using hcheck
      refine .inr ⟨hrefused fun h => hcheck (Except.ok.inj (haccepts.mpr h)), ?_⟩
      rw [thenRun_ok, hskip]
      rfl

/-- **One command** keeps the ports apart iff it sees the conflict, if there is one. -/
theorem handler_disjoint_iff (h : PortsDisjoint c) (command : Command) :
    PortsDisjoint (handler cdb command c).world ↔ Sees cdb c command := by
  cases command with
  | hsrInterfaceDelete ifName => exact iff_of_true (h.remove cdb _) trivial
  | hsrInterface ifName slaveA slaveB =>
    rcases hsrInterface_world cdb (c := c) ifName slaveA slaveB with
      ⟨hclear, hworld⟩ | ⟨hfound, hworld⟩
    · have hnone : ¬ ∃ i ∈ c.interfaces, ¬ Clear cdb c slaveA slaveB i := by simpa using hclear
      rw [handler, hworld, h.merge_iff _ rfl, Sees, or_iff_left hnone]
    · rw [handler, hworld]
      exact iff_of_true h (.inr hfound)

end

/-! ### plain names -/

lemma sees_of_plain {c : Config} (hplain : PlainNames c) (command : Command) :
    Sees cdb c command := by
  cases command with
  | hsrInterfaceDelete ifName => trivial
  | hsrInterface ifName slaveA slaveB =>
    by_cases hclear : ∀ i ∈ c.interfaces, Clear cdb c slaveA slaveB i
    · exact .inl ((clear_all_iff cdb hplain ifName slaveA slaveB).mp hclear).1
    · exact .inr (by simpa using hclear)

def Command.ifName : Command → CStr
  | .hsrInterface ifName _ _ => ifName
  | .hsrInterfaceDelete ifName => ifName

lemma handler_names {c : Config} (command : Command) :
    ∀ i ∈ (handler cdb command c).world.interfaces,
      i.name = command.ifName ∨ ∃ j ∈ c.interfaces, j.name = i.name := by
  intro i hi
  cases command with
  | hsrInterfaceDelete ifName =>
    obtain ⟨j, hj, hname, -⟩ := cdb.remove_uses _ c i hi
    exact .inr ⟨j, hj, hname⟩
  | hsrInterface ifName slaveA slaveB =>
    rcases hsrInterface_world cdb (c := c) ifName slaveA slaveB with ⟨-, hworld⟩ | ⟨-, hworld⟩
    · rw [handler, hworld] at hi
      rcases mem_upsert hi with ⟨hold, -⟩ | ⟨a, ha, -, rfl⟩ | rfl
      · exact .inr ⟨i, hold, rfl⟩
      · exact .inr ⟨a, ha, rfl⟩
      · exact .inl rfl
    · rw [handler, hworld] at hi
      exact .inr ⟨i, hi, rfl⟩

/-- **Without apostrophes every conflict is seen.** -/
theorem checked_of_plain {c : Config} (hplain : ∀ i ∈ c.interfaces, apostrophe ∉ i.name)
    {commands : List Command} (hcommands : ∀ command ∈ commands, apostrophe ∉ command.ifName) :
    Checked cdb c commands := by
  induction commands generalizing c with
  | nil => trivial
  | cons command commands ih =>
    refine ⟨sees_of_plain cdb (fun i hi _ => hplain i hi) command, ih (fun i hi => ?_) ?_⟩
    · rcases handler_names cdb command i hi with hname | ⟨j, hj, hname⟩
      · rw [hname]
        exact hcommands command List.mem_cons_self
      · rw [← hname]
        exact hplain j hj
    · exact fun later hlater => hcommands later (List.mem_cons_of_mem command hlater)

/-! ### sessions -/

/-- **No port is ever given to two interfaces**, exactly in the sessions whose commands all see a
conflict, if there is one. -/
theorem ports_stay_disjoint (c : Config) (h : PortsDisjoint c) (commands : List Command) :
    (∀ done, done <+: commands → PortsDisjoint (session cdb c done)) ↔
      Checked cdb c commands := by
  induction commands generalizing c with
  | nil =>
    refine iff_of_true (fun done hdone => ?_) trivial
    rw [List.prefix_nil.mp hdone]
    exact h
  | cons command commands ih =>
    rw [Checked, ← handler_disjoint_iff cdb h]
    constructor
    · intro hall
      have hfirst : PortsDisjoint (handler cdb command c).world :=
        hall [command] (List.cons_prefix_cons.mpr ⟨rfl, List.nil_prefix⟩)
      refine ⟨hfirst, (ih _ hfirst).mp fun done hdone => ?_⟩
      exact hall (command :: done) (List.cons_prefix_cons.mpr ⟨rfl, hdone⟩)
    · rintro ⟨hfirst, hrest⟩ done hdone
      cases done with
      | nil => exact h
      | cons first done =>
        obtain ⟨rfl, hrestdone⟩ := List.cons_prefix_cons.mp hdone
        exact (ih _ hfirst).mpr hrest done hrestdone

/-- `hsr1` gets two other ports, `hsr2` is refused `eth1` -/
theorem ports_of_three_stay_disjoint :
    PortsDisjoint (session namesCdb hsr0Config
      [.hsrInterface (cs "hsr1") (cs "eth2") (cs "eth3"),
        .hsrInterface (cs "hsr2") (cs "eth4") (cs "eth1")]) := by
  refine (ports_stay_disjoint namesCdb hsr0Config (fun i hi j hj hne => ?_)
    [.hsrInterface (cs "hsr1") (cs "eth2") (cs "eth3"),
      .hsrInterface (cs "hsr2") (cs "eth4") (cs "eth1")]).mpr (checked_of_plain namesCdb ?_ ?_)
    _ List.prefix_rfl
  · rw [List.mem_singleton.mp hi, List.mem_singleton.mp hj] at hne
    exact absurd rfl hne
  · decide
  · decide

/-- an HSR interface over two ports -/
def hsrOver (name slaveA slaveB : CStr) : Interface :=
  ⟨name, hsrType, some ⟨some slaveA, some slaveB⟩⟩

lemma hsrOver_uses {name slaveA slaveB port : CStr} :
    (hsrOver name slaveA slaveB).Uses port ↔ slaveA = port ∨ slaveB = port := by
  rw [uses_iff rfl rfl, HsrLeaves.Has, Option.some.injEq, Option.some.injEq]

/-- an interface over `eth0` and `eth1` whose name asks for that of another one -/
def hidingConfig : Config :=
  ⟨[hsrOver (cs "x' or name='hsr0") (cs "eth0") (cs "eth1"),
    hsrOver (cs "hsr0") (cs "eth2") (cs "eth3")], by decide⟩

/-- the ports of the first interface are never read: `hsr1` gets `eth0`, too -/
theorem hidden_port_is_given_again :
    ¬ ∀ (cdb : Cdb) (c : Config) (commands : List Command), PortsDisjoint c →
      PortsDisjoint (session cdb c commands) := by
  intro h
  have hdisjoint : PortsDisjoint hidingConfig := by
    intro i hi j hj hne port hiport hjport
    simp only [hidingConfig, List.mem_cons, List.not_mem_nil, or_false] at hi hj
    rcases hi with rfl | rfl <;> rcases hj with rfl | rfl
    · exact hne rfl
    · rw [hsrOver_uses] at hiport hjport
      rcases hiport with rfl | rfl
      · exact absurd hjport (by decide)
      · exact absurd hjport (by decide)
    · rw [hsrOver_uses] at hiport hjport
      rcases hiport with rfl | rfl
      · exact absurd hjport (by decide)
      · exact absurd hjport (by decide)
    · exact hne rfl
  have hafter := h namesCdb hidingConfig [.hsrInterface (cs "hsr1") (cs "eth0") (cs "eth4")]
    hdisjoint
  exact hafter (hsrOver (cs "x' or name='hsr0") (cs "eth0") (cs "eth1")) (by decide)
    (hsrOver (cs "hsr1") (cs "eth0") (cs "eth4")) (by decide) (by decide) (cs "eth0")
    (hsrOver_uses.mpr (.inl rfl)) (hsrOver_uses.mpr (.inl rfl))

end HsrCmds
