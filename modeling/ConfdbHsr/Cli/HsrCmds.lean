import ConfdbHsr.Lib.KeyedFind
import ConfdbHsr.Lib.Proc
import ConfdbHsr.Libnl.Object

/-!
# The CLI commands (`hsr_cmds.lua`)

The commands read the configuration of the interfaces and send edits of it.  They format the name
of an interface into the target of a request, without escaping it.

* `Config`     the list of interfaces, with the name as its key;
* `Cdb`        what the session makes of a target;
* `CdbEdit`    an edit of the configuration: a merge of the values that `set_hsr` sends, or the
               removal of what is at a target;
* `Cli`        a handler: it runs against the configuration, writes lines, and can raise an error;
* `checkInterfaces`, `hsrInterface`, `hsrInterfaceDelete`   the handlers;
* `session`    the configuration after a sequence of commands.
-/

namespace HsrCmds
open Nl Proc KeyedFind

/-! ## the configuration -/

/-- the leaves of the container `angtel-hsr:hsr` that are configuration -/
structure HsrLeaves where
  slaveA : Option CStr
  slaveB : Option CStr
  deriving DecidableEq, Repr

/-- an entry of `/ietf-interfaces:interfaces/interface` -/
structure Interface where
  name : CStr
  type : CStr
  hsr : Option HsrLeaves
  deriving DecidableEq, Repr

structure Config where
  interfaces : List Interface
  keyed : (interfaces.map Interface.name).Nodup

def hsrType : CStr := cs "angtel-interfaces:hsr"

/-- the container of the interface of a name -/
def Config.container (c : Config) (name : CStr) : Option HsrLeaves :=
  (c.interfaces.find? fun i => i.name == name).bind Interface.hsr

lemma Config.container_eq (c : Config) {i : Interface} (hi : i ∈ c.interfaces) :
    c.container i.name = i.hsr := by
  rw [container, (find_iff c.keyed).mpr ⟨hi, rfl⟩]
  rfl

def Config.without (c : Config) (name : CStr) : Config :=
  ⟨c.interfaces.filter fun i => i.name != name,
    c.keyed.sublist (List.Sublist.map _ List.filter_sublist)⟩

/-- one of the leaves is the port -/
def HsrLeaves.Has (leaves : HsrLeaves) (port : CStr) : Prop :=
  leaves.slaveA = some port ∨ leaves.slaveB = some port

/-- an HSR interface that has the port in one of its slots -/
def Interface.Uses (i : Interface) (port : CStr) : Prop :=
  i.type = hsrType ∧ ∃ leaves, i.hsr = some leaves ∧ leaves.Has port

/-! ## targets -/

def interfaceTarget (name : CStr) : CStr :=
  cs "/ietf-interfaces:interfaces/interface[name='" ++ name ++ cs "']"

def containerTarget (name : CStr) : CStr := interfaceTarget name ++ cs "/angtel-hsr:hsr"

/-- the character that ends the name in a target -/
def apostrophe : UInt8 := 39

/-- how a handler can fail -/
inductive LuaError where
  /-- an index into `nil` -/
  | indexNil
  /-- the session refuses a target -/
  | target
  deriving DecidableEq, Repr

/-- what the session makes of a target: `cdb_get` gives the containers at it, a remove edit takes
away what is at it.  A name without an apostrophe is the one that the target asks for. -/
structure Cdb where
  cdbGet : CStr → Config → Except LuaError (List HsrLeaves)
  remove : CStr → Config → Config
  get_named : ∀ {name}, apostrophe ∉ name → ∀ c : Config,
    cdbGet (containerTarget name) c = .ok (c.container name).toList
  remove_named : ∀ {name}, apostrophe ∉ name → ∀ c : Config,
    remove (interfaceTarget name) c = c.without name
  /-- a removal adds nothing -/
  remove_uses : ∀ target (c : Config), ∀ i ∈ (remove target c).interfaces,
    ∃ j ∈ c.interfaces, j.name = i.name ∧ ∀ port, i.Uses port → j.Uses port

/-! ## edits -/

/-- the values that `set_hsr` sends -/
structure HsrValue where
  type : CStr
  name : CStr
  slaveA : CStr
  slaveB : CStr
  deriving DecidableEq, Repr

inductive CdbEdit where
  | merge (value : HsrValue)
  | remove (target : CStr)
  deriving DecidableEq, Repr

/-- the leaves that are sent replace those of the interface -/
def HsrValue.into (value : HsrValue) (i : Interface) : Interface :=
  let leaves := i.hsr.getD ⟨none, none⟩
  { i with
    type := value.type
    hsr := some { leaves with slaveA := some value.slaveA, slaveB := some value.slaveB } }

/-- the interface that a merge adds where there is none of the name -/
def HsrValue.fresh (value : HsrValue) : Interface :=
  ⟨value.name, value.type, some ⟨some value.slaveA, some value.slaveB⟩⟩

def Config.merge (c : Config) (value : HsrValue) : Config :=
  ⟨upsert Interface.name value.name value.into value.fresh c.interfaces,
    upsert_nodup c.keyed (fun _ => rfl) rfl⟩

def Cdb.edit (cdb : Cdb) (c : Config) : CdbEdit → Config
  | .merge value => c.merge value
  | .remove target => cdb.remove target c

/-! ## handlers -/

/-- a handler runs against the configuration and writes lines -/
abbrev Cli := Proc LuaError Config CStr

section
variable (cdb : Cdb)

def cdbEditConfig (e : CdbEdit) : Cli Unit := sys fun c => ((), cdb.edit c e)

/-- `cdb_get` of the containers at a target -/
def cdbGet (target : CStr) : Cli (List HsrLeaves) := do
  let data ← sys fun c => (cdb.cdbGet target c, c)
  match data with
  | .ok data => pure data
  | .error e => fail e

def setHsr (name slaveA slaveB : CStr) : Cli Unit :=
  cdbEditConfig cdb (.merge
    { type := hsrType
      name := name
      slaveA := slaveA
      slaveB := slaveB })

def deleteHsr (name : CStr) : Cli Unit := cdbEditConfig cdb (.remove (interfaceTarget name))

/-- the line that `check_interfaces` writes, before `pretty.write` quotes it -/
def alreadyHas (name : CStr) : CStr := name ++ cs " already has this configuration"

/-- the loop of `check_interfaces` -/
def checkInterfacesLoop (slaveA slaveB : CStr) : List Interface → Cli Int
  | [] => pure 1
  | value :: data =>
    if value.type != hsrType then checkInterfacesLoop slaveA slaveB data
    else do
      let slavesData ← cdbGet cdb (containerTarget value.name)
      match slavesData with
      -- `slaves_data[1]` is `nil` where the container is missing
      | [] => fail .indexNil
      | slaves :: _ =>
        if slaves.slaveA == some slaveA || slaves.slaveB == some slaveB ||
            slaves.slaveB == some slaveA || slaves.slaveA == some slaveB then do
          emit (alreadyHas value.name)
          pure 0
        else checkInterfacesLoop slaveA slaveB data

/-- `check_interfaces`: the name of the interface is a parameter, but is not used -/
def checkInterfaces (_ifName slaveA slaveB : CStr) : Cli Int := do
  let data ← sys fun c => (c.interfaces, c)
  checkInterfacesLoop cdb slaveA slaveB data

/-- `hsr interface IF-NAME SLAVE-A SLAVE-B` -/
def hsrInterface (ifName slaveA slaveB : CStr) : Cli Unit := do
  let check ← checkInterfaces cdb ifName slaveA slaveB
  if check == 1 then setHsr cdb ifName slaveA slaveB else pure ()

/-- `hsr interface delete IF-NAME` -/
def hsrInterfaceDelete (ifName : CStr) : Cli Unit := deleteHsr cdb ifName

/-! ## a session -/

inductive Command where
  | hsrInterface (ifName slaveA slaveB : CStr)
  | hsrInterfaceDelete (ifName : CStr)
  deriving DecidableEq, Repr

def handler : Command → Cli Unit
  | .hsrInterface ifName slaveA slaveB => hsrInterface cdb ifName slaveA slaveB
  | .hsrInterfaceDelete ifName => hsrInterfaceDelete cdb ifName

/-- the configuration after the commands; an error ends its command only -/
def session (c : Config) (commands : List Command) : Config :=
  commands.foldl (fun c command => (handler cdb command c).world) c

end

end HsrCmds
