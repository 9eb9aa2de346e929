import ConfdbHsr.Daemon.Handlers

/-!
# Concrete links and a kernel that never changes

For runs on fixed inputs: Ethernet links, HSR devices, and an environment that dumps one table and
accepts every request.
-/

namespace Hsr
open Nl

/-- an Ethernet link of the given kind, with a master and a lower link (0 for none) -/
def etherLink (index : UInt32) (name : CStr) (kind : Option CStr) (master lower : UInt32) :
    LinkObj where
  ceMask := linkBase
  lName := name
  lFamily := AF_UNSPEC
  lArptype := ARPHRD_ETHER
  lIndex := index
  lFlags := 0
  lChange := 0
  lMtu := 0
  lLink := lower
  lMaster := master
  lInfoKind := kind
  lInfo := HsrInfo.zero
  hasBase := BitVec.and_self

def eth0 : LinkObj := etherLink 2 (cs "eth0") none 0 0
def eth1 : LinkObj := etherLink 3 (cs "eth1") none 0 0

def waiting (hsrName slave1Name slave2Name : CStr) (status : BitVec 8) : WaitListNode :=
  ⟨hsrName, slave1Name, slave2Name, status⟩

/-- an HSR device over two slaves -/
def hsrDevice (index : UInt32) (name : CStr) (slave1 slave2 : UInt32) : LinkObj :=
  { etherLink index name (some (cs "hsr")) 0 slave1 with
    lInfo := ⟨1, slave1, slave2, HSR_HAS_SLAVE1_ID ||| HSR_HAS_SLAVE2_ID ||| HSR_HAS_VERSION⟩ }

/-- a link as its messages carry it when it has a master -/
def portLink (index : UInt32) (name : CStr) (kind : Option CStr) (master : UInt32) : LinkObj :=
  { etherLink index name kind master 0 with
    ceMask := linkBase ||| LINK_ATTR_MASTER
    hasBase := by decide }

/-- a bridge, with the family that the parser gives it -/
def bridgeLink (index : UInt32) (name : CStr) : LinkObj :=
  { etherLink index name (some (cs "bridge")) 0 0 with lFamily := AF_BRIDGE }

/-- the environment that dumps `table` and accepts every request -/
def staticSys (table : List LinkObj) : Sys Unit where
  nlConnect w := (0, w)
  rtnlLinkAllocCache w := ((0, table), w)
  rtnlLinkAdd _ w := (0, w)
  rtnlLinkDelete _ w := (0, w)
  calloc w := (true, w)
  cdbEditStatus _ _ _ w := (0, w)
  addrText addr := (addr.map NlAddr.aAddr).getD []
  asserts := true

/-- the configuration data of an interface over two slaves -/
def slavesData (slaveA slaveB : CStr) : Option HsrData := some ⟨some slaveA, some slaveB⟩

end Hsr
