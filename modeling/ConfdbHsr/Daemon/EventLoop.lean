import ConfdbHsr.Daemon.NodeList

/-!
# Reading the manager's socket (`nl.c`, `cache_mngr.c`, `main.c`)

The daemon waits for the socket of the manager of generic netlink to be readable, and then reads
all notifications that have arrived.

* `Datagram`    what one read returns: some messages;
* `recvmsgs`    the messages of a datagram are handed to `event_input`;
* `nlCacheMngrDataReady`   reads datagrams while there are any;
* `mainLoop`    the loop of `main`: in each turn it reads what has arrived.
-/

namespace Hsr
open Nl Proc

variable {W A : Type} (changeCb : ChangeCb W A)

def NL_OK : Int := 0
def NL_SKIP : Int := 1
def NL_STOP : Int := 2

/-- what `nl_recv` reads at once: notifications, and one at least -/
structure Datagram where
  msgs : List HsrMsg
  nonempty : msgs ≠ []

/-- `recvmsgs` over the messages of a datagram, `nrecv` of which have been received before: the
number of messages or an error, and the cache.  Any code of the callback that is none of the three
ends the reading, and what is left of the datagram is freed with it. -/
def recvmsgs (nrecv : Int) (mngrHnodeCache : List HsrNode) :
    List HsrMsg → Proc Fault W A (Int × List HsrNode)
  | [] => pure (nrecv, mngrHnodeCache)
  | msg :: msgs => do
    let (err, mngrHnodeCache) ← eventInput changeCb mngrHnodeCache msg
    if err = NL_OK ∨ err = NL_SKIP then recvmsgs (nrecv + 1) mngrHnodeCache msgs
    else if err = NL_STOP then pure (nrecv + 1, mngrHnodeCache)
    else pure (err, mngrHnodeCache)

/-- `nl_cache_mngr_data_ready` over the datagrams that have arrived; after the last one `nl_recv`
returns `-NLE_AGAIN` -/
def nlCacheMngrDataReady (nread : Int) (mngrHnodeCache : List HsrNode) :
    List Datagram → Proc Fault W A (Int × List HsrNode)
  | [] => pure (nread, mngrHnodeCache)
  | datagram :: datagrams => do
    let (err, mngrHnodeCache) ← recvmsgs changeCb 0 mngrHnodeCache datagram.msgs
    if err > 0 then nlCacheMngrDataReady (nread + err) mngrHnodeCache datagrams
    else if err < 0 ∧ err ≠ -NLE_AGAIN then pure (err, mngrHnodeCache)
    else pure (nread, mngrHnodeCache)

/-- a turn of the loop of `main`: the rest of it, which leaves the module and the world in some
state, and what has arrived when the socket is found readable -/
structure Turn (W : Type) where
  rest : W → HsrModule × W
  arrived : List Datagram

/-- the loop of `main`: the cache at its end, or nothing where the loop is left and the daemon
exits -/
def mainLoop (S : Sys W) (mngrHnodeCache : List HsrNode) : List (Turn W) → Op W (Option (List HsrNode))
  | [] => pure (some mngrHnodeCache)
  | turn :: later => do
    let app ← sys turn.rest
    let (ret, mngrHnodeCache) ←
      nlCacheMngrDataReady (hnodeCacheChangeCb S app) 0 mngrHnodeCache turn.arrived
    if ret < 0 then pure none else mainLoop S mngrHnodeCache later

end Hsr
