import ConfdbHsr.Lib.Proc
import ConfdbHsr.Lib.Scan
import ConfdbHsr.Lib.Run
import ConfdbHsr.Lib.SetEdits
import ConfdbHsr.Libnl.Object
import ConfdbHsr.Libnl.Cache
import ConfdbHsr.Libnl.KeyedCache
import ConfdbHsr.Libnl.Attr
import ConfdbHsr.Libnl.Link
import ConfdbHsr.Daemon.State
import ConfdbHsr.Daemon.ApplyConf
import ConfdbHsr.Daemon.WaitList
import ConfdbHsr.Daemon.Handlers
import ConfdbHsr.Daemon.Acts
import ConfdbHsr.Daemon.Reaction
import ConfdbHsr.Daemon.Attempts
import ConfdbHsr.Daemon.Edits
import ConfdbHsr.Daemon.Scenario
import ConfdbHsr.CreateSafety
import ConfdbHsr.WaitListRuns
import ConfdbHsr.Deletion
import ConfdbHsr.Totality
import ConfdbHsr.HsrOnly
import ConfdbHsr.Libnl.HsrNode
import ConfdbHsr.Daemon.NodeList
import ConfdbHsr.NodeCache
import ConfdbHsr.Daemon.StartUp
import ConfdbHsr.Daemon.Dump
import ConfdbHsr.LostUpdates
import ConfdbHsr.PublishedList
import ConfdbHsr.Daemon.LinkEvents
import ConfdbHsr.Daemon.Dispatch
import ConfdbHsr.Daemon.Flags
import ConfdbHsr.Daemon.Snapshot
import ConfdbHsr.FlagTruth
import ConfdbHsr.CreateRequests
import ConfdbHsr.PortEvents
import ConfdbHsr.FailedCalls
import ConfdbHsr.NodeStatus
import ConfdbHsr.CheckTable
import ConfdbHsr.Reapply
import ConfdbHsr.Cli.HsrCmds
import ConfdbHsr.CliPorts
import ConfdbHsr.Daemon.EventLoop
import ConfdbHsr.BadMessages
import ConfdbHsr.Stranded
import ConfdbHsr.Lib.Split
import ConfdbHsr.StrSplit
import ConfdbHsr.TrackedInterfaces
import ConfdbHsr.NodeLookup
import ConfdbHsr.ParserSafety
import ConfdbHsr.Libnl.Msg
import ConfdbHsr.Libnl.HsrLink
import ConfdbHsr.HsrAttrs
import ConfdbHsr.LinkDiff
import ConfdbHsr.Lib.Owners
import ConfdbHsr.LinkClones
import ConfdbHsr.Daemon.NodeCaches
import ConfdbHsr.NodeCollect
import ConfdbHsr.NodeRefill
import ConfdbHsr.Lib.Probe
import ConfdbHsr.Libnl.LocalPort
import ConfdbHsr.PortRuns
import ConfdbHsr.Libnl.Nlmsg
import ConfdbHsr.Libnl.Socket
import ConfdbHsr.Lib.Line
import ConfdbHsr.Libnl.Session
import ConfdbHsr.SessionRuns
import ConfdbHsr.Lib.Chains
import ConfdbHsr.Libnl.HashTable
import ConfdbHsr.LinkCacheRuns
import ConfdbHsr.Lib.CatchUp
import ConfdbHsr.LinkWatch
import ConfdbHsr.Lib.Ledger
import ConfdbHsr.Daemon.Resources
import ConfdbHsr.ResourceRuns
import ConfdbHsr.Libnl.Fields
import ConfdbHsr.Libnl.LinkMsg
import ConfdbHsr.Libnl.LinkBuild
import ConfdbHsr.LinkRequests
import ConfdbHsr.LinkValues
import ConfdbHsr.ParsedLinks
import ConfdbHsr.SentRequests
import ConfdbHsr.Lib.CText
import ConfdbHsr.Libnl.AddrText
import ConfdbHsr.AddrTexts
