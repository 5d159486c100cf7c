import VgwDriver.Base.Forest
import VgwDriver.Base.Run
import VgwDriver.Base.Sink
import VgwDriver.Conntrack
import VgwDriver.TrackerRuns
import VgwDriver.TrackerLaws
import VgwDriver.Module
import VgwDriver.Netlink.DumpSpec
import VgwDriver.Netlink.FilterZone
import VgwDriver.Netlink.Flush
import VgwDriver.Netlink.References
import VgwDriver.Netlink.Session
import VgwDriver.Netlink.Requests
import VgwDriver.Netlink.ExpectDump
import VgwDriver.Cli.Readback
import VgwDriver.Cli.Reset
import VgwDriver.Netlink.EventSize
import VgwDriver.Netlink.Message
import VgwDriver.Netlink.TupleParse
import VgwDriver.Netlink.ExpectId
import VgwDriver.Netlink.Dying
import VgwDriver.Cli.TrackFlag
import VgwDriver.Netlink.SeqAdj
import VgwDriver.Base.InetSum
import VgwDriver.Cli.Gopacket
import VgwDriver.Cli.TcpReset
import VgwDriver.Netlink.SeqLookup
import VgwDriver.Cli.TcpSeq
import VgwDriver.Cli.Conn
import VgwDriver.Netlink.LifecycleRuns
import VgwDriver.Netlink.Deletion
import VgwDriver.Cli.Add
import VgwDriver.Cli.Commands
import VgwDriver.Netlink.Glue
import VgwDriver.Netlink.NewExpect
