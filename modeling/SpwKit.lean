import SpwKit.Contract.StaleHandles
import SpwKit.Contract.Timeouts
import SpwKit.Cuse.RecordSyntax
import SpwKit.Cuse.Replies
import SpwKit.Device.Conversation
import SpwKit.Device.Readiness
import SpwKit.Ethernet.FaultDecisions
import SpwKit.Ethernet.FragmentRoundTrip
import SpwKit.Ethernet.ReliableDelivery
import SpwKit.Tools.ManagementClient
import SpwKit.Virtual.LoopbackPair
import SpwKit.Vspwd.BridgeHead
import SpwKit.Vspwd.Monitor
