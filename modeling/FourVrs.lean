import FourVrs.Network.TrialOutcome
import FourVrs.Network.RawOwnership
import FourVrs.Network.UdpOnce
import FourVrs.App.CleanStop
import FourVrs.Network.ServiceRuns
import FourVrs.Core.Recovery
import FourVrs.Network.TcpFairness
import FourVrs.Network.Translation
import FourVrs.Uart.Framing
import FourVrs.Network.TcpTimeout
import FourVrs.Gateway.Refusals
import FourVrs.Config.Saves
import FourVrs.Network.DhcpOffer
import FourVrs.Network.FailedWrite
import FourVrs.Network.Applies
import FourVrs.Network.DhcpReads
import FourVrs.App.BindAddresses
import FourVrs.Network.VendorDocuments
import FourVrs.Network.AddressPlan
import FourVrs.Web.Injection
import FourVrs.Web.GuessBounds
import FourVrs.Panel.MarkedRow
import FourVrs.Panel.HeldKeys
import FourVrs.App.ClockTrust
import FourVrs.Modbus.CrcDetects
import FourVrs.Web.Kdf
import FourVrs.Installer.VendorScript
import FourVrs.Installer.JournalRoundTrip
import FourVrs.Web.Budget
import FourVrs.Web.SwitchRuns
import FourVrs.Network.BootActions
import FourVrs.Web.Number
import FourVrs.Web.RngPool
import FourVrs.Installer.Paths
import FourVrs.Installer.ClockInstalled
