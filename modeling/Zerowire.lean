import Zerowire.Bytes
import Zerowire.StreamCodec
import Zerowire.Program
import Zerowire.Envelope
import Zerowire.Wire
import Zerowire.Jvm
import Zerowire.WireProtocol
import Zerowire.Usbip
import Zerowire.UrbPump
import Zerowire.Vhci
import Zerowire.Tls
import Zerowire.EdgeTrigger
import Zerowire.Uinput
import Zerowire.Report
import Zerowire.Surroundings
import Zerowire.Transducer
import Zerowire.UsbIpFrame
import Zerowire.UsbIpHost
import Zerowire.UrbStream
import Zerowire.UrbLimits
import Zerowire.Isochronous
import Zerowire.LateUnlink
import Zerowire.UrbPumpRun
import Zerowire.ReplyDirection
import Zerowire.Hid
import Zerowire.BindAckJson
import Zerowire.FrameCodecs
import Zerowire.PumpsCompared
import Zerowire.Consumer
import Zerowire.Receiver
import Zerowire.SessionRun
import Zerowire.Rebinding
import Zerowire.ReplySize
import Zerowire.KeyMeaning
import Zerowire.Schedule
import Zerowire.ServiceState
import Zerowire.Teardown
import Zerowire.ShortItems
import Zerowire.HidDescriptor
import Zerowire.ProgramRel
import Zerowire.Control
import Zerowire.CaptureLoops
import Zerowire.UrbDriver
import Zerowire.UsbipReceive
import Zerowire.UsbipCompared
import Zerowire.Trace
import Zerowire.Monitor
import Zerowire.UsbInventory
import Zerowire.HidEndpoint
import Zerowire.ReceiverSession
import Zerowire.SessionDiscipline
import Zerowire.ReplyPolicy
import Zerowire.PhonePolicy
import Zerowire.LinuxSender
import Zerowire.SendersCompared
import Zerowire.SequenceNumbers
import Zerowire.DeclaredEvents
import Zerowire.Network
import Zerowire.HeaderRefusal
import Zerowire.ScriptedSession
import Zerowire.DriverReplies
import Zerowire.NamedEndpoint
import Zerowire.PumpEscapes
import Zerowire.DescriptorGrammar
import Zerowire.Discovery
import Zerowire.PumpAccounting
import Zerowire.Hkdf
import Zerowire.Sha256
import Zerowire.Psk
import Zerowire.ControlJson
import Zerowire.FastLane
import Zerowire.Peers
import Zerowire.Handshakes
import Zerowire.Fixtures
import Zerowire.HidSenders
import Zerowire.HidLoopback
import Zerowire.SimulatedSession
import Zerowire.UsbipLoopback
import Zerowire.JsonTree
import Zerowire.ControlSchema
import Zerowire.PhoneFastLane
import Zerowire.KernelDelivery
import Zerowire.DescriptorLayout
