import Smiusb.Execution
import Smiusb.Bytes
import Smiusb.WireProtocol
import Smiusb.JpegGrammar
import Smiusb.JpegEnd
import Smiusb.JpegVerdict
import Smiusb.FramePackets
import Smiusb.Transitions
import Smiusb.FrameQueue
import Smiusb.PipelineHistory
import Smiusb.SinkGate
import Smiusb.PersistentVmap
import Smiusb.VmapOriginal
import Smiusb.Resources
import Smiusb.ObserverResources
import Smiusb.Probe
import Smiusb.SessionManager
import Smiusb.SessionLifetime
import Smiusb.SessionHistory
import Smiusb.RestartFence
import Smiusb.FenceSafety
import Smiusb.PacketDecoder
import Smiusb.DecodeVerdicts
import Smiusb.JpegEvidence
import Smiusb.PipelineReplay
import Smiusb.ModeTables
import Smiusb.RequestPackets
import Smiusb.Blocks
import Smiusb.FrameLayouts
import Smiusb.TestPattern
import Smiusb.Methods
import Smiusb.JpegBoundary
import Smiusb.SingleChange
import Smiusb.Checksums
import Smiusb.Observer
import Smiusb.Texts
import Smiusb.HexText
import Smiusb.CommandLine
import Smiusb.PatternRun
import Smiusb.EvdiRollback
import Smiusb.RollbackSafety
import Smiusb.Journals
import Smiusb.EvdiInstall
import Smiusb.InstallSafety
import Smiusb.EvdiLifecycle
import Smiusb.CNumbers
import Smiusb.DaemonOptions
import Smiusb.DaemonProcess
import Smiusb.DaemonShutdown
import Smiusb.DaemonTermination
import Smiusb.Traps
import Smiusb.CaptureCycle
import Smiusb.CaptureSafety
import Smiusb.CaptureContent
import Smiusb.ScreenCast
import Smiusb.PatternFailures
import Smiusb.MainProgram
import Smiusb.GuardPassage
import Smiusb.ObserverLog
