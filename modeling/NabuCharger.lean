import NabuCharger.Core.RegisterRules
import NabuCharger.Kmdf.Battery
import NabuCharger.Kmdf.CellRules
import NabuCharger.Kmdf.CountRules
import NabuCharger.Kmdf.Detection
import NabuCharger.Kmdf.DriverRules
import NabuCharger.Kmdf.ElevationRules
import NabuCharger.Kmdf.FccRegister
import NabuCharger.Kmdf.Hvdcp
import NabuCharger.Kmdf.HvdcpRules
import NabuCharger.Kmdf.MarkedDriver
import NabuCharger.Kmdf.Schedule
import NabuCharger.Kmdf.WalkedDriver
import NabuCharger.Ln8000.FaultRegister
import NabuCharger.Ln8000.HvdcpPolicy
import NabuCharger.Ln8000.Memory
import NabuCharger.Ln8000.RegisterCell
import NabuCharger.Ln8000.Reliable
import NabuCharger.Ln8000.Telemetry
import NabuCharger.Logic.Cost
import NabuCharger.Logic.Grid
import NabuCharger.Logic.History
import NabuCharger.Logic.Marks
import NabuCharger.Logic.Retry
import NabuCharger.Logic.Served
import NabuCharger.Logic.Verdict
import NabuCharger.Proofs.AdcPause
import NabuCharger.Proofs.AdcStream
import NabuCharger.Proofs.AdcWake
import NabuCharger.Proofs.BatteryEvidence
import NabuCharger.Proofs.BatteryFlags
import NabuCharger.Proofs.BusCorrection
import NabuCharger.Proofs.BusTarget
import NabuCharger.Proofs.BypassGate
import NabuCharger.Proofs.BypassMasks
import NabuCharger.Proofs.CallbackOrder
import NabuCharger.Proofs.ClientReply
import NabuCharger.Proofs.ClosedSession
import NabuCharger.Proofs.ConfigureFields
import NabuCharger.Proofs.CoreRegisters
import NabuCharger.Proofs.CoreSession
import NabuCharger.Proofs.CurrentCeiling
import NabuCharger.Proofs.DetectTiming
import NabuCharger.Proofs.ElevatedMasks
import NabuCharger.Proofs.ElevationGate
import NabuCharger.Proofs.FccRestore
import NabuCharger.Proofs.FoldBack
import NabuCharger.Proofs.Force9vWait
import NabuCharger.Proofs.FreshChip
import NabuCharger.Proofs.GaugePolls
import NabuCharger.Proofs.GuardCurrents
import NabuCharger.Proofs.HoldWindow
import NabuCharger.Proofs.HostRegisters
import NabuCharger.Proofs.HubPath
import NabuCharger.Proofs.LimitsInOrder
import NabuCharger.Proofs.ListRoundTrip
import NabuCharger.Proofs.ModeAgreement
import NabuCharger.Proofs.NegotiationTime
import NabuCharger.Proofs.Overheat
import NabuCharger.Proofs.PmicRegisters
import NabuCharger.Proofs.PulseCount
import NabuCharger.Proofs.Qc35Outcome
import NabuCharger.Proofs.RateLimit
import NabuCharger.Proofs.Released
import NabuCharger.Proofs.Replug
import NabuCharger.Proofs.RequestProtocol
import NabuCharger.Proofs.RequestReuse
import NabuCharger.Proofs.ResetDiscipline
import NabuCharger.Proofs.RetryLoops
import NabuCharger.Proofs.SessionStore
import NabuCharger.Proofs.Setpoints
import NabuCharger.Proofs.StalePolicy
import NabuCharger.Proofs.StatusQuery
import NabuCharger.Proofs.StopDominates
import NabuCharger.Proofs.SuperuserObjects
import NabuCharger.Proofs.SuperuserRegisters
import NabuCharger.Proofs.SwitchTracking
import NabuCharger.Proofs.TcpPairing
import NabuCharger.Proofs.TcpRefinement
import NabuCharger.Proofs.Transcript
import NabuCharger.Proofs.TransferLayout
import NabuCharger.Proofs.WalkPace
import NabuCharger.Proofs.WorkingTransfer
