import MonaRobot.Foundations.Machine
import MonaRobot.Control.TwistMux
import MonaRobot.Control.ModeMachine
import MonaRobot.Safety.SafetyNode
import MonaRobot.Safety.EstopLatch
import MonaRobot.Foundations.History
import MonaRobot.Safety.Interlock
import MonaRobot.Safety.Reset
import MonaRobot.Safety.ZombieCallbacks
import MonaRobot.Control.ManualPriority
import MonaRobot.Control.Watchdog
import MonaRobot.Control.MuxLifecycle
import MonaRobot.Control.Blocking
import MonaRobot.Control.Takeover
import MonaRobot.Control.IdleGamepad
import MonaRobot.Control.ColdStart
import MonaRobot.Control.Ramp
import MonaRobot.Core.FdirConfig
import MonaRobot.Core.Monitor
import MonaRobot.Core.TerminalFault
import MonaRobot.Core.ThreeStrikes
import MonaRobot.Core.Isolation
import MonaRobot.Core.RecoveryTiming
import MonaRobot.Core.Escalation
import MonaRobot.Core.Relay
import MonaRobot.Core.RelayTopics
import MonaRobot.Foundations.LossyFifo
import MonaRobot.System.SafetyLink
import MonaRobot.System.EstopAgreement
import MonaRobot.System.ContactorBus
import MonaRobot.System.DriveLink
import MonaRobot.System.SmoothRestart
import MonaRobot.Control.Convergence
import MonaRobot.Foundations.SaturatedFilter
import MonaRobot.Safety.PlanarSpeed
import MonaRobot.Core.DeclaredConfig
import MonaRobot.Core.FdirMaps
import MonaRobot.Core.MapLookups
import MonaRobot.Core.LifecycleProtocol
import MonaRobot.Foundations.Records
import MonaRobot.Perception.LidarMerger
import MonaRobot.Perception.MergedCloud
import MonaRobot.Perception.MixedLayouts
import MonaRobot.Control.NanFilter
import MonaRobot.System.NanLimits
import MonaRobot.Control.BlockRace
import MonaRobot.Safety.EstopRace
import MonaRobot.Core.OverlappingTicks
import MonaRobot.Core.LateReplies
import MonaRobot.Control.LockedCallbacks
import MonaRobot.Core.TickAccounts
import MonaRobot.Perception.MergerLifecycle
import MonaRobot.Core.Verdicts
import MonaRobot.Foundations.Feed
import MonaRobot.System.Clearance
import MonaRobot.System.HealthLink
import MonaRobot.System.HealthBroadcast
import MonaRobot.Core.DetectionDeadline
import MonaRobot.Core.BringUp
import MonaRobot.System.Teardown
import MonaRobot.Safety.MotionRace
import MonaRobot.Control.CommandBound
import MonaRobot.Foundations.Routing
import MonaRobot.System.Robot
import MonaRobot.System.Boot
import MonaRobot.System.PowerUp
