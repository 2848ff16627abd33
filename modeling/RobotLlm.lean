import RobotLlm.Lib.Machine
import RobotLlm.Lib.Prog
import RobotLlm.Lib.ReplayWindow
import RobotLlm.Navigation.Contract
import RobotLlm.Navigation.Authority
import RobotLlm.Navigation.State
import RobotLlm.Navigation.Supervisor
import RobotLlm.Navigation.SupervisorLaws
import RobotLlm.Navigation.Episode
import RobotLlm.Navigation.EpisodeLaws
import RobotLlm.Autonomy.GoalLease
import RobotLlm.Autonomy.GoalLeaseLaws
import RobotLlm.Concurrent.ArmPause
import RobotLlm.Concurrent.ArmPauseLaws
import RobotLlm.Ev3.Hal
import RobotLlm.Ev3.Log
import RobotLlm.Ev3.Infrared
import RobotLlm.Ev3.MotorOwner
import RobotLlm.Ev3.Supervisor
import RobotLlm.Ev3.SupervisorCommands
import RobotLlm.Ev3.FrameLaws
import RobotLlm.Ev3.SupervisorLaws
import RobotLlm.Ev3.RestartLaws
import RobotLlm.Ev3.MotorOwnerLaws
import RobotLlm.Ev3.Protocol
import RobotLlm.Ev3.GrowthLaws
import RobotLlm.Ev3.ProtocolLaws
import RobotLlm.Ev3.Loop
import RobotLlm.Ev3.LoopLaws
import RobotLlm.Blast.Adpcm
import RobotLlm.Blast.AdpcmLaws
import RobotLlm.Lib.Json
import RobotLlm.Transport.Session
import RobotLlm.Transport.SessionLaws
import RobotLlm.Hazard.ScanEvidence
import RobotLlm.Hazard.HazardMap
import RobotLlm.Hazard.HazardLaws
import RobotLlm.Hazard.PruneLaws
import RobotLlm.Hazard.HazardMapLaws
import RobotLlm.Hazard.RunLaws
import RobotLlm.Lib.Check
import RobotLlm.Odometry.VerifiedMotion
import RobotLlm.Blast.MotionResult
import RobotLlm.Blast.MotionExecution
import RobotLlm.Blast.MotionResultLaws
import RobotLlm.Blast.MotionExecutionLaws
import RobotLlm.Hazard.Codec
import RobotLlm.Hazard.CodecLaws
import RobotLlm.Odometry.Observation
import RobotLlm.Memory.Store
import RobotLlm.Memory.StoreLaws
import RobotLlm.Navigation.Inbox
import RobotLlm.Navigation.InboxLaws
import RobotLlm.Navigation.Mission
import RobotLlm.Navigation.SpendLaws
import RobotLlm.Navigation.MissionLaws
import RobotLlm.Autonomy.IdleTask
import RobotLlm.Autonomy.IdleTaskLaws
import RobotLlm.Autonomy.IdleService
import RobotLlm.Autonomy.IdleServiceLaws
import RobotLlm.Roamer.PhysicalRoamer
import RobotLlm.Roamer.RoamerLaws
import RobotLlm.Transport.Channel
import RobotLlm.Transport.ChannelLaws
import RobotLlm.Agent.AgentLoop
import RobotLlm.Agent.AgentLoopLaws
import RobotLlm.Ev3.EmergencyStop
import RobotLlm.Ev3.EmergencyStopLaws
import RobotLlm.Dashboard.Contract
import RobotLlm.Dashboard.ConversationStore
import RobotLlm.Dashboard.ConversationLaws
import RobotLlm.Speech.SpeechLaws
import RobotLlm.Ev3.BudgetLaws
import RobotLlm.Ev3.Daemon
import RobotLlm.Ev3.DaemonLaws
import RobotLlm.Stt.SttRuntime
import RobotLlm.Stt.SttMoves
import RobotLlm.Stt.SttLaws
import RobotLlm.Autonomy.Selector
import RobotLlm.Autonomy.SelectorLaws
import RobotLlm.Blast.StationaryEvidence
import RobotLlm.Blast.StationaryEvidenceLaws
import RobotLlm.Research.Decision
import RobotLlm.Research.ResearchLoop
import RobotLlm.Blast.SpatialMap
import RobotLlm.Research.ResearchLoopLaws
import RobotLlm.Blast.SpatialMapLaws
import RobotLlm.Blast.ScanContract
import RobotLlm.Blast.ScanBuild
import RobotLlm.Blast.ScanBuildLaws
import RobotLlm.Blast.ScanFrontLaws
import RobotLlm.Blast.PlanarProjection
import RobotLlm.Blast.PlanarProjectionLaws
import RobotLlm.Physical.Availability
import RobotLlm.Physical.NavigationRun
import RobotLlm.Physical.NavigationRunLaws
import RobotLlm.Lib.JsonText
import RobotLlm.Physical.PlannerContext
import RobotLlm.Physical.PlannerContextLaws
import RobotLlm.Navigation.ReplanLaws
import RobotLlm.Navigation.ArbitrationLaws
import RobotLlm.Navigation.BatchLaws
import RobotLlm.Lib.Hysteresis
import RobotLlm.Ev3.EncoderRecovery
import RobotLlm.Ev3.InfraredLaws
import RobotLlm.Ev3.EncoderRecoveryLaws
import RobotLlm.Ev3.RecoveryRuntime
import RobotLlm.Ev3.RecoveryRuntimeLaws
import RobotLlm.Ev3.LeaseLaws
import RobotLlm.Ev3.PollLaws
import RobotLlm.Ev3.WheelLaws
import RobotLlm.Lib.Ray
import RobotLlm.Navigation.Simulator
import RobotLlm.Navigation.SimulatorLaws
import RobotLlm.Navigation.MissionReportLaws
import RobotLlm.Blast.PcmUpload
import RobotLlm.Blast.PcmUploadLaws
import RobotLlm.Blast.SoundStream
import RobotLlm.Blast.SoundStreamLaws
import RobotLlm.Ev3.DecodeRequest
import RobotLlm.Ev3.DecodeRequestLaws
import RobotLlm.Control.History
import RobotLlm.Lib.Cursor
import RobotLlm.Lib.JsonLength
import RobotLlm.Control.HistoryLaws
import RobotLlm.Control.RobotControl
import RobotLlm.Control.RobotControlLaws
import RobotLlm.Control.StartLaws
import RobotLlm.Lib.Sweep
import RobotLlm.Scan.Midpoints
import RobotLlm.Scan.MidpointsLaws
import RobotLlm.Blast.EpisodeHistory
import RobotLlm.Blast.EpisodeHistoryLaws
import RobotLlm.Lib.Tally
import RobotLlm.Physical.Experience
import RobotLlm.Physical.ExperienceLaws
import RobotLlm.Frame.SharedFrameTransform
import RobotLlm.Frame.SharedFrameTransformLaws
import RobotLlm.Grid.CoarseNavigationGrid
import RobotLlm.Grid.CoarseNavigationGridLaws
import RobotLlm.Hazard.PhysicalFootprint
import RobotLlm.Hazard.PhysicalFootprintLaws
import RobotLlm.Hazard.SweptPath
import RobotLlm.Hazard.SweptPathLaws
import RobotLlm.Physical.ManeuverCommitment
import RobotLlm.Physical.ManeuverCommitmentLaws
import RobotLlm.Odometry.VerifiedMotionLaws
