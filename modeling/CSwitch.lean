import CSwitch.Alloc.BuddyRuns
import CSwitch.Arcas.ControllerInvariant
import CSwitch.Arcas.DecisionConsistency
import CSwitch.Attribution.AttributionRuns
import CSwitch.Attribution.Confidence
import CSwitch.Attribution.EvidenceProperties
import CSwitch.Attribution.FillShares
import CSwitch.Attribution.SignatureRuns
import CSwitch.Bpf.CpuOwnership
import CSwitch.Bpf.Fastpath
import CSwitch.Bpf.HandoffProperties
import CSwitch.Bpf.LiveSample
import CSwitch.Bpf.MovingAverages
import CSwitch.Bpf.QueueDepth
import CSwitch.Dispatch.BurstCpuPlan
import CSwitch.Dispatch.BurstProperties
import CSwitch.Dispatch.Conservation
import CSwitch.Dispatch.FailedDispatch
import CSwitch.Dispatch.Overflow
import CSwitch.Dispatch.PlannerLinkProperties
import CSwitch.Dispatch.ReservationProperties
import CSwitch.Dispatch.ThrottleRuns
import CSwitch.Dispatch.ThrottleVerdict
import CSwitch.Filter.Metric
import CSwitch.Host.CpuList
import CSwitch.Host.MappingOrder
import CSwitch.Host.MappingProperties
import CSwitch.Nsdi.AppCache
import CSwitch.Nsdi.FreePoolGrants
import CSwitch.Nsdi.Isolation
import CSwitch.Planner.FixedPoint
import CSwitch.Planner.GreedyTotals
import CSwitch.Planner.IncrementalScope
import CSwitch.Planner.SlotBound
import CSwitch.Planner.TargetCpuRepair
import CSwitch.Policy.PipelineProperties
import CSwitch.Policy.SecondBaseline
import CSwitch.Sampler.DfMsrProperties
import CSwitch.Sampler.UpdateProperties
import CSwitch.Villain.Contenders
import CSwitch.Villain.LatchDiscipline
import CSwitch.Villain.StallSignals
import CSwitch.Workload.CgroupGuard
import CSwitch.Workload.AdopterProperties
