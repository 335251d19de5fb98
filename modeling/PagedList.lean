import PagedList.Game
import PagedList.Isolation
import PagedList.Json.Shaped
import PagedList.Main
import PagedList.Program
import PagedList.Proofs.Exchange
import PagedList.Proofs.Outstanding
import PagedList.Proofs.Replay
import PagedList.Proofs.SessionRun
import PagedList.Service
import PagedList.Proofs.Completeness
import PagedList.Proofs.Supersession
import PagedList.Proofs.Settling
import PagedList.Proofs.PageWalk
import PagedList.Proofs.WalkEnd
import PagedList.Proofs.Publishing
import PagedList.Proofs.EventLoop
import PagedList.Proofs.Stragglers
import PagedList.Proofs.Draining
import PagedList.Proofs.Jumps
import PagedList.Proofs.Quiescence
import PagedList.Proofs.Ending
import PagedList.Proofs.Stopping
import PagedList.Proofs.RequestedFilters
import PagedList.Proofs.Deferral
import PagedList.Proofs.QuietPeriod
import PagedList.Proofs.ServiceRun
import PagedList.Proofs.SingleLoad
import PagedList.Proofs.Growth
import PagedList.Proofs.EntityRequests
import PagedList.Proofs.EntitySetRun
import PagedList.Proofs.Ignored
import PagedList.Proofs.Detours
import PagedList.Proofs.WordEnds
import PagedList.Proofs.ReadBack
import PagedList.Proofs.FilterCalls
import PagedList.Proofs.Narrowing
import PagedList.Proofs.Merging
import PagedList.Proofs.CompactText
import PagedList.Proofs.GivenFilters
import PagedList.Proofs.Layers
import PagedList.Proofs.Variables
import PagedList.Proofs.LastSource
import PagedList.Proofs.SetEquality
import PagedList.Proofs.IsolationScope
