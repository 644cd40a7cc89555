import AsyncUnsync.Library.Arena
import AsyncUnsync.Library.Chain
import AsyncUnsync.Library.Serving
import AsyncUnsync.Library.History
import AsyncUnsync.Library.Lockstep
import AsyncUnsync.Machine
import AsyncUnsync.Semaphore
import AsyncUnsync.SemaphoreSystem
import AsyncUnsync.Reentrancy
import AsyncUnsync.Ledger
import AsyncUnsync.LedgerSystem
import AsyncUnsync.Error
import AsyncUnsync.Mask
import AsyncUnsync.Census
import AsyncUnsync.Queue
import AsyncUnsync.Handles
import AsyncUnsync.UnboundedSystem
import AsyncUnsync.BoundedSystem
import AsyncUnsync.BufferSystem
import AsyncUnsync.Placement
import AsyncUnsync.Unwinding
import AsyncUnsync.Oneshot
import AsyncUnsync.OneshotSystem
import AsyncUnsync.Proofs.LedgerValid
import AsyncUnsync.Proofs.WaiterLinks
import AsyncUnsync.Proofs.LedgerRefinement
import AsyncUnsync.Proofs.LedgerSimulation
import AsyncUnsync.Proofs.WakePoints
import AsyncUnsync.Proofs.LedgerTurns
import AsyncUnsync.Proofs.LedgerGrants
import AsyncUnsync.Proofs.FirstPolls
import AsyncUnsync.Proofs.PermitTotals
import AsyncUnsync.Proofs.PermitConservation
import AsyncUnsync.Proofs.PortionedReturns
import AsyncUnsync.Proofs.WaiterQueue
import AsyncUnsync.Proofs.NoOvertaking
import AsyncUnsync.Proofs.AcquireDelivery
import AsyncUnsync.Proofs.SemaphoreClosing
import AsyncUnsync.Proofs.WakerDelivery
import AsyncUnsync.Proofs.QueueCalls
import AsyncUnsync.Proofs.FuturePolls
import AsyncUnsync.Proofs.Delivery
import AsyncUnsync.Proofs.SlotAccounting
import AsyncUnsync.Proofs.BoundedClients
import AsyncUnsync.Proofs.CensusCounts
import AsyncUnsync.Proofs.BoundedCensus
import AsyncUnsync.Proofs.UnboundedCensus
import AsyncUnsync.Proofs.BoundedValid
import AsyncUnsync.Proofs.CallFootprints
import AsyncUnsync.Proofs.ForeignWakers
import AsyncUnsync.Proofs.ReceiverSignals
import AsyncUnsync.Proofs.ReceiverWaking
import AsyncUnsync.Proofs.UnboundedWaking
import AsyncUnsync.Proofs.LostWakeups
import AsyncUnsync.Proofs.SlotBalance
import AsyncUnsync.Proofs.BoundedTotal
import AsyncUnsync.Proofs.CapacityConservation
import AsyncUnsync.Proofs.SenderCounting
import AsyncUnsync.Proofs.ClosedFlags
import AsyncUnsync.Proofs.BlockedSenders
import AsyncUnsync.Proofs.UnfilledChannels
import AsyncUnsync.Proofs.Disconnection
import AsyncUnsync.Proofs.OneshotWaking
import AsyncUnsync.Proofs.OneshotDelivery
import AsyncUnsync.Proofs.DrainedBuffers
import AsyncUnsync.Proofs.LeakedSenders
import AsyncUnsync.Proofs.SameChannel
import AsyncUnsync.Proofs.GrantedSlots
import AsyncUnsync.Proofs.UnpolledFutures
import AsyncUnsync.Proofs.CancelledRequests
import AsyncUnsync.Proofs.CancelledSends
import AsyncUnsync.Proofs.UnwoundSends
import AsyncUnsync.Library.Executor
import AsyncUnsync.Library.Refinement
import AsyncUnsync.Mailbox
import AsyncUnsync.MailboxSystem
import AsyncUnsync.Mpsc
import AsyncUnsync.Proofs.LedgerRuns
import AsyncUnsync.Proofs.SlotRefinement
import AsyncUnsync.Proofs.MailboxRefinement
import AsyncUnsync.Proofs.SlotTurns
import AsyncUnsync.Proofs.MpscMoves
import AsyncUnsync.Proofs.MpscWorking
import AsyncUnsync.Proofs.MpscDelivery
import AsyncUnsync.Proofs.MpscTermination
import AsyncUnsync.Proofs.BoundedSafety
import AsyncUnsync.Proofs.ClosedChannels
import AsyncUnsync.Proofs.ServiceOrder
import AsyncUnsync.Library.Patience
import AsyncUnsync.Proofs.PatientRequests
import AsyncUnsync.Proofs.PatientSenders
import AsyncUnsync.Proofs.WorkerMoves
import AsyncUnsync.Proofs.WorkerProgress
import AsyncUnsync.Proofs.WorkerTermination
import AsyncUnsync.Proofs.Backpressure
import AsyncUnsync.Proofs.ReservedSends
import AsyncUnsync.Handoff
import AsyncUnsync.Proofs.HandoffDelivery
