import CrucibleDownstairs.Protocol
import CrucibleDownstairs.Work
import CrucibleDownstairs.SessionQueue
import CrucibleDownstairs.Downstairs
import CrucibleDownstairs.Registry
import CrucibleDownstairs.Fencing
import CrucibleDownstairs.Connection
import CrucibleDownstairs.Steps
import CrucibleDownstairs.Handshake
import CrucibleDownstairs.WorkerPass
import CrucibleDownstairs.RegionLog
import CrucibleDownstairs.ImportExport
import CrucibleDownstairs.Acks
import CrucibleDownstairs.Eviction
import CrucibleDownstairs.QueueSteps
import CrucibleDownstairs.AckOrder
import CrucibleDownstairs.Running
import CrucibleDownstairs.Wakeups
import CrucibleDownstairs.DepOrder
import CrucibleDownstairs.Shutdown
