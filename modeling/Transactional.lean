import Transactional.Json.Writer
import Transactional.Json.Reader
import Transactional.Timestamp.Reader
import Transactional.Fault
import Transactional.Value
import Transactional.Program.Machine
import Transactional.Codec
import Transactional.Semaphore
import Transactional.Signal
import Transactional.Program.Meaning
import Transactional.Engine.Datum
import Transactional.Registry
import Transactional.Task.Executor
import Transactional.Wire.Reader
import Transactional.Proofs.Program.Reading
import Transactional.Proofs.Program.Laws
import Transactional.Proofs.Semaphore.Line
import Transactional.Proofs.Run.Ending
import Transactional.Proofs.Run.Course
import Transactional.Proofs.Run.Story
import Transactional.Proofs.Run.Upkeep
import Transactional.Proofs.Lease.Refused
import Transactional.Proofs.Run.Bracket
import Transactional.Proofs.Run.Publishing
import Transactional.Proofs.Traffic.Accounts
import Transactional.Proofs.Traffic.Blocks
import Transactional.Proofs.Isolation.Independence
import Transactional.Proofs.Logging.Faithful
import Transactional.Proofs.Engine.Effects
import Transactional.Proofs.Engine.Tenure
import Transactional.Proofs.Engine.Transaction
import Transactional.Proofs.Run.Phases
import Transactional.Proofs.Codec.RoundTrip
import Transactional.Proofs.Usage.LeftAsFound
import Transactional.Proofs.Engine.History
import Transactional.Proofs.Closing.Accounts
import Transactional.Proofs.Closing.Alongside
import Transactional.Proofs.Closing.Closed
import Transactional.Proofs.Program.Scopes
import Transactional.Proofs.Usage.Statements
import Transactional.Proofs.Run.Milestones
import Transactional.Proofs.Engine.Atomic
import Transactional.Proofs.Timestamp.Stored
import Transactional.Proofs.Engine.Datum
import Transactional.Proofs.Mapping.Clause
import Transactional.Proofs.Engine.Demands
import Transactional.Proofs.Mapping.Statements
import Transactional.Proofs.Ending.Signal
import Transactional.Proofs.Ending.EndState
import Transactional.Proofs.Ending.Discipline
import Transactional.Proofs.Ending.Observed
import Transactional.Proofs.Mapping.Rendering
import Transactional.Proofs.Record.Rows
import Transactional.Proofs.Limit.Deadline
