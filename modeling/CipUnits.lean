import CipUnits.Main
import CipUnits.Session
import CipUnits.Source.Script
import CipUnits.Value.Narrow
import CipUnits.Proofs.Run
import CipUnits.Proofs.Simulation
import CipUnits.Proofs.Record
import CipUnits.Proofs.Conservation
import CipUnits.Proofs.Filling
import CipUnits.Proofs.Chunking
import CipUnits.Proofs.WireFormat
import CipUnits.Proofs.Ahead
import CipUnits.Proofs.Blocks
import CipUnits.Proofs.Ending
import CipUnits.Proofs.Strictness
import CipUnits.Proofs.Events
import CipUnits.Proofs.Stages
import CipUnits.Proofs.Report
import CipUnits.Proofs.Exit
import CipUnits.Proofs.Spelling
import CipUnits.Proofs.Stopping
import CipUnits.Proofs.Exhaustion
import CipUnits.Proofs.Refusal
import CipUnits.Proofs.Splitting
import CipUnits.Proofs.Budget
import CipUnits.Proofs.Rendering
import CipUnits.Proofs.Acceptance
import CipUnits.Proofs.Naming
import CipUnits.Proofs.Payload
import CipUnits.Proofs.JsonText
import CipUnits.Proofs.RawOutput
import CipUnits.Proofs.Narrowing
import CipUnits.Proofs.Zero
