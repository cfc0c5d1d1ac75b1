import CloudClient.Main
import CloudClient.Codec.Visit
import CloudClient.Codec.Call
import CloudClient.Pool.Workspace
import CloudClient.Proofs.Calendar.Cycle
import CloudClient.Proofs.Calendar.Milliseconds
import CloudClient.Proofs.Service.Visit
import CloudClient.Proofs.Service.Delegates
import CloudClient.Proofs.Service.Balance
import CloudClient.Proofs.Text.FixedWidth
import CloudClient.Proofs.Text.Blank
import CloudClient.Proofs.Text.Uppercase
import CloudClient.Proofs.Text.Quoted
import CloudClient.Proofs.Wire.Name
import CloudClient.Proofs.Wire.Spelling
import CloudClient.Proofs.Wire.Grammar
import CloudClient.Proofs.Wire.Century
import CloudClient.Proofs.Wire.Rendering
import CloudClient.Proofs.Wire.RoundTrip
import CloudClient.Proofs.Wire.Respelling
import CloudClient.Proofs.Wire.Likeness
import CloudClient.Proofs.Wire.Disjoint
import CloudClient.Proofs.Codec.Call
import CloudClient.Proofs.Codec.Catalogue
import CloudClient.Proofs.Codec.Binding
import CloudClient.Proofs.Codec.Shared
import CloudClient.Proofs.Codec.Apart
import CloudClient.Proofs.Console.Errand
import CloudClient.Proofs.Console.Run
import CloudClient.Proofs.Console.Ending
import CloudClient.Proofs.Console.Lines
import CloudClient.Proofs.Console.Check
import CloudClient.Proofs.Console.Alone
import CloudClient.Proofs.Console.RoundTrip
import CloudClient.Proofs.Calendar.Order
import CloudClient.Proofs.Calendar.Utc
import CloudClient.Proofs.Calendar.Succession
import CloudClient.Proofs.Text.Order
import CloudClient.Proofs.Wire.Order
import CloudClient.Proofs.Wire.Refusal
import CloudClient.Proofs.Wire.RefusalLog
import CloudClient.Proofs.Wire.Report
import CloudClient.Proofs.Wire.Succession
import CloudClient.Proofs.Wire.Concordance
import CloudClient.Proofs.Pool.Step
import CloudClient.Proofs.Pool.Staging
import CloudClient.Proofs.Pool.Check
import CloudClient.Proofs.Pool.Rebuild
import CloudClient.Proofs.Wire.Name
