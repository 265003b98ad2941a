import Testbench.Json.Reader
import Testbench.Main
import Testbench.Patch.Conditional
import Testbench.Proofs.Patch.Amendment
import Testbench.Proofs.Tree.Site
import Testbench.Proofs.Patch.Step
import Testbench.Proofs.Patch.Repeat
import Testbench.Proofs.Run.Growth
import Testbench.Proofs.Run.Clean
import Testbench.Proofs.Run.Trace
import Testbench.Proofs.Run.Verdict
import Testbench.Proofs.Run.Plan
import Testbench.Proofs.Json.Grammar
import Testbench.Proofs.Json.Reading
import Testbench.Proofs.Json.Writing
import Testbench.Proofs.Report.Document
import Testbench.Proofs.Tree.Landing
import Testbench.Proofs.Report.Directory
import Testbench.Proofs.Run.Views
import Testbench.Proofs.Config.Sources
import Testbench.Proofs.Run.Afresh
import Testbench.Proofs.Patch.Account
import Testbench.Proofs.Config.Decoding
import Testbench.Proofs.Run.Layout
import Testbench.Proofs.Patch.Nesting
import Testbench.Proofs.Patch.Labels
import Testbench.Proofs.Patch.Graphics
import Testbench.Proofs.Version
import Testbench.Proofs.Stage.ResultSet
import Testbench.Proofs.Report.Confined
import Testbench.Proofs.KnownIssues
