import ScriptHost.Config.Command
import ScriptHost.Program.Step
import ScriptHost.Record.Command
import ScriptHost.Record.Handle
import ScriptHost.Script.Step
import ScriptHost.Proofs.Record.Cursor
import ScriptHost.Proofs.Record.Equality
import ScriptHost.Proofs.Record.History
import ScriptHost.Proofs.Record.Missing
import ScriptHost.Proofs.Record.Pairs
import ScriptHost.Proofs.Value.Correspondence
import ScriptHost.Proofs.Value.Cycle
import ScriptHost.Proofs.Value.Display
import ScriptHost.Proofs.Value.Stepwise
import ScriptHost.Proofs.Value.Trail
import ScriptHost.Proofs.Stream.Printing
import ScriptHost.Proofs.Stream.Sink
import ScriptHost.Proofs.Script.Output
import ScriptHost.Proofs.Record.Handle
import ScriptHost.Proofs.Script.Chain
import ScriptHost.Proofs.Script.Shapes
import ScriptHost.Proofs.Script.Reading
import ScriptHost.Proofs.Script.ReadBack
import ScriptHost.Proofs.Stream.Fault
import ScriptHost.Proofs.Stream.Reading
import ScriptHost.Proofs.Program.Setup
import ScriptHost.Proofs.Program.Startup
import ScriptHost.Proofs.Program.Decoding
import ScriptHost.Proofs.Toml.Distinct
import ScriptHost.Proofs.Script.Failure
import ScriptHost.Proofs.Script.Making
import ScriptHost.Proofs.Config.Schema
import ScriptHost.Proofs.Config.Origin
import ScriptHost.Proofs.Program.Settings
import ScriptHost.Proofs.Log.Filter
import ScriptHost.Proofs.Program.Log
