import YardConsole.Http.Server
import YardConsole.Main
import YardConsole.Proofs.Advice.Block
import YardConsole.Proofs.Advice.Prose
import YardConsole.Proofs.Advice.Schema
import YardConsole.Proofs.Advice.Shape
import YardConsole.Proofs.Command.Number
import YardConsole.Proofs.Command.Padding
import YardConsole.Proofs.Command.Retyped
import YardConsole.Proofs.Command.Search
import YardConsole.Proofs.Config.Address
import YardConsole.Proofs.Dialogue.Conversation
import YardConsole.Proofs.Http.Numbering
import YardConsole.Proofs.Rpc.Object
import YardConsole.Proofs.Session.Built
import YardConsole.Proofs.Session.Deletion
import YardConsole.Proofs.Session.Origin
import YardConsole.Proofs.Session.Precedence
import YardConsole.Proofs.Session.Rendering
import YardConsole.Proofs.Session.Ungated
import YardConsole.Proofs.Shell.Once
import YardConsole.Proofs.Yard.Screens
