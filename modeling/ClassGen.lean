import ClassGen.Main
import ClassGen.Command.Directory
import ClassGen.Proofs.Ascending
import ClassGen.Proofs.Source.Imports
import ClassGen.Proofs.Source.Resolution
import ClassGen.Proofs.ClassName
import ClassGen.Proofs.Text.Blank
import ClassGen.Proofs.TypeRef.Grammar
import ClassGen.Proofs.TypeRef.Tokens
import ClassGen.Proofs.TypeRef.Parse
import ClassGen.Proofs.Build.Consistency
import ClassGen.Proofs.Build.References
import ClassGen.Proofs.Model.Mentions
import ClassGen.Proofs.Source.Clash
import ClassGen.Proofs.Classpath
import ClassGen.Proofs.Classpath.Registrations
import ClassGen.Proofs.Pipeline.Dispatch
import ClassGen.Proofs.Pipeline.Turns
import ClassGen.Proofs.Derived.Style
import ClassGen.Proofs.Source.File
import ClassGen.Proofs.Derived.Tokens
import ClassGen.Proofs.Derived.Run
import ClassGen.Proofs.Derived.Calls
import ClassGen.Proofs.Derived.Usable
import ClassGen.Proofs.Naming.Characters
import ClassGen.Proofs.TypeRef.Characters
import ClassGen.Proofs.Source.Path
import ClassGen.Proofs.Source.Closing
import ClassGen.Proofs.Source.Comments
import ClassGen.Proofs.Source.Declared
import ClassGen.Proofs.Source.Uncommented
import ClassGen.Proofs.Derived.Described
import ClassGen.Proofs.Command.Paths
import ClassGen.Proofs.Command.Directory
import ClassGen.Proofs.Command.Writing
import ClassGen.Proofs.Command.Generate
import ClassGen.Proofs.Naming.Words
import ClassGen.Proofs.Naming.Letters
import ClassGen.Proofs.Naming.Identifiers
import ClassGen.Proofs.Source.Outcome
import ClassGen.Proofs.Derived.Twice
import ClassGen.Proofs.TypeRef.Rendering
import ClassGen.Proofs.Source.Overloads
import ClassGen.Proofs.Classpath.Listing
import ClassGen.Proofs.Derived.Extension
import ClassGen.Proofs.TypeRef.RoundTrip
import ClassGen.Proofs.Expr.Rendering
import ClassGen.Proofs.ClassName.FullForm
import ClassGen.Proofs.Build.Order
import ClassGen.Proofs.Text.UnicodeEscapes
import ClassGen.Proofs.Source.EarlyClose
import ClassGen.Proofs.Source.Written
import ClassGen.Proofs.Source.Unambiguous
import ClassGen.Proofs.Naming.Lettering
import ClassGen.Proofs.Build.Duplicates
