import ViewWeave.Main
import ViewWeave.View.Name
import ViewWeave.Proofs.View.Name
import ViewWeave.Proofs.View.ShortName
import ViewWeave.Proofs.Demo.Sums
import ViewWeave.Proofs.View.LayoutText
import ViewWeave.Markup.Links
import ViewWeave.Proofs.Render.Twin
import ViewWeave.Proofs.Render.Steps
import ViewWeave.Proofs.Render.ExprTwin
import ViewWeave.Proofs.Render.NodeTwin
import ViewWeave.Proofs.Compose.Checks
import ViewWeave.Proofs.Compose.Failures
import ViewWeave.Proofs.Compose.Library
import ViewWeave.Proofs.Registry.Alone
import ViewWeave.Proofs.Compose.Product
import ViewWeave.Proofs.Markup.Parts
import ViewWeave.Proofs.Registry.Writer
import ViewWeave.Proofs.Compose.Sources
import ViewWeave.Proofs.Registry.Interpolation
import ViewWeave.Proofs.Registry.Escaping
import ViewWeave.Proofs.Command.Arguments
import ViewWeave.Proofs.Source.Writing
import ViewWeave.Proofs.Command.Rendering
import ViewWeave.Proofs.Data.RoundTrip
import ViewWeave.Proofs.Command.Agreement
import ViewWeave.Proofs.Compose.Naming
import ViewWeave.Proofs.Command.Counts
import ViewWeave.Proofs.Compose.Scanning
import ViewWeave.Proofs.Compose.Fragments
import ViewWeave.Proofs.Compose.Collisions
import ViewWeave.Proofs.Markup.Walk
import ViewWeave.Proofs.Registry.EntryPoints
import ViewWeave.Proofs.Compose.Journal
import ViewWeave.Proofs.Registry.Callable
