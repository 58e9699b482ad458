import EmailTemplate.Main
import EmailTemplate.Options.Json
import EmailTemplate.Proofs.Command.DefaultOutput
import EmailTemplate.Proofs.Document.Additions
import EmailTemplate.Proofs.Document.ColumnNumber
import EmailTemplate.Proofs.Document.ColumnOrder
import EmailTemplate.Proofs.Document.FontSize
import EmailTemplate.Proofs.Document.FontStyles
import EmailTemplate.Proofs.Document.FromText
import EmailTemplate.Proofs.Document.Integer
import EmailTemplate.Proofs.Document.Lenient
import EmailTemplate.Proofs.Document.Malformed
import EmailTemplate.Proofs.Html.Contents
import EmailTemplate.Proofs.Markup.Block
import EmailTemplate.Proofs.Markup.Clean
import EmailTemplate.Proofs.Markup.Harmless
import EmailTemplate.Proofs.Markup.Idempotent
import EmailTemplate.Proofs.Markup.InStep
import EmailTemplate.Proofs.Markup.Passes
import EmailTemplate.Proofs.Markup.ScriptScheme
import EmailTemplate.Proofs.Markup.Sealed
import EmailTemplate.Proofs.Markup.Slices
import EmailTemplate.Proofs.Markup.Survival
import EmailTemplate.Proofs.Markup.TagStates
import EmailTemplate.Proofs.Markup.Visible
import EmailTemplate.Proofs.Render.Defaults
import EmailTemplate.Proofs.Render.Enclosed
import EmailTemplate.Proofs.Render.Filled
import EmailTemplate.Proofs.Render.Layout
import EmailTemplate.Proofs.Render.NoScript
import EmailTemplate.Proofs.Render.Recovery
import EmailTemplate.Proofs.Render.SameContents
import EmailTemplate.Proofs.Render.Shape
