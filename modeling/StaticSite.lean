import StaticSite.Directive.Expand
import StaticSite.Html.Prettify
import StaticSite.Main
import StaticSite.Markdown.Render
import StaticSite.Page.Affected
import StaticSite.Site.CommandLine
import StaticSite.Template.Dialogue
import StaticSite.Yaml.Document
import StaticSite.Proofs.Build.Independence
import StaticSite.Proofs.Build.Idempotence
import StaticSite.Proofs.Include.Cycle
import StaticSite.Proofs.Build.Containment
import StaticSite.Proofs.Build.Coverage
import StaticSite.Proofs.Build.Incremental
import StaticSite.Proofs.Include.Balance
import StaticSite.Proofs.Build.Whereabouts
import StaticSite.Proofs.Build.Watching
import StaticSite.Proofs.Build.Session
import StaticSite.Proofs.Build.Reaction
import StaticSite.Proofs.Include.Fragment
import StaticSite.Proofs.Directive.Leftmost
import StaticSite.Proofs.Build.Debouncing
import StaticSite.Proofs.Build.Survival
import StaticSite.Proofs.Build.Auditing
import StaticSite.Proofs.Directive.Inclusion
import StaticSite.Proofs.Directive.Filling
import StaticSite.Proofs.Site.PageNames
import StaticSite.Proofs.Site.Mirror
import StaticSite.Proofs.Site.Atomic
import StaticSite.Proofs.Build.PageFiles
import StaticSite.Proofs.Build.HalfFilled
import StaticSite.Proofs.Site.Ownership
import StaticSite.Proofs.Value.Layers
import StaticSite.Proofs.Value.Field
import StaticSite.Proofs.Glob.Sources
import StaticSite.Proofs.Glob.Roots
import StaticSite.Proofs.Site.Bundles
import StaticSite.Proofs.Include.Verbatim
import StaticSite.Proofs.Value.Composed
import StaticSite.Proofs.Text.Escape
import StaticSite.Proofs.Path.Within
import StaticSite.Proofs.Include.Reference
import StaticSite.Proofs.Path.Directory
