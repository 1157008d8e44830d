import ModuleResolution.Json.Reader
import ModuleResolution.Main
import ModuleResolution.Path.Specifier
import ModuleResolution.Proofs.Disk.Lawful
import ModuleResolution.Proofs.Path.Climb
import ModuleResolution.Proofs.Path.Lineage
import ModuleResolution.Proofs.Session.Memory
import ModuleResolution.Proofs.Session.Replies
import ModuleResolution.Proofs.Settings.Editing
import ModuleResolution.Proofs.Session.Transparency
import ModuleResolution.Proofs.Resolve.Walk
import ModuleResolution.Proofs.Resolve.Manifest
import ModuleResolution.Proofs.Resolve.Locate
import ModuleResolution.Proofs.Resolve.Stop
import ModuleResolution.Proofs.Resolve.Address
import ModuleResolution.Proofs.Resolve.Root
import ModuleResolution.Proofs.Json.Excess
import ModuleResolution.Proofs.Resolve.Plain
import ModuleResolution.Proofs.Session.Libraries
import ModuleResolution.Proofs.Resolve.Fallback
import ModuleResolution.Proofs.Resolve.Nested
import ModuleResolution.Proofs.Session.Contents
import ModuleResolution.Proofs.Settings.Merging
import ModuleResolution.Proofs.Console.Shown
import ModuleResolution.Proofs.Session.Logged
import ModuleResolution.Proofs.CommandLine.Answers
import ModuleResolution.Proofs.Logging.SettingUp
import ModuleResolution.Proofs.Resolve.Verdict
import ModuleResolution.Proofs.Yaml.Composed
import ModuleResolution.Proofs.Yaml.Built
import ModuleResolution.Proofs.Yaml.Changed
import ModuleResolution.Proofs.Yaml.Added
import ModuleResolution.Proofs.Yaml.Valued
import ModuleResolution.Proofs.Disk.Written
import ModuleResolution.Proofs.Settings.Precedence
import ModuleResolution.Proofs.Settings.Applying
import ModuleResolution.Proofs.Settings.Storing
import ModuleResolution.Proofs.Settings.Updating
import ModuleResolution.Proofs.Settings.Accepting
import ModuleResolution.Proofs.Settings.Layers
import ModuleResolution.Proofs.Disk.Ordered
import ModuleResolution.Proofs.Resolve.Candidates
import ModuleResolution.Proofs.Disk.Complete
import ModuleResolution.Proofs.Resolve.Installed
import ModuleResolution.Proofs.Resolve.Stations
import ModuleResolution.Proofs.Resolve.Ascent
import ModuleResolution.Proofs.Resolve.Recognized
import ModuleResolution.Proofs.Resolve.Searched
import ModuleResolution.Proofs.Options.Extending
import ModuleResolution.Proofs.Disk.Appended
import ModuleResolution.Proofs.Json.OneLine
import ModuleResolution.Proofs.Logging.Keeping
import ModuleResolution.Proofs.Path.Anchored
import ModuleResolution.Proofs.Resolve.Placed
import ModuleResolution.Proofs.Session.Spellings
import ModuleResolution.Proofs.Path.Parts
import ModuleResolution.Proofs.Resolve.Classified
import ModuleResolution.Proofs.Json.Written
