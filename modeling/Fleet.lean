import Fleet.Main
import Fleet.Proofs.Folders.Resolution
import Fleet.Proofs.Folders.MountList
import Fleet.Proofs.Folders.Sources
import Fleet.Proofs.Document.Tidy
import Fleet.Proofs.Store.Memory
import Fleet.Proofs.Guest.Codec
import Fleet.Proofs.Guest.Plan
import Fleet.Proofs.Machine.Resolution
import Fleet.Proofs.Guest.Footprint
import Fleet.Proofs.Guest.Separation
import Fleet.Proofs.Machine.FixedPoint
import Fleet.Proofs.Settings.Ordered
import Fleet.Proofs.Settings.Shape
import Fleet.Proofs.Settings.Merge
import Fleet.Proofs.Settings.KeyPath
import Fleet.Proofs.Settings.Reading
import Fleet.Proofs.Settings.Layers
import Fleet.Proofs.Settings.Precedence
import Fleet.Proofs.Machine.Box
import Fleet.Proofs.Command.Launch
import Fleet.Proofs.Files
import Fleet.Proofs.Command.Independence
import Fleet.Proofs.Text.Utf8
import Fleet.Proofs.Settings.Folded
import Fleet.Proofs.Settings.Printed
import Fleet.Proofs.Command.Reload
import Fleet.Proofs.Manifest.Written
import Fleet.Proofs.Manifest.Names
import Fleet.Proofs.Manifest.Faults
import Fleet.Proofs.Command.Controls
import Fleet.Proofs.Log.Overrides
import Fleet.Proofs.Command.Logging
import Fleet.Proofs.Log.Filter
import Fleet.Proofs.Settings.Parts
import Fleet.Proofs.Command.Unlogged
import Fleet.Proofs.Command.Quiet
import Fleet.Proofs.Log.Installation
import Fleet.Proofs.Command.Options
import Fleet.Proofs.Command.Written
import Fleet.Proofs.Listings
import Fleet.Proofs.Text.Table
import Fleet.Proofs.Folders.Insertions
