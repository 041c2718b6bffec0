import SpecifierLint.Guidance.RegistryFile
import SpecifierLint.Main
import SpecifierLint.Service
import SpecifierLint.Proofs.Edit.Splice
import SpecifierLint.Proofs.Path.Extension
import SpecifierLint.Proofs.Rule.Fix
import SpecifierLint.Proofs.Run.Mending
import SpecifierLint.Proofs.Disk.Walk
import SpecifierLint.Proofs.Disk.Agreement
import SpecifierLint.Proofs.Resolution.Agreement
import SpecifierLint.Proofs.Disk.SourceFiles
import SpecifierLint.Proofs.Run.Remaining
import SpecifierLint.Proofs.Path.Lengthening
import SpecifierLint.Proofs.Resolution.Search
import SpecifierLint.Proofs.Disk.LastStep
import SpecifierLint.Proofs.Resolution.Lengthening
import SpecifierLint.Proofs.Resolution.Siblings
import SpecifierLint.Proofs.Run.Retargeting
import SpecifierLint.Proofs.Source.Program
import SpecifierLint.Proofs.Source.Rescan
import SpecifierLint.Proofs.Run.Rescan
import SpecifierLint.Proofs.Run.DryRun
import SpecifierLint.Proofs.Disk.Blocked
import SpecifierLint.Proofs.Resolution.Faults
import SpecifierLint.Proofs.Run.Completion
import SpecifierLint.Proofs.Run.Interruption
import SpecifierLint.Proofs.Run.Commutation
import SpecifierLint.Proofs.Run.Reordering
import SpecifierLint.Proofs.Source.Surroundings
import SpecifierLint.Proofs.Rule.Exemption
import SpecifierLint.Proofs.Rule.ReadBack
import SpecifierLint.Proofs.Disk.Normal
import SpecifierLint.Proofs.Resolution.Candidates
import SpecifierLint.Proofs.Resolution.Soundness
import SpecifierLint.Proofs.Edit.Selection
import SpecifierLint.Proofs.Configuration.Override
import SpecifierLint.Proofs.Rule.Specification
import SpecifierLint.Proofs.Resolution.OwnSibling
import SpecifierLint.Proofs.Configuration.Succession
import SpecifierLint.Proofs.Configuration.Validity
import SpecifierLint.Proofs.Disk.Enumeration
import SpecifierLint.Proofs.Source.Calls
import SpecifierLint.Proofs.Text.Decimal
import SpecifierLint.Proofs.Source.Positions
import SpecifierLint.Proofs.Run.Locations
import SpecifierLint.Proofs.Report.Accounts
import SpecifierLint.Proofs.Configuration.Nearest
