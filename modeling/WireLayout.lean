import WireLayout.Main
import WireLayout.Sample.Transactions
import WireLayout.Proofs.Flattening
import WireLayout.Proofs.Linking
import WireLayout.Proofs.Variants
import WireLayout.Proofs.SizeLinks
import WireLayout.Proofs.Building
import WireLayout.Proofs.Obstacles
import WireLayout.Proofs.Splicing
import WireLayout.Proofs.Selection
import WireLayout.Proofs.Constructibility
import WireLayout.Proofs.Closure
import WireLayout.Proofs.ReverseReferences
import WireLayout.Proofs.ReadOrder
import WireLayout.Proofs.SizeFields
import WireLayout.Proofs.Dependence
import WireLayout.Proofs.Rearrangement
import WireLayout.Proofs.Provenance
import WireLayout.Proofs.Neutrality
import WireLayout.Proofs.Detachment
import WireLayout.Proofs.Exclusion
import WireLayout.Proofs.Entries
import WireLayout.Proofs.Inheritance
import WireLayout.Proofs.Descent
import WireLayout.Proofs.LinkOrder
import WireLayout.Proofs.Bitmasks
import WireLayout.Proofs.DocumentForms
import WireLayout.Proofs.SizePairs
import WireLayout.Proofs.TaggedValues
import WireLayout.Proofs.RequiredImports
import WireLayout.Proofs.Arguments
import WireLayout.Proofs.Collections
import WireLayout.Proofs.IntegerWidths
import WireLayout.Proofs.VisitStack
import WireLayout.Proofs.NameForms
