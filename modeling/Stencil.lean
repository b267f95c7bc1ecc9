import Stencil.Config.OfDocument
import Stencil.Config.OfYaml
import Stencil.Config.Text
import Stencil.Derive.Header
import Stencil.Derive.Object
import Stencil.Engine.Host
import Stencil.Value.Integer
import Stencil.Proofs.QuietHosts
import Stencil.Proofs.Tables
import Stencil.Proofs.CompiledMode
import Stencil.Proofs.AccessorCache
import Stencil.Proofs.Grammar
import Stencil.Proofs.OutputMode
import Stencil.Proofs.CivilHosts
import Stencil.Proofs.AccessPolicy
import Stencil.Proofs.Failure
import Stencil.Proofs.Concatenation
import Stencil.Proofs.ScanErrors
import Stencil.Proofs.Passage
import Stencil.Proofs.Escaping
import Stencil.Proofs.ConstantValues
import Stencil.Proofs.FieldAttributes
import Stencil.Proofs.Interleaving
import Stencil.Proofs.Lookups
import Stencil.Proofs.TableSizes
import Stencil.Proofs.DerivedTable
import Stencil.Proofs.TypeRules
import Stencil.Proofs.OwnTypes
import Stencil.Proofs.DocumentPaths
import Stencil.Proofs.Members
import Stencil.Proofs.AttributeGrammar
import Stencil.Proofs.Declarations
import Stencil.Proofs.Columns
import Stencil.Proofs.DisplayWidth
import Stencil.Proofs.FormatGrammar
import Stencil.Proofs.PathGrammar
import Stencil.Proofs.PathParts
import Stencil.Proofs.FixedPlaces
import Stencil.Proofs.Layout
import Stencil.Proofs.NearestNumbers
import Stencil.Proofs.WholeNumbers
import Stencil.Proofs.Dictionary
import Stencil.Proofs.UnreadValues
import Stencil.Proofs.RoundingIntervals
import Stencil.Proofs.ShortestDigits
import Stencil.Proofs.FloatTexts
import Stencil.Proofs.NumberTexts
import Stencil.Proofs.Tiling
