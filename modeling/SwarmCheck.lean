import SwarmCheck.Analysis.FrontEnd
import SwarmCheck.Log.Output
import SwarmCheck.Settings.Load
import SwarmCheck.Proofs.Trees
import SwarmCheck.Proofs.Resolution
import SwarmCheck.Proofs.Journal
import SwarmCheck.Proofs.Inference
import SwarmCheck.Proofs.Frames
import SwarmCheck.Proofs.Gating
import SwarmCheck.Proofs.Safety
import SwarmCheck.Proofs.Rules
import SwarmCheck.Proofs.TypeRules
import SwarmCheck.Proofs.Building
import SwarmCheck.Proofs.Acceptance
import SwarmCheck.Proofs.History
import SwarmCheck.Proofs.Occurrences
import SwarmCheck.Proofs.Spots
import SwarmCheck.Proofs.FirstDeclarations
import SwarmCheck.Proofs.Agreement
import SwarmCheck.Proofs.ItemOrder
import SwarmCheck.Proofs.Checker
import SwarmCheck.Proofs.EntryPoints
import SwarmCheck.Proofs.Registries
import SwarmCheck.Proofs.Independence
import SwarmCheck.Proofs.Reading
import SwarmCheck.Proofs.Rendering
import SwarmCheck.Proofs.TwinAnalysis
import SwarmCheck.Proofs.TwinReading
import SwarmCheck.Proofs.Layers
import SwarmCheck.Proofs.Parentheses
import SwarmCheck.Proofs.FaultSources
import SwarmCheck.Proofs.Parts
import SwarmCheck.Proofs.Presentation
import SwarmCheck.Proofs.RuleResults
import SwarmCheck.Proofs.ReadingInvariants
import SwarmCheck.Proofs.Shape
import SwarmCheck.Proofs.Placeholders
import SwarmCheck.Proofs.Identity
import SwarmCheck.Proofs.Beginnings
import SwarmCheck.Proofs.Preorder
import SwarmCheck.Proofs.MissingReferences
import SwarmCheck.Proofs.Violations
import SwarmCheck.Proofs.Loosening
import SwarmCheck.Proofs.Permissiveness
import SwarmCheck.Proofs.PartialTables
import SwarmCheck.Proofs.Redefinition
import SwarmCheck.Proofs.Sums
import SwarmCheck.Proofs.Qualification
import SwarmCheck.Proofs.Loading
