import HexadQuery.Bridge
import HexadQuery.Cli.Run
import HexadQuery.Main
import HexadQuery.Proofs.Names
import HexadQuery.Proofs.RegistryRuns
import HexadQuery.Proofs.Reading
import HexadQuery.Proofs.Groups
import HexadQuery.Proofs.ProofChains
import HexadQuery.Proofs.QueryGrammar
import HexadQuery.Proofs.Statements
import HexadQuery.Proofs.ProofObligations
import HexadQuery.Proofs.EntryGrammars
import HexadQuery.Proofs.SelectModes
import HexadQuery.Proofs.Pieces
import HexadQuery.Proofs.SelectItems
import HexadQuery.Proofs.ProofRendering
import HexadQuery.Proofs.QueryRoundTrip
import HexadQuery.Proofs.AssignmentSpans
import HexadQuery.Proofs.MutationRoundTrip
import HexadQuery.Proofs.JsonTexts
import HexadQuery.Proofs.WireTexts
import HexadQuery.Proofs.Respelling
import HexadQuery.Proofs.SpellingAndLayout
import HexadQuery.Proofs.StreamLines
import HexadQuery.Proofs.BridgeFraming
import HexadQuery.Proofs.JsonGrammar
import HexadQuery.Proofs.RequestEnvelopes
import HexadQuery.Proofs.ErrorPositions
import HexadQuery.Proofs.TreeShapes
import HexadQuery.Proofs.References
import HexadQuery.Proofs.RegistryDependence
import HexadQuery.Proofs.ItemSpellings
import HexadQuery.Proofs.SelectLists
import HexadQuery.Proofs.DetachedCalls
import HexadQuery.Proofs.OrderPairing
import HexadQuery.Proofs.AssignmentLists
import HexadQuery.Proofs.PayloadLists
import HexadQuery.Proofs.GroupCapture
import HexadQuery.Proofs.UnknownReferences
import HexadQuery.Proofs.ConfigTexts
import HexadQuery.Proofs.ConsoleLines
import HexadQuery.Proofs.SelectIndices
import HexadQuery.Proofs.TokenRuns
import HexadQuery.Proofs.SpanCuts
