import IteratedDilemma.Disk.Folders
import IteratedDilemma.Host.Settings
import IteratedDilemma.Main
import IteratedDilemma.Proofs.Arena.Agreement
import IteratedDilemma.Proofs.Arena.Calls
import IteratedDilemma.Proofs.Arena.Chronicle
import IteratedDilemma.Proofs.Arena.Commits
import IteratedDilemma.Proofs.Arena.Conservation
import IteratedDilemma.Proofs.Arena.Coverage
import IteratedDilemma.Proofs.Arena.Earnings
import IteratedDilemma.Proofs.Arena.Exports
import IteratedDilemma.Proofs.Arena.FailedSaves
import IteratedDilemma.Proofs.Arena.Failure
import IteratedDilemma.Proofs.Arena.Faithfulness
import IteratedDilemma.Proofs.Arena.Field
import IteratedDilemma.Proofs.Arena.FixedPass
import IteratedDilemma.Proofs.Arena.Footprint
import IteratedDilemma.Proofs.Arena.Gate
import IteratedDilemma.Proofs.Arena.Grand
import IteratedDilemma.Proofs.Arena.InTurn
import IteratedDilemma.Proofs.Arena.Interleaving
import IteratedDilemma.Proofs.Arena.Lasting
import IteratedDilemma.Proofs.Arena.Names
import IteratedDilemma.Proofs.Arena.Observed
import IteratedDilemma.Proofs.Arena.Outcomes
import IteratedDilemma.Proofs.Arena.Permanence
import IteratedDilemma.Proofs.Arena.Playing
import IteratedDilemma.Proofs.Arena.References
import IteratedDilemma.Proofs.Arena.Reopening
import IteratedDilemma.Proofs.Arena.Repetition
import IteratedDilemma.Proofs.Arena.Requests
import IteratedDilemma.Proofs.Arena.Soundness
import IteratedDilemma.Proofs.Arena.Standings
import IteratedDilemma.Proofs.Arena.Validation
import IteratedDilemma.Proofs.CommandLine.Arguments
import IteratedDilemma.Proofs.CommandLine.Exits
import IteratedDilemma.Proofs.CommandLine.Scripts
import IteratedDilemma.Proofs.CommandLine.Writes
import IteratedDilemma.Proofs.Disk.Files
import IteratedDilemma.Proofs.Disk.Saving
import IteratedDilemma.Proofs.Disk.Spelling
import IteratedDilemma.Proofs.Export.Documents
import IteratedDilemma.Proofs.Export.Tables
import IteratedDilemma.Proofs.Json.Floats
import IteratedDilemma.Proofs.Json.Held
import IteratedDilemma.Proofs.Json.Legible
import IteratedDilemma.Proofs.Json.Members
import IteratedDilemma.Proofs.Json.Numbers
import IteratedDilemma.Proofs.Json.RoundTrip
import IteratedDilemma.Proofs.Json.Texts
import IteratedDilemma.Proofs.Match.Betrayals
import IteratedDilemma.Proofs.Match.Mirror
import IteratedDilemma.Proofs.Match.Rounds
import IteratedDilemma.Proofs.Match.Simultaneous
import IteratedDilemma.Proofs.Match.Transcript
import IteratedDilemma.Proofs.Number.Numerals
import IteratedDilemma.Proofs.Number.Rounding
import IteratedDilemma.Proofs.Number.Shortest
import IteratedDilemma.Proofs.Store.Durable
import IteratedDilemma.Proofs.Store.File
import IteratedDilemma.Proofs.Store.Malformed
import IteratedDilemma.Proofs.Store.RoundTrip
import IteratedDilemma.Proofs.Strategy.Grudger
import IteratedDilemma.Proofs.Strategy.StandIns
import IteratedDilemma.Proofs.Strategy.TitForTat
import IteratedDilemma.Proofs.Time.RoundTrip
import IteratedDilemma.Proofs.Tournament.Entrants
import IteratedDilemma.Proofs.Tournament.Formats
import IteratedDilemma.Proofs.Tournament.Layouts
import IteratedDilemma.Proofs.Tournament.Points
import IteratedDilemma.Proofs.Tournament.Positions
import IteratedDilemma.Proofs.Tournament.Ranking
import IteratedDilemma.Proofs.Tree.Dialects
import IteratedDilemma.Proofs.Tree.Documents
import IteratedDilemma.Proofs.Tree.FirstMatch
import IteratedDilemma.Proofs.Tree.Grammar
import IteratedDilemma.Proofs.Tree.Horizon
import IteratedDilemma.Proofs.Tree.Malformed
import IteratedDilemma.Proofs.Tree.Reachable
import IteratedDilemma.Proofs.Tree.RoundTrip
import IteratedDilemma.Proofs.Tree.Simplification
import IteratedDilemma.Proofs.Work
import IteratedDilemma.Tree.Making
import IteratedDilemma.Tree.Vocabulary
