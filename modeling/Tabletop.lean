import Tabletop.Grammar.Run
import Tabletop.Outline.Help
import Tabletop.Outline.Equality
import Tabletop.Wire.Outline
import Tabletop.Wire.Game
import Tabletop.Trace.Observe
import Tabletop.Game.Line
import Tabletop.Game.Ranking
import Tabletop.Random.Choice
import Tabletop.Siege
import Tabletop.Scripted
import Tabletop.Proofs.Grammar.Splitting
import Tabletop.Proofs.Grammar.Bytes
import Tabletop.Proofs.Grammar.Cuts
import Tabletop.Proofs.Grammar.Cases
import Tabletop.Proofs.Grammar.Survivors
import Tabletop.Proofs.Grammar.Alternation
import Tabletop.Proofs.Grammar.Rounds
import Tabletop.Proofs.Grammar.RoundLimit
import Tabletop.Proofs.Grammar.Sequences
import Tabletop.Proofs.Grammar.Consuming
import Tabletop.Proofs.Grammar.Copies
import Tabletop.Proofs.Grammar.Opening
import Tabletop.Proofs.Grammar.Integers
import Tabletop.Proofs.Grammar.Nodes
import Tabletop.Proofs.Grammar.Informing
import Tabletop.Proofs.Outline.Verdict
import Tabletop.Proofs.Outline.Determines
import Tabletop.Proofs.Outline.Silence
import Tabletop.Proofs.Outline.Descriptions
import Tabletop.Proofs.Outline.Markers
import Tabletop.Proofs.Trace.Transparency
import Tabletop.Proofs.Trace.CallTree
import Tabletop.Proofs.Trace.Origins
import Tabletop.Proofs.Trace.DepthLimit
import Tabletop.Proofs.Trace.Window
import Tabletop.Proofs.Trace.Lines
import Tabletop.Proofs.Value.Rendering
import Tabletop.Proofs.Game.Calls
import Tabletop.Proofs.Json.RoundTrip
import Tabletop.Proofs.Wire.Codec
import Tabletop.Proofs.Wire.Outline
import Tabletop.Proofs.Wire.Messages
import Tabletop.Proofs.Wire.Records
import Tabletop.Proofs.Game.Boundary
import Tabletop.Proofs.Siege.Moves
import Tabletop.Proofs.Game.Refused
import Tabletop.Proofs.Game.Places
import Tabletop.Proofs.Siege.Progress
import Tabletop.Proofs.Siege.Permanence
