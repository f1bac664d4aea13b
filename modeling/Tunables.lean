import Tunables.Main
import Tunables.Proofs.SingleKey
import Tunables.Proofs.Spelling
import Tunables.Proofs.Walk
import Tunables.Proofs.Grammar
import Tunables.Proofs.Applying
import Tunables.Proofs.Batch
import Tunables.Proofs.Tree
import Tunables.Proofs.Dump
import Tunables.Proofs.Restore
import Tunables.Proofs.Effects
import Tunables.Proofs.Completion
import Tunables.Proofs.Listed
import Tunables.Proofs.ConfigLines
import Tunables.Proofs.Layers
import Tunables.Proofs.Loading
import Tunables.Proofs.Additions
import Tunables.Proofs.Sessions
import Tunables.Proofs.Deeds
import Tunables.Proofs.Unseen
import Tunables.Proofs.Journal
import Tunables.Proofs.Interchange
import Tunables.Proofs.Modes
import Tunables.Proofs.Statuses
import Tunables.Proofs.ExitCodes
import Tunables.Proofs.KeyByKey
import Tunables.Proofs.Overwriting
import Tunables.Proofs.Reordering
import Tunables.Proofs.Repeating
import Tunables.Proofs.Joining
import Tunables.Proofs.Merging
import Tunables.Proofs.Grouping
import Tunables.Proofs.Appending
import Tunables.Proofs.Descent
import Tunables.Proofs.Stages
import Tunables.Proofs.Rereading
import Tunables.Proofs.Conversions
import Tunables.Proofs.Containment
import Tunables.Proofs.PreloadEntries
import Tunables.Proofs.Words
import Tunables.Proofs.ConfigGrammar
import Tunables.Proofs.Displays
import Tunables.Proofs.LineEnds
import Tunables.Proofs.Tally
import Tunables.Proofs.JsonReading
import Tunables.Proofs.Records
import Tunables.Proofs.Strays
import Tunables.Proofs.Printed
