import Multiples.Lifecycle.Startup
import Multiples.Log.Line
import Multiples.Program.Daemon
import Multiples.Main
import Multiples.Proofs.Responses
import Multiples.Proofs.Recovery
import Multiples.Proofs.Grammar
import Multiples.Proofs.Routability
import Multiples.Proofs.Listening
import Multiples.Proofs.Termination
import Multiples.Proofs.Reading
import Multiples.Proofs.Cutoff
import Multiples.Proofs.Reachability
import Multiples.Proofs.Accounting
import Multiples.Proofs.Addresses
import Multiples.Proofs.Calls
import Multiples.Proofs.Sessions
import Multiples.Proofs.Entities
import Multiples.Proofs.Replacement
import Multiples.Proofs.Kinds
import Multiples.Proofs.Occurrences
import Multiples.Proofs.Quotation
import Multiples.Proofs.Faults
import Multiples.Proofs.Lines
import Multiples.Proofs.Targets
import Multiples.Proofs.Routing
import Multiples.Proofs.Identifiers
import Multiples.Proofs.Audience
import Multiples.Proofs.Complaints
import Multiples.Proofs.Overlays
import Multiples.Proofs.Outcomes
import Multiples.Proofs.Endings
