import DnsSteering.Main
import DnsSteering.Resolution
import DnsSteering.Proofs.Ledger.Calls
import DnsSteering.Proofs.Order
import DnsSteering.Proofs.Resolution
import DnsSteering.Proofs.Synthesis.Emission
import DnsSteering.Proofs.Synthesis.Names
import DnsSteering.Proofs.Synthesis.Publication
import DnsSteering.Proofs.Synthesis.Rows
import DnsSteering.Proofs.Synthesis.Plans
import DnsSteering.Proofs.Synthesis.Delivery
import DnsSteering.Proofs.Synthesis.Arrival
import DnsSteering.Proofs.Synthesis.Rounds
import DnsSteering.Proofs.Synthesis.Standing
import DnsSteering.Proofs.Synthesis.Frame
import DnsSteering.Proofs.Policy
import DnsSteering.Proofs.Weight
import DnsSteering.Proofs.Synthesis.Refusals
import DnsSteering.Proofs.Json.Documents
import DnsSteering.Proofs.Records.Exchange
import DnsSteering.Proofs.Synthesis.Bystanders
import DnsSteering.Proofs.Synthesis.Reprint
import DnsSteering.Proofs.CommandLine.Arguments
import DnsSteering.Proofs.CommandLine.Repetition
import DnsSteering.Proofs.Ledger.Openings
import DnsSteering.Proofs.Ledger.Bystanders
import DnsSteering.Proofs.Ledger.Reuse
import DnsSteering.Proofs.Synthesis.Reclaim
import DnsSteering.Proofs.Config.Breaks
import DnsSteering.Proofs.Ledger.Rearrangement
import DnsSteering.Proofs.Synthesis.Rearrangement
import DnsSteering.Proofs.Synthesis.Clusters
import DnsSteering.Proofs.Synthesis.Codes
import DnsSteering.Proofs.Synthesis.Rendering
import DnsSteering.Proofs.Synthesis.Spelling
import DnsSteering.Proofs.CommandLine.Acceptance
import DnsSteering.Proofs.Records.Forms
import DnsSteering.Proofs.Config.Encodings
import DnsSteering.Proofs.Synthesis.Foreign
import DnsSteering.Proofs.CommandLine.Rendering
import DnsSteering.Proofs.CommandLine.Silence
import DnsSteering.Proofs.CommandLine.Weights
import DnsSteering.Proofs.Resolution.Paths
import DnsSteering.Proofs.Weight.Precedence
import DnsSteering.Proofs.Policy.Drafts
import DnsSteering.Proofs.Dns.Grammar
import DnsSteering.Proofs.Synthesis.Labels
import DnsSteering.Proofs.Zone.Comments
import DnsSteering.Proofs.Zone.Verbatim
import DnsSteering.Proofs.Zone.Breaks
import DnsSteering.Proofs.Zone.Chains
import DnsSteering.Proofs.Hash.Lossless
