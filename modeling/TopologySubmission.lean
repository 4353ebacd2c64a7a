import TopologySubmission.CommandLine.Run
import TopologySubmission.Main
import TopologySubmission.Rehearsal.Script
import TopologySubmission.Rehearsal.Session
import TopologySubmission.Proofs.Submission.Visit
import TopologySubmission.Proofs.Submission.Row
import TopologySubmission.Proofs.Submission.Course
import TopologySubmission.Proofs.Submission.Passage
import TopologySubmission.Proofs.Submission.Attempt
import TopologySubmission.Proofs.Submission.Order
import TopologySubmission.Proofs.Submission.Muffled
import TopologySubmission.Proofs.Submission.Rollback
import TopologySubmission.Proofs.Submission.History
import TopologySubmission.Proofs.Submission.Release
import TopologySubmission.Proofs.Settings.Trouble
import TopologySubmission.Proofs.Settings.Depth
import TopologySubmission.Proofs.Submission.Uncommitted
import TopologySubmission.Proofs.Submission.Marked
import TopologySubmission.Proofs.Packing.Declared
import TopologySubmission.Proofs.Act.Leads
import TopologySubmission.Proofs.Settings.Layered
import TopologySubmission.Proofs.Site.Lookup
import TopologySubmission.Proofs.Act.Preserves
import TopologySubmission.Proofs.Site.Directory
import TopologySubmission.Proofs.Plugin.Mark
import TopologySubmission.Proofs.Submission.Again
import TopologySubmission.Proofs.Json.Integer
import TopologySubmission.Proofs.Json.Part
import TopologySubmission.Proofs.Json.Document
import TopologySubmission.Proofs.Plugin.NodeName
import TopologySubmission.Proofs.Plugin.Nodes
import TopologySubmission.Proofs.Plugin.NodeCall
import TopologySubmission.Proofs.Settings.Resolved
import TopologySubmission.Proofs.Plugin.ReadBack
import TopologySubmission.Proofs.Topology.Accepted
import TopologySubmission.Proofs.Plugin.Retraction
import TopologySubmission.Proofs.Settings.Order
import TopologySubmission.Proofs.Plugin.Delivery
import TopologySubmission.Proofs.Plugin.Selection
import TopologySubmission.Proofs.Act.Reads
import TopologySubmission.Proofs.Topology.Loading
import TopologySubmission.Proofs.Settings.Items
import TopologySubmission.Proofs.Settings.Loading
import TopologySubmission.Proofs.Packing.InTurn
import TopologySubmission.Proofs.Plugin.Handed
import TopologySubmission.Proofs.Topology.Roundtrip
import TopologySubmission.Proofs.Submission.Identity
import TopologySubmission.Proofs.Site.Sight
import TopologySubmission.Proofs.Plugin.Refused
import TopologySubmission.Proofs.Plugin.EntryPoints
import TopologySubmission.Proofs.Plugin.RemoteLine
import TopologySubmission.Proofs.Plugin.Locator
import TopologySubmission.Proofs.Number.Range
import TopologySubmission.Proofs.Value.Configured
import TopologySubmission.Proofs.Settings.Numbers
import TopologySubmission.Proofs.Plugin.Upload
import TopologySubmission.Proofs.Value.Plain
import TopologySubmission.Proofs.Settings.Leaves
import TopologySubmission.Proofs.Settings.Override
