import MapAudit.Build.Session
import MapAudit.Main
import MapAudit.Run.Interleaving
import MapAudit.SourceMap.Writer
import MapAudit.Proofs.Mentions
import MapAudit.Proofs.Text.Search
import MapAudit.Proofs.Text.Matches
import MapAudit.Proofs.SourceMap.Lookup
import MapAudit.Proofs.SourceMap.Deciding
import MapAudit.Proofs.SourceMap.Entries
import MapAudit.Proofs.Text.LineIndex
import MapAudit.Proofs.Text.Coordinates
import MapAudit.Proofs.Text.Order
import MapAudit.Proofs.Text.Concatenation
import MapAudit.Proofs.Text.Lines
import MapAudit.Proofs.Text.Words
import MapAudit.Proofs.Fixture.Files
import MapAudit.Proofs.Verification.Places
import MapAudit.Proofs.Verification.Recorder
import MapAudit.Proofs.Verification.Probes
import MapAudit.Proofs.Verification.Reports
import MapAudit.Proofs.Verification.Faults
import MapAudit.Proofs.Fixture.Validity
import MapAudit.Proofs.Fixture.Origins
import MapAudit.Proofs.Fixture.Occurrences
import MapAudit.Proofs.Fixture.Catalog
import MapAudit.Proofs.World.Activity
import MapAudit.Proofs.SourceMap.Shift
import MapAudit.Proofs.Verification.Prelude
import MapAudit.Proofs.Json.Parser
import MapAudit.Proofs.Json.Token
import MapAudit.Proofs.Json.Written
import MapAudit.Proofs.Json.Pretty
import MapAudit.Proofs.SourceMap.Document
import MapAudit.Proofs.SourceMap.Vlq
import MapAudit.Proofs.SourceMap.Segments
import MapAudit.Proofs.SourceMap.Writer
import MapAudit.Proofs.Verification.Bundle
import MapAudit.Proofs.Verification.Exact
import MapAudit.Proofs.Verification.Distinct
import MapAudit.Proofs.Verification.Lines
import MapAudit.Proofs.Files.Paths
import MapAudit.Proofs.Files.Nodes
import MapAudit.Proofs.Files.Following
import MapAudit.Proofs.Files.Parts
import MapAudit.Proofs.Build.Places
import MapAudit.Proofs.Build.Roots
import MapAudit.Proofs.Build.Frames
import MapAudit.Proofs.Build.Making
import MapAudit.Proofs.Build.Ancestors
import MapAudit.Proofs.Build.Creation
import MapAudit.Proofs.Build.Lifecycle
import MapAudit.Proofs.Build.Below
import MapAudit.Proofs.Build.Writing
import MapAudit.Proofs.Build.Artifacts
import MapAudit.Proofs.Build.Tool
import MapAudit.Proofs.Run.Faults
import MapAudit.Proofs.Run.Turns
import MapAudit.Proofs.Run.Reports
import MapAudit.Proofs.Run.Requests
import MapAudit.Proofs.Run.Preparation
import MapAudit.Proofs.Run.Order
import MapAudit.Proofs.Run.Summary
import MapAudit.Proofs.Run.Sequential
import MapAudit.Proofs.Run.Course
import MapAudit.Proofs.Run.Standing
import MapAudit.Proofs.Run.Dropping
import MapAudit.Proofs.Run.Cleanup
import MapAudit.Proofs.Run.Judging
import MapAudit.Proofs.Run.Blocks
import MapAudit.Proofs.CommandLine.Messages
import MapAudit.Proofs.CommandLine.Outcome
import MapAudit.Proofs.Config.Selection
import MapAudit.Proofs.Config.Arguments
