import GoldenBench.Main
import GoldenBench.Wasm.Loader
import GoldenBench.Proofs.Diff.Grid
import GoldenBench.Proofs.Diff.Search
import GoldenBench.Proofs.Diff.Backtrack
import GoldenBench.Proofs.Diff.Shape
import GoldenBench.Proofs.Run
import GoldenBench.Proofs.Interop.Settle
import GoldenBench.Proofs.Interop.Launch
import GoldenBench.Proofs.Discovery
import GoldenBench.Proofs.Interop.Dispatch
import GoldenBench.Proofs.Canonical
import GoldenBench.Proofs.Files.Write
import GoldenBench.Proofs.Snapshot
import GoldenBench.Proofs.Interop.Passing
import GoldenBench.Proofs.Probes
import GoldenBench.Proofs.Session
import GoldenBench.Proofs.Files.Lookup
import GoldenBench.Proofs.Files.Path
import GoldenBench.Proofs.Baseline
import GoldenBench.Proofs.Isolation.Fixtures
import GoldenBench.Proofs.Isolation.Subjects
import GoldenBench.Proofs.Additions
import GoldenBench.Proofs.Rerun
import GoldenBench.Proofs.Interop.Filtered
import GoldenBench.Proofs.Attribution
import GoldenBench.Proofs.Colour.Suites
import GoldenBench.Proofs.Restriction
import GoldenBench.Proofs.Colour.Recovery
import GoldenBench.Proofs.Canonical.Surface
import GoldenBench.Proofs.LineEndings
import GoldenBench.Proofs.Diagnostic.RoundTrip
import GoldenBench.Proofs.Diagnostic.Layout
import GoldenBench.Proofs.Remarks
import GoldenBench.Proofs.Directive
import GoldenBench.Proofs.Interop.Verdict
import GoldenBench.Proofs.Interop.Registry
import GoldenBench.Proofs.Report
import GoldenBench.Proofs.Subjects
import GoldenBench.Proofs.Emission
import GoldenBench.Proofs.Identity
import GoldenBench.Proofs.NameOrder
import GoldenBench.Proofs.Interop.Unused
import GoldenBench.Proofs.Diff.Stages
import GoldenBench.Proofs.Diff.Access
