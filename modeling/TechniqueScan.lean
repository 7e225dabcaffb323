import TechniqueScan.Files.Tree
import TechniqueScan.Main
import TechniqueScan.Proofs.Binary.Checked
import TechniqueScan.Proofs.Binary.Stretches
import TechniqueScan.Proofs.Catalogue.Acceptance
import TechniqueScan.Proofs.Catalogue.Keys
import TechniqueScan.Proofs.Correlation.Fusion
import TechniqueScan.Proofs.Document.Persistence
import TechniqueScan.Proofs.NumberText
import TechniqueScan.Proofs.Provider.Texts
import TechniqueScan.Proofs.Report.Accounts
import TechniqueScan.Proofs.Report.Console
import TechniqueScan.Proofs.Report.Risk
import TechniqueScan.Proofs.Run.Enumeration
import TechniqueScan.Proofs.Run.Growth
import TechniqueScan.Proofs.Run.Registered
import TechniqueScan.Proofs.Scan.Monotonicity
import TechniqueScan.Proofs.Scan.Ranges
import TechniqueScan.Proofs.Scoring.Deduplication
import TechniqueScan.Proofs.Scoring.Idempotence
import TechniqueScan.Proofs.Snapshot
import TechniqueScan.Proofs.Workspace
