import FetchPlan.Json.Quoted
import FetchPlan.Main
import FetchPlan.Proofs.ChecksumRecords
import FetchPlan.Proofs.CrateDestinations
import FetchPlan.Proofs.FlagMerging
import FetchPlan.Proofs.ModeComparison
import FetchPlan.Proofs.ReportDocument
import FetchPlan.Proofs.SanitizedMeaning
import FetchPlan.Proofs.ComposedJoins
import FetchPlan.Proofs.AcceptedLines
import FetchPlan.Proofs.CredentialFreeRemotes
import FetchPlan.Proofs.GrownTrees
import FetchPlan.Proofs.WrittenSettings
import FetchPlan.Proofs.DeclaredUrls
import FetchPlan.Proofs.LockedSources
import FetchPlan.Proofs.WorkspaceIdentity
import FetchPlan.Proofs.SourceSpelling
import FetchPlan.Proofs.ManifestVersions
import FetchPlan.Proofs.RepositoryParts
import FetchPlan.Proofs.UsualLists
import FetchPlan.Proofs.PackageUrlSettings
import FetchPlan.Proofs.RootedCalls
import FetchPlan.Proofs.SortedProperties
import FetchPlan.Proofs.JoinedLines
import FetchPlan.Proofs.NearestRepository
