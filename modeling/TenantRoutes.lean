import TenantRoutes.Main
import TenantRoutes.Policy.Described
import TenantRoutes.Route.Described
import TenantRoutes.Json.Reader
import TenantRoutes.Watch.Session
import TenantRoutes.Proofs.Policy.Acceptance
import TenantRoutes.Proofs.Policy.Compilable
import TenantRoutes.Proofs.Policy.SharedHosts
import TenantRoutes.Proofs.Policy.UsableHosts
import TenantRoutes.Proofs.Compiler.ContentRoots
import TenantRoutes.Proofs.Compiler.FirstFault
import TenantRoutes.Proofs.Compiler.PasswordGate
import TenantRoutes.Proofs.Compiler.RouteIds
import TenantRoutes.Proofs.Compiler.BranchShape
import TenantRoutes.Proofs.Compiler.ForcedFailures
import TenantRoutes.Proofs.Compiler.Isolation
import TenantRoutes.Proofs.Files.ReadBack
import TenantRoutes.Proofs.Watch.Publication
import TenantRoutes.Proofs.Route.ReadBack
import TenantRoutes.Proofs.Policy.HashSecrecy
import TenantRoutes.Proofs.Command.SiteSelection
import TenantRoutes.Proofs.Compiler.HeaderMerge
import TenantRoutes.Proofs.Command.AllOrNothing
import TenantRoutes.Proofs.Watch.Interleaving
import TenantRoutes.Proofs.Watch.Revisions
import TenantRoutes.Proofs.Compiler.ResolvedSites
import TenantRoutes.Proofs.Compiler.Reachability
import TenantRoutes.Proofs.Policy.MainBranch
import TenantRoutes.Proofs.Compiler.Rewrites
import TenantRoutes.Proofs.Compiler.CompilationLog
import TenantRoutes.Proofs.Policy.Duplicates
import TenantRoutes.Proofs.Policy.DeclarationOrder
import TenantRoutes.Proofs.Policy.ReadBack
import TenantRoutes.Proofs.Compiler.Indifference
