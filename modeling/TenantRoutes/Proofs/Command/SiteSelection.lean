import TenantRoutes.Proofs.Command.Reports
import TenantRoutes.Proofs.Compiler.Isolation
import TenantRoutes.Proofs.Policy.SharedHosts
import TenantRoutes.Proofs.Route.ReadBack

/-! Compiling one site of a policy. The sites are selected before they are compiled, and the routes
of a site are told from others by their group only after. As ids of sites are distinct, both come to
the same. -/
namespace TenantRoutes

namespace Policy

variable {policy : Policy} {site : Site}

end Policy

namespace Platform

variable {platform : Platform}

end Platform

namespace Policy

variable {policy : Policy} {filter : Log.Filter} {files : FileTree} {config : String}
  {layout : Json.Layout} {output : Option String}

namespace WellFormed

variable (hWell : policy.WellFormed) {site : Site} (hSite : site ∈ policy.sites)
include hWell hSite

end WellFormed

end Policy

end TenantRoutes
