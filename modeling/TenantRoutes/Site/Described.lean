import TenantRoutes.Site.Basic
import TenantRoutes.Text.Described
/-! Descriptions of sites. A password is described without its hash, so two sites that differ in
hashes alone have the same description. -/
namespace TenantRoutes

open Text (quoted)
open Text.Described

def Password.describe (_ : Password) : String :=
  "Password(***)"

def Header.describe (header : Header) : String :=
  record "Header" [("name", quoted header.name), ("value", quoted header.value)]

def Certificate.describe : Certificate → String
  | acme => "Acme"
  | custom certificate key =>
    record "Custom" [("certificate", quoted certificate), ("key", quoted key)]

def Domain.describe (domain : Domain) : String :=
  record "SiteDomain" [("name", quoted domain.name),
    ("expose_branches", flag domain.exposesBranches), ("ssl", domain.certificate.describe)]

def Redirect.Target.describe : Redirect.Target → String
  | url location permanent => record "Url" [("to", quoted location), ("permanent", flag permanent)]
  | file name => record "File" [("file", quoted name)]

def Redirect.describe (redirect : Redirect) : String :=
  record "Redirect" [("id", quoted redirect.id), ("path", quoted redirect.path),
    ("kind", redirect.target.describe)]

def Branch.describe (branch : Branch) : String :=
  record "Branch" [("id", quoted branch.id), ("name", quoted branch.name),
    ("slug", quoted branch.slug), ("password", optional Password.describe branch.password),
    ("redirects", list (branch.redirects.map Redirect.describe)),
    ("headers", list (branch.headers.map Header.describe))]

def Site.describe (site : Site) : String :=
  record "Site" [("id", quoted site.id), ("name", quoted site.name),
    ("main_branch", quoted site.mainBranch), ("spa", flag site.singlePage),
    ("password", optional Password.describe site.password),
    ("domains", list (site.domains.map Domain.describe)),
    ("headers", list (site.headers.map Header.describe)),
    ("branches", list (site.branches.map Branch.describe))]

end TenantRoutes
