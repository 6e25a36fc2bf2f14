/-! Tenants. A site owns branches, which are variants of its content, and the domains it is served
under. These are plain data; what is asked of well-formed sites is stated with policies. -/
namespace TenantRoutes

/-- The bcrypt hash of a password. Descriptions never show it. -/
structure Password where
  hash : String
deriving DecidableEq

/-- One response header to set. -/
structure Header where
  name : String
  value : String
deriving DecidableEq

/-- How the certificate of a domain is provided: issued and renewed automatically, or supplied as
paths of a certificate and its key. -/
inductive Certificate where
  | acme
  | custom (certificate key : String)
deriving DecidableEq

/-- A host name of a site. -/
structure Domain where
  name : String
  /-- Whether `<slug>.<name>` is served for every branch. -/
  exposesBranches : Bool := false
  certificate : Certificate := .acme
deriving DecidableEq

/-- What a redirect answers with: another location, or a file of the branch. -/
inductive Redirect.Target where
  | url (location : String) (permanent : Bool)
  | file (name : String)
deriving DecidableEq

/-- A redirect rule for one request path. -/
structure Redirect where
  id : String := ""
  path : String
  target : Redirect.Target
deriving DecidableEq

/-- A variant of a site's content. -/
structure Branch where
  id : String
  name : String := ""
  /-- The DNS label that stands before a domain to address the branch. -/
  slug : String
  /-- Takes the place of the site's password. -/
  password : Option Password := none
  redirects : List Redirect := []
  /-- Headers that win over those of the site. -/
  headers : List Header := []
deriving DecidableEq

/-- A tenant. -/
structure Site where
  id : String
  name : String
  /-- The id of the branch that is served under the bare domains. -/
  mainBranch : String
  /-- Whether paths without a file are answered with `/index.html`. -/
  singlePage : Bool := false
  /-- The password of every branch without its own. -/
  password : Option Password := none
  domains : List Domain := []
  headers : List Header := []
  branches : List Branch := []
deriving DecidableEq

namespace Site

def isMainBranch (site : Site) (branch : Branch) : Bool :=
  branch.id == site.mainBranch

/-- The branch's password if it has one, otherwise the site's. -/
def effectivePassword (site : Site) (branch : Branch) : Option Password :=
  branch.password <|> site.password

/-- The first branch with an id. -/
def branch? (site : Site) (id : String) : Option Branch :=
  site.branches.find? (·.id == id)

end Site

end TenantRoutes
