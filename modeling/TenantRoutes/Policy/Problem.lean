import TenantRoutes.Text.Described
/-! Problems of a policy, each with the message that reports it. -/
namespace TenantRoutes

open Text (quoted)

/-- The fields whose emptiness or form is reported by name. -/
inductive Problem.Field where
  | id
  | name
  | branchId
deriving DecidableEq

def Problem.Field.text : Field → String
  | id => "id"
  | name => "name"
  | branchId => "branch id"

/-- What is wrong with a policy. All but the first three name the site by its id. -/
inductive Problem where
  | emptySitesDomain
  | invalidSitesDomain (name : String)
  | duplicateSite (id : String)
  | emptyField (site : String) (field : Problem.Field)
  | invalidId (site : String) (field : Problem.Field) (id : String)
  | invalidSiteName (site name : String)
  | duplicateBranch (site branch : String)
  | duplicateSlug (site slug : String)
  | unknownMainBranch (site branch : String)
  | invalidSlug (site slug : String)
  | invalidDomain (site domain : String)
  | emptyHeaderName (site : String)
  | invalidRedirectPath (site branch path : String)
deriving DecidableEq

namespace Problem

/-- The name of the kind of a problem. -/
def kind : Problem → String
  | emptySitesDomain => "EmptySitesDomain"
  | invalidSitesDomain _ => "InvalidSitesDomain"
  | duplicateSite _ => "DuplicateSite"
  | emptyField _ _ => "EmptyField"
  | invalidId _ _ _ => "InvalidId"
  | invalidSiteName _ _ => "InvalidSiteName"
  | duplicateBranch _ _ => "DuplicateBranch"
  | duplicateSlug _ _ => "DuplicateSlug"
  | unknownMainBranch _ _ => "UnknownMainBranch"
  | invalidSlug _ _ => "InvalidSlug"
  | invalidDomain _ _ => "InvalidDomain"
  | emptyHeaderName _ => "EmptyHeaderName"
  | invalidRedirectPath _ _ _ => "InvalidRedirectPath"

/-- How the message of a problem within a site begins. -/
def ofSite (site : String) : String :=
  "site " ++ quoted site

def message : Problem → String
  | emptySitesDomain => "platform.sites_domain must not be empty"
  | invalidSitesDomain name =>
    "platform.sites_domain " ++ quoted name ++ " is not a valid hostname"
  | duplicateSite id => "duplicate site id " ++ quoted id
  | emptyField site field => ofSite site ++ ": " ++ field.text ++ " must not be empty"
  | invalidId site field id =>
    ofSite site ++ ": " ++ field.text ++ " " ++ quoted id ++ " cannot be used as a directory name"
  | invalidSiteName site name =>
    ofSite site ++ ": name " ++ quoted name ++ " is not a valid DNS label"
  | duplicateBranch site branch => ofSite site ++ ": duplicate branch id " ++ quoted branch
  | duplicateSlug site slug => ofSite site ++ ": duplicate branch slug " ++ quoted slug
  | unknownMainBranch site branch =>
    ofSite site ++ ": main branch " ++ quoted branch ++ " does not exist"
  | invalidSlug site slug => ofSite site ++ ": slug " ++ quoted slug ++ " is not a valid DNS label"
  | invalidDomain site domain => ofSite site ++ ": invalid domain name " ++ quoted domain
  | emptyHeaderName site => ofSite site ++ ": header name must not be empty"
  | invalidRedirectPath site branch path =>
    ofSite site ++ " branch " ++ quoted branch ++ ": redirect path " ++ quoted path
      ++ " must start with '/'"

open Text.Described in
def describe (problem : Problem) : String :=
  match problem with
  | emptySitesDomain => problem.kind
  | invalidSitesDomain text | duplicateSite text => case problem.kind (quoted text)
  | emptyField site field =>
    record problem.kind [("site", quoted site), ("field", quoted field.text)]
  | invalidId site field id =>
    record problem.kind [("site", quoted site), ("field", quoted field.text), ("id", quoted id)]
  | invalidSiteName site name => record problem.kind [("site", quoted site), ("name", quoted name)]
  | duplicateBranch site branch | unknownMainBranch site branch =>
    record problem.kind [("site", quoted site), ("branch", quoted branch)]
  | duplicateSlug site slug | invalidSlug site slug =>
    record problem.kind [("site", quoted site), ("slug", quoted slug)]
  | invalidDomain site domain =>
    record problem.kind [("site", quoted site), ("domain", quoted domain)]
  | emptyHeaderName site => record problem.kind [("site", quoted site)]
  | invalidRedirectPath site branch path =>
    record problem.kind [("site", quoted site), ("branch", quoted branch), ("path", quoted path)]

end Problem

end TenantRoutes
