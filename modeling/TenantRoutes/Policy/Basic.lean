import TenantRoutes.Site.Basic
/-! Policies. A policy names the tenants together with the settings of the platform that serves
them and of the program's own log. Every setting has a default, so the empty policy is one. -/
namespace TenantRoutes

/-- Who may pass a password-protected branch. -/
structure Credentials where
  username : String := "user"
  /-- The realm named in the challenge. -/
  realm : Option String := none
deriving DecidableEq

/-- The settings that all sites share. -/
structure Platform where
  /-- The domain under which every site has a name of its own. -/
  sitesDomain : String := "sites.localhost"
  /-- The directory that holds the content of branch `b` of site `s` as `s/b`. -/
  sitesDir : String := "/sites"
  /-- What the identifiers of routes begin with. -/
  idStart : String := "branch-"
  /-- The page for paths without a file, below the content of the branch. -/
  notFoundPage : String := "/404.html"
  credentials : Credentials := {}
deriving DecidableEq

structure LogSettings where
  /-- The filter directives that hold where the environment gives none. -/
  level : String := "site_routes=info"
  /-- Whether a log line shows the target of its event. -/
  withTarget : Bool := false
deriving DecidableEq

structure Policy where
  platform : Platform := {}
  logging : LogSettings := {}
  sites : List Site := []
deriving DecidableEq

end TenantRoutes
