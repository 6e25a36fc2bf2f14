import TenantRoutes.Policy.Basic
import TenantRoutes.Site.Described
/-! Descriptions of policies. -/
namespace TenantRoutes

open Text (quoted)
open Text.Described

def Credentials.describe (credentials : Credentials) : String :=
  record "AuthConfig" [("username", quoted credentials.username),
    ("realm", optional quoted credentials.realm)]

def Platform.describe (platform : Platform) : String :=
  record "PlatformConfig" [("sites_domain", quoted platform.sitesDomain),
    ("sites_dir", quoted platform.sitesDir), ("id_prefix", quoted platform.idStart),
    ("not_found_page", quoted platform.notFoundPage), ("auth", platform.credentials.describe)]

def LogSettings.describe (settings : LogSettings) : String :=
  record "LoggingConfig" [("level", quoted settings.level),
    ("with_target", flag settings.withTarget)]

def Policy.describe (policy : Policy) : String :=
  record "PolicyConfig" [("platform", policy.platform.describe),
    ("logging", policy.logging.describe), ("sites", list (policy.sites.map Site.describe))]

end TenantRoutes
