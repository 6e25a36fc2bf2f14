import TenantRoutes.Policy.Basic
import TenantRoutes.Site.Json
/-! Policies in JSON. Writing gives every field; reading takes the defaults of absent ones.
`ofJson?` is strict about arrays that stand for records, while `read?` is told what to do with
surplus items. -/
namespace TenantRoutes

open Json (Record)

namespace Credentials

def toJson (credentials : Credentials) : Json :=
  .object [("username", .string credentials.username),
    ("realm", Json.ofOption Json.string credentials.realm)]

def read? (surplus : Json.Surplus) (json : Json) : Option Credentials := do
  let default : Credentials := {}
  let record ← Record.ofJson? surplus 2 json
  let username ← record.withDefault 0 "username" default.username Json.string?
  let realm ← record.optional 1 "realm" Json.string?
  some { username, realm }

/-- Reading with surplus items refused. -/
def ofJson? : Json → Option Credentials :=
  read? .refused

end Credentials

namespace Platform

def toJson (platform : Platform) : Json :=
  .object [("sites_domain", .string platform.sitesDomain),
    ("sites_dir", .string platform.sitesDir), ("id_prefix", .string platform.idStart),
    ("not_found_page", .string platform.notFoundPage), ("auth", platform.credentials.toJson)]

def read? (surplus : Json.Surplus) (json : Json) : Option Platform := do
  let default : Platform := {}
  let record ← Record.ofJson? surplus 5 json
  let sitesDomain ← record.withDefault 0 "sites_domain" default.sitesDomain Json.string?
  let sitesDir ← record.withDefault 1 "sites_dir" default.sitesDir Json.string?
  let idStart ← record.withDefault 2 "id_prefix" default.idStart Json.string?
  let notFoundPage ← record.withDefault 3 "not_found_page" default.notFoundPage Json.string?
  let credentials ← record.withDefault 4 "auth" default.credentials (Credentials.read? surplus)
  some { sitesDomain, sitesDir, idStart, notFoundPage, credentials }

/-- Reading with surplus items refused. -/
def ofJson? : Json → Option Platform :=
  read? .refused

end Platform

namespace LogSettings

def toJson (settings : LogSettings) : Json :=
  .object [("level", .string settings.level), ("with_target", .bool settings.withTarget)]

def read? (surplus : Json.Surplus) (json : Json) : Option LogSettings := do
  let default : LogSettings := {}
  let record ← Record.ofJson? surplus 2 json
  let level ← record.withDefault 0 "level" default.level Json.string?
  let withTarget ← record.withDefault 1 "with_target" default.withTarget Json.bool?
  some { level, withTarget }

/-- Reading with surplus items refused. -/
def ofJson? : Json → Option LogSettings :=
  read? .refused

end LogSettings

namespace Policy

def toJson (policy : Policy) : Json :=
  .object [("platform", policy.platform.toJson), ("logging", policy.logging.toJson),
    ("sites", Json.ofList Site.toJson policy.sites)]

def read? (surplus : Json.Surplus) (json : Json) : Option Policy := do
  let default : Policy := {}
  let record ← Record.ofJson? surplus 3 json
  let platform ← record.withDefault 0 "platform" default.platform (Platform.read? surplus)
  let logging ← record.withDefault 1 "logging" default.logging (LogSettings.read? surplus)
  let sites ← record.withDefault 2 "sites" default.sites (Json.listOf? (Site.read? surplus))
  some { platform, logging, sites }

/-- Reading with surplus items refused. -/
def ofJson? : Json → Option Policy :=
  read? .refused

end Policy

end TenantRoutes
