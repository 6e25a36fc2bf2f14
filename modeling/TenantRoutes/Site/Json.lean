import TenantRoutes.Json.Record
import TenantRoutes.Site.Basic
/-! Sites in JSON. Writing gives every field; reading takes the defaults of absent ones.
`ofJson?` is strict about arrays that stand for records, while `read?` is told what to do with
surplus items. -/
namespace TenantRoutes

open Json (Record)

namespace Password

def toJson (password : Password) : Json :=
  .string password.hash

def ofJson? (json : Json) : Option Password :=
  json.string?.map Password.mk

end Password

namespace Header

def toJson (header : Header) : Json :=
  .object [("name", .string header.name), ("value", .string header.value)]

def read? (surplus : Json.Surplus) (json : Json) : Option Header := do
  let record ← Record.ofJson? surplus 2 json
  let name ← record.required 0 "name" Json.string?
  let value ← record.required 1 "value" Json.string?
  some { name, value }

/-- Reading with surplus items refused. -/
def ofJson? : Json → Option Header :=
  read? .refused

end Header

namespace Certificate

def caseNames : List String := ["acme", "custom"]

def toJson : Certificate → Json
  | acme => .object [("type", .string "acme")]
  | custom certificate key =>
    .object [("type", .string "custom"), ("certificate", .string certificate), ("key", .string key)]

def ofJson? (json : Json) : Option Certificate := do
  let (tag, record) ← Json.tagged? "type" json
  let name ← Json.caseOf? .byName caseNames tag
  if name = "acme" then
    let _ ← record.fits? 0
    some acme
  else
    let record ← record.fits? 2
    let certificate ← record.required 0 "certificate" Json.string?
    let key ← record.required 1 "key" Json.string?
    some (custom certificate key)

end Certificate

namespace Domain

def toJson (domain : Domain) : Json :=
  .object [("name", .string domain.name), ("expose_branches", .bool domain.exposesBranches),
    ("ssl", domain.certificate.toJson)]

def read? (surplus : Json.Surplus) (json : Json) : Option Domain := do
  let record ← Record.ofJson? surplus 3 json
  let name ← record.required 0 "name" Json.string?
  let exposesBranches ← record.withDefault 1 "expose_branches" false Json.bool?
  let certificate ← record.withDefault 2 "ssl" .acme Certificate.ofJson?
  some { name, exposesBranches, certificate }

/-- Reading with surplus items refused. -/
def ofJson? : Json → Option Domain :=
  read? .refused

end Domain

namespace Redirect

namespace Target

def caseNames : List String := ["url", "file"]

def fields : Target → List (String × Json)
  | url location permanent =>
    [("type", .string "url"), ("to", .string location), ("permanent", .bool permanent)]
  | file name => [("type", .string "file"), ("file", .string name)]

def toJson (target : Target) : Json :=
  .object target.fields

def ofJson? (naming : Json.Naming) (json : Json) : Option Target := do
  let (tag, record) ← Json.tagged? "type" json
  let name ← Json.caseOf? naming caseNames tag
  if name = "url" then
    let record ← record.fits? 2
    let location ← record.required 0 "to" Json.string?
    let permanent ← record.withDefault 1 "permanent" false Json.bool?
    some (url location permanent)
  else
    let record ← record.fits? 1
    let file ← record.required 0 "file" Json.string?
    some (.file file)

end Target

def toJson (redirect : Redirect) : Json :=
  .object ([("id", .string redirect.id), ("path", .string redirect.path)] ++ redirect.target.fields)

/-- The fields of the target stand beside the others, so a redirect is an object. Its target may
be named by place. -/
def ofJson? (json : Json) : Option Redirect :=
  match json with
  | .object fields => do
    let record := Record.named fields
    let id ← record.withDefault 0 "id" "" Json.string?
    let path ← record.required 1 "path" Json.string?
    let target ← Target.ofJson? .byNameOrPlace json
    some { id, path, target }
  | _ => none

end Redirect

namespace Branch

def toJson (branch : Branch) : Json :=
  .object [("id", .string branch.id), ("name", .string branch.name), ("slug", .string branch.slug),
    ("password", Json.ofOption Password.toJson branch.password),
    ("redirects", Json.ofList Redirect.toJson branch.redirects),
    ("headers", Json.ofList Header.toJson branch.headers)]

def read? (surplus : Json.Surplus) (json : Json) : Option Branch := do
  let record ← Record.ofJson? surplus 6 json
  let id ← record.required 0 "id" Json.string?
  let name ← record.withDefault 1 "name" "" Json.string?
  let slug ← record.required 2 "slug" Json.string?
  let password ← record.optional 3 "password" Password.ofJson?
  let redirects ← record.withDefault 4 "redirects" [] (Json.listOf? Redirect.ofJson?)
  let headers ← record.withDefault 5 "headers" [] (Json.listOf? (Header.read? surplus))
  some { id, name, slug, password, redirects, headers }

/-- Reading with surplus items refused. -/
def ofJson? : Json → Option Branch :=
  read? .refused

end Branch

namespace Site

def toJson (site : Site) : Json :=
  .object [("id", .string site.id), ("name", .string site.name),
    ("main_branch", .string site.mainBranch), ("spa", .bool site.singlePage),
    ("password", Json.ofOption Password.toJson site.password),
    ("domains", Json.ofList Domain.toJson site.domains),
    ("headers", Json.ofList Header.toJson site.headers),
    ("branches", Json.ofList Branch.toJson site.branches)]

def read? (surplus : Json.Surplus) (json : Json) : Option Site := do
  let record ← Record.ofJson? surplus 8 json
  let id ← record.required 0 "id" Json.string?
  let name ← record.required 1 "name" Json.string?
  let mainBranch ← record.required 2 "main_branch" Json.string?
  let singlePage ← record.withDefault 3 "spa" false Json.bool?
  let password ← record.optional 4 "password" Password.ofJson?
  let domains ← record.withDefault 5 "domains" [] (Json.listOf? (Domain.read? surplus))
  let headers ← record.withDefault 6 "headers" [] (Json.listOf? (Header.read? surplus))
  let branches ← record.withDefault 7 "branches" [] (Json.listOf? (Branch.read? surplus))
  some { id, name, mainBranch, singlePage, password, domains, headers, branches }

/-- Reading with surplus items refused. -/
def ofJson? : Json → Option Site :=
  read? .refused

end Site

end TenantRoutes
