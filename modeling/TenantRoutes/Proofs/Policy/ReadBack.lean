import TenantRoutes.Compiler.Platform
import TenantRoutes.Policy.Load
import TenantRoutes.Proofs.Json.ReadBack
import TenantRoutes.Proofs.Json.Record

/-! Reading policies back. Whatever a policy holds, its JSON form is read as the same policy, so
nothing of it is lost by writing it. The form itself need not be kept: a policy that was read from
arrays, or from objects with fields left out, is written as objects with all their fields. -/
namespace TenantRoutes

open Json (Record Surplus)

theorem Password.readsBack (password : Password) : Json.ReadsBack ofJson? toJson password :=
  ⟨rfl, Json.noConfusion⟩

theorem Header.readsBack (surplus : Surplus) (header : Header) :
    Json.ReadsBack (read? surplus) toJson header := by
  refine ⟨?_, Json.noConfusion⟩
  simp only [read?, toJson, Option.bind_eq_bind, Option.bind_eq_some_iff]
  exact ⟨_, Record.ofJson?_object _ _ _,
    header.name, Record.required_named (by simp) (Json.readsBack_string _),
    header.value, Record.required_named (by simp) (Json.readsBack_string _), rfl⟩

theorem Certificate.readsBack (certificate : Certificate) :
    Json.ReadsBack ofJson? toJson certificate := by
  cases certificate with
  | acme => exact ⟨rfl, Json.noConfusion⟩
  | custom certificate key => exact ⟨rfl, Json.noConfusion⟩

theorem Domain.readsBack (surplus : Surplus) (domain : Domain) :
    Json.ReadsBack (read? surplus) toJson domain := by
  refine ⟨?_, Json.noConfusion⟩
  simp only [read?, toJson, Option.bind_eq_bind, Option.bind_eq_some_iff]
  exact ⟨_, Record.ofJson?_object _ _ _,
    domain.name, Record.required_named (by simp) (Json.readsBack_string _),
    domain.exposesBranches, Record.withDefault_written (by simp) (Json.readsBack_bool _),
    domain.certificate, Record.withDefault_written (by simp) domain.certificate.readsBack, rfl⟩

namespace Redirect

/-- A target is found behind any other fields, since it names its case and all that belongs to
it. -/
theorem Target.ofJson?_append (naming : Json.Naming) (before : List (String × Json))
    (target : Target) : ofJson? naming (.object (before ++ target.fields)) = some target := by
  have hTag {tag : Json} (hType : Json.field? "type" target.fields = some tag) :
      Json.tagged? "type" (.object (before ++ target.fields)) =
        some (tag, .named (before ++ target.fields)) := by
    simp [Json.tagged?, hType]
  simp only [ofJson?, Option.bind_eq_bind, Option.bind_eq_some_iff]
  cases target with
  | url location permanent =>
      refine ⟨_, hTag rfl, "url", rfl, ?_⟩
      rw [if_pos rfl]
      simp only [Record.fits?_named, Option.bind_some, Option.bind_eq_some_iff]
      exact ⟨location, Record.required_named (by simp [fields]) (Json.readsBack_string _),
        permanent, Record.withDefault_written (by simp [fields]) (Json.readsBack_bool _), rfl⟩
  | file name =>
      refine ⟨_, hTag rfl, "file", rfl, ?_⟩
      rw [if_neg (by decide)]
      simp only [Record.fits?_named, Option.bind_some, Option.bind_eq_some_iff]
      exact ⟨name, Record.required_named (by simp [fields]) (Json.readsBack_string _), rfl⟩

/-- The fields of a target have other names than those of the redirect. -/
theorem Target.field?_fields {name : String} (hApart : name = "id" ∨ name = "path")
    (target : Target) : Json.field? name target.fields = none := by
  rcases hApart with rfl | rfl <;> cases target <;> simp [fields]

theorem readsBack (redirect : Redirect) : Json.ReadsBack ofJson? toJson redirect := by
  refine ⟨?_, Json.noConfusion⟩
  have hId := Target.field?_fields (Or.inl rfl) redirect.target
  have hPath := Target.field?_fields (Or.inr rfl) redirect.target
  simp only [ofJson?, toJson, Option.bind_eq_bind, Option.bind_eq_some_iff]
  exact ⟨redirect.id, Record.withDefault_written (by simp [hId]) (Json.readsBack_string _),
    redirect.path, Record.required_named (by simp [hPath]) (Json.readsBack_string _),
    redirect.target, Target.ofJson?_append _ _ _, rfl⟩

end Redirect

theorem Branch.readsBack (surplus : Surplus) (branch : Branch) :
    Json.ReadsBack (read? surplus) toJson branch := by
  refine ⟨?_, Json.noConfusion⟩
  simp only [read?, toJson, Option.bind_eq_bind, Option.bind_eq_some_iff]
  exact ⟨_, Record.ofJson?_object _ _ _,
    branch.id, Record.required_named (by simp) (Json.readsBack_string _),
    branch.name, Record.withDefault_written (by simp) (Json.readsBack_string _),
    branch.slug, Record.required_named (by simp) (Json.readsBack_string _),
    branch.password, Record.optional_written (by simp) fun password _ => password.readsBack,
    branch.redirects, Record.withDefault_written (by simp)
      (Json.readsBack_list fun redirect _ => redirect.readsBack),
    branch.headers, Record.withDefault_written (by simp)
      (Json.readsBack_list fun header _ => header.readsBack surplus), rfl⟩

theorem Site.readsBack (surplus : Surplus) (site : Site) :
    Json.ReadsBack (read? surplus) toJson site := by
  refine ⟨?_, Json.noConfusion⟩
  simp only [read?, toJson, Option.bind_eq_bind, Option.bind_eq_some_iff]
  exact ⟨_, Record.ofJson?_object _ _ _,
    site.id, Record.required_named (by simp) (Json.readsBack_string _),
    site.name, Record.required_named (by simp) (Json.readsBack_string _),
    site.mainBranch, Record.required_named (by simp) (Json.readsBack_string _),
    site.singlePage, Record.withDefault_written (by simp) (Json.readsBack_bool _),
    site.password, Record.optional_written (by simp) fun password _ => password.readsBack,
    site.domains, Record.withDefault_written (by simp)
      (Json.readsBack_list fun domain _ => domain.readsBack surplus),
    site.headers, Record.withDefault_written (by simp)
      (Json.readsBack_list fun header _ => header.readsBack surplus),
    site.branches, Record.withDefault_written (by simp)
      (Json.readsBack_list fun branch _ => branch.readsBack surplus), rfl⟩

theorem Credentials.readsBack (surplus : Surplus) (credentials : Credentials) :
    Json.ReadsBack (read? surplus) toJson credentials := by
  refine ⟨?_, Json.noConfusion⟩
  simp only [read?, toJson, Option.bind_eq_bind, Option.bind_eq_some_iff]
  exact ⟨_, Record.ofJson?_object _ _ _,
    credentials.username, Record.withDefault_written (by simp) (Json.readsBack_string _),
    credentials.realm, Record.optional_written (by simp) fun _ _ => Json.readsBack_string _, rfl⟩

theorem Platform.readsBack (surplus : Surplus) (platform : Platform) :
    Json.ReadsBack (read? surplus) toJson platform := by
  refine ⟨?_, Json.noConfusion⟩
  simp only [read?, toJson, Option.bind_eq_bind, Option.bind_eq_some_iff]
  exact ⟨_, Record.ofJson?_object _ _ _,
    platform.sitesDomain, Record.withDefault_written (by simp) (Json.readsBack_string _),
    platform.sitesDir, Record.withDefault_written (by simp) (Json.readsBack_string _),
    platform.idStart, Record.withDefault_written (by simp) (Json.readsBack_string _),
    platform.notFoundPage, Record.withDefault_written (by simp) (Json.readsBack_string _),
    platform.credentials, Record.withDefault_written (by simp)
      (platform.credentials.readsBack surplus), rfl⟩

theorem LogSettings.readsBack (surplus : Surplus) (settings : LogSettings) :
    Json.ReadsBack (read? surplus) toJson settings := by
  refine ⟨?_, Json.noConfusion⟩
  simp only [read?, toJson, Option.bind_eq_bind, Option.bind_eq_some_iff]
  exact ⟨_, Record.ofJson?_object _ _ _,
    settings.level, Record.withDefault_written (by simp) (Json.readsBack_string _),
    settings.withTarget, Record.withDefault_written (by simp) (Json.readsBack_bool _), rfl⟩

namespace Policy

theorem readsBack (surplus : Surplus) (policy : Policy) :
    Json.ReadsBack (read? surplus) toJson policy := by
  refine ⟨?_, Json.noConfusion⟩
  simp only [read?, toJson, Option.bind_eq_bind, Option.bind_eq_some_iff]
  exact ⟨_, Record.ofJson?_object _ _ _,
    policy.platform, Record.withDefault_written (by simp) (policy.platform.readsBack surplus),
    policy.logging, Record.withDefault_written (by simp) (policy.logging.readsBack surplus),
    policy.sites, Record.withDefault_written (by simp)
      (Json.readsBack_list fun site _ => site.readsBack surplus), rfl⟩

/-- A policy is read back from its JSON form, whether this is taken as a value or as a text in
either layout. So what was read from any value can be written and read again, and both policies are
one: validation and compilation cannot tell them apart. -/
theorem written_readsBack :
    (∀ policy : Policy, ofJson? policy.toJson = some policy ∧
      ∀ layout, (Json.parse? (policy.toJson.render layout)).bind ofJson? = some policy) ∧
    (∀ (surplus : Surplus) (json : Json) (policy : Policy), read? surplus json = some policy →
      ∃ again, ofJson? policy.toJson = some again ∧ again = policy ∧
        again.validate = policy.validate ∧ again.compile = policy.compile) := by
  constructor
  · intro policy
    have hValue := (policy.readsBack .refused).read_write
    refine ⟨hValue, fun layout => ?_⟩
    rw [Json.parse?_render, Option.bind_some]
    exact hValue
  · intro surplus json policy _
    exact ⟨policy, (policy.readsBack .refused).read_write, rfl, rfl, rfl⟩

/-- A policy in few words: records stand as arrays or leave out what has a default, and the case of
a redirect is named by its place. -/
def terseJson : Json :=
  .object
    [("platform", .array [.string "Pages.example.dev"]),
     ("sites", .array [.object
       [("branches", .array [.object
          [("slug", .string "prod"), ("id", .string "b1"), ("password", .null),
           ("redirects", .array [.object
             [("file", .string "new.html"), ("type", Json.ofNat 1), ("path", .string "/old")]])]]),
        ("domains", .array [.array
          [.string "a.com", .bool true,
           .array [.string "custom", .string "cert.pem", .string "key.pem"]]]),
        ("main_branch", .string "b1"), ("name", .string "blog"), ("id", .string "s1")]])]

/-- The policy that is meant by it. -/
def tersePolicy : Policy :=
  { platform := { sitesDomain := "Pages.example.dev" }
    sites :=
      [{ id := "s1"
         name := "blog"
         mainBranch := "b1"
         domains := [{ name := "a.com", exposesBranches := true,
                       certificate := .custom "cert.pem" "key.pem" }]
         branches :=
           [{ id := "b1"
              slug := "prod"
              redirects := [{ path := "/old", target := .file "new.html" }] }] }] }

theorem tersePolicy_readsBack :
    ofJson? terseJson = some tersePolicy ∧
      (∃ again, ofJson? tersePolicy.toJson = some again ∧ again = tersePolicy ∧
        again.validate = .ok tersePolicy ∧ again.compile = tersePolicy.compile) ∧
      (Json.parse? (tersePolicy.toJson.render .pretty)).bind ofJson? = some tersePolicy := by
  have hRead : ofJson? terseJson = some tersePolicy := by rfl
  obtain ⟨again, hAgain, hSame, hValidate, hCompile⟩ :=
    written_readsBack.2 .refused terseJson tersePolicy hRead
  have hValid : tersePolicy.validate = .ok tersePolicy := by decide
  exact ⟨hRead, ⟨again, hAgain, hSame, hValidate.trans hValid, hCompile⟩,
    (written_readsBack.1 tersePolicy).2 .pretty⟩

end Policy

end TenantRoutes
