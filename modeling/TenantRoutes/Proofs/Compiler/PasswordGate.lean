import TenantRoutes.Proofs.Compiler.PlatformTrees
import TenantRoutes.Proofs.Text.Base64

/-! How passwords protect content. The challenge stands alone in the route that is tried before all
others of a branch, without a condition, and nowhere else in the tree. So no redirect and no content
of a protected branch is reached past it, and the error routes do not ask a second time. -/
namespace TenantRoutes

namespace Handler

def isAuthentication : Handler → Bool
  | .authentication _ => true
  | _ => false

end Handler

namespace Route

/-- The authentication handlers of a route, at any depth. -/
def authentications (route : Route) : List Handler :=
  route.allHandlers.filter Handler.isAuthentication

theorem authentications_eq (route : Route) :
    route.authentications =
      route.tree.flatMap fun inner => inner.handlers.filter Handler.isAuthentication :=
  List.filter_flatMap

/-- A single challenge for the password stands in front of everything else below a route. -/
def IsGuardedBy (route : Route) (password : Password) : Prop :=
  ∃ first rest basic account,
    route.handlers = [.subroute (first :: rest)] ∧
    first.matchers = [] ∧
    first.handlers = [.authentication (some basic)] ∧
    basic.accounts = [account] ∧
    Text.Base64.decode account.password.toList = some password.hash.toUTF8.toList ∧
    route.authentications = first.handlers

end Route

namespace Platform

variable (platform : Platform) (site : Site) (branch : Branch)

theorem fileResponse_authentications (uri : String) :
    (platform.fileResponse site branch uri).filter Handler.isAuthentication = [] := rfl

theorem redirectRouteFor_authentications (redirect : Redirect) :
    (platform.redirectRouteFor site branch redirect).handlers.filter Handler.isAuthentication =
      [] := by
  unfold redirectRouteFor
  cases redirect.target with
  | url location permanent => rfl
  | file name => exact platform.fileResponse_authentications site branch _

theorem contentRouteFor_authentications :
    (platform.contentRouteFor site branch).handlers.filter Handler.isAuthentication = [] := by
  unfold contentRouteFor contentHandlers
  cases site.singlePage <;> rfl

theorem authRoutesFor_authentications (password? : Option Password) :
    ((platform.authRoutesFor password?).flatMap fun route =>
      route.handlers.filter Handler.isAuthentication) =
      password?.toList.map platform.challenge := by
  cases password? <;> rfl

/-- Redirects, content and error routes never ask for a password. -/
theorem routeFor_authentications :
    (platform.routeFor site branch).authentications =
      (site.effectivePassword branch).toList.map platform.challenge := by
  have hOuter : (platform.routeFor site branch).handlers.filter Handler.isAuthentication = [] :=
    rfl
  have hRedirects : ((branch.redirects.map (platform.redirectRouteFor site branch)).flatMap
      fun route => route.handlers.filter Handler.isAuthentication) = [] := by
    rw [List.flatMap_eq_nil_iff, List.forall_mem_map]
    exact fun redirect _ => platform.redirectRouteFor_authentications site branch redirect
  have hErrors : ([unauthenticatedRoute, platform.notFoundRouteFor site branch].flatMap
      fun route => route.handlers.filter Handler.isAuthentication) = [] := rfl
  rw [Route.authentications_eq, routeFor_tree, List.flatMap_cons, List.flatMap_append, hOuter,
    hErrors, innerRoutesFor, List.flatMap_append, List.flatMap_append, hRedirects,
    authRoutesFor_authentications, List.flatMap_singleton, contentRouteFor_authentications]
  simp only [List.append_nil, List.nil_append]

theorem challenge_password (password : Password) :
    ∃ basic account, platform.challenge password = .authentication (some basic) ∧
      basic.accounts = [account] ∧
      Text.Base64.decode account.password.toList = some password.hash.toUTF8.toList :=
  ⟨_, _, rfl, rfl, Text.Base64.decode_ofText password.hash⟩

theorem routeFor_isGuardedBy {password : Password}
    (hPassword : site.effectivePassword branch = some password) :
    (platform.routeFor site branch).IsGuardedBy password := by
  obtain ⟨basic, account, hChallenge, hAccounts, hDecode⟩ := platform.challenge_password password
  have hInner : platform.innerRoutesFor site branch =
      { handlers := [platform.challenge password] } ::
        (branch.redirects.map (platform.redirectRouteFor site branch) ++
          [platform.contentRouteFor site branch]) := by
    rw [innerRoutesFor, hPassword, authRoutesFor, List.cons_append, List.nil_append,
      List.cons_append]
  have hAuthentications : (platform.routeFor site branch).authentications =
      [platform.challenge password] := by
    rw [routeFor_authentications, hPassword, Option.toList_some, List.map_singleton]
  exact ⟨{ handlers := [platform.challenge password] }, _, basic, account,
    by rw [routeFor, hInner], rfl, by rw [hChallenge], hAccounts, hDecode, hAuthentications⟩

theorem fault?_of_emptyHash (hPassword : site.effectivePassword branch = some { hash := "" }) :
    ∃ fault, site.fault? branch = some fault := by
  rw [Site.fault?_eq, hPassword]
  cases site.nameFault? with
  | some fault => exact ⟨fault, rfl⟩
  | none => exact ⟨.emptyPassword, rfl⟩

/-- A compiled branch asks for a password exactly when it or its site has one, and then for its own
before that of the site. An empty hash is a password: it hides that of the site, and the branch is
not compiled at all. -/
theorem branchRoute_guarded :
    (∀ route, (branchRoute site branch).resultWith platform.lookups = .ok route →
      (∀ password, branch.password = some password → route.IsGuardedBy password) ∧
      (∀ password, branch.password = none → site.password = some password →
        route.IsGuardedBy password) ∧
      (branch.password = none → site.password = none → route.authentications = [])) ∧
    (branch.password = some { hash := "" } →
      ∃ error, (branchRoute site branch).resultWith platform.lookups = .error error) := by
  constructor
  · intro route hRoute
    obtain ⟨_, rfl⟩ := (platform.branchRoute_eq_ok_iff site branch).mp hRoute
    refine ⟨fun password hOwn => ?_, fun password hNone hSite => ?_, fun hNone hSite => ?_⟩
    · apply routeFor_isGuardedBy
      rw [Site.effectivePassword, hOwn]
      rfl
    · apply routeFor_isGuardedBy
      rw [Site.effectivePassword, hNone, hSite]
      rfl
    · rw [routeFor_authentications, Site.effectivePassword, hNone, hSite]
      rfl
  · intro hOwn
    have hPassword : site.effectivePassword branch = some { hash := "" } := by
      rw [Site.effectivePassword, hOwn]
      rfl
    obtain ⟨fault, hFault⟩ := fault?_of_emptyHash site branch hPassword
    exact ⟨fault, by rw [branchRoute_resultWith, hFault, settle_some]⟩

end Platform

end TenantRoutes
