import TenantRoutes.Proofs.Command.Reports
import TenantRoutes.Proofs.Files.ReadBack
import TenantRoutes.Proofs.Log.Readable

/-! The compile command delivers a text or leaves nothing behind. Five things have to go well before
anything is delivered: the policy is read and accepted, its log is set up, the site asked for is
there, and the sites compile. What the command says of its failure is not looked at. -/
namespace TenantRoutes

/-- A content that is read as the text of an accepted policy. -/
def HoldsPolicy (content : Except FileError ByteArray) (policy : Policy) : Prop :=
  ∃ bytes text, content = .ok bytes ∧ String.fromUTF8? bytes = some text ∧
    Policy.parse text = .ok policy

namespace Policy

/-- The sites that a command is about: all of them, or those with an id. -/
def selectedSites (policy : Policy) : Option String → List Site
  | none => policy.sites
  | some id => policy.sites.filter (·.id == id)

/-- The site that is asked for is there, and the sites selected have these routes. -/
structure MakesRoutes (policy : Policy) (site : Option String) (routes : List Route) : Prop where
  siteExists : ∀ id, site = some id → ∃ selected ∈ policy.sites, selected.id = id
  compiled : (compileSites (policy.selectedSites site)).resultWith policy.platform.lookups =
    .ok routes

end Policy

/-- All that a command did was to deliver a text, to its reader or to one file. -/
structure Report.DeliversOnly (report : Report) (files : FileTree) (output : Option String)
    (text : String) : Prop where
  exitCode : report.exitCode = 0
  delivery :
    match output with
    | none => report.printed = text ++ "\n" ∧ report.files = files
    | some path => report.printed = "" ∧ files.OnlyWrites report.files path text.toUTF8

/-- A command failed, printed nothing and wrote nothing. -/
structure Report.LeavesNothing (report : Report) (files : FileTree) : Prop where
  exitCode : report.exitCode ≠ 0
  printed : report.printed = ""
  untouched : report.files = files

variable {report : Report} {files : FileTree} {output : Option String} {text : String}

theorem Report.Delivers.only (hDelivers : report.Delivers files output text) :
    report.DeliversOnly files output text := by
  refine ⟨hDelivers.exitCode, ?_⟩
  have hDelivery := hDelivers.delivery
  cases output with
  | none => exact hDelivery
  | some path => exact ⟨hDelivery.1, FileTree.onlyWrites_write hDelivery.2⟩

theorem Report.FailsWith.leavesNothing {failure : Failure}
    (hFails : report.FailsWith files failure) : report.LeavesNothing files :=
  ⟨hFails.exitCode, hFails.printed, hFails.untouched⟩

variable {policy : Policy} {site : Option String} {config : String} {layout : Json.Layout}

/-- If the site that is asked for is there, making routes for it is making routes for a policy of
the sites selected. -/
theorem Task.ofCommand_compile
    (hSite : ∀ id, site = some id → ∃ selected ∈ policy.sites, selected.id = id) :
    Task.ofCommand policy config (.compile site layout output) =
      Task.ofRoutes { policy with sites := policy.selectedSites site } layout output := by
  cases site with
  | none => rfl
  | some id =>
      obtain ⟨selected, hSelected, hId⟩ := hSite id rfl
      have hSome : (policy.onlySite id).sites.isEmpty = false := by
        rw [List.isEmpty_eq_false_iff, Policy.onlySite]
        exact List.ne_nil_of_mem (List.mem_filter.mpr ⟨hSelected, by simpa using hId⟩)
      simp only [Task.ofCommand, hSome, Bool.false_eq_true, if_false]
      rfl

/-- A command that makes routes either has routes to deliver or fails. -/
theorem Task.ofCommand_compile_cases (policy : Policy) (site : Option String) (config : String)
    (layout : Json.Layout) (output : Option String) :
    (∃ routes, policy.MakesRoutes site routes ∧
      (Task.ofCommand policy config (.compile site layout output)).result =
        .ok (.deliver output (Route.render layout routes))) ∨
    ((∀ routes, ¬ policy.MakesRoutes site routes) ∧
      ∃ failure, (Task.ofCommand policy config (.compile site layout output)).result =
        .error failure) := by
  by_cases hSite : ∀ id, site = some id → ∃ selected ∈ policy.sites, selected.id = id
  · rw [Task.ofCommand_compile hSite, Task.ofRoutes_result]
    cases hCompiled :
      (Policy.compile { policy with sites := policy.selectedSites site }).result with
    | error error =>
        refine Or.inr ⟨fun routes hRoutes => ?_, .compile error, rfl⟩
        simpa using hCompiled.symm.trans hRoutes.compiled
    | ok routes => exact Or.inl ⟨routes, ⟨hSite, hCompiled⟩, rfl⟩
  · refine Or.inr ⟨fun routes hRoutes => hSite hRoutes.siteExists, ?_⟩
    push Not at hSite
    obtain ⟨id, rfl, hNone⟩ := hSite
    have hEmpty : (policy.onlySite id).sites = [] := by
      simpa [Policy.onlySite] using hNone
    refine ⟨.unknownSite id config, ?_⟩
    simp only [Task.ofCommand, hEmpty, List.isEmpty_nil, if_true]

section

variable {invocation : Invocation} {environment : Option String}

theorem Invocation.run_of_loadError {error : LoadError}
    (hLoad : Policy.load (files.read invocation.config) = .error error) :
    (invocation.run environment files).LeavesNothing files := by
  rw [run, hLoad]
  exact ⟨Nat.one_ne_zero, rfl, rfl⟩

theorem Invocation.run_of_noLog
    (hLoad : Policy.load (files.read invocation.config) = .ok policy)
    (hLog : Log.Filter.select? environment policy.logging.level = none) :
    (invocation.run environment files).LeavesNothing files := by
  simp only [run, hLoad, hLog]
  exact ⟨by simp [noLogExitCode], rfl, rfl⟩

end

/-- Asking for routes delivers them if all goes well, and else leaves nothing. -/
theorem Invocation.run_compile_cases (config : String) (site : Option String)
    (layout : Json.Layout) (environment : Option String) (hOutput : files.Accepts output) :
    let report := run { config, command := .compile site layout output } environment files
    (∃ policy routes, HoldsPolicy (files.read config) policy ∧ policy.MakesRoutes site routes ∧
      Log.Filter.select? environment policy.logging.level ≠ none ∧
      report.DeliversOnly files output (Route.render layout routes)) ∨
    ((∀ policy routes, HoldsPolicy (files.read config) policy → policy.MakesRoutes site routes →
        Log.Filter.select? environment policy.logging.level = none) ∧
      report.LeavesNothing files) := by
  simp only [HoldsPolicy, ← Policy.load_eq_ok_iff]
  cases hLoad : Policy.load (files.read config) with
  | error error => exact Or.inr ⟨by simp, run_of_loadError hLoad⟩
  | ok policy =>
      cases hLog : Log.Filter.select? environment policy.logging.level with
      | none =>
          refine Or.inr ⟨?_, run_of_noLog hLoad hLog⟩
          rintro _ routes ⟨rfl⟩ _
          exact hLog
      | some filter =>
          rw [run_of_log hLoad hLog]
          rcases Task.ofCommand_compile_cases policy site config layout output with
            ⟨routes, hRoutes, hResult⟩ | ⟨hNone, failure, hResult⟩
          · refine Or.inl ⟨policy, routes, rfl, hRoutes, by simp [hLog], ?_⟩
            exact (runWith_delivers hOutput hResult).only
          · refine Or.inr ⟨?_, (runWith_failsWith hResult).leavesNothing⟩
            rintro _ routes ⟨rfl⟩ hRoutes
            exact absurd hRoutes (hNone routes)

/-- A command line that asks for routes succeeds exactly when its policy is read and accepted, the
site it names is there, the sites compile and the log can be set up. The last goes without saying if
what the environment and the policy ask of the log is plain. A command line that succeeds delivers
the text of the routes and nothing else. If it does not succeed, nothing was printed and no file was
touched. -/
theorem runCommandLine_all_or_nothing (arguments : List String) (environment : Option String)
    (files : FileTree) (config : String) (site : Option String) (layout : Json.Layout)
    (output : Option String)
    (hRequest : Arguments.parse arguments =
      .run { config, command := .compile site layout output })
    (hOutput : files.Accepts output) :
    let report := runCommandLine arguments environment files
    (report.exitCode = 0 ↔
      ∃ policy routes, HoldsPolicy (files.read config) policy ∧ policy.MakesRoutes site routes ∧
        Log.Filter.select? environment policy.logging.level ≠ none) ∧
    ((∀ text, environment = some text → Log.Filter.IsPlainText text) →
      (∀ policy, HoldsPolicy (files.read config) policy →
        Log.Filter.IsPlainText policy.logging.level) →
      (report.exitCode = 0 ↔
        ∃ policy routes, HoldsPolicy (files.read config) policy ∧
          policy.MakesRoutes site routes)) ∧
    (report.exitCode = 0 →
      ∃ policy routes, HoldsPolicy (files.read config) policy ∧ policy.MakesRoutes site routes ∧
        report.DeliversOnly files output (Route.render layout routes)) ∧
    (report.exitCode ≠ 0 → report.LeavesNothing files) := by
  rw [runCommandLine, hRequest]
  rcases Invocation.run_compile_cases config site layout environment hOutput with
    ⟨policy, routes, hPolicy, hRoutes, hLog, hDelivers⟩ | ⟨hNone, hLeaves⟩
  · refine ⟨iff_of_true hDelivers.exitCode ⟨policy, routes, hPolicy, hRoutes, hLog⟩, fun _ _ => ?_,
      fun _ => ?_, fun hFails => absurd hDelivers.exitCode hFails⟩
    · exact iff_of_true hDelivers.exitCode ⟨policy, routes, hPolicy, hRoutes⟩
    · exact ⟨policy, routes, hPolicy, hRoutes, hDelivers⟩
  · refine ⟨iff_of_false hLeaves.exitCode ?_, fun hEnvironment hSettings => ?_,
      fun hExit => absurd hExit hLeaves.exitCode, fun _ => hLeaves⟩
    · rintro ⟨policy, routes, hPolicy, hRoutes, hLog⟩
      exact hLog (hNone policy routes hPolicy hRoutes)
    · refine iff_of_false hLeaves.exitCode ?_
      rintro ⟨policy, routes, hPolicy, hRoutes⟩
      have hLog := Log.Filter.select?_isSome hEnvironment (hSettings policy hPolicy)
      rw [hNone policy routes hPolicy hRoutes] at hLog
      exact Bool.false_ne_true hLog

/-- A working directory that holds nothing but a policy file. -/
def holdingPolicy (content : ByteArray) : FileTree :=
  { workingDirectory := ["work"], files := [(["work", "sites.toml"], content)] }

/-- A policy without sites whose log is asked for behind a blank of several bytes. -/
def blankBeforeDirective : ByteArray :=
  "[logging]\nlevel = \"\u3000x=info\"\n".toUTF8

/-- The command fails although its policy is accepted and has routes. -/
theorem runCommandLine_blankBeforeDirective :
    ∃ policy routes,
      HoldsPolicy ((holdingPolicy blankBeforeDirective).read "sites.toml") policy ∧
      policy.MakesRoutes none routes ∧
      (runCommandLine ["compile"] none (holdingPolicy blankBeforeDirective)).exitCode ≠ 0 := by
  have hLoaded : ((Policy.load ((holdingPolicy blankBeforeDirective).read
      "sites.toml")).toOption.map fun policy => policy.sites.isEmpty) = some true := by
    decide +kernel
  have hExit : (runCommandLine ["compile"] none
      (holdingPolicy blankBeforeDirective)).exitCode ≠ 0 := by
    decide +kernel
  cases hLoad : Policy.load ((holdingPolicy blankBeforeDirective).read "sites.toml") with
  | error error => simp [hLoad, Except.toOption] at hLoaded
  | ok policy =>
      have hNone : policy.sites = [] := by simpa [hLoad, Except.toOption] using hLoaded
      refine ⟨policy, [], Policy.load_eq_ok_iff.mp hLoad, ⟨by simp, ?_⟩, hExit⟩
      rw [Policy.selectedSites, hNone]
      rfl

/-- A policy with two sites. -/
def blogAndShopFile : ByteArray :=
  ("[[sites]]\nid = \"s\"\nname = \"blog\"\nmain_branch = \"b\"\n"
    ++ "[[sites.branches]]\nid = \"b\"\nslug = \"prod\"\n"
    ++ "[[sites]]\nid = \"t\"\nname = \"shop\"\nmain_branch = \"b\"\n"
    ++ "[[sites.branches]]\nid = \"b\"\nslug = \"prod\"\n").toUTF8

/-- The second of two sites is written to a file, with the log that the environment asks for. -/
theorem runCommandLine_blogAndShopFile :
    let arguments := ["-c", "sites.toml", "compile", "--pretty", "--site=t", "-o", "out.json"]
    let files := holdingPolicy blogAndShopFile
    Arguments.parse arguments =
        .run { config := "sites.toml", command := .compile (some "t") .pretty (some "out.json") } ∧
      files.Accepts (some "out.json") ∧
      ∃ policy routes, HoldsPolicy (files.read "sites.toml") policy ∧
        policy.MakesRoutes (some "t") routes ∧
        (runCommandLine arguments (some "site_routes=debug") files).DeliversOnly files
          (some "out.json") (Route.render .pretty routes) := by
  intro arguments files
  have hRequest : Arguments.parse arguments = .run
      { config := "sites.toml", command := .compile (some "t") .pretty (some "out.json") } := by
    decide +kernel
  have hOutput : files.Accepts (some "out.json") := by
    rintro _ ⟨rfl⟩ content
    exact ⟨_, rfl⟩
  have hExit : (runCommandLine arguments (some "site_routes=debug") files).exitCode = 0 := by
    decide +kernel
  exact ⟨hRequest, hOutput, (runCommandLine_all_or_nothing arguments (some "site_routes=debug")
    files "sites.toml" (some "t") .pretty (some "out.json") hRequest hOutput).2.2.1 hExit⟩

end TenantRoutes
