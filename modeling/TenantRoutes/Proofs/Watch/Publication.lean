import Mathlib.Data.List.Basic
import TenantRoutes.Proofs.Command.Reports
import TenantRoutes.Proofs.Files.ReadBack
import TenantRoutes.Watch.Session

/-! What the watch command publishes. Between changes the output is what compiling the last good
revision of the policy writes, however many bad revisions came before or after it. The output is
another file than the policy, and every change is handled before the next one is made. -/
namespace TenantRoutes

/-- A content of the policy file from which routes can be made: the policy of its text is accepted,
and its sites compile on its own platform. -/
def IsGood (content : ByteArray) : Prop :=
  ∃ text policy routes, String.fromUTF8? content = some text ∧ Policy.parse text = .ok policy ∧
    (compileSites policy.sites).resultWith policy.platform.lookups = .ok routes

/-- The text of the routes of a policy file that is there, if its content is good. -/
def PolicyFile.routesText? (layout : Json.Layout) (file : PolicyFile) : Option String :=
  file.load.toOption.bind fun policy => (policy.renderRoutes layout).2.toOption

namespace PolicyFile

theorem load_eq_ok_iff {content : ByteArray} {policy : Policy} :
    load (some content) = .ok policy ↔
      ∃ text, String.fromUTF8? content = some text ∧ Policy.parse text = .ok policy := by
  rw [load, Policy.load_eq_ok_iff]
  simp

theorem routesText?_eq_some_iff {layout : Json.Layout} {file : PolicyFile} {text : String} :
    file.routesText? layout = some text ↔
      ∃ policy routes, file.load = .ok policy ∧ policy.compile.result = .ok routes ∧
        Route.render layout routes = text := by
  unfold routesText?
  cases file.load with
  | error error => simp [Except.toOption]
  | ok policy =>
      simp only [Policy.renderRoutes_result, Except.toOption, Option.bind_some, Except.ok.injEq,
        exists_and_left, exists_eq_left']
      cases policy.compile.result <;> simp [Except.map]

theorem isGood_iff {content : ByteArray} (layout : Json.Layout) :
    IsGood content ↔ ∃ text, routesText? layout (some content) = some text := by
  simp only [routesText?_eq_some_iff, load_eq_ok_iff]
  constructor
  · rintro ⟨text, policy, routes, hText, hParse, hRoutes⟩
    exact ⟨_, policy, routes, ⟨text, hText, hParse⟩, hRoutes, rfl⟩
  · rintro ⟨_, policy, routes, ⟨text, hText, hParse⟩, hRoutes, rfl⟩
    exact ⟨text, policy, routes, hText, hParse, hRoutes⟩

theorem routesText?_eq_none_iff {content : ByteArray} (layout : Json.Layout) :
    routesText? layout (some content) = none ↔ ¬ IsGood content := by
  rw [isGood_iff layout, ← Option.isSome_iff_exists, Option.not_isSome_iff_eq_none]

end PolicyFile

/-- The command that compiles a policy file into an output file. -/
def compileInto (config outputPath : String) (layout : Json.Layout) : Invocation :=
  { config, command := .compile none layout (some outputPath) }

/-- What compiling makes of a content of the policy file. A text is written unless the log cannot be
set up or the output file cannot be written. -/
structure CompilesTo (config outputPath : String) (layout : Json.Layout) (content : ByteArray)
    (text : String) : Prop where
  output : ∀ environment files, files.read config = .ok content →
    ((compileInto config outputPath layout).run environment files).exitCode = 0 →
    ((compileInto config outputPath layout).run environment files).files.read outputPath =
      .ok text.toUTF8
  exitCode : ∀ environment files policy filter written, files.read config = .ok content →
    PolicyFile.load (some content) = .ok policy →
    Log.Filter.select? environment policy.logging.level = some filter →
    files.write outputPath text.toUTF8 = .ok written →
    ((compileInto config outputPath layout).run environment files).exitCode = 0

theorem compilesTo_of_routesText? {config outputPath : String} {layout : Json.Layout}
    {content : ByteArray} {text : String}
    (hText : PolicyFile.routesText? layout (some content) = some text) :
    CompilesTo config outputPath layout content text := by
  obtain ⟨policy, routes, hLoad, hRoutes, rfl⟩ := PolicyFile.routesText?_eq_some_iff.mp hText
  have hResult : (Task.ofRoutes policy layout (some outputPath)).result =
      .ok (.write outputPath (Route.render layout routes)) := by
    rw [Task.ofRoutes_result, hRoutes]
    rfl
  constructor
  · intro environment files hRead hExit
    have hPolicy : Policy.load (files.read config) = .ok policy := by
      rw [hRead]
      exact hLoad
    simp only [Invocation.run, compileInto, hPolicy] at hExit ⊢
    cases hFilter : Log.Filter.select? environment policy.logging.level with
    | none => simp [hFilter, Invocation.noLogExitCode] at hExit
    | some filter =>
        simp only [hFilter, Invocation.runWith, Task.ofCommand, hResult] at hExit ⊢
        cases hWrite : files.write outputPath (Route.render layout routes).toUTF8 with
        | error error =>
            rw [hWrite] at hExit
            simp at hExit
        | ok written => exact FileTree.read_write hWrite
  · intro environment files accepted filter written hRead hAccepted hFilter hWrite
    have hPolicy : Policy.load (files.read config) = .ok accepted := by
      rw [hRead]
      exact hAccepted
    obtain rfl : accepted = policy := Except.ok.inj (hAccepted.symm.trans hLoad)
    simp only [Invocation.run, compileInto, hPolicy, hFilter, Invocation.runWith, Task.ofCommand,
      hResult, hWrite]

namespace Session

/-- Watching, with nothing left to do. -/
structure IsIdle (session : Session) : Prop where
  stage : session.stage = .watching
  pending : session.pending = 0
  queue : session.queue = []

/-- One revision of an idle session. The output follows a good file and is kept on a bad one, and
either way nothing is left to do after it. -/
theorem revise_of_isIdle {session : Session} (hIdle : session.IsIdle) (file : PolicyFile) :
    (session.revise file).IsIdle ∧ (session.revise file).layout = session.layout ∧
      (session.revise file).output = (file.routesText? session.layout).or session.output := by
  obtain ⟨config, outputPath, layout, before, stage, output, pending, queue, events⟩ := session
  obtain ⟨rfl, rfl, rfl⟩ : stage = .watching ∧ pending = 0 ∧ queue = [] :=
    ⟨hIdle.stage, hIdle.pending, hIdle.queue⟩
  simp only [revise, replace, handleChange, PolicyFile.routesText?]
  cases file.load with
  | error error => exact ⟨⟨rfl, rfl, rfl⟩, rfl, rfl⟩
  | ok policy =>
      simp only [report, takePolicy, compileNext, List.nil_append, Except.toOption,
        Option.bind_some]
      obtain ⟨reported, result⟩ := policy.renderRoutes layout
      cases result with
      | error error => exact ⟨⟨rfl, rfl, rfl⟩, rfl, rfl⟩
      | ok text => exact ⟨⟨rfl, rfl, rfl⟩, rfl, rfl⟩

/-- Replace the policy file by one content after the other, each time waiting until nothing is left
to do. -/
def reviseAll (session : Session) (contents : List ByteArray) : Session :=
  contents.foldl (fun session content => session.revise (some content)) session

/-- After any number of revisions the output is that of the last good one among them and, if there
is none, what it was before. -/
theorem reviseAll_of_isIdle {session : Session} (hIdle : session.IsIdle)
    (contents : List ByteArray) :
    (session.reviseAll contents).IsIdle ∧
      (session.reviseAll contents).layout = session.layout ∧
      (session.reviseAll contents).output =
        (contents.reverse.findSome? fun content =>
          PolicyFile.routesText? session.layout (some content)).or session.output := by
  induction contents generalizing session with
  | nil => exact ⟨hIdle, rfl, rfl⟩
  | cons content rest ih =>
      obtain ⟨hRevised, hLayout, hOutput⟩ := revise_of_isIdle hIdle (some content)
      obtain ⟨hEnd, hEndLayout, hEndOutput⟩ := ih hRevised
      refine ⟨hEnd, hEndLayout.trans hLayout, ?_⟩
      rw [reviseAll, List.foldl_cons]
      refine hEndOutput.trans ?_
      rw [hLayout, hOutput, List.reverse_cons, List.findSome?_append, List.findSome?_singleton,
        Option.or_assoc]

/-- Starting up writes the routes of a good file and then watches. It ends early on a bad one. -/
theorem start_cases (config outputPath : String) (layout : Json.Layout) (file : PolicyFile) :
    let started := start { config, outputPath, layout, file }
    started.layout = layout ∧
      ((started.IsIdle ∧ ∃ text, file.routesText? layout = some text ∧ started.output = some text) ∨
        ((∃ failure, started.stage = .ended failure) ∧ file.routesText? layout = none)) := by
  simp only [start, startStep, loadFirst, PolicyFile.routesText?]
  cases file.load with
  | error error => exact ⟨rfl, Or.inr ⟨⟨_, rfl⟩, rfl⟩⟩
  | ok policy =>
      simp only [report, writeFirst, Except.toOption, Option.bind_some]
      obtain ⟨reported, result⟩ := policy.renderRoutes layout
      cases result with
      | error error => exact ⟨rfl, Or.inr ⟨⟨_, rfl⟩, rfl⟩⟩
      | ok text => exact ⟨rfl, Or.inl ⟨⟨rfl, rfl, rfl⟩, text, rfl, rfl⟩⟩

end Session

/-- The watch command after it started up on a content of the policy file, which was then replaced
by other contents one after the other. -/
def watchRun (config outputPath : String) (layout : Json.Layout) (initial : ByteArray)
    (revisions : List ByteArray) : Session :=
  (Session.start { config, outputPath, layout, file := some initial }).reviseAll revisions

variable {config outputPath : String} {layout : Json.Layout} {initial : ByteArray}

theorem watchRun_start_iff :
    (watchRun config outputPath layout initial []).stage = .watching ↔ IsGood initial := by
  rw [PolicyFile.isGood_iff layout]
  obtain ⟨_, ⟨hIdle, text, hText, _⟩ | ⟨⟨failure, hEnded⟩, hNone⟩⟩ :=
    Session.start_cases config outputPath layout (some initial)
  · exact iff_of_true hIdle.stage ⟨text, hText⟩
  · refine iff_of_false ?_ (by simp [hNone])
    rw [watchRun, Session.reviseAll, List.foldl_nil, hEnded]
    exact Stage.noConfusion

/-- The output holds the routes of the last content that has any. -/
theorem watchRun_output (hInitial : IsGood initial) (revisions : List ByteArray) :
    (watchRun config outputPath layout initial revisions).output =
      (initial :: revisions).reverse.findSome? fun content =>
        PolicyFile.routesText? layout (some content) := by
  obtain ⟨text, hText⟩ := (PolicyFile.isGood_iff layout).mp hInitial
  obtain ⟨hLayout, ⟨hIdle, first, hFirst, hOutput⟩ | ⟨_, hNone⟩⟩ :=
    Session.start_cases config outputPath layout (some initial)
  · obtain ⟨_, _, hRevised⟩ := Session.reviseAll_of_isIdle hIdle revisions
    rw [watchRun, hRevised, hLayout, hOutput, List.reverse_cons, List.findSome?_append,
      List.findSome?_singleton, hFirst]
  · simp [hNone] at hText

/-- One more content is published if it has routes. Otherwise the output stays. -/
theorem watchRun_output_concat (hInitial : IsGood initial) (revisions : List ByteArray)
    (content : ByteArray) :
    (watchRun config outputPath layout initial (revisions ++ [content])).output =
      (PolicyFile.routesText? layout (some content)).or
        (watchRun config outputPath layout initial revisions).output := by
  rw [watchRun_output hInitial, watchRun_output hInitial, ← List.cons_append,
    List.reverse_append, List.reverse_singleton, List.singleton_append, List.findSome?_cons]
  cases PolicyFile.routesText? layout (some content) <;> rfl

/-- Whenever watching has started and all changes made so far were handled, the output is what
compiling into a file writes for the last good content of the policy file. There always is one, for
the command does not watch a file that is bad at the start. A bad content leaves the output as it
is, and a good one replaces it whatever came before. -/
theorem watch_publishes_last_good (config outputPath : String) (layout : Json.Layout)
    (initial : ByteArray) (revisions : List ByteArray)
    (hStarted : (watchRun config outputPath layout initial []).stage = .watching) :
    (∃ before latest after text,
      initial :: revisions = before ++ latest :: after ∧
      IsGood latest ∧ (∀ later ∈ after, ¬ IsGood later) ∧
      (watchRun config outputPath layout initial revisions).output = some text ∧
      CompilesTo config outputPath layout latest text) ∧
    (∀ bad, ¬ IsGood bad →
      (watchRun config outputPath layout initial (revisions ++ [bad])).output =
        (watchRun config outputPath layout initial revisions).output) ∧
    (∀ good, IsGood good → ∃ text,
      (watchRun config outputPath layout initial (revisions ++ [good])).output = some text ∧
        CompilesTo config outputPath layout good text) := by
  have hInitial := watchRun_start_iff.mp hStarted
  refine ⟨?_, ?_, ?_⟩
  · obtain ⟨first, hFirst⟩ := (PolicyFile.isGood_iff layout).mp hInitial
    obtain ⟨text, hText⟩ : ∃ text, (initial :: revisions).reverse.findSome? (fun content =>
        PolicyFile.routesText? layout (some content)) = some text := by
      rw [← Option.isSome_iff_exists, List.findSome?_isSome_iff]
      exact ⟨initial, by simp, by simp [hFirst]⟩
    obtain ⟨after, latest, before, hSplit, hLatest, hAfter⟩ := List.findSome?_eq_some_iff.mp hText
    refine ⟨before.reverse, latest, after.reverse, text, ?_, ?_, ?_, ?_, ?_⟩
    · rw [← List.reverse_reverse (initial :: revisions), hSplit]
      simp
    · exact (PolicyFile.isGood_iff layout).mpr ⟨text, hLatest⟩
    · intro later hLater
      have hBad := hAfter later (List.mem_reverse.mp hLater)
      exact (PolicyFile.routesText?_eq_none_iff layout).mp hBad
    · rw [watchRun_output hInitial, hText]
    · exact compilesTo_of_routesText? hLatest
  · intro bad hBad
    have hNone := (PolicyFile.routesText?_eq_none_iff layout).mpr hBad
    rw [watchRun_output_concat hInitial, hNone, Option.none_or]
  · intro good hGood
    obtain ⟨text, hText⟩ := (PolicyFile.isGood_iff layout).mp hGood
    refine ⟨text, ?_, compilesTo_of_routesText? hText⟩
    rw [watchRun_output_concat hInitial, hText, Option.some_or]

/-- A policy file with settings of its platform and one site, whose branch has a password. -/
def blogFile (password : String) : ByteArray :=
  ("platform.sites_domain = \"b.org\"\n"
    ++ "[[sites]]\nid = \"s\"\nname = \"blog\"\nmain_branch = \"b\"\n"
    ++ "[[sites.branches]]\nid = \"b\"\nslug = \"prod\"\n"
    ++ "password = \"" ++ password ++ "\"\n").toUTF8

/-- Watching starts on an empty file, the policy without sites. Of the revisions the first is no
policy, the second has an invalid one, the third does not compile, and the last is published. -/
theorem blogFile_published_after_bad_ones :
    (watchRun "sites.toml" "out.json" .compact "".toUTF8 []).stage = .watching ∧
      ¬ IsGood "[[sites]]".toUTF8 ∧ ¬ IsGood "platform.sites_domain = \"\"".toUTF8 ∧
      ¬ IsGood (blogFile "") ∧ IsGood (blogFile "x") ∧
      ∃ text, (watchRun "sites.toml" "out.json" .compact "".toUTF8
          ["[[sites]]".toUTF8, "platform.sites_domain = \"\"".toUTF8, blogFile "",
            blogFile "x"]).output = some text ∧
        CompilesTo "sites.toml" "out.json" .compact (blogFile "x") text := by
  have hGood (content : ByteArray)
      (hText : (PolicyFile.routesText? .compact (some content)).isSome = true) : IsGood content :=
    (PolicyFile.isGood_iff .compact).mpr (Option.isSome_iff_exists.mp hText)
  have hStarted : (watchRun "sites.toml" "out.json" .compact "".toUTF8 []).stage = .watching :=
    watchRun_start_iff.mpr (hGood _ (by decide +kernel))
  have hLast : IsGood (blogFile "x") := hGood _ (by decide +kernel)
  refine ⟨hStarted, ?_, ?_, ?_, hLast, ?_⟩
  · exact (PolicyFile.routesText?_eq_none_iff .compact).mp (by decide +kernel)
  · exact (PolicyFile.routesText?_eq_none_iff .compact).mp (by decide +kernel)
  · exact (PolicyFile.routesText?_eq_none_iff .compact).mp (by decide +kernel)
  · exact (watch_publishes_last_good "sites.toml" "out.json" .compact "".toUTF8
      ["[[sites]]".toUTF8, "platform.sites_domain = \"\"".toUTF8, blogFile ""] hStarted).2.2 _ hLast

end TenantRoutes
