import TenantRoutes.Command.Run
import TenantRoutes.Proofs.Files.ReadBack

/-! What is left of a command when it ends. A command that makes routes either delivers one text, to
its reader or to a file, or fails and leaves nothing behind. No command changes more than one file.
The log is not looked at. -/
namespace TenantRoutes

/-- A policy is loaded when its file can be read as a text and the text is accepted. -/
theorem Policy.load_eq_ok_iff {content : Except FileError ByteArray} {policy : Policy} :
    Policy.load content = .ok policy ↔
      ∃ bytes text, content = .ok bytes ∧ String.fromUTF8? bytes = some text ∧
        parse text = .ok policy := by
  cases content with
  | error error => simp [load]
  | ok bytes =>
      simp only [load, Except.ok.injEq, exists_and_left, exists_eq_left']
      cases String.fromUTF8? bytes <;> simp

theorem Policy.renderRoutes_result (policy : Policy) (layout : Json.Layout) :
    (policy.renderRoutes layout).2 = policy.compile.result.map (Route.render layout) := by
  rw [renderRoutes]
  cases policy.compile.result <;> rfl

/-- The effect of delivering a text. Only a text that is printed ends its line. -/
def Effect.deliver (output : Option String) (text : String) : Effect :=
  match output with
  | none => .print (text ++ "\n")
  | some path => .write path text

/-- Making routes fails as their compilation does, and otherwise delivers their text. -/
theorem Task.ofRoutes_result (policy : Policy) (layout : Json.Layout) (output : Option String) :
    (Task.ofRoutes policy layout output).result =
      match policy.compile.result with
      | .error error => .error (.compile error)
      | .ok routes => .ok (.deliver output (Route.render layout routes)) := by
  have hRender := policy.renderRoutes_result layout
  rw [Task.ofRoutes]
  generalize policy.renderRoutes layout = rendered at hRender
  obtain ⟨events, result⟩ := rendered
  obtain rfl : result = policy.compile.result.map (Route.render layout) := hRender
  cases policy.compile.result with
  | error error => rfl
  | ok routes => cases output <;> rfl

/-- A place for an output that is not printed takes what is written there. -/
def FileTree.Accepts (files : FileTree) (output : Option String) : Prop :=
  ∀ path, output = some path → ∀ content, ∃ written, files.write path content = .ok written

namespace Report

/-- A command succeeded, and all it did was to deliver a text. -/
structure Delivers (report : Report) (files : FileTree) (output : Option String) (text : String) :
    Prop where
  exitCode : report.exitCode = 0
  delivery :
    match output with
    | none => report.printed = text ++ "\n" ∧ report.files = files
    | some path => report.printed = "" ∧ files.write path text.toUTF8 = .ok report.files

/-- A command left the files as they were, or it succeeded and wrote one of them. -/
def WritesOnce (report : Report) (files : FileTree) : Prop :=
  report.files = files ∨
    report.exitCode = 0 ∧
      ∃ path, ∃ text : String, files.write path text.toUTF8 = .ok report.files

/-- A command failed and did nothing. -/
structure FailsWith (report : Report) (files : FileTree) (failure : Failure) : Prop where
  exitCode : report.exitCode ≠ 0
  failure : report.failure = some failure
  printed : report.printed = ""
  untouched : report.files = files

end Report

namespace Invocation

variable {invocation : Invocation} {policy : Policy} {filter : Log.Filter} {files : FileTree}

/-- A command whose policy is loaded and whose log is set up runs with both. -/
theorem run_of_log {environment : Option String}
    (hLoad : Policy.load (files.read invocation.config) = .ok policy)
    (hLog : Log.Filter.select? environment policy.logging.level = some filter) :
    invocation.run environment files = invocation.runWith policy filter files := by
  simp only [run, hLoad, hLog]

theorem runWith_delivers {output : Option String} {text : String} (hOutput : files.Accepts output)
    (hResult : (Task.ofCommand policy invocation.config invocation.command).result =
      .ok (.deliver output text)) :
    (invocation.runWith policy filter files).Delivers files output text := by
  cases output with
  | none =>
      simp only [runWith, hResult, Effect.deliver]
      exact ⟨rfl, rfl, rfl⟩
  | some path =>
      obtain ⟨written, hWritten⟩ := hOutput path rfl text.toUTF8
      simp only [runWith, hResult, Effect.deliver, hWritten]
      exact ⟨rfl, rfl, hWritten⟩

theorem runWith_failsWith {failure : Failure}
    (hResult : (Task.ofCommand policy invocation.config invocation.command).result =
      .error failure) :
    (invocation.runWith policy filter files).FailsWith files failure := by
  simp only [runWith, hResult]
  exact ⟨Nat.one_ne_zero, rfl, rfl, rfl⟩

theorem runWith_writesOnce : (invocation.runWith policy filter files).WritesOnce files := by
  unfold Report.WritesOnce
  cases hResult : (Task.ofCommand policy invocation.config invocation.command).result with
  | error failure => exact Or.inl (runWith_failsWith hResult).untouched
  | ok effect =>
      cases effect with
      | print text => exact Or.inl (by simp only [runWith, hResult])
      | write path text =>
          simp only [runWith, hResult]
          cases hWrite : files.write path text.toUTF8 with
          | error error => exact Or.inl rfl
          | ok written => exact Or.inr ⟨rfl, path, text, hWrite⟩

theorem run_writesOnce (environment : Option String) :
    (invocation.run environment files).WritesOnce files := by
  rw [run]
  cases Policy.load (files.read invocation.config) with
  | error error => exact Or.inl rfl
  | ok policy =>
      cases hLog : Log.Filter.select? environment policy.logging.level with
      | none => exact Or.inl (by simp only [hLog])
      | some filter => simpa only [hLog] using runWith_writesOnce

end Invocation

theorem runCommandLine_writesOnce (arguments : List String) (environment : Option String)
    (files : FileTree) : (runCommandLine arguments environment files).WritesOnce files := by
  rw [runCommandLine]
  cases Arguments.parse arguments with
  | malformed => exact Or.inl rfl
  | help => exact Or.inl rfl
  | run invocation => exact invocation.run_writesOnce environment

/-- Whatever a command line asks for, it changes no more than one file below the working directory,
and none if it fails. The next command line finds files at locations of their own again. -/
theorem runCommandLine_changesSince (arguments : List String) (environment : Option String)
    {files : FileTree} (hDistinct : files.HasDistinctFiles) :
    let report := runCommandLine arguments environment files
    report.files.HasDistinctFiles ∧
      (files.changesSince report.files = [] ∨
        report.exitCode = 0 ∧ ∃ name path, ∃ text : String,
          files.write path text.toUTF8 = .ok report.files ∧
          files.changesSince report.files = [(name, text.toUTF8)]) := by
  intro report
  rcases runCommandLine_writesOnce arguments environment files with
    hSame | ⟨hExit, path, text, hWrite⟩
  · rw [show report.files = files from hSame]
    exact ⟨hDistinct, Or.inl (FileTree.changesSince_self hDistinct)⟩
  · obtain ⟨location, hPut, _⟩ := FileTree.write_eq_ok hWrite
    refine ⟨hPut ▸ FileTree.put_hasDistinctFiles hDistinct, ?_⟩
    have hChanges : files.changesSince report.files = _ :=
      hPut ▸ FileTree.changesSince_put hDistinct
    split_ifs at hChanges
    · exact Or.inr ⟨hExit, _, path, text, hWrite, hChanges⟩
    · exact Or.inl hChanges

end TenantRoutes
